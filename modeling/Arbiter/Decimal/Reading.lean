import Arbiter.Text.Numeral
/-!
# Reading decimals

Two ways from a written decimal to a double.  `nearest` rounds the exact value once.  `scaled`
keeps as many leading digits as fit in sixty-four bits, turns them into a double and scales that by
one power of ten, so a long literal may be rounded twice.
-/

namespace Arbiter.Decimal

/-- Powers of ten beyond this one make every sixty-four-bit significand overflow or vanish. -/
def exponentLimit : Nat := 100000

/-- The double nearest to `m * 10 ^ e`. -/
def nearest (m : Nat) (e : Int) : Float :=
  if m = 0 then 0.0
  else
    let size := (Nat.toDigits 10 m).length
    if e + size > 310 then 1.0 / 0.0
    else if e + size < -330 then 0.0
    else Float.ofScientific m (e < 0) e.natAbs

/-- A power of ten as a double, for exponents up to 308. -/
def powerOfTen (n : Nat) : Float := Float.ofScientific 1 false n

/-- Scales a double by a power of ten: upward in one step, downward in steps of at most 308.
`none` when the result is out of range. -/
def scale? (x : Float) (e : Int) : Option Float :=
  if e ≥ 0 then
    if e > 308 then (if x == 0.0 then some x else none)
    else
      let y := x * powerOfTen e.toNat
      if y.isInf then none else some y
  else down x (-e).toNat
where
  /-- Divides by a power of ten in steps. -/
  down (x : Float) (n : Nat) : Option Float :=
    if n ≤ 308 then some (x / powerOfTen n)
    else if x == 0.0 then some x
    else down (x / powerOfTen 308) (n - 308)
  termination_by n

/-- A decimal literal in parts, as its digits were met. -/
structure Significand where
  /-- The leading digits, as one number of at most sixty-four bits. -/
  digits : Nat
  /-- The power of ten they are to be scaled by. -/
  exponent : Int

/-- Takes in digits before the point: once they no longer fit, they only move the exponent. -/
def Significand.whole (s : Significand) : List Nat → Significand
  | [] => s
  | d :: ds =>
    if s.exponent = 0 ∧ s.digits * 10 + d ≤ Numeral.maxWord then
      Significand.whole { s with digits := s.digits * 10 + d } ds
    else Significand.whole { s with exponent := s.exponent + 1 } ds

/-- Takes in digits after the point, up to the first that no longer fits. -/
def Significand.fraction (s : Significand) : List Nat → Significand
  | [] => s
  | d :: ds =>
    if s.digits * 10 + d ≤ Numeral.maxWord then
      Significand.fraction ⟨s.digits * 10 + d, s.exponent - 1⟩ ds
    else s

/-- The double for a decimal in parts, with an explicit exponent added.  `none` when it is out of
range. -/
def scaled? (s : Significand) (e : Int) : Option Float :=
  let total := s.exponent + e
  let bounded := max (-(exponentLimit : Int)) (min total exponentLimit)
  scale? (Float.ofNat s.digits) bounded

/-- Splits off the digits a text starts with. -/
def spanDigits (cs : List Char) : List Nat × List Char :=
  ((cs.takeWhile Char.isDigit).map (·.toNat - 48), cs.dropWhile Char.isDigit)

/-- Reads digits as one number. -/
def ofDigits (ds : List Nat) : Nat := ds.foldl (fun n d => n * 10 + d) 0

/-- The exponent part of a decimal, if the text is one: a mark, a sign, and digits to the end. -/
def exponentPart? : List Char → Option Int
  | [] => some 0
  | c :: cs =>
    if c = 'e' ∨ c = 'E' then (Numeral.integer? 10 cs) else none

/-- A decimal as free-standing text: a sign, digits with a point anywhere among them, and an
exponent.  At least one digit is needed beside the point.  The nearest double is taken. -/
def float? (text : List Char) : Option Float :=
  match text with
  | '-' :: cs => (unsigned? cs).map (-·)
  | '+' :: cs => unsigned? cs
  | cs => unsigned? cs
where
  /-- The same without a sign. -/
  unsigned? (cs : List Char) : Option Float := do
    let (whole, rest) := spanDigits cs
    let (part, rest) := match rest with
      | '.' :: rest => spanDigits rest
      | rest => ([], rest)
    guard (!(whole.isEmpty && part.isEmpty))
    let e ← exponentPart? rest
    return nearest (ofDigits (whole ++ part)) (e - part.length)

example : (float? "1.".toList).map Float.toBits = some (1.0 : Float).toBits := by decide +kernel
example : (float? ".".toList).isNone = true := by decide +kernel

end Arbiter.Decimal
