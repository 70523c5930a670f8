/-!
# Shortest decimals

A finite double stands for all reals that round to it.  `shortest` finds a decimal among them with
the fewest digits, and of those the one nearest to the double itself.  Everything is computed on
naturals: the bits give `m * 2 ^ q`, and a decimal is compared with the ends of the interval by
multiplying across.
-/

namespace Arbiter.Decimal

/-- A finite positive double, `mantissa * 2 ^ exponent`. -/
structure Dyadic where
  /-- The mantissa, a whole number. -/
  mantissa : Nat
  /-- The power of two. -/
  exponent : Int
  /-- The gap to the double below is half the gap to the double above. -/
  narrowBelow : Bool

/-- The size of a finite double, read off its bits. -/
def Dyadic.ofBits (bits : UInt64) : Dyadic :=
  let e := ((bits >>> 52) &&& 0x7FF).toNat
  let f := (bits &&& 0xFFFFFFFFFFFFF).toNat
  if e = 0 then ⟨f, -1074, false⟩ else ⟨Nat.pow 2 52 + f, (e : Int) - 1075, f == 0 && e > 1⟩

/-- A decimal, `digits * 10 ^ exponent`. -/
structure Digits where
  /-- The digits read as one whole number. -/
  digits : Nat
  /-- The power of ten. -/
  exponent : Int
deriving Repr, DecidableEq

/-- Which of two equally near decimals is taken. -/
inductive Tie where
  /-- The one whose last digit is even. -/
  | toEven
  /-- The larger one. -/
  | up
deriving Repr, DecidableEq

/-- Compares `a * 10 ^ i` with `b * 2 ^ j`. -/
def compareScaled (a : Nat) (i : Int) (b : Nat) (j : Int) : Ordering :=
  compare (a * Nat.pow 10 i.toNat * Nat.pow 2 (-j).toNat)
    (b * Nat.pow 2 j.toNat * Nat.pow 10 (-i).toNat)

/-- Whether a decimal lies among the reals that round to the double: between the midpoints to its
neighbours, the midpoints themselves included exactly when the mantissa is even. -/
def Dyadic.covers (x : Dyadic) (d : Digits) : Bool :=
  let low := if x.narrowBelow then 4 * x.mantissa - 1 else 4 * x.mantissa - 2
  let high := 4 * x.mantissa + 2
  let closed := x.mantissa % 2 == 0
  let atLow := compareScaled d.digits d.exponent low (x.exponent - 2)
  let atHigh := compareScaled d.digits d.exponent high (x.exponent - 2)
  (atLow == .gt || (closed && atLow == .eq)) && (atHigh == .lt || (closed && atHigh == .eq))

/-- The least `k` with the double below `10 ^ k`, for a mantissa that is not zero. -/
def Dyadic.scale (x : Dyadic) : Int :=
  let guess := ((x.mantissa.log2 : Int) + x.exponent) * 30103 / 100000 - 1
  let fits (i : Nat) : Bool := compareScaled 1 (guess + i) x.mantissa x.exponent == .gt
  guess + ((List.range 5).find? fits).getD 5

/-- The double in units of `10 ^ e`: the whole part, and a fraction that shows what is left. -/
def Dyadic.inUnits (x : Dyadic) (e : Int) : Nat × Nat × Nat :=
  let num := x.mantissa * Nat.pow 2 x.exponent.toNat * Nat.pow 10 (-e).toNat
  let den := Nat.pow 2 (-x.exponent).toNat * Nat.pow 10 e.toNat
  (num / den, num % den, den)

/-- The nearer of the two neighbours of the double on the grid `10 ^ e`, among those that read back. -/
def Dyadic.onGrid? (x : Dyadic) (tie : Tie) (e : Int) : Option Digits :=
  let (whole, rest, unit) := x.inUnits e
  let below : Digits := ⟨whole, e⟩
  let above : Digits := ⟨whole + 1, e⟩
  match x.covers below, x.covers above with
  | false, false => none
  | true, false => some below
  | false, true => some above
  | true, true =>
    match compare (2 * rest) unit, tie with
    | .lt, _ => some below
    | .gt, _ => some above
    | .eq, .up => some above
    | .eq, .toEven => some (if whole % 2 == 0 then below else above)

/-- Drops zeros at the end of the digits, at most `n` of them. -/
def Digits.strip : Nat → Digits → Digits
  | 0, d => d
  | n + 1, d =>
    if d.digits != 0 && d.digits % 10 == 0 then Digits.strip n ⟨d.digits / 10, d.exponent + 1⟩ else d

/-- The shortest decimal that reads back to the double. -/
def Dyadic.shortest (x : Dyadic) (tie : Tie) : Digits :=
  if x.mantissa = 0 then ⟨0, 0⟩
  else
    let k := x.scale
    let found := (List.range 17).findSome? fun (n : Nat) => x.onGrid? tie (k - 1 - n)
    -- Seventeen digits are always enough; the exact value stands in for the case that is not reached.
    let exact : Digits := ⟨x.mantissa * Nat.pow 2 x.exponent.toNat * Nat.pow 5 (-x.exponent).toNat,
      min x.exponent 0⟩
    (found.getD exact).strip 20

/-- The shortest decimal of the size of a finite double. -/
def shortest (tie : Tie) (x : Float) : Digits :=
  (Dyadic.ofBits x.toBits).shortest tie

/-- Whether the sign bit is set. -/
def isNegative (x : Float) : Bool := x.toBits >>> 63 == 1

example : shortest .toEven 0.1 = ⟨1, -1⟩ := by decide +kernel
example : shortest .toEven (0.1 + 0.2) = ⟨30000000000000004, -17⟩ := by decide +kernel
example : shortest .toEven 2.98023223876953125e-8 = ⟨29802322387695312, -24⟩ := by decide +kernel
example : shortest .up 2.98023223876953125e-8 = ⟨29802322387695313, -24⟩ := by decide +kernel

end Arbiter.Decimal
