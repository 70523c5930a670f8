/-!
# Numerals

Whole numbers written in a base.  `digits?` reads a non-empty run of digits and nothing else;
`natural?` and `integer?` allow the sign in front that the name suggests.  No blanks, no
underscores, no digits beyond ASCII.
-/

namespace Arbiter.Numeral

/-- The value of a digit in bases up to thirty-six; letters count from ten in either case. -/
def digitValue? (c : Char) : Option Nat :=
  if '0' ≤ c ∧ c ≤ '9' then some (c.toNat - 48)
  else if 'a' ≤ c ∧ c ≤ 'z' then some (c.toNat - 87)
  else if 'A' ≤ c ∧ c ≤ 'Z' then some (c.toNat - 55)
  else none

/-- The value of a digit in the given base. -/
def digit? (base : Nat) (c : Char) : Option Nat :=
  (digitValue? c).filter (· < base)

/-- Continues a number by further digits. -/
def extend? (base : Nat) : Nat → List Char → Option Nat
  | n, [] => some n
  | n, c :: cs => do extend? base (n * base + (← digit? base c)) cs

/-- A non-empty run of digits. -/
def digits? (base : Nat) : List Char → Option Nat
  | [] => none
  | cs => extend? base 0 cs

/-- A run of digits, perhaps after a plus sign. -/
def natural? (base : Nat) : List Char → Option Nat
  | '+' :: cs => digits? base cs
  | cs => digits? base cs

/-- A run of digits, perhaps after a plus or a minus sign. -/
def integer? (base : Nat) : List Char → Option Int
  | '-' :: cs => (digits? base cs).map fun n => -(n : Int)
  | cs => (natural? base cs).map Int.ofNat

/-- The largest number of sixty-four bits. -/
def maxWord : Nat := 18446744073709551615

/-- A natural number that fits in sixty-four bits. -/
def word? (base : Nat) (cs : List Char) : Option Nat :=
  (natural? base cs).filter (· ≤ maxWord)

/-- Whether an integer fits in sixty-four bits with a sign. -/
def fitsSigned (n : Int) : Bool :=
  decide (-9223372036854775808 ≤ n) && decide (n ≤ 9223372036854775807)

/-- An integer that fits in sixty-four bits with a sign. -/
def signed? (base : Nat) (cs : List Char) : Option Int :=
  (integer? base cs).filter fitsSigned

/-- A number in hexadecimal with at least `width` digits, lower case. -/
def hex (width n : Nat) : String :=
  let ds := (Nat.toDigits 16 n)
  String.ofList (List.replicate (width - ds.length) '0' ++ ds)

/-- A number in decimal with at least `width` digits. -/
def padded (width n : Nat) : String :=
  let ds := (Nat.toDigits 10 n)
  String.ofList (List.replicate (width - ds.length) '0' ++ ds)

example : word? 10 "+07".toList = some 7 := by decide
example : word? 10 "18446744073709551616".toList = none := by decide
example : integer? 16 "-fF".toList = some (-255) := by decide

end Arbiter.Numeral
