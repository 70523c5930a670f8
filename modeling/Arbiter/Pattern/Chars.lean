import Arbiter.Text.Blank
import Arbiter.Text.Case
/-!
# Sets of characters

What one place of a pattern may match, as an expression over runs of characters, and the classes
of characters that have short names.
-/

namespace Arbiter.Pattern

open Text

/-- The shifts from every character to the lowest one that differs from it only in case. -/
def foldShifts : List Shift := Shift.ofText foldText

/-- The characters that differ from a given one at most in case. -/
def caseVariants (n : Nat) : List Nat :=
  let lowest := (Shift.find? foldShifts n).getD n
  lowest :: Shift.sources foldShifts lowest

/-- The other case of a letter of the Latin alphabet, and the letter itself. -/
def asciiVariants (n : Nat) : List Nat :=
  if 65 ≤ n ∧ n ≤ 90 then [n, n + 32] else if 97 ≤ n ∧ n ≤ 122 then [n, n - 32] else [n]

/-- A set of characters. -/
inductive Chars where
  /-- The characters of several runs. -/
  | runs (rs : List Run)
  /-- The characters between two codes. -/
  | range (low high : Nat)
  /-- The characters of either set. -/
  | union (a b : Chars)
  /-- The characters of both sets. -/
  | inter (a b : Chars)
  /-- The characters of the first set that are not in the second. -/
  | diff (a b : Chars)
  /-- All other characters. -/
  | compl (a : Chars)
  /-- The characters that differ at most in case from one of the set. -/
  | folded (a : Chars)
  /-- The same for letters of the Latin alphabet only. -/
  | foldedAscii (a : Chars)

namespace Chars

/-- Whether a code is in the set. -/
def has : Chars → Nat → Bool
  | .runs rs, n => inRuns rs n
  | .range low high, n => low ≤ n && n ≤ high
  | .union a b, n => has a n || has b n
  | .inter a b, n => has a n && has b n
  | .diff a b, n => has a n && !has b n
  | .compl a, n => !has a n
  | .folded a, n => (caseVariants n).any fun m => has a m
  | .foldedAscii a, n => (asciiVariants n).any fun m => has a m

/-- No character. -/
def none : Chars := .runs []

/-- One character. -/
def one (n : Nat) : Chars := .range n n

/-- The characters of any of several sets. -/
def unionAll (cs : List Chars) : Chars := cs.foldl .union none

/-- Whether a set has no code of a byte beyond the first 128. -/
def isAscii (a : Chars) : Bool := (List.range 128).all fun i => !has a (128 + i)

/-- A number that grows with the space a set takes in a compiled pattern. -/
def weight : Chars → Nat
  | .runs rs => 80 * rs.length
  | .range _ high => if high < 128 then 40 else 120
  | .union a b => weight a + weight b
  | .inter a b => weight a + weight b
  | .diff a b => weight a + weight b
  | .compl a => 160 + weight a
  | .folded a => 2 * weight a
  | .foldedAscii a => 2 * weight a

end Chars

/-! ## Classes with short names -/

/-- Decimal digits. -/
def digitRuns : List Run := category "Nd"

/-- White space. -/
def spaceRuns : List Run := [⟨9, 5, 1⟩, ⟨0x20, 1, 1⟩, ⟨0x85, 1, 1⟩, ⟨0xA0, 1, 1⟩, ⟨0x1680, 1, 1⟩,
  ⟨0x2000, 11, 1⟩, ⟨0x2028, 2, 1⟩, ⟨0x202F, 1, 1⟩, ⟨0x205F, 1, 1⟩, ⟨0x3000, 1, 1⟩]

/-- Letters. -/
def letterRuns : List Run := categories ["Lu", "Ll", "Lt", "Lm", "Lo"]

/-- Alphabetic characters. -/
def alphabeticRuns : List Run := letterRuns ++ category "Nl" ++ Run.ofText otherAlphabetic

/-- The joiners that do not show. -/
def joinerRuns : List Run := [⟨0x200C, 2, 1⟩]

/-- Characters of words: the Latin ones first, because they are met most. -/
def wordRuns : List Run :=
  [⟨97, 26, 1⟩, ⟨65, 26, 1⟩, ⟨48, 10, 1⟩, ⟨95, 1, 1⟩] ++ alphabeticRuns
    ++ categories ["Mn", "Mc", "Me", "Nd", "Pc"] ++ joinerRuns

/-- Digits of the Latin alphabet. -/
def asciiDigits : Chars := .range 48 57

/-- White space of the first 128 codes. -/
def asciiSpace : Chars := .union (.range 9 13) (.one 32)

/-- Characters of words of the first 128 codes. -/
def asciiWord : Chars := .unionAll [.range 48 57, .range 65 90, .range 97 122, .one 95]

/-- Whether a character belongs to a word. -/
def isWordChar (unicode : Bool) (c : Char) : Bool :=
  if c.toNat < 128 || !unicode then asciiWord.has c.toNat else inRuns wordRuns c.toNat

/-- The class of an escape letter. -/
def letterClass (unicode : Bool) (c : Char) : Option Chars :=
  match c.toLower with
  | 'd' => some (if unicode then .runs digitRuns else asciiDigits)
  | 's' => some (if unicode then .runs spaceRuns else asciiSpace)
  | 'w' => some (if unicode then .runs wordRuns else asciiWord)
  | _ => Option.none

/-- The classes of the first 128 codes that have a name in brackets and colons. -/
def namedClass (name : String) : Option Chars :=
  match name with
  | "alnum" => some (.unionAll [.range 48 57, .range 65 90, .range 97 122])
  | "alpha" => some (.unionAll [.range 65 90, .range 97 122])
  | "ascii" => some (.range 0 127)
  | "blank" => some (.unionAll [.one 9, .one 32])
  | "cntrl" => some (.unionAll [.range 0 31, .one 127])
  | "digit" => some asciiDigits
  | "graph" => some (.range 33 126)
  | "lower" => some (.range 97 122)
  | "print" => some (.range 32 126)
  | "punct" => some (.unionAll [.range 33 47, .range 58 64, .range 91 96, .range 123 126])
  | "space" => some asciiSpace
  | "upper" => some (.range 65 90)
  | "word" => some asciiWord
  | "xdigit" => some (.unionAll [.range 48 57, .range 65 70, .range 97 102])
  | _ => Option.none

end Arbiter.Pattern
