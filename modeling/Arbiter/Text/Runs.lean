import Arbiter.Text.Numeral
import Arbiter.Text.Split
/-!
# Runs of characters

Sets of characters are held as short texts.  Every word of such a text is a run: the distance of its
first character from the end of the run before, and, unless it is a single character, how many
characters it has.  A dash before that number means that they follow each other, a slash that every
other one is left out.  Numbers are in base thirty-six.

A shift is a run whose characters all have a counterpart at the same distance; the word ends with a
plus sign or a tilde, for up and down, and the distance.
-/

namespace Arbiter.Text

/-- Characters at equal distances. -/
structure Run where
  /-- The code of the first one. -/
  first : Nat
  /-- How many there are. -/
  count : Nat := 1
  /-- The distance from one to the next. -/
  step : Nat := 1
deriving Repr, DecidableEq

namespace Run

/-- Whether a code is one of the run. -/
def has (r : Run) (n : Nat) : Bool :=
  r.first ≤ n && (n - r.first) % r.step == 0 && (n - r.first) / r.step < r.count

/-- The code of the last character. -/
def last (r : Run) : Nat := r.first + (r.count - 1) * r.step

/-- The number a word starts with, and what follows it. -/
def number (cs : List Char) : Nat × List Char :=
  let isDigit (c : Char) : Bool := (Numeral.digit? 36 c).isSome
  ((Numeral.digits? 36 (cs.takeWhile isDigit)).getD 0, cs.dropWhile isDigit)

/-- The run of a word, when the run before ended at `last`, and what follows it. -/
def ofWord (last : Nat) (word : List Char) : Run × List Char :=
  let (gap, rest) := number word
  match rest with
  | '-' :: rest =>
    let (count, rest) := number rest
    (⟨last + gap, count, 1⟩, rest)
  | '/' :: rest =>
    let (count, rest) := number rest
    (⟨last + gap, count, 2⟩, rest)
  | rest => (⟨last + gap, 1, 1⟩, rest)

/-- The runs of several words. -/
def ofWords (last : Nat) : List (List Char) → List Run
  | [] => []
  | w :: ws =>
    let r := (ofWord last w).1
    r :: ofWords r.last ws

/-- The runs of a text. -/
def ofText (text : String) : List Run := ofWords 0 (splitOn ' ' text.toList)

end Run

/-- A run whose characters have a counterpart at the same distance. -/
structure Shift where
  /-- The characters. -/
  run : Run
  /-- The distance to their counterparts. -/
  delta : Int
deriving Repr, DecidableEq

namespace Shift

/-- The distance at the end of a word. -/
def distance : List Char → Int
  | '+' :: cs => (Run.number cs).1
  | '~' :: cs => -((Run.number cs).1 : Int)
  | _ => 0

/-- The shifts of several words. -/
def ofWords (last : Nat) : List (List Char) → List Shift
  | [] => []
  | w :: ws =>
    let (r, rest) := Run.ofWord last w
    ⟨r, distance rest⟩ :: ofWords r.last ws

/-- The shifts of a text. -/
def ofText (text : String) : List Shift := ofWords 0 (splitOn ' ' text.toList)

/-- The counterpart of a code, if one of the shifts has it. -/
def find? (shifts : List Shift) (n : Nat) : Option Nat :=
  (shifts.find? (·.run.has n)).map fun s => ((n : Int) + s.delta).toNat

/-- The codes whose counterpart is a given code. -/
def sources (shifts : List Shift) (n : Nat) : List Nat :=
  shifts.filterMap fun s =>
    let m := ((n : Int) - s.delta).toNat
    if s.run.has m then some m else none

end Shift

example : Run.ofText "2 3/2 1-3" = [⟨2, 1, 1⟩, ⟨5, 2, 2⟩, ⟨8, 3, 1⟩] := by decide
example : Shift.ofText "1t-q+w" = [⟨⟨65, 26, 1⟩, 32⟩] := by decide

end Arbiter.Text
