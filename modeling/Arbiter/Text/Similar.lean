import Arbiter.Text.Case
/-!
# Similar names

The edit distance of two texts, computed row by row, and the name that comes closest to one that is
not known.
-/

namespace Arbiter.Text

/-! ## Edit distance -/

/-- The entries of a row after the first.  A row belongs to one character `c` of the first text and
has an entry for every start of the second; `above` is the rest of the row before, `corner` the
entry before that and `left` the entry just computed. -/
def rowFrom (c : Char) : List Char → List Nat → Nat → Nat → List Nat
  | d :: ds, up :: above, corner, left =>
    let entry := min (min (up + 1) (left + 1)) (corner + if c = d then 0 else 1)
    entry :: rowFrom c ds above up entry
  | _, _, _, _ => []

/-- The row after a row. -/
def nextRow (b : List Char) (row : List Nat) (c : Char) : List Nat :=
  match row with
  | [] => []
  | corner :: above => (corner + 1) :: rowFrom c b above corner (corner + 1)

/-- The first row: the lengths of the starts of the second text. -/
def firstRow (b : List Char) : List Nat := List.range (b.length + 1)

/-- The least number of characters to put in, to leave out or to replace that turns one text into
the other. -/
def editDistance (a b : List Char) : Nat := (a.foldl (nextRow b) (firstRow b)).getLastD 0

/-! ## Suggestions -/

/-- How far a candidate is from the input, letters of either case being the same. -/
def caselessDistance (input candidate : String) : Nat :=
  editDistance (lower input).toList (lower candidate).toList

/-- Keeps the nearer of two candidates, the earlier if both are as near. -/
def nearer (best : Option (String × Nat)) (next : String × Nat) : Option (String × Nat) :=
  match best with
  | none => some next
  | some (name, d) => if next.2 < d then some next else some (name, d)

/-- The first of the nearest candidates, with its distance. -/
def nearest? (input : String) (candidates : List String) : Option (String × Nat) :=
  (candidates.map fun c => (c, caselessDistance input c)).foldl nearer none

/-- The name that was probably meant: the nearest one, if its distance is at most half the size in
bytes of the longer text. -/
def suggest? (input : String) (candidates : List String) : Option String :=
  (nearest? input candidates).bind fun (name, d) =>
    if d ≤ max input.utf8ByteSize name.utf8ByteSize / 2 then some name else none

/-- The remark that goes with a suggestion. -/
def didYouMean (suggestion : Option String) : String :=
  match suggestion with
  | some s => " (did you mean '" ++ s ++ "'?)"
  | none => ""

/-! ## Names in one style -/

/-- Whether the rest of a name is words of small letters and digits with single hyphens between,
where a hyphen may come next unless `fresh` says that a word has to. -/
def kebabFrom (fresh : Bool) : List Char → Bool
  | [] => !fresh
  | c :: cs =>
    if c = '-' then !fresh && kebabFrom true cs
    else (c.isLower || c.isDigit) && kebabFrom false cs

/-- Whether a name is words of small letters and digits with single hyphens between. -/
def isKebab (s : String) : Bool := kebabFrom true s.toList

example : editDistance "kitten".toList "sitting".toList = 3 := by decide
example : isKebab "vip-upgrade-2" = true := by decide
example : isKebab "double--hyphen" = false := by decide

end Arbiter.Text
