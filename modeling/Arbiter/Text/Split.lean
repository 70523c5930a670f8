/-!
# Splitting and joining

`splitOn` cuts a text at every occurrence of one character and keeps the empty pieces, so the
pieces joined by that character give the text back.
-/

namespace Arbiter.Text

/-- The pieces of a text between the separators; there is always at least one. -/
def splitOn (sep : Char) : List Char → List (List Char)
  | [] => [[]]
  | c :: cs =>
    if c = sep then [] :: splitOn sep cs
    else match splitOn sep cs with
      | [] => [[c]]
      | piece :: rest => (c :: piece) :: rest

/-- The texts with one text between each two. -/
def joinWith (sep : String) (parts : List String) : String :=
  sep.intercalate parts

/-- Whether one text occurs inside another; the empty text occurs in every text. -/
def occursIn (needle : List Char) : List Char → Bool
  | [] => needle.isEmpty
  | c :: cs => needle.isPrefixOf (c :: cs) || occursIn needle cs

example : splitOn '.' "a..b".toList = [['a'], [], ['b']] := by decide
example : splitOn '.' "".toList = [[]] := by decide
example : occursIn "bc".toList "abcd".toList = true := by decide

end Arbiter.Text
