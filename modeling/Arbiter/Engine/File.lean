import Arbiter.Engine.Load
import Arbiter.Text.Split
/-!
# Writing rule files

A rule file is written in two steps, so that nobody sees half of it: first under a name of its own in
the same directory, and then by renaming.
-/

namespace Arbiter

namespace RuleFile

/-- The pieces of a path from the last one on, without those that lead nowhere at its end. -/
def reversedPieces (path : String) : List (List Char) :=
  (Text.splitOn '/' path.toList).reverse.dropWhile fun piece => piece == [] || piece == ['.']

/-- The name of the file a path leads to; paths to a parent or a root have none. -/
def name? (path : String) : Option String :=
  match reversedPieces path with
  | [] => none
  | piece :: _ => if piece == ['.', '.'] then none else some (String.ofList piece)

/-- The name of the file that is written first. -/
def temporaryName (name : String) : String := "." ++ name ++ ".tmp"

/-- A path with another name at its end. -/
def withName (path name : String) : String :=
  Text.joinWith "/" (((reversedPieces path).tail.reverse.map String.ofList) ++ [name])

/-- How a rule file is written. -/
structure Writing where
  /-- The file that is written first. -/
  temporary : String
  /-- What it is renamed to. -/
  target : String
  /-- What is in it. -/
  text : String
deriving DecidableEq, Repr

/-- How a rule set is written to a path, which has to lead to a file. -/
def write (path : String) (set : RuleSet) : Except Fault Writing :=
  match name? path with
  | none => .error (.load ("invalid rule file path: " ++ path))
  | some name =>
    .ok { temporary := withName path (temporaryName name), target := path, text := set.toYaml }

example : name? "a/rules.yml" = some "rules.yml" := by decide
example : name? "a/.." = none := by decide
example : withName "a/rules.yml" ".rules.yml.tmp" = "a/.rules.yml.tmp" := by decide +kernel

end RuleFile

end Arbiter
