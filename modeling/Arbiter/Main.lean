import Arbiter.CommandLine.Run
/-!
# The program

Gives the command line its world: files, the standard streams and the environment.
-/

namespace Arbiter.CommandLine

/-- Reads a file. -/
def readPath (path : String) : IO (Except String String) := do
  try return .ok (← IO.FS.readFile path)
  catch e => return .error (toString e)

/-- The file that the standard input is. -/
def standardInput : String := "/dev/stdin"

/-- The names an environment file may have: in this directory or in one above it. -/
def envFileNames : List String :=
  (List.range 32).map fun level => String.join (List.replicate level "../") ++ ".env"

/-- The text of the first of several files that can be read. -/
def firstReadable : List String → IO (Option String)
  | [] => return none
  | name :: rest => do
    match ← readPath name with
    | .ok text => return some text
    | .error _ => firstReadable rest

/-- The variables in a text where every one ends with a zero character. -/
def variablesOf (text : String) : Environment :=
  let entry (cs : List Char) : Option (String × String) :=
    match cs.dropWhile (· != '=') with
    | '=' :: value => some (String.ofList (cs.takeWhile (· != '=')), String.ofList value)
    | _ => none
  (Text.splitOn (Char.ofNat 0) text.toList).filterMap entry

/-- The variables of the process. -/
def processVariables : IO Environment := do
  match ← readPath "/proc/self/environ" with
  | .ok text => return variablesOf text
  | .error _ => return []

/-- A random name: hexadecimal digits in groups. -/
def randomName : IO String := do
  let groups ← [8, 4, 3, 3, 12].mapM fun width =>
    return Numeral.hex width (← IO.rand 0 (Nat.pow 16 width - 1))
  match groups with
  | [a, b, c, d, e] => return Text.joinWith "-" [a, b, "4" ++ c, "8" ++ d, e]
  | _ => return ""

/-- The world of the process. -/
def processHost : IO (Host IO) := do
  return {
    fileText := readPath
    readInput := readPath standardInput
    envFile := firstReadable envFileNames
    workers := 1
    evaluationName := ← randomName }

end Arbiter.CommandLine

open Arbiter.CommandLine in
/-- Runs the command line on the world of the process. -/
def main (args : List String) : IO UInt32 := do
  let outcome ← run (← processHost) (← processVariables) args
  IO.print outcome.output
  IO.eprint outcome.complaint
  return UInt32.ofNat outcome.code
