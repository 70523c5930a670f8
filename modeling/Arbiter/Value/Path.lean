import Arbiter.Text.Numeral
import Arbiter.Text.Split
import Arbiter.Value.Basic
/-!
# Paths into a context

A path is a text cut at its dots.  Reading goes through records by name and through lists by
position; writing only goes through records, and turns whatever else is in its way into one.
-/

namespace Arbiter

/-- The steps of a path. -/
def segments (path : String) : List String :=
  (Text.splitOn '.' path.toList).map String.ofList

/-- One step of reading: a field of a record or an item of a list. -/
def Value.step? (v : Value) (segment : String) : Option Value :=
  match v with
  | .obj fields => Fields.get? fields segment
  | .arr items => (Numeral.word? 10 segment.toList).bind fun i => items[i]?
  | _ => none

namespace Context

/-- Reads along steps. -/
def getAlong? (c : Context) : List String → Option Value
  | [] => none
  | first :: rest => (Fields.get? c first).bind fun v => rest.foldlM Value.step? v

/-- The value at a path, if every step of it exists. -/
def read? (c : Context) (path : String) : Option Value :=
  getAlong? c (segments path)

/-- The record at a field; anything else there counts as an empty one. -/
def recordAt (c : Context) (name : String) : Fields :=
  match Fields.get? c name with
  | some (.obj fields) => fields
  | _ => []

/-- Writes along steps. -/
def setAlong : Context → List String → Value → Context
  | c, [], _ => c
  | c, [last], v => Fields.insert c last v
  | c, name :: rest, v => Fields.insert c name (.obj (setAlong (recordAt c name) rest v))

/-- Writes a value at a path.  Records on the way are made as needed, and replace what is not a
record. -/
def write (c : Context) (path : String) (v : Value) : Context :=
  setAlong c (segments path) v

end Context

end Arbiter
