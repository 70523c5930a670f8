import Arbiter.Value.Scan
/-!
# Reading JSON

The tokens of a text are taken one at a time with the open lists and records on a stack.  Lists and
records nest at most 127 deep, and of two fields with one name the later wins.
-/

namespace Arbiter.Json

/-- An open list or record; the items of a list are held last first. -/
inductive Frame where
  /-- A list with its items so far. -/
  | list (items : List Value)
  /-- A record with its fields so far, and the name of the field being read. -/
  | record (fields : Fields) (name : String)

/-- What may come next. -/
inductive Want where
  /-- A value. -/
  | value
  /-- The first item of a list, or its end. -/
  | firstItem
  /-- The first name in a record, or its end. -/
  | firstName (fields : Fields)
  /-- A name in a record. -/
  | name (fields : Fields)
  /-- The colon after a name. -/
  | colon (fields : Fields) (name : String)
  /-- A comma, or the end of the innermost list or record. -/
  | next
  /-- Nothing: the value is complete. -/
  | nothing (v : Value)

/-- How deep lists and records may nest. -/
def depthLimit : Nat := 127

/-- A value is complete: it goes to the innermost open list or record. -/
def complete (v : Value) : List Frame → Want × List Frame
  | [] => (.nothing v, [])
  | .list items :: stack => (.next, .list (v :: items) :: stack)
  | .record fields name :: stack => (.next, .record (Fields.insert fields name v) "" :: stack)

/-- A token where a value may start. -/
def begin? (stack : List Frame) : Token → Option (Want × List Frame)
  | .openList => if stack.length < depthLimit then some (.firstItem, .list [] :: stack) else none
  | .openRecord => if stack.length < depthLimit then some (.firstName [], stack) else none
  | .text s => some (complete (.str s) stack)
  | .atom v => some (complete v stack)
  | _ => none

/-- Takes one token. -/
def take? : Want × List Frame → Token → Option (Want × List Frame)
  | (.value, stack), t => begin? stack t
  | (.firstItem, .list items :: stack), .closeList => some (complete (.arr items.reverse) stack)
  | (.firstItem, stack), t => begin? stack t
  | (.firstName fields, stack), .closeRecord => some (complete (.obj fields) stack)
  | (.firstName fields, stack), .text s => some (.colon fields s, stack)
  | (.name fields, stack), .text s => some (.colon fields s, stack)
  | (.colon fields name, stack), .colon => some (.value, .record fields name :: stack)
  | (.next, .list items :: stack), .comma => some (.value, .list items :: stack)
  | (.next, .list items :: stack), .closeList => some (complete (.arr items.reverse) stack)
  | (.next, .record fields _ :: stack), .comma => some (.name fields, stack)
  | (.next, .record fields _ :: stack), .closeRecord => some (complete (.obj fields) stack)
  | _, _ => none

/-- Takes one character: it may complete tokens, and those are taken in turn. -/
def feed? (place : Scan × Want × List Frame) (c : Char) : Option (Scan × Want × List Frame) := do
  let (scan, found) ← place.1.step? c
  return (scan, ← found.foldlM take? place.2)

/-- The value a text stands for, if it is JSON. -/
def read? (text : String) : Option Value := do
  let (scan, state) ← text.toList.foldlM feed? (.idle, .value, [])
  match ← (← scan.flush?).foldlM take? state with
  | (.nothing v, []) => some v
  | _ => none

end Arbiter.Json
