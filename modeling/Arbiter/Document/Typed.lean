import Arbiter.Document.Scalar
/-!
# Reading documents as typed data

One reader per type.  A reader gives `none` when the document does not have the type; what a reader
does not look at may be anything.
-/

namespace Arbiter.Document

/-! ## Leaves -/

/-- A text; a written scalar is one whatever it looks like. -/
def string? : Document → Option String
  | .text s => some s
  | .written s => some s.text
  | _ => none

/-- A truth value. -/
def bool? : Document → Option Bool
  | .bool b => some b
  | .written s => if s.allows Scalar.boolTag then Scalar.bool? s.text else none
  | _ => none

/-- A whole number of sixty-four bits with a sign. -/
def signed? : Document → Option Int
  | .int n => if Numeral.fitsSigned n then some n else none
  | .written s =>
    if s.allows Scalar.intTag then (Scalar.integer? s.text.toList).filter Numeral.fitsSigned
    else none
  | _ => none

/-- A natural number of sixty-four bits. -/
def word? : Document → Option Nat
  | .int n => if 0 ≤ n ∧ n ≤ Numeral.maxWord then some n.toNat else none
  | .written s =>
    if s.allows Scalar.intTag then (Scalar.natural? s.text.toList).filter (· ≤ Numeral.maxWord)
    else none
  | _ => none

/-- A double; a whole number counts as one. -/
def float? : Document → Option Float
  | .float x => some x
  | .int n => some (Float.ofInt n)
  | .written s => if s.allows Scalar.floatTag then Scalar.float? s.text.toList else none
  | _ => none

/-! ## Absence -/

/-- Whether a document is there, where one may be left out; `none` when that cannot be said. -/
def present? : Document → Option Bool
  | .null => some false
  | .void => some false
  | .written s =>
    if s.style != .plain then some true
    else match s.tag with
      | some tag =>
        if tag == Scalar.nullTag then (if Scalar.isNull s.text then some false else none)
        else some true
      | none => some (!(s.text.isEmpty || Scalar.isNull s.text))
  | .unreadable => none
  | _ => some true

/-- Something that may be left out. -/
def option? (read : Document → Option α) (d : Document) : Option (Option α) := do
  if ← present? d then (read d).map some else return none

/-! ## Choices -/

/-- Whether a document says nothing beside its tag. -/
def saysNothing : Document → Bool
  | .null => true
  | .void => true
  | .written s => s.style == .plain && (s.text.isEmpty || Scalar.isNull s.text)
  | _ => false

/-- The name of a choice without content: a text, a local tag on nothing, or a record of one entry
whose value is null. -/
def choice? : Document → Option String
  | .text s => some s
  | .written s =>
    if Scalar.localTag s.tag then
      if saysNothing (.written s) then (s.tag.getD "").toList.tail |> String.ofList |> some
      else none
    else some s.text
  | .record none [(.text s, .null)] => some s
  | _ => none

/-- One of several named things. -/
def oneOf? (names : List (String × α)) (d : Document) : Option α := do
  names.lookup (← choice? d)

/-! ## Lists and records -/

/-- The items of a list; an empty scalar without quotes is an empty list. -/
def items? : Document → Option (List Document)
  | .list _ _ items => some items
  | .written s => if s.isEmpty then some [] else none
  | .void => some []
  | _ => none

/-- A list of things of one type. -/
def list? (read : Document → Option α) (d : Document) : Option (List α) := do
  (← items? d).mapM read

/-- The entries of a record; an empty scalar without quotes is an empty record. -/
def entries? : Document → Option (List (Document × Document))
  | .record _ entries => some entries
  | .written s => if s.isEmpty then some [] else none
  | .void => some []
  | _ => none

/-- The fields of a record that was read. -/
abbrev Named := List (String × Document)

/-- No two of the fields have the same known name. -/
def distinct (known : List String) : Named → Bool
  | [] => true
  | (k, _) :: rest => !(known.contains k && rest.any (·.1 == k)) && distinct known rest

/-- The fields of a record with known names, which may not be repeated.  A positional list gives
them in order. -/
def fields? (known : List String) (d : Document) : Option Named :=
  match d with
  | .list _ true items => if items.length ≤ known.length then some (known.zip items) else none
  | d => do
    let named ← (← entries? d).mapM fun e => (string? e.1).map fun k => (k, e.2)
    if distinct known named then some named else none

/-- Whether every field has a known name. -/
def onlyKnown (known : List String) (named : Named) : Bool :=
  named.all fun f => known.contains f.1

/-- A field that has to be there. -/
def required (named : Named) (k : String) (read : Document → Option α) : Option α := do
  read (← named.lookup k)

/-- A field with a value to fall back on when it is missing. -/
def optional (named : Named) (k : String) (default : α) (read : Document → Option α) : Option α :=
  match named.lookup k with
  | some d => read d
  | none => some default

/-- A field that may be missing or null. -/
def maybe (named : Named) (k : String) (read : Document → Option α) : Option (Option α) :=
  optional named k none (option? read)

/-! ## Data -/

/-- A leaf as data; what is not finite becomes null. -/
def leaf? : Document → Option Value
  | .null => some .null
  | .bool b => some (.bool b)
  | .int n => some (.int n)
  | .float x => some (if x.isFinite then .float x else .null)
  | .text s => some (.str s)
  | _ => none

mutual

/-- A document as data.  Keys have to be texts; of two equal ones the later wins. -/
def value? : Document → Option Value
  | .written s => (Scalar.settle? s).bind leaf?
  | .list tag _ items =>
    if Scalar.localTag tag then none else (values? items).map .arr
  | .record tag entries =>
    if Scalar.localTag tag then none else (valueFields? [] entries).map .obj
  | d => leaf? d

/-- The items of a list as data. -/
def values? : List Document → Option (List Value)
  | [] => some []
  | d :: ds => do return (← value? d) :: (← values? ds)

/-- The entries of a record as fields, laid over those already read. -/
def valueFields? (done : Fields) : List (Document × Document) → Option Fields
  | [] => some done
  | (k, d) :: rest => do
    let k ← string? k
    let v ← value? d
    valueFields? (Fields.insert done k v) rest

end

/-- A record of data. -/
def context? (d : Document) : Option Context := do valueFields? [] (← entries? d)

mutual

/-- A document with all its scalars resolved, so that they no longer depend on what is asked. -/
def settle? : Document → Option Document
  | .written s => Scalar.settle? s
  | .list tag _ items =>
    if Scalar.localTag tag then none else (settleItems? items).map fun ds => .list none true ds
  | .record tag entries =>
    if Scalar.localTag tag then none else (settleEntries? entries).map fun es => .record none es
  | .void => none
  | .unreadable => none
  | d => some d

/-- The items of a list, resolved. -/
def settleItems? : List Document → Option (List Document)
  | [] => some []
  | d :: ds => do return (← settle? d) :: (← settleItems? ds)

/-- The entries of a record, keys and values resolved. -/
def settleEntries? : List (Document × Document) → Option (List (Document × Document))
  | [] => some []
  | (k, d) :: rest => do return (← settle? k, ← settle? d) :: (← settleEntries? rest)

end

end Arbiter.Document
