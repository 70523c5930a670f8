import Arbiter.Value.Basic
/-!
# Records in order

Brings the fields of all records inside a value into the order of their names.
-/

namespace Arbiter

mutual

/-- A value whose records all have their fields in order. -/
def Value.canonical : Value → Value
  | .arr items => .arr (Value.canonicalItems items)
  | .obj fields => .obj (Fields.ofList (Value.canonicalFields fields))
  | v => v

/-- The items of a list in canonical form. -/
def Value.canonicalItems : List Value → List Value
  | [] => []
  | v :: vs => v.canonical :: Value.canonicalItems vs

/-- The fields of a record in canonical form, in the order they were. -/
def Value.canonicalFields : List (String × Value) → List (String × Value)
  | [] => []
  | (k, v) :: fs => (k, v.canonical) :: Value.canonicalFields fs

end

end Arbiter
