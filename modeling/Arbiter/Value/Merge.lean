import Arbiter.Value.Basic
/-!
# Merging records

Fields of the overlay win over fields of the base, except that two records are merged in turn.
-/

namespace Arbiter

mutual

/-- What the overlay's value makes of the value that was there. -/
def Value.mergeOnto (old : Option Value) : Value → Value
  | .obj incoming =>
    match old with
    | some (.obj existing) => .obj (Fields.mergeAll existing incoming)
    | _ => .obj incoming
  | v => v

/-- Lays the fields of an overlay over a base, one after the other. -/
def Fields.mergeAll (base : List (String × Value)) : List (String × Value) → List (String × Value)
  | [] => base
  | (k, v) :: rest =>
    Fields.mergeAll (Fields.insert base k (Value.mergeOnto (Fields.get? base k) v)) rest

end

/-- Merges an overlay into a context. -/
def Context.merge (base overlay : Context) : Context := Fields.mergeAll base overlay

end Arbiter
