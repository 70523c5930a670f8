import Arbiter.Value.Basic
/-!
# Comparing data

`Value.equal` is the comparison that rules use: numbers are compared as doubles, so `1` equals
`1.0`, at every depth.
-/

namespace Arbiter

mutual

/-- Equality with numbers compared as doubles. -/
def Value.equal : Value → Value → Bool
  | .null, .null => true
  | .bool a, .bool b => a == b
  | .num a, .num b => a.toFloat == b.toFloat
  | .str a, .str b => a == b
  | .arr xs, .arr ys => Value.equalItems xs ys
  | .obj xs, .obj ys => xs.length == ys.length && Value.equalFields xs ys
  | _, _ => false

/-- Lists are equal item by item. -/
def Value.equalItems : List Value → List Value → Bool
  | [], [] => true
  | x :: xs, y :: ys => Value.equal x y && Value.equalItems xs ys
  | _, _ => false

/-- Every field has an equal one of the same name on the other side. -/
def Value.equalFields : List (String × Value) → List (String × Value) → Bool
  | [], _ => true
  | (k, x) :: xs, ys =>
    (match Fields.get? ys k with
      | some y => Value.equal x y
      | none => false) && Value.equalFields xs ys

end

end Arbiter
