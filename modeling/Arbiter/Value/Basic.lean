/-!
# Values

The data that rules see: trees of null, booleans, numbers, texts, lists and records.

Whole numbers and doubles are kept apart, because they are written differently.  A record is a list
of named fields in the order of their names, so that two records with the same fields are the same
list; `Fields.insert` keeps that order.
-/

namespace Arbiter

/-- A number: a whole one of sixty-four bits, or a double. -/
inductive Number where
  /-- A whole number. -/
  | int (n : Int)
  /-- A double. -/
  | float (x : Float)

/-- The number as a double. -/
def Number.toFloat : Number → Float
  | .int n => Float.ofInt n
  | .float x => x

/-- Equality that keeps whole numbers and doubles apart. -/
def Number.beq : Number → Number → Bool
  | .int a, .int b => a == b
  | .float x, .float y => x == y
  | _, _ => false

instance : BEq Number := ⟨Number.beq⟩

/-- A tree of data. -/
inductive Value where
  /-- The absence of a value. -/
  | null
  /-- A truth value. -/
  | bool (b : Bool)
  /-- A number. -/
  | num (n : Number)
  /-- A text. -/
  | str (s : String)
  /-- A list. -/
  | arr (items : List Value)
  /-- A record: named fields. -/
  | obj (fields : List (String × Value))

instance : Inhabited Value := ⟨.null⟩

/-- A whole number as a value. -/
abbrev Value.int (n : Int) : Value := .num (.int n)

/-- A natural number as a value. -/
abbrev Value.nat (n : Nat) : Value := .num (.int n)

/-- A double as a value. -/
abbrev Value.float (x : Float) : Value := .num (.float x)

/-- The fields of a record. -/
abbrev Fields := List (String × Value)

/-- The data a rule is judged against and its actions write to. -/
abbrev Context := Fields

namespace Fields

/-- The value of a field. -/
def get? : Fields → String → Option Value
  | [], _ => none
  | (k', v) :: rest, k => if k = k' then some v else get? rest k

/-- Whether there is a field of that name. -/
def has (fs : Fields) (k : String) : Bool := (get? fs k).isSome

/-- Sets a field: one of that name is replaced, a new one goes before the first later name. -/
def insert : Fields → String → Value → Fields
  | [], k, v => [(k, v)]
  | (k', v') :: rest, k, v =>
    if k = k' then (k, v) :: rest
    else if k < k' then (k, v) :: (k', v') :: rest
    else (k', v') :: insert rest k v

/-- A record from fields in any order; of two with one name the later wins. -/
def ofList (fs : List (String × Value)) : Fields :=
  fs.foldl (fun acc f => insert acc f.1 f.2) []

end Fields

mutual

/-- Equality of trees, with whole numbers and doubles kept apart. -/
def Value.beq : Value → Value → Bool
  | .null, .null => true
  | .bool a, .bool b => a == b
  | .num a, .num b => a == b
  | .str a, .str b => a == b
  | .arr xs, .arr ys => Value.beqItems xs ys
  | .obj xs, .obj ys => Value.beqFields xs ys
  | _, _ => false

/-- Equality of lists, item by item. -/
def Value.beqItems : List Value → List Value → Bool
  | [], [] => true
  | x :: xs, y :: ys => Value.beq x y && Value.beqItems xs ys
  | _, _ => false

/-- Equality of records, field by field. -/
def Value.beqFields : List (String × Value) → List (String × Value) → Bool
  | [], [] => true
  | (k, x) :: xs, (l, y) :: ys => k == l && Value.beq x y && Value.beqFields xs ys
  | _, _ => false

end

instance : BEq Value := ⟨Value.beq⟩

end Arbiter
