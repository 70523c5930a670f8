import Arbiter.Fault
import Arbiter.Sort
/-!
# Registered handlers

Custom conditions and transforms are functions that were registered under a name.  A name without a
handler is an error of its own, so that it is not taken for a condition that does not hold.
-/

namespace Arbiter

/-- Decides a custom condition from the value of its field, its own value, and the context. -/
abbrev ConditionHandler := Option Value → Value → Context → Except Fault Bool

/-- Makes a new value of a field from its value, the value of the action, and the context; nothing
if the field stays as it is. -/
abbrev TransformHandler := Option Value → Option Value → Context → Except Fault (Option Value)

/-- The handlers by name. -/
structure Handlers where
  /-- Custom conditions, latest first. -/
  conditions : List (String × ConditionHandler) := []
  /-- Transforms, latest first. -/
  transforms : List (String × TransformHandler) := []

namespace Handlers

/-- The name of the transform that changes nothing. -/
def identityName : String := "identity"

/-- Registers a custom condition. -/
def addCondition (r : Handlers) (name : String) (handler : ConditionHandler) : Handlers :=
  { r with conditions := (name, handler) :: r.conditions.filter (·.1 != name) }

/-- Registers a transform. -/
def addTransform (r : Handlers) (name : String) (handler : TransformHandler) : Handlers :=
  { r with transforms := (name, handler) :: r.transforms.filter (·.1 != name) }

/-- No handlers. -/
def empty : Handlers := {}

/-- The handlers that are always there. -/
def builtin : Handlers := empty.addTransform identityName fun _ _ _ => .ok none

/-- The handler of a custom condition. -/
def condition (r : Handlers) (name : Option String) : Except Fault ConditionHandler :=
  match name with
  | none => .error (.notImplemented "custom condition without a handler name")
  | some name =>
    match r.conditions.lookup name with
    | some h => .ok h
    | none => .error (.notImplemented ("no custom condition handler '" ++ name ++ "'"))

/-- The handler of a transform. -/
def transform (r : Handlers) (name : String) : Except Fault TransformHandler :=
  match r.transforms.lookup name with
  | some h => .ok h
  | none => .error (.notImplemented ("no transform handler '" ++ name ++ "'"))

/-- Names in order. -/
def sortNames (names : List String) : List String := sortBy (fun a b => a ≤ b) names

/-- The names of custom conditions in order. -/
def conditionNames (r : Handlers) : List String := sortNames (r.conditions.map (·.1))

/-- The names of transforms in order. -/
def transformNames (r : Handlers) : List String := sortNames (r.transforms.map (·.1))

/-- A name in quotes. -/
def quoteName (name : String) : String :=
  let one (c : Char) : List Char :=
    if c = '"' || c = '\\' then ['\\', c]
    else if c = '\n' then ['\\', 'n']
    else if c = '\r' then ['\\', 'r']
    else if c = '\t' then ['\\', 't']
    else [c]
  String.ofList ('"' :: name.toList.flatMap one ++ ['"'])

/-- The names as a list in brackets. -/
def describeNames (names : List String) : String :=
  "[" ++ Text.joinWith ", " (names.map quoteName) ++ "]"

/-- A short text that shows which handlers there are. -/
def describe (r : Handlers) : String :=
  "CapabilityRegistry \x7b conditions: " ++ describeNames r.conditionNames ++ ", transforms: "
    ++ describeNames r.transformNames ++ " \x7d"

end Handlers

end Arbiter
