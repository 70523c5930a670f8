import Arbiter.Value.Basic
/-!
# Conditions

A condition looks at one field of the context and tests it.  Conditions in a row are joined by the
operators written behind them.
-/

namespace Arbiter

/-- How a condition is joined to the one after it. -/
inductive Operator where
  /-- Both have to hold. -/
  | and
  /-- One of them has to hold. -/
  | or
deriving DecidableEq, Repr

namespace Operator

/-- Joins what holds so far with the next condition. -/
def apply : Operator → Bool → Bool → Bool
  | .and, running, next => running && next
  | .or, running, next => running || next

/-- Whether the next condition no longer matters. -/
def settles : Operator → Bool → Bool
  | .and, running => !running
  | .or, running => running

/-- A decided operator gives what held before, whatever comes next. -/
theorem apply_of_settles (op : Operator) (running next : Bool) (h : op.settles running = true) :
    op.apply running next = running := by
  cases op <;> cases running <;> simp_all [apply, settles]

end Operator

/-- What a condition asks of its field. -/
inductive Test where
  /-- It equals a value, with numbers compared as doubles. -/
  | equals (value : Value)
  /-- Its text contains the text of a value, or its list an equal item. -/
  | contains (value : Value)
  /-- Its text matches a regular expression. -/
  | regex (pattern : String)
  /-- A language model answers a question about the context with yes. -/
  | llmEvaluate (prompt : String)
  /-- A registered handler says so. -/
  | custom (handler : Option String) (value : Value)
deriving BEq

/-- The kinds of tests. -/
inductive TestKind where
  /-- See `Test.equals`. -/
  | equals
  /-- See `Test.contains`. -/
  | contains
  /-- See `Test.regex`. -/
  | regex
  /-- See `Test.llmEvaluate`. -/
  | llmEvaluate
  /-- See `Test.custom`. -/
  | custom
deriving DecidableEq, Repr

namespace TestKind

/-- All kinds, in the order of their numbers. -/
def all : List TestKind := [.equals, .contains, .regex, .llmEvaluate, .custom]

/-- The number of a kind. -/
def index : TestKind → Nat
  | .equals => 0
  | .contains => 1
  | .regex => 2
  | .llmEvaluate => 3
  | .custom => 4

/-- The name of a kind in rule files. -/
def name : TestKind → String
  | .equals => "equals"
  | .contains => "contains"
  | .regex => "regex"
  | .llmEvaluate => "llm_evaluate"
  | .custom => "custom"

end TestKind

/-- The kind of a test. -/
def Test.kind : Test → TestKind
  | .equals _ => .equals
  | .contains _ => .contains
  | .regex _ => .regex
  | .llmEvaluate _ => .llmEvaluate
  | .custom _ _ => .custom

/-- A test of one field. -/
structure Condition where
  /-- The path of the field. -/
  field : String
  /-- What is asked of it. -/
  test : Test
  /-- How the next condition is joined; `and` if nothing is said. -/
  operator : Option Operator := none
deriving BEq

/-- A condition with another operator. -/
def Condition.withOperator (c : Condition) (op : Operator) : Condition :=
  { c with operator := some op }

end Arbiter
