import Arbiter.Value.Basic
/-!
# Actions

What a rule does when it fires: change the context, or raise an event.
-/

namespace Arbiter

/-- Something a rule does when it fires. -/
inductive Action where
  /-- Writes a value. -/
  | set (target : String) (value : Value)
  /-- Adds a value to the end of a list. -/
  | append (target : String) (value : Value)
  /-- Writes a text that a language model makes from a prompt. -/
  | llmGenerate (target prompt : String)
  /-- Raises an event; the context stays as it is. -/
  | trigger (function : String) (target : Option String)
  /-- Replaces a value by what a registered transform makes of it. -/
  | transform (target function : String) (value : Option Value)
deriving BEq

namespace Action

/-- The name of the kind of an action in rule files. -/
def kindName : Action → String
  | .set .. => "set"
  | .append .. => "append"
  | .llmGenerate .. => "llm_generate"
  | .trigger .. => "trigger"
  | .transform .. => "transform"

/-- The path an action writes to; events have none. -/
def target? : Action → Option String
  | .set target _ => some target
  | .append target _ => some target
  | .llmGenerate target _ => some target
  | .trigger _ _ => none
  | .transform target _ _ => some target

end Action

end Arbiter
