import Arbiter.Fault
import Arbiter.Rule.Basic
import Arbiter.Value.Merge
/-!
# Outside capabilities

What the engine asks of the world around it: to enrich a context, and to put questions to a language
model.  A reply comes at once or after a delay, which the engine may not be willing to wait for.
-/

namespace Arbiter

/-- The reply to a call. -/
structure Reply (α : Type) where
  /-- How long it takes, in nanoseconds; a reply without a delay is there at once. -/
  delay : Option Nat := none
  /-- What it says. -/
  outcome : Except CallFailure α

/-- A reply that is there at once. -/
def Reply.now (outcome : Except CallFailure α) : Reply α := { outcome }

/-- The outside capabilities. -/
structure Capabilities where
  /-- Makes the context of a pass from the caller's context and the global one. -/
  inject : Context → Context → Reply Context
  /-- Answers a question about a context. -/
  evaluate : String → Context → Reply Bool
  /-- Makes a text from a prompt and a context. -/
  generate : String → Context → Reply String
  /-- Prepares for a rule that is likely to be used next. -/
  precompile : Rule → Reply Unit

namespace Capabilities

/-- The caller's context laid over the global one. -/
def mergeGlobal (context global : Context) : Context := Context.merge global context

/-- The capabilities of an engine that stands alone: contexts are merged, and there is no language
model. -/
def alone : Capabilities where
  inject context global := .now (.ok (mergeGlobal context global))
  evaluate _ _ := .now (.error (.notConfigured "evaluate_with_llm"))
  generate _ _ := .now (.error (.notConfigured "generate_with_llm"))
  precompile _ := .now (.ok ())

end Capabilities

end Arbiter
