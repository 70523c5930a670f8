import Arbiter.Text.Similar
import Arbiter.Time.Duration
import Arbiter.Value.Basic
/-!
# What can go wrong

The errors of the engine with their texts, and the short form in which an evaluation records them.
-/

namespace Arbiter

/-- Why a call to an outside capability gave no result. -/
inductive CallFailure where
  /-- There is nothing behind the capability. -/
  | notConfigured (capability : String)
  /-- What is behind it failed. -/
  | backend (message : String)
  /-- It took longer than it was allowed to, in nanoseconds. -/
  | timeout (allowance : Nat)
deriving DecidableEq, Repr

/-- The text of a failed call. -/
def CallFailure.message : CallFailure → String
  | .notConfigured c => "capability not configured: " ++ c
  | .backend m => "backend error: " ++ m
  | .timeout ns => "timed out after " ++ Duration.text ns

/-- What can go wrong in loading, changing or evaluating rules. -/
inductive Fault where
  /-- A file cannot be read or written. -/
  | io (message : String)
  /-- A text is not a rule file. -/
  | parse
  /-- A rule set is refused. -/
  | load (message : String)
  /-- There is no rule of that name; perhaps another was meant. -/
  | notFound (id : String) (suggestion : Option String)
  /-- A condition cannot be decided. -/
  | conditionFailure (message : String)
  /-- An extension is used that nobody registered. -/
  | notImplemented (message : String)
  /-- A call to an outside capability failed. -/
  | externalCapability (e : CallFailure)
deriving DecidableEq, Repr

namespace Fault

/-- The text of an error. -/
def message : Fault → String
  | .io m => "IO error: " ++ m
  | .parse => "YAML parse error: the text does not hold a rule set"
  | .load m => "Load error: " ++ m
  | .notFound id suggestion => "rule '" ++ id ++ "' not found" ++ Text.didYouMean suggestion
  | .conditionFailure m => "condition evaluation failed: " ++ m
  | .notImplemented m => "not implemented: " ++ m
  | .externalCapability e => "external capability error: " ++ e.message

/-- Whether an error only concerns one condition, which then counts as not met. -/
def isLocal : Fault → Bool
  | .conditionFailure _ => true
  | .notImplemented _ => true
  | _ => false

end Fault

/-- The kinds of errors an evaluation tells apart. -/
inductive FaultKind where
  /-- A condition could not be decided. -/
  | conditionFailure
  /-- An extension was missing. -/
  | notImplemented
  /-- A call to an outside capability failed. -/
  | externalCapability
  /-- Anything else. -/
  | other
deriving DecidableEq, Repr

/-- The name of a kind. -/
def FaultKind.name : FaultKind → String
  | .conditionFailure => "condition_failure"
  | .notImplemented => "not_implemented"
  | .externalCapability => "external_capability"
  | .other => "other"

/-- All kinds with their names. -/
def FaultKind.names : List (String × FaultKind) :=
  [FaultKind.conditionFailure, .notImplemented, .externalCapability, .other].map fun k => (k.name, k)

/-- An error as an evaluation records it. -/
structure Failure where
  /-- Its kind. -/
  kind : FaultKind
  /-- Its text. -/
  message : String
deriving DecidableEq, Repr

/-- The record of an error. -/
def Fault.failure (e : Fault) : Failure where
  kind := match e with
    | .conditionFailure _ => .conditionFailure
    | .notImplemented _ => .notImplemented
    | .externalCapability _ => .externalCapability
    | _ => .other
  message := e.message

/-- A recorded error as data. -/
def Failure.toValue (f : Failure) : Value :=
  .obj [("kind", .str f.kind.name), ("message", .str f.message)]

end Arbiter
