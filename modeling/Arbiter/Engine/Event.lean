import Arbiter.Tuning
import Arbiter.Rule.Encode
/-!
# Events of the engine

What subscribers are told: that rules were loaded, changed or optimized, that a pass is over, that an
action raised an event, and that something failed.
-/

namespace Arbiter

/-- Something subscribers are told. -/
inductive Event where
  /-- A rule set is in force. -/
  | rulesLoaded (count : Nat) (ruleIds : List String) (ruleSet : RuleSet)
  /-- A rule was changed. -/
  | ruleUpdated (ruleId : String) (updates : Patch) (rule : Rule)
  /-- A pass is over; its time is in nanoseconds. -/
  | evaluationComplete (evaluationId : Nat) (results : List Verdict) (context : Context)
      (totalTime : Nat)
  /-- An action of a rule raised an event. -/
  | actionTrigger (evaluationId : Nat) (ruleId functionName : String) (context : Context)
  /-- Rules were changed from history. -/
  | rulesOptimized (optimizations : List Adjustment)
  /-- Something failed; the kind says where. -/
  | error (kind message : String)

namespace Event

/-- The name of the kind of an event. -/
def name : Event → String
  | .rulesLoaded .. => "rulesLoaded"
  | .ruleUpdated .. => "ruleUpdated"
  | .evaluationComplete .. => "evaluationComplete"
  | .actionTrigger .. => "actionTrigger"
  | .rulesOptimized .. => "rulesOptimized"
  | .error .. => "error"

/-- The fields of an event. -/
def fields : Event → List (String × Value)
  | .rulesLoaded count ids set =>
    [("count", .nat count), ("ruleIds", .arr (ids.map .str)), ("ruleSet", set.toValue)]
  | .ruleUpdated id updates rule =>
    [("ruleId", .str id), ("updates", updates.toValue), ("rule", rule.toValue)]
  | .evaluationComplete id results context totalTime =>
    [("evaluationId", .nat id), ("results", .arr (results.map Verdict.toValue)),
      ("context", .obj context), ("totalTimeMs", .float (Duration.toMillis totalTime))]
  | .actionTrigger id ruleId function context =>
    [("evaluationId", .nat id), ("ruleId", .str ruleId), ("functionName", .str function),
      ("context", .obj context)]
  | .rulesOptimized optimizations =>
    [("optimizations", .arr (optimizations.map Adjustment.toValue))]
  | .error kind message => [("kind", .str kind), ("message", .str message)]

/-- An event as data. -/
def toValue (e : Event) : Value := .obj (("type", .str e.name) :: e.fields)

end Event

end Arbiter
