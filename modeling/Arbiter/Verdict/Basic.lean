import Arbiter.Rule.Decode
import Arbiter.Rule.Encode
import Arbiter.Fault
import Arbiter.Time.Duration
/-!
# Results of evaluations

What becomes known about a rule when it is evaluated.  Only the first failure is kept.
-/

namespace Arbiter

/-- What the scoring of a rule says about it. -/
structure Signal where
  /-- How relevant the rule is thought to be, from nothing to one. -/
  confidence : Float := 0.0
  /-- What each feature contributed. -/
  activation : List Float := []

/-- What the evaluation of one rule came to. -/
structure Verdict where
  /-- The rule. -/
  ruleId : String
  /-- Whether it matched. -/
  matched : Bool
  /-- The match blended with the confidence. -/
  score : Float
  /-- The confidence alone. -/
  confidence : Float
  /-- The actions that were carried out. -/
  executedActions : List Action := []
  /-- The actions that were kept from a path another rule had claimed. -/
  suppressedActions : List Action := []
  /-- How long it took, in nanoseconds. -/
  processingTime : Nat := 0
  /-- What each feature contributed. -/
  activation : List Float := []
  /-- The first failure. -/
  error : Option Failure := none
deriving BEq

namespace Verdict

/-- A result before anything was evaluated. -/
def pending (ruleId : String) (signal : Signal) : Verdict where
  ruleId := ruleId
  matched := false
  score := 0.0
  confidence := signal.confidence
  activation := signal.activation

/-- Whether something failed. -/
def hasFailed (r : Verdict) : Bool := r.error.isSome

/-- Records a failure; only the first one is kept. -/
def record (r : Verdict) (f : Failure) : Verdict :=
  { r with error := r.error <|> some f }

/-- A result as data. -/
def toValue (r : Verdict) : Value :=
  .obj ([("ruleId", .str r.ruleId), ("matched", .bool r.matched), ("score", .float r.score),
      ("confidence", .float r.confidence),
      ("executedActions", .arr (r.executedActions.map Action.toValue))]
    ++ (if r.suppressedActions.isEmpty then []
        else [("suppressedActions", .arr (r.suppressedActions.map Action.toValue))])
    ++ [("processingTime", .float (Duration.toMillis r.processingTime)),
      ("activation", .arr (r.activation.map .float))]
    ++ optionalField "error" Failure.toValue r.error)

open Document in
/-- Reads a recorded failure. -/
def decodeFailure? (d : Document) : Option Failure := do
  let f ← fields? ["kind", "message"] d
  return {
    kind := ← required f "kind" (oneOf? FaultKind.names)
    message := ← required f "message" string? }

open Document in
/-- Reads a result. -/
def decode? (d : Document) : Option Verdict := do
  let f ← fields? ["ruleId", "matched", "score", "confidence", "executedActions",
    "suppressedActions", "processingTime", "activation", "error"] d
  return {
    ruleId := ← required f "ruleId" string?
    matched := ← required f "matched" bool?
    score := ← required f "score" float?
    confidence := ← required f "confidence" float?
    executedActions := ← required f "executedActions" (list? Action.decode?)
    suppressedActions := ← optional f "suppressedActions" [] (list? Action.decode?)
    processingTime := Duration.ofMillisFloat (← required f "processingTime" float?)
    activation := ← required f "activation" (list? float?)
    error := ← maybe f "error" decodeFailure? }

end Verdict

end Arbiter
