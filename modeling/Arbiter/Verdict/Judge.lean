import Arbiter.Verdict.Actions
import Arbiter.Verdict.Claims
import Arbiter.Verdict.Conditions
import Arbiter.Verdict.Basic
/-!
# Evaluating a rule

A rule is evaluated in three steps: its conditions are joined, the match is blended with the
confidence, and if the rule matched and the blend is high enough its actions are carried out in
order.  A rule whose action fails is abandoned: the context and the claims are as before.  Failures
never leave the rule; they are recorded on its result.
-/

namespace Arbiter

/-- The score above which the actions of a rule that matched are carried out. -/
def firingScore : Float := 0.5

/-- A double between two bounds; what is not a number stays as it is. -/
def clampFloat (low high x : Float) : Float := if x < low then low else if x > high then high else x

/-- The match, blended with the confidence by a weight if there is one. -/
def blend (matched : Bool) (confidence : Float) (weight : Option Float) : Float :=
  let base := if matched then 1.0 else 0.0
  match weight with
  | none => base
  | some w =>
    let w := clampFloat 0.0 1.0 w
    base * (1.0 - w) + confidence * w

/-- Where a rule stands while its actions are carried out. -/
structure Progress where
  /-- The context. -/
  context : Context
  /-- The claims, if rules are kept from each other's paths. -/
  claims : Option Claims
  /-- The result so far. -/
  result : Verdict
  /-- The functions of the events that were raised, in order. -/
  triggers : List String := []

namespace Progress

/-- Whether an action is kept from its target by the claim of another rule. -/
def isSuppressed (p : Progress) (ruleId : String) (a : Action) : Bool :=
  match p.claims, a.target? with
  | some claims, some target => (claims.rival? target ruleId).isSome
  | _, _ => false

/-- An action was kept from its target. -/
def suppress (p : Progress) (a : Action) : Progress :=
  { p with result :=
    { p.result with suppressedActions := p.result.suppressedActions ++ [a] } }

/-- An action was carried out. -/
def execute (p : Progress) (ruleId : String) (a : Action) (effect : Effect) (context : Context) :
    Progress :=
  { context
    claims := match effect with
      | .wrote target => p.claims.map fun cs => cs.claim target ruleId
      | _ => p.claims
    result := { p.result with executedActions := p.result.executedActions ++ [a] }
    triggers := match effect with
      | .triggered function => p.triggers ++ [function]
      | _ => p.triggers }

/-- A failure was recorded, and nothing else changed. -/
def record (p : Progress) (e : Fault) : Progress :=
  { p with result := p.result.record e.failure }

/-- The rule is abandoned: what it did is undone. -/
def abandon (p : Progress) (rule : Rule) (before : Context) (e : Fault) : Progress where
  context := before
  claims := p.claims.map fun cs => cs.release rule.id
  result :=
    { p.result.record e.failure with
      matched := false
      score := blend false p.result.confidence rule.signalWeight
      executedActions := [] }

end Progress

/-- Carries out the actions of a rule until one of them fails for good. -/
def runActions (env : Env) (rule : Rule) (before : Context) :
    List Action → Progress → StateM World Progress
  | [], p => return p
  | a :: rest, p => do
    if p.isSuppressed rule.id a then runActions env rule before rest (p.suppress a)
    else
      match ← (a.run env p.context).run with
      | .ok (effect, context) =>
        runActions env rule before rest (p.execute rule.id a effect context)
      | .error (.notImplemented m) =>
        runActions env rule before rest (p.record (.notImplemented m))
      | .error e => return p.abandon rule before e

/-- The result of a rule after its conditions. -/
def conditionResult (rule : Rule) (signal : Signal) (outcome : Except Fault Fold) :
    Verdict :=
  let start := Verdict.pending rule.id signal
  let judged := match outcome with
    | .ok fold => fold.failures.foldl Verdict.record { start with matched := fold.matched }
    | .error e => start.record e.failure
  { judged with score := blend judged.matched signal.confidence rule.signalWeight }

/-- Whether the actions of a rule are carried out. -/
def Verdict.fires (r : Verdict) : Bool := r.matched && r.score > firingScore

/-- Evaluates a rule.  `elapsed` is how long it is said to have taken. -/
def judge (env : Env) (rule : Rule) (signal : Signal) (context : Context)
    (claims : Option Claims) (elapsed : Nat := 0) : StateM World Progress := do
  let result := conditionResult rule signal (← (Fold.run env context rule.conditions).run)
  let start : Progress := { context, claims, result }
  let p ← if result.fires then runActions env rule context rule.actions start else pure start
  return { p with result := { p.result with processingTime := elapsed } }

end Arbiter
