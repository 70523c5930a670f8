import Arbiter.Engine.Basic
import Arbiter.Verdict.Judge
/-!
# Evaluating the active rules

A pass enriches the context, scores all rules on it, and then evaluates them by descending priority,
each on the context the ones before it left.  A pass never fails: failures are recorded on the
results.  Afterwards the results go into the history, the timings and the usage of the rules, and the
rules that are likely to be used next are announced.
-/

namespace Arbiter

/-- How long things are measured to take, in nanoseconds. -/
structure Stopwatch where
  /-- The evaluation of a rule. -/
  rule : String → Nat := fun _ => 0
  /-- A whole pass. -/
  pass : Nat := 0

/-- Settings of one pass. -/
structure PassOptions where
  /-- How long the pass may take, in nanoseconds; what the engine is set up with if nothing is
  said. -/
  timeout : Option Nat := none
  /-- How long things are measured to take. -/
  stopwatch : Stopwatch := {}

/-- What a pass came to. -/
structure Pass where
  /-- The number of the pass. -/
  evaluationId : Nat
  /-- One result a rule, in the order of evaluation. -/
  results : List Verdict
  /-- The context after all actions. -/
  context : Context
  /-- The rules that are likely to be used next. -/
  predictions : List Prediction

/-- A pass as data, under a given name. -/
def Pass.toValue (name : Value) (e : Pass) : Value :=
  .obj [("evaluationId", name), ("results", .arr (e.results.map Verdict.toValue)),
    ("context", .obj e.context), ("predictions", .arr (e.predictions.map Prediction.toValue))]

/-- Evaluates rules with their signals, one after the other.  The answer has one entry a rule; what
the entry of a rule says about the context and the claims is how the next rule finds them. -/
def walk (env : Env) (stopwatch : Stopwatch) :
    List (Rule × Signal) → Context → Option Claims → StateM World (List Progress)
  | [], _, _ => return []
  | (rule, signal) :: rest, context, claims => do
    let p ← judge env rule signal context claims (stopwatch.rule rule.id)
    Budget.note (.metric (stageOfRule rule.id) !p.result.hasFailed)
    return p :: (← walk env stopwatch rest p.context p.claims)

/-- The context after some rules. -/
def contextAfter (context : Context) (steps : List Progress) : Context :=
  (steps.getLast?.map (·.context)).getD context

/-- The events that the actions of a rule raised. -/
def Progress.events (id : Nat) (p : Progress) : List Event :=
  p.triggers.map fun function => .actionTrigger id p.result.ruleId function p.context

namespace Engine

/-- How long the calls of a pass may wait.  The deadline is added up without bound: where a machine has no
moment that lies the timeout after the start, a pass with that timeout cannot be begun, and nothing is said
here of it. -/
def budget (e : Engine) (options : PassOptions) : Budget where
  perCall := e.settings.callLimit
  deadline := (options.timeout <|> e.settings.passLimit).map (e.world.now + ·)

/-- The outside of a pass. -/
def env (e : Engine) (options : PassOptions) : Env where
  capabilities := e.capabilities
  handlers := e.handlers
  budget := e.budget options

/-- The context of a pass.  When it cannot be had from outside, the caller's context is laid over the
global one, and the failure is given too. -/
def enrich (e : Engine) (budget : Budget) (context : Context) :
    StateM World (Context × Option CallFailure) := do
  let global := e.rulebook.globalContext
  match ← budget.call (e.capabilities.inject context global) with
  | .ok enriched => return (enriched, none)
  | .error err => return (Capabilities.mergeGlobal context global, some err)

/-- The active rules in the order of evaluation, each with its signal. -/
def scored (e : Engine) (context : Context) : List (Rule × Signal) :=
  e.rules.zip (e.crew.score e.learner e.rules context)

/-- The claims at the start of a pass, if rules are kept from each other's paths. -/
def initialClaims (e : Engine) : Option Claims :=
  match e.rulebook.conflictPolicy with
  | .allowAll => none
  | .priorityWins => some []

/-- Puts the results of a pass into the history, the usage of the rules and the timings. -/
def recordPass (e : Engine) (results : List Verdict) (stopwatch : Stopwatch) : Engine :=
  let timed := results.foldl
    (fun m r => m.record (stageOfRule r.ruleId) (!r.hasFailed) r.processingTime) e.timings
  { e with
    history := e.history.extend results
    learner := (results.filter (·.matched)).foldl (fun m r => m.countMatch r.ruleId) e.learner
    timings := timed.record stageOfPass (!results.any (·.hasFailed)) stopwatch.pass }

/-- Announces rules that are likely to be used next; failures do not matter. -/
def announce (e : Engine) (budget : Budget) : List Prediction → StateM World Unit
  | [] => return ()
  | p :: rest => do
    match e.rulebook.find? p.ruleId with
    | some rule =>
      Budget.note (.precompile rule.id)
      let _ ← budget.call (e.capabilities.precompile rule)
    | none => pure ()
    announce e budget rest

/-- What becomes of the world in a pass up to its last rule: the failure of the enrichment, the
context at the start, and the entries of the rules. -/
def passRules (e : Engine) (context : Context) (options : PassOptions) :
    StateM World (Option CallFailure × Context × List Progress) := do
  let env := e.env options
  let (start, failure) ← e.enrich env.budget context
  let steps ← walk env options.stopwatch (e.scored start) start e.initialClaims
  return (failure, start, steps)

/-- Evaluates the active rules. -/
def evaluate (e : Engine) (context : Context) (options : PassOptions := {}) :
    Pass × Engine :=
  let id := e.passes + 1
  let budget := e.budget options
  let ((failure, start, steps), world) := (e.passRules context options).run e.world
  let final := contextAfter start steps
  let results := steps.map (·.result)
  let raised := (failure.map fun err => .error "inject" err.message).toList
    ++ steps.flatMap (Progress.events id)
    ++ [.evaluationComplete id results final options.stopwatch.pass]
  let e := { (e.recordPass results options.stopwatch).emitAll raised with passes := id }
  let predictions := e.predictions final results
  let announcing := do
    Budget.note (.metric stageOfPass !(results.any (·.hasFailed)))
    e.announce budget predictions
  let e := { e with latestPrediction := predictions, world := (announcing.run world).2 }
  ({ evaluationId := id, results, context := final, predictions }, e)

end Engine

end Arbiter
