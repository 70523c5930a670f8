import Arbiter.Proofs.InStep
import Arbiter.Proofs.Lockstep
/-!
# What a pass depends on

A pass changes the engine: it counts matches, fills the history and the timings, replaces the prediction and
moves the clock.  None of that is to be seen in the results of a later pass.

1. **What a pass reads** of an engine is little (`Engine.Matches`): the settings and the outside, the rules
   apart from when they were changed, and the weights.  A pass changes nothing of it
   (`Engine.Matches.evaluate`).
2. **When** a pass begins does not matter.  All its limits count from its start, so two passes that begin at
   different times are in lockstep, call by call (`Engine.Matches.lockstep_passRules`).
3. **How long things are measured to take** is written on the results at the end of each turn, and nothing in
   the rest of the walk reads it (`walk_measured`).

The main statement is `passes_do_not_influence_each_other`.
-/

namespace Arbiter

/-! ## Stamps -/

/-- A rule apart from when it was last changed. -/
def Rule.unstamped (r : Rule) : Rule := { r with metadata := { r.metadata with updatedAt := none } }

/-- A rule set apart from when its rules were last changed. -/
def RuleSet.unstamped (s : RuleSet) : RuleSet := { s with rules := s.rules.map Rule.unstamped }

/-- The order of evaluation does not depend on when the rules were changed. -/
theorem Rulebook.map_unstamped_sorted (book : Rulebook) :
    book.sorted.map Rule.unstamped = Rulebook.sorted ⟨book.active.unstamped⟩ := by
  rw [sorted_eq_insertionSort, sorted_eq_insertionSort]
  exact List.map_insertionSort _ _ _ _ fun _ _ _ _ => Iff.rfl

/-- The actions of a rule do not read when it was changed. -/
theorem runActions_unstamped (env : Env) (rule : Rule) (before : Context) (actions : List Action)
    (p : Progress) :
    runActions env rule.unstamped before actions p = runActions env rule before actions p := by
  induction actions generalizing p with
  | nil => rfl
  | cons a rest ih =>
    rw [runActions, runActions, ih]
    simp only [ih]
    rfl

/-- Nothing that becomes of a rule depends on when it was changed. -/
theorem judge_unstamped (env : Env) (rule : Rule) (signal : Signal) (context : Context)
    (claims : Option Claims) (elapsed : Nat) :
    judge env rule.unstamped signal context claims elapsed = judge env rule signal context claims elapsed := by
  rw [judge, judge]
  simp only [runActions_unstamped]
  rfl

/-- Nor does a walk, by induction on the rules. -/
theorem walk_unstamped (env : Env) (stopwatch : Stopwatch) (ranked : List (Rule × Signal))
    (context : Context) (claims : Option Claims) :
    walk env stopwatch (ranked.map fun x => (x.1.unstamped, x.2)) context claims
      = walk env stopwatch ranked context claims := by
  induction ranked generalizing context claims with
  | nil => rfl
  | cons x rest ih =>
    obtain ⟨rule, signal⟩ := x
    rw [List.map_cons, walk, walk, judge_unstamped]
    simp only [ih]
    rfl

/-! ## Measured times -/

/-- A result with another measured time. -/
def Verdict.measured (stopwatch : Stopwatch) (r : Verdict) : Verdict :=
  { r with processingTime := stopwatch.rule r.ruleId }

/-- An entry of a walk with another measured time. -/
def Progress.measured (stopwatch : Stopwatch) (p : Progress) : Progress :=
  { p with result := p.result.measured stopwatch }

section Measured

variable (env : Env) (stopwatch stopwatch' : Stopwatch) (context : Context) (claims : Option Claims)
  (w : World)

/-- The measured time of a rule shows on its entry, and nowhere else. -/
theorem judge_measured (rule : Rule) (signal : Signal) (elapsed : Nat) :
    (judge env rule signal context claims (stopwatch.rule rule.id)).run w
      = (((judge env rule signal context claims elapsed).run w).1.measured stopwatch,
        ((judge env rule signal context claims elapsed).run w).2) := by
  have hname := (judge_about env rule signal context claims elapsed w).ruleId
  have htime : stopwatch.rule ((judge env rule signal context claims elapsed).run w).1.result.ruleId
      = stopwatch.rule rule.id := congrArg stopwatch.rule hname
  rw [Progress.measured, Verdict.measured, htime, judge_run, judge_run]

/-- Measured times show on the entries of a walk, and nowhere else. -/
theorem walk_measured (ranked : List (Rule × Signal)) :
    (walk env stopwatch' ranked context claims).run w
      = (((walk env stopwatch ranked context claims).run w).1.map (Progress.measured stopwatch'),
        ((walk env stopwatch ranked context claims).run w).2) := by
  induction ranked generalizing context claims w with
  | nil => rfl
  | cons x rest ih =>
    obtain ⟨rule, signal⟩ := x
    rw [walk, walk, World.run_bind, World.run_bind,
      judge_measured env stopwatch' context claims w rule signal (stopwatch.rule rule.id)]
    simp only [World.run_bind, ih]
    rfl

end Measured

/-! ## Two engines -/

namespace Learner

/-- The signal of a rule depends on the weights alone. -/
theorem score_congr {m m' : Learner} (hweights : m'.weights = m.weights) (hbias : m'.bias = m.bias)
    (r : Rule) (context : Context) : m'.score r context = m.score r context := by
  unfold score relevance contributions
  rw [hweights, hbias]

end Learner

/-- All that a pass reads of two engines is the same. -/
structure Engine.Matches (e e' : Engine) : Prop where
  /-- The settings. -/
  settings : e'.settings = e.settings
  /-- The outside capabilities. -/
  capabilities : e'.capabilities = e.capabilities
  /-- The handlers. -/
  handlers : e'.handlers = e.handlers
  /-- The rules, apart from when they were changed. -/
  rules : e'.snapshot.unstamped = e.snapshot.unstamped
  /-- The weights of the learned signal. -/
  weights : e'.learner.weights = e.learner.weights
  /-- What is added to the weighted features. -/
  bias : e'.learner.bias = e.learner.bias

namespace Engine

variable {e e' e'' : Engine}

theorem Matches.refl (e : Engine) : e.Matches e := ⟨rfl, rfl, rfl, rfl, rfl, rfl⟩

theorem Matches.trans (h : e.Matches e') (h' : e'.Matches e'') : e.Matches e'' :=
  ⟨h'.settings.trans h.settings, h'.capabilities.trans h.capabilities, h'.handlers.trans h.handlers,
    h'.rules.trans h.rules, h'.weights.trans h.weights, h'.bias.trans h.bias⟩

/-- **A pass leaves alone what a pass reads.** -/
theorem Matches.evaluate (e : Engine) (context : Context) (options : PassOptions) :
    e.Matches (e.evaluate context options).2 := by
  obtain ⟨timings, events, world, hafter⟩ := e.exists_evaluate context options
  obtain ⟨usage, hcount, -⟩ := Learner.foldl_countMatch_eq e.learner
    ((e.evaluate context options).1.results.filter (·.matched))
  rw [hcount] at hafter
  rw [hafter]
  exact ⟨rfl, rfl, rfl, rfl, rfl, rfl⟩

/-- Any number of earlier passes leaves alone what a pass reads. -/
theorem matches_after_passes (e : Engine) (earlier : List (Context × PassOptions)) :
    e.Matches (e.after (earlier.map fun x => .evaluate x.1 x.2)) := by
  induction earlier generalizing e with
  | nil => exact .refl e
  | cons x rest ih => exact (Matches.evaluate e x.1 x.2).trans (ih _)

section Matches

variable (h : e.Matches e') (context : Context) (options : PassOptions)
include h

/-- The context of the rules is the same. -/
theorem Matches.globalContext : e'.rulebook.globalContext = e.rulebook.globalContext := by
  have hdata := congrArg RuleSet.globalContext h.rules
  exact congrArg (fun data => data.getD []) hdata

/-- The targets that are claimed before the first rule are the same. -/
theorem Matches.initialClaims : e'.initialClaims = e.initialClaims := by
  have hset := congrArg RuleSet.conflictPolicy h.rules
  have hpolicy : e'.rulebook.conflictPolicy = e.rulebook.conflictPolicy := hset
  rw [Engine.initialClaims, Engine.initialClaims, hpolicy]

/-- The rules are walked in the same order. -/
theorem Matches.rules_unstamped : e'.rules.map Rule.unstamped = e.rules.map Rule.unstamped := by
  have hactive : e'.rulebook.active.unstamped = e.rulebook.active.unstamped := h.rules
  rw [Engine.rules, Engine.rules, Rulebook.map_unstamped_sorted, Rulebook.map_unstamped_sorted, hactive]

/-- The rules have the same signals, in the same order. -/
theorem Matches.scored : (e'.scored context).map (fun x => (x.1.unstamped, x.2))
    = (e.scored context).map (fun x => (x.1.unstamped, x.2)) := by
  have hsignals : ∀ e : Engine, (e.scored context).map (fun x => (x.1.unstamped, x.2))
      = (e.rules.map Rule.unstamped).map fun r => (r, e.learner.score r context) := by
    intro e
    rw [e.scored_eq_map, List.map_map, List.map_map]
    rfl
  rw [hsignals, hsignals, h.rules_unstamped]
  simp only [Learner.score_congr h.weights h.bias]

/-- The calls of a pass are in lockstep, as its limits count from its own start. -/
theorem Matches.parallel : (e.env options).Parallel (Elapsed e.world.now e'.world.now) (e'.env options) := by
  refine ⟨h.handlers, fun prompt context => ?_, fun prompt context => ?_⟩
  · rw [Engine.env, Engine.env, h.capabilities, Engine.budget, Engine.budget, h.settings]
    exact Elapsed.lockstep_call _ _ _ _ _
  · rw [Engine.env, Engine.env, h.capabilities, Engine.budget, Engine.budget, h.settings]
    exact Elapsed.lockstep_call _ _ _ _ _

/-- So is the enrichment of its context. -/
theorem Matches.lockstep_enrich : Lockstep (Elapsed e.world.now e'.world.now)
    (e.enrich (e.budget options) context) (e'.enrich (e'.budget options) context) := by
  rw [enrich, enrich, h.capabilities, h.globalContext, Engine.budget, Engine.budget, h.settings]
  refine (Elapsed.lockstep_call _ _ _ _ _).bind fun reply => ?_
  cases reply with
  | ok enriched => exact lockstep_pure _
  | error err => exact lockstep_pure _

/-- **Two passes are in lockstep**, whenever they begin. -/
theorem Matches.lockstep_passRules : Lockstep (Elapsed e.world.now e'.world.now)
    (e.passRules context options) (e'.passRules context options) := by
  rw [passRules, passRules]
  refine (h.lockstep_enrich context options).bind fun x => ?_
  obtain ⟨start, failure⟩ := x
  dsimp only
  rw [← walk_unstamped (e'.env options), ← walk_unstamped (e.env options), h.scored, h.initialClaims]
  exact (lockstep_walk (h.parallel options) _ _ _ _).bind fun _ => lockstep_pure _

end Matches

/-! ## What a pass comes to -/

/-- The events of a pass, in order: whether the enrichment failed, what the actions raised, and that the
pass is over. -/
def raised (e : Engine) (context : Context) (options : PassOptions) : List Event :=
  let (failure, start, steps) := ((e.passRules context options).run e.world).1
  (failure.map fun err => .error "inject" err.message).toList
    ++ steps.flatMap (Progress.events (e.passes + 1))
    ++ [.evaluationComplete (e.passes + 1) (steps.map (·.result)) (contextAfter start steps)
      options.stopwatch.pass]

section Outcome

variable (e : Engine) (context : Context) (options : PassOptions)

/-- A pass emits the events of the pass, and no others. -/
theorem events_evaluate :
    (e.evaluate context options).2.events = e.events.emitAll (e.raised context options) := rfl

/-- Its results are those of the walk. -/
theorem results_evaluate : (e.evaluate context options).1.results
    = ((e.passRules context options).run e.world).1.2.2.map (·.result) := rfl

theorem context_evaluate : (e.evaluate context options).1.context
    = contextAfter ((e.passRules context options).run e.world).1.2.1
        ((e.passRules context options).run e.world).1.2.2 := rfl

end Outcome

end Engine

/-- An event of a pass that has another number, and in which other times are measured. -/
def Event.relabelled (id : Nat) (stopwatch : Stopwatch) : Event → Event
  | .evaluationComplete _ results context _ =>
    .evaluationComplete id (results.map (Verdict.measured stopwatch)) context stopwatch.pass
  | .actionTrigger _ ruleId function context => .actionTrigger id ruleId function context
  | event => event

/-- The events of a rule change in number and measured time only. -/
theorem Progress.events_measured (id id' : Nat) (stopwatch : Stopwatch) (p : Progress) :
    (p.measured stopwatch).events id' = (p.events id).map (Event.relabelled id' stopwatch) := by
  unfold Progress.events
  rw [List.map_map]
  rfl

/-- The context after a walk does not depend on measured times. -/
theorem contextAfter_map_measured (stopwatch : Stopwatch) (start : Context) (steps : List Progress) :
    contextAfter start (steps.map (Progress.measured stopwatch)) = contextAfter start steps := by
  rw [contextAfter, contextAfter, List.getLast?_map, Option.map_map]
  rfl

namespace Engine

variable {e e' : Engine}

/-- With other measured times the rules of a pass come to the same, but for these. -/
theorem passRules_measured (e : Engine) (context : Context) (options : PassOptions)
    (stopwatch : Stopwatch) (w : World) :
    ((e.passRules context { options with stopwatch }).run w).1 =
      (let (failure, start, steps) := ((e.passRules context options).run w).1
       (failure, start, steps.map (Progress.measured stopwatch))) := by
  have henv : e.env { options with stopwatch } = e.env options := rfl
  rw [passRules, passRules, henv, World.run_bind, World.run_bind]
  dsimp only
  rw [World.run_bind, World.run_bind, walk_measured (e.env options) options.stopwatch]
  rfl

section Matches

variable (h : e.Matches e') (context : Context) (options : PassOptions) (stopwatch : Stopwatch)
include h

/-- The rules of a pass that begins elsewhere come to the same, but for the measured times. -/
theorem Matches.passRules_eq :
    ((e'.passRules context { options with stopwatch }).run e'.world).1 =
      (let (failure, start, steps) := ((e.passRules context options).run e.world).1
       (failure, start, steps.map (Progress.measured stopwatch))) := by
  obtain ⟨hanswer, -⟩ := h.lockstep_passRules context options e.world e'.world (Elapsed.refl _ _)
  rw [passRules_measured, hanswer]

/-- The same pass on two such engines has the same results, but for measured times. -/
theorem Matches.results_eq : (e'.evaluate context { options with stopwatch }).1.results
    = (e.evaluate context options).1.results.map (Verdict.measured stopwatch) := by
  rw [results_evaluate, results_evaluate, h.passRules_eq, List.map_map, List.map_map]
  rfl

theorem Matches.context_eq : (e'.evaluate context { options with stopwatch }).1.context
    = (e.evaluate context options).1.context := by
  rw [context_evaluate, context_evaluate, h.passRules_eq]
  exact contextAfter_map_measured _ _ _

/-- The events are the same, but for the number of the pass and the measured times. -/
theorem Matches.raised_eq : e'.raised context { options with stopwatch }
    = (e.raised context options).map (Event.relabelled (e'.passes + 1) stopwatch) := by
  rw [raised, raised, h.passRules_eq]
  generalize ((e.passRules context options).run e.world).1 = outcome
  obtain ⟨failure, start, steps⟩ := outcome
  dsimp only
  rw [contextAfter_map_measured, List.map_append, List.map_append]
  congr 1
  · congr 1
    · cases failure with
      | none => rfl
      | some err => rfl
    · rw [List.flatMap_map, List.map_flatMap]
      simp only [Progress.events_measured (e.passes + 1)]
  · rw [List.map_map]
    show [_] = [Event.evaluationComplete _ _ _ _]
    rw [List.map_map]
    rfl

end Matches

end Engine

/-! ## The main statement -/

/-- **Passes do not influence each other.**  Some passes are made before another one, with whatever contexts,
limits, delays and failures.  Its results are those it would have had without them, in the same order: the
same rules, matches, scores, signals, actions and failures.  The context in the end is the same, and so is
what its subscribers are told, of which the events that actions raise are a part.  Only the number of the
pass and the measured times are others. -/
theorem passes_do_not_influence_each_other (e : Engine) (earlier : List (Context × PassOptions))
    (context : Context) (options : PassOptions) (stopwatch : Stopwatch) :
    let later := e.after (earlier.map fun x => .evaluate x.1 x.2)
    let options' := { options with stopwatch }
    let alone := e.evaluate context options
    let pass := later.evaluate context options'
    pass.1.results = alone.1.results.map (Verdict.measured stopwatch)
    ∧ pass.1.context = alone.1.context
    ∧ alone.2.events = e.events.emitAll (e.raised context options)
    ∧ pass.2.events = later.events.emitAll (later.raised context options')
    ∧ later.raised context options'
      = (e.raised context options).map (Event.relabelled pass.1.evaluationId stopwatch) := by
  intro later options' alone pass
  have hmatches : e.Matches later := Engine.matches_after_passes e earlier
  refine ⟨?results, ?context, ?here, ?there, ?events⟩
  case results => exact hmatches.results_eq context options stopwatch
  case context => exact hmatches.context_eq context options stopwatch
  case here => exact e.events_evaluate context options
  case there => exact later.events_evaluate context options'
  case events => exact hmatches.raised_eq context options stopwatch

end Arbiter
