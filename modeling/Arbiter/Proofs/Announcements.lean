import Arbiter.Proofs.Passes
/-!
# What subscribers are told of a pass

A pass collects the events of its rules while their actions are carried out, may have to take them back, and
tells the subscribers of them at the end, each with the context its rule left.  Whoever only listens should
learn just what the results of the pass say.

1. **Triggers are executed actions.**  What a rule has collected can be read off the actions that its result
   says were carried out, whether it fires, does not fire or is abandoned (`judge_triggers`).  The invariant
   goes through the actions one by one: each adds the same to both, and who is abandoned loses both.
2. **Contexts** go from rule to rule by the actions carried out, and by nothing else (`Course`).
3. **The failure of the enrichment** is that of its one call (`Engine.enrich_failure`).
4. **Queues** take what they have room for (`Bus.getElem?_queues_emitAll`).

The main statement is `events_follow_the_results`.
-/

namespace Arbiter

/-! ## Triggers -/

/-- The function an action raises an event for, if it raises one. -/
def Action.raises? : Action → Option String
  | .trigger function _ => some function
  | _ => none

/-- What is to be told of a result, when the rule left a given context: one event for every action carried
out that raises one, in their order. -/
def Verdict.announced (id : Nat) (r : Verdict) (context : Context) : List Event :=
  (r.executedActions.filterMap Action.raises?).map fun function =>
    .actionTrigger id r.ruleId function context

/-- An action that is carried out raises an event exactly if it is of that kind. -/
theorem Action.raised_of_run {env : Env} {a : Action} {c c' : Context} {w w' : World} {effect : Effect}
    (h : (a.run env c).runIn w = (.ok (effect, c'), w')) :
    (Fate.done effect).raised = a.raises?.toList := by
  have hout := Action.run_outcome env a c w
  rw [h] at hout
  cases a with
  | trigger function target =>
    obtain rfl : Effect.triggered function = effect := by
      have hrun : (Action.run env (.trigger function target) c).runIn w
        = (.ok (.triggered function, c), w) := rfl
      rw [hrun] at h
      cases h
      rfl
    rfl
  | _ =>
    cases hout with
    | wrote => rfl
    | content => rfl
    | raised function target htrigger => cases htrigger

/-- An action that passes adds the same to the triggers as to the actions carried out. -/
theorem Passes.raised_eq {env : Env} {ruleId : String} {a : Action} {p p' : Progress} {w w' : World}
    {f : Fate} (h : Passes env ruleId a p w f p' w') :
    f.raised = (if f.isDone then [a] else []).filterMap Action.raises? := by
  cases h with
  | suppressed _ => rfl
  | missing _ _ => rfl
  | done _ hrun =>
    rw [Action.raised_of_run hrun]
    cases hraises : a.raises? <;> simp [Fate.isDone, hraises]

/-- What a rule has collected is what the actions carried out raise. -/
def Progress.InTune (p : Progress) : Prop :=
  p.triggers = p.result.executedActions.filterMap Action.raises?

theorem Passes.inTune {env : Env} {ruleId : String} {a : Action} {p p' : Progress} {w w' : World}
    {f : Fate} (h : Passes env ruleId a p w f p' w') (hp : p.InTune) : p'.InTune := by
  obtain ⟨-, err, hp'⟩ := h.progress
  rw [Progress.InTune] at hp ⊢
  rw [hp', List.filterMap_append, ← h.raised_eq, hp]

theorem runActions_inTune (env : Env) (rule : Rule) (before : Context) (actions : List Action)
    {p : Progress} (w : World) (hp : p.InTune) :
    ((runActions env rule before actions p).run w).1.InTune := by
  induction actions generalizing p w with
  | nil => exact hp
  | cons a rest ih =>
    obtain ⟨f, p', w', hpass, -, hrun⟩ | ⟨err, w', -, -, hrun⟩ :=
      passes_or_fails env rule before a rest p w
    · rw [hrun]
      exact ih w' (hpass.inTune hp)
    · -- the rule is abandoned, and both are emptied
      rw [hrun]
      rfl

/-- **A rule has collected just what its executed actions raise**, however it ends. -/
theorem judge_triggers (env : Env) (rule : Rule) (signal : Signal) (context : Context)
    (claims : Option Claims) (elapsed : Nat) (w : World) :
    ((judge env rule signal context claims elapsed).run w).1.InTune := by
  obtain ⟨m, err, hresult⟩ := conditionResult_eq rule signal (rule.conditionOutcome env context w).1
  have hstart : (Progress.start rule signal context claims
      (rule.conditionOutcome env context w).1).InTune := by
    rw [Progress.InTune, Progress.start, hresult]
    rfl
  rw [judge_run]
  dsimp only
  split
  · exact runActions_inTune env rule context rule.actions _ hstart
  · exact hstart

/-- The events of a rule are those to be told of its result. -/
theorem Progress.InTune.events_eq {p : Progress} (h : p.InTune) (id : Nat) :
    p.events id = p.result.announced id p.context := by
  rw [Progress.events, h, Verdict.announced]

/-! ## Contexts -/

/-- What is heard of a reply is what it says, unless it would take longer than the call may wait. -/
theorem Budget.fst_wait (b : Budget) (now : Nat) (r : Reply α) : (b.wait now r).1 =
    if r.delay.any (b.allowance now < ·) then .error (.timeout (b.allowance now)) else r.outcome := by
  rw [Budget.wait]
  cases hdelay : r.delay with
  | none => rfl
  | some d =>
    rcases Nat.lt_or_ge (b.allowance now) d with hlate | htimely
    · have hover : ¬ d ≤ b.allowance now := by omega
      simp [hover, hlate]
    · have hunder : ¬ b.allowance now < d := by omega
      simp [htimely, hunder]

/-- Only what was said is heard. -/
theorem Budget.outcome_of_wait_ok {b : Budget} {now : Nat} {r : Reply α} {a : α}
    (h : (b.wait now r).1 = .ok a) : r.outcome = .ok a := by
  rw [Budget.fst_wait] at h
  split at h
  · cases h
  · exact h

/-- The contexts after each of some results, from a given one on: the actions that were carried out, and they
alone, lead from each to the next, in the world they met. -/
inductive Course (env : Env) : Context → List Verdict → List Context → Prop
  /-- There are no results left. -/
  | done (c : Context) : Course env c [] []
  /-- A result comes next. -/
  | next {c c' : Context} {r : Verdict} {w w' : World} {results : List Verdict} {contexts : List Context}
      (hrun : (Action.runAll env r.executedActions c).runIn w = (.ok c', w'))
      (hrest : Course env c' results contexts) : Course env c (r :: results) (c' :: contexts)

/-- What an action answers when it does not fail does not depend on the world: the clock only decides how long
a reply is waited for. -/
theorem Action.run_ok_unique {env : Env} {a : Action} {c : Context} {w₁ w₁' w₂ w₂' : World}
    {x₁ x₂ : Effect × Context} (h₁ : (a.run env c).runIn w₁ = (.ok x₁, w₁'))
    (h₂ : (a.run env c).runIn w₂ = (.ok x₂, w₂')) : x₁ = x₂ := by
  cases a with
  | llmGenerate target prompt =>
    have reply : ∀ {w w' : World} {x : Effect × Context},
        ((Action.llmGenerate target prompt).run env c).runIn w = (.ok x, w') →
        ∃ text, (env.capabilities.generate prompt c).outcome = .ok text
          ∧ x = (.wrote target, Context.write c target (.str text)) := by
      intro w w' x h
      simp only [Action.run, Eval.runIn_bind, Eval.runIn_ask] at h
      cases hwait : (env.budget.wait w.now (env.capabilities.generate prompt c)).1 with
      | error err =>
        rw [hwait] at h
        cases h
      | ok text =>
        rw [hwait] at h
        cases h
        exact ⟨text, Budget.outcome_of_wait_ok hwait, rfl⟩
    obtain ⟨text₁, hoc₁, rfl⟩ := reply h₁
    obtain ⟨text₂, hoc₂, rfl⟩ := reply h₂
    rw [hoc₁] at hoc₂
    cases hoc₂
    rfl
  | transform target function v =>
    simp only [Action.run, Eval.runIn_bind, Eval.runIn_mk_pure] at h₁ h₂
    cases hhandler : env.handlers.transform function with
    | error err =>
      rw [hhandler] at h₁
      cases h₁
    | ok handler =>
      rw [hhandler] at h₁ h₂
      dsimp only at h₁ h₂
      cases hanswer : handler (Context.read? c target) v c with
      | error err =>
        rw [hanswer] at h₁
        cases h₁
      | ok r =>
        rw [hanswer] at h₁ h₂
        cases r <;> (cases h₁; cases h₂; rfl)
  | _ =>
    cases h₁
    cases h₂
    rfl

theorem Action.runAll_ok_unique {env : Env} {actions : List Action} {c c₁ c₂ : Context}
    {w₁ w₁' w₂ w₂' : World} (h₁ : (Action.runAll env actions c).runIn w₁ = (.ok c₁, w₁'))
    (h₂ : (Action.runAll env actions c).runIn w₂ = (.ok c₂, w₂')) : c₁ = c₂ := by
  induction actions generalizing c w₁ w₂ with
  | nil =>
    cases h₁
    cases h₂
    rfl
  | cons a rest ih =>
    rw [Action.runAll, Eval.runIn_bind] at h₁ h₂
    rcases hstep₁ : (a.run env c).runIn w₁ with ⟨x₁ | x₁, v₁⟩
    · rw [hstep₁] at h₁
      cases h₁
    rcases hstep₂ : (a.run env c).runIn w₂ with ⟨x₂ | x₂, v₂⟩
    · rw [hstep₂] at h₂
      cases h₂
    rw [hstep₁] at h₁
    rw [hstep₂] at h₂
    obtain rfl := Action.run_ok_unique hstep₁ hstep₂
    exact ih h₁ h₂

/-- The results determine the contexts. -/
theorem Course.unique {env : Env} {c : Context} {results : List Verdict} {contexts others : List Context}
    (h : Course env c results contexts) (h' : Course env c results others) : others = contexts := by
  induction h generalizing others with
  | done c =>
    cases h'
    rfl
  | next hrun _ ih =>
    cases h' with
    | next hrun' hrest' =>
      obtain rfl := Action.runAll_ok_unique hrun hrun'
      rw [ih hrest']

/-- The executed actions of a rule lead to the context it leaves; if there are none, to the one it found. -/
theorem judge_replay (env : Env) (rule : Rule) (signal : Signal) (context : Context)
    (claims : Option Claims) (elapsed : Nat) (w : World) :
    ∃ v v', (Action.runAll env
        ((judge env rule signal context claims elapsed).run w).1.result.executedActions context).runIn v
      = (.ok ((judge env rule signal context claims elapsed).run w).1.context, v') := by
  have hend := judge_ending env rule signal context claims elapsed w
  generalize rule.fates env signal context claims w = fs at hend
  cases hend with
  | idle _ hcontext _ hexecuted _ _ =>
    refine ⟨w, w, ?_⟩
    rw [hexecuted, hcontext]
    rfl
  | completed _ _ _ _ hexecuted _ _ hreplay =>
    rw [hexecuted]
    exact ⟨_, _, hreplay⟩
  | abandoned _ _ hcontext _ hexecuted _ _ _ =>
    refine ⟨w, w, ?_⟩
    rw [hexecuted, hcontext]
    rfl

/-- A result that does not fire in the end has carried out nothing. -/
theorem judge_idle {env : Env} {rule : Rule} {signal : Signal} {context : Context}
    {claims : Option Claims} {elapsed : Nat} {w : World}
    (h : ((judge env rule signal context claims elapsed).run w).1.result.fires = false) :
    ((judge env rule signal context claims elapsed).run w).1.result.executedActions = [] := by
  have hend := judge_ending env rule signal context claims elapsed w
  generalize rule.fates env signal context claims w = fs at hend
  cases hend with
  | idle _ _ _ hexecuted _ _ => exact hexecuted
  | abandoned _ _ _ _ hexecuted _ _ _ => exact hexecuted
  | completed hfires =>
    rw [hfires] at h
    cases h

/-- What is to be told of some results, each with the context after it. -/
def announcements (id : Nat) (results : List Verdict) (contexts : List Context) : List Event :=
  (results.zip contexts).flatMap fun x => x.1.announced id x.2

/-- **A walk raises what its results say**, in contexts that follow from them. -/
theorem walk_announced (env : Env) (stopwatch : Stopwatch) (ranked : List (Rule × Signal))
    (context : Context) (claims : Option Claims) (w : World) (id : Nat) :
    let steps := ((walk env stopwatch ranked context claims).run w).1
    Course env context (steps.map (·.result)) (steps.map (·.context))
      ∧ steps.flatMap (Progress.events id)
        = announcements id (steps.map (·.result)) (steps.map (·.context))
      ∧ ∀ p ∈ steps, p.result.fires = false → p.result.executedActions = [] := by
  induction ranked generalizing context claims w with
  | nil => exact ⟨.done context, rfl, by rintro p ⟨⟩⟩
  | cons r rest ih =>
    obtain ⟨rule, signal⟩ := r
    rw [walk, World.run_bind]
    obtain ⟨hcourse, hevents, hidle⟩ := ih _ _ _
    obtain ⟨v, v', hreplay⟩ :=
      judge_replay env rule signal context claims (stopwatch.rule rule.id) w
    have htune := judge_triggers env rule signal context claims (stopwatch.rule rule.id) w
    refine ⟨.next hreplay hcourse, ?_, ?_⟩
    · show Progress.events id _ ++ _ = Verdict.announced id _ _ ++ _
      rw [← htune.events_eq id]
      exact congrArg _ hevents
    · exact List.forall_mem_cons.2 ⟨judge_idle, hidle⟩

/-! ## The enrichment -/

namespace Engine

variable (e : Engine) (context : Context) (options : PassOptions)

/-- Why the enrichment of a pass fails, if it does: the reply would take longer than the call may wait, or
what it says is a failure. -/
def injectionFailure : Option CallFailure :=
  let reply := e.capabilities.inject context e.rulebook.globalContext
  let allowance := (e.budget options).allowance e.world.now
  if reply.delay.any (allowance < ·) then some (.timeout allowance)
  else match reply.outcome with
    | .ok _ => none
    | .error err => some err

theorem enrich_failure :
    ((e.enrich (e.budget options) context).run e.world).1.2 = e.injectionFailure context options := by
  let reply := e.capabilities.inject context e.rulebook.globalContext
  have hheard : (((e.budget options).call reply).run e.world).1
      = ((e.budget options).wait e.world.now reply).1 := rfl
  rw [enrich, World.run_bind, hheard, Budget.fst_wait, injectionFailure]
  by_cases hlate : reply.delay.any ((e.budget options).allowance e.world.now < ·)
  · rw [if_pos hlate, if_pos hlate]
    rfl
  · rw [if_neg hlate, if_neg hlate]
    show _ = (match reply.outcome with
      | .ok _ => none
      | .error err => some err)
    cases reply.outcome with
    | ok enriched => rfl
    | error err => rfl

end Engine

/-! ## Queues -/

namespace Bus

/-- A queue takes events as long as it has room for them. -/
theorem foldl_enqueue_of_room {capacity : Nat} {es : List α} {q : Queue α}
    (hroom : q.events.length + es.length ≤ capacity) :
    es.foldl (fun q e => enqueue capacity e q) q = { q with events := q.events ++ es } := by
  induction es generalizing q with
  | nil => simp
  | cons e rest ih =>
    rw [List.length_cons] at hroom
    have hone : enqueue capacity e q = { q with events := q.events ++ [e] } := by
      have hfits : ¬ capacity < (q.events ++ [e]).length := by
        rw [List.length_append, List.length_singleton]
        omega
      rw [enqueue]
      exact if_neg hfits
    have hrest : (q.events ++ [e]).length + rest.length ≤ capacity := by
      rw [List.length_append, List.length_singleton]
      omega
    rw [List.foldl_cons, hone, ih hrest, List.append_assoc, List.singleton_append]

theorem emitAll_eq (b : Bus α) (es : List α) : b.emitAll es =
    { b with queues := b.queues.map fun q => es.foldl (fun q e => enqueue b.capacity e q) q } := by
  induction es generalizing b with
  | nil => simp [emitAll]
  | cons e rest ih =>
    show (b.emit e).emitAll rest = _
    rw [ih, emit, List.map_map]
    rfl

/-- **A queue that has room for all events is told of all of them, in their order.** -/
theorem getElem?_queues_emitAll {b : Bus α} {es : List α} {i : Nat} {q : Queue α}
    (hq : b.queues[i]? = some q) (hroom : q.events.length + es.length ≤ b.capacity) :
    (b.emitAll es).queues[i]? = some { q with events := q.events ++ es } := by
  rw [emitAll_eq, List.getElem?_map, hq, Option.map_some, foldl_enqueue_of_room hroom]

end Bus

/-! ## The main statement -/

/-- **What subscribers are told of a pass is its outcome.**  They are told that the enrichment failed if it
did; then, result by result and action by action, of every event that an executed action raised, under the
name of the rule and with the context the rule left; and then that the pass is over, with the results and the
context that the caller gets.  The contexts go from the one at the start to the one in the end by the executed
actions alone, which determine them.  A rule that does not match in the end, or does not score enough, has
executed no action and raised nothing.  A queue with room for all this has it behind what it had before, and
nothing else. -/
theorem events_follow_the_results (e : Engine) (context : Context) (options : PassOptions) :
    let pass := (e.evaluate context options).1
    let start := e.startOfPass context options
    ∃ contexts : List Context,
      let stream := (e.injectionFailure context options).toList.map (fun err => .error "inject" err.message)
        ++ announcements pass.evaluationId pass.results contexts
        ++ [.evaluationComplete pass.evaluationId pass.results pass.context options.stopwatch.pass]
      contexts.length = pass.results.length
      ∧ Course (e.env options) start pass.results contexts
      ∧ (∀ others, Course (e.env options) start pass.results others → others = contexts)
      ∧ pass.context = (contexts.getLast?).getD start
      ∧ (∀ r ∈ pass.results, r.matched = false ∨ ¬ r.score > firingScore →
          ∀ c, r.announced pass.evaluationId c = [])
      ∧ (e.evaluate context options).2.events = e.events.emitAll stream
      ∧ ∀ (i : Nat) q, e.events.queues[i]? = some q →
          q.events.length + stream.length ≤ e.events.capacity →
          (e.evaluate context options).2.events.queues[i]? = some { q with events := q.events ++ stream } := by
  intro pass start
  have hfailure : ((e.passRules context options).run e.world).1.1 = e.injectionFailure context options :=
    e.enrich_failure context options
  obtain ⟨hcourse, hannounced, hidle⟩ :=
    walk_announced (e.env options) options.stopwatch (e.scored start) start e.initialClaims
      ((e.enrich (e.budget options) context).run e.world).2 pass.evaluationId
  -- the entries of the rules
  let steps := ((e.passRules context options).run e.world).1.2.2
  have hresults : pass.results = steps.map (·.result) := rfl
  have hcontext : pass.context = contextAfter start steps := rfl
  refine ⟨steps.map (·.context), ?_⟩
  intro stream
  have hstream : (e.evaluate context options).2.events = e.events.emitAll stream := by
    have hraised : e.raised context options
        = (((e.passRules context options).run e.world).1.1.map fun err => .error "inject" err.message).toList
          ++ steps.flatMap (Progress.events pass.evaluationId)
          ++ [.evaluationComplete pass.evaluationId pass.results pass.context options.stopwatch.pass] := rfl
    have htriggers : steps.flatMap (Progress.events pass.evaluationId)
        = announcements pass.evaluationId pass.results (steps.map (·.context)) := hannounced
    have hinject :
        ((e.injectionFailure context options).map fun err => Event.error "inject" err.message).toList
        = (e.injectionFailure context options).toList.map fun err => .error "inject" err.message := by
      cases e.injectionFailure context options with
      | none => rfl
      | some err => rfl
    rw [e.events_evaluate, hraised, hfailure, htriggers, hinject]
  refine ⟨?length, hcourse, ?unique, ?final, ?idle, hstream, ?queues⟩
  case length => rw [hresults, List.length_map, List.length_map]
  case unique => exact fun others hother => hcourse.unique hother
  case final => rw [hcontext, contextAfter, List.getLast?_map]
  case idle =>
    intro r hr hquiet c
    rw [hresults] at hr
    obtain ⟨p, hp, rfl⟩ := List.mem_map.1 hr
    have hfires : p.result.fires = false := by
      rw [← Bool.not_eq_true, fires_eq_true_iff]
      rintro ⟨hmatched, hscore⟩
      rcases hquiet with hunmatched | hlow
      · rw [hmatched] at hunmatched
        cases hunmatched
      · exact hlow hscore
    rw [Verdict.announced, hidle p hp hfires]
    rfl
  case queues =>
    intro i q hq hroom
    rw [hstream]
    exact Bus.getElem?_queues_emitAll hq hroom

end Arbiter
