import Arbiter.Engine.Load
import Arbiter.Proofs.Alignment
import Arbiter.Proofs.ShortCircuit
import Arbiter.Proofs.Turns
/-!
# The deadline of a pass

The clock of a pass moves while it waits for replies, and at no other time.  A pass waits in four places: for
its context, for the questions of its conditions, for the texts of its actions, and when it announces rules.
There is one budget for all of them, which says how long one call may wait and when the pass has to be over.

1. **Keeping to a budget** (`Budget.Spent`) is a relation of worlds that can be put together.  A call is in it
   (`Budget.spent_called`): the clock moves on by no more than a call may wait, and not past the deadline if that
   has not passed before.
2. **A step** (`Budget.Made`) does nothing to the world, or reports a stage, or makes one call of the plugged-in
   capabilities, for all to see.  Conditions and actions are such steps whatever comes of them
   (`Fold.made_step`, `Action.made_run`), and such a step keeps to the budget (`Budget.Made.spent`).
3. **The moments of a pass** (`Engine.moments`) are all worlds that it comes through, from step to step.  They
   are written beside the pass, and `Budget.Trail` ties them to it: it leads from the world in which the pass
   has its context to the one in which it ends, and from each moment to the next it is one step.  As every call
   leaves a trace and none is taken back, no call of the pass falls between two moments.

The main statement is `passes_keep_their_deadline`.
-/

namespace Arbiter

/-! ## Keeping to a budget -/

/-- Whether an observer sees a call, and not a report. -/
def Trace.isCall : Trace → Bool
  | metric _ _ => false
  | _ => true

/-- How many calls were to be seen so far. -/
def World.calls (w : World) : Nat := w.traces.countP Trace.isCall

namespace Budget

/-- A world comes after another one within a budget.  Some calls in between may have been hidden from
observers. -/
structure Spent (b : Budget) (hidden : Nat) (w v : World) : Prop where
  /-- The clock does not go back. -/
  forward : w.now ≤ v.now
  /-- No call is forgotten. -/
  calls : w.calls ≤ v.calls
  /-- The deadline is not passed. -/
  deadline : ∀ d, b.deadline = some d → w.now ≤ d → v.now ≤ d
  /-- There is a call for all the time that was spent. -/
  spent : v.now + w.calls * b.perCall ≤ w.now + (hidden + v.calls) * b.perCall

namespace Spent

variable {b : Budget} {m n : Nat} {w u v : World}

/-- Nothing is spent where nothing happens. -/
theorem refl (n : Nat) (w : World) : b.Spent n w w :=
  ⟨le_rfl, le_rfl, fun _ _ h => h, Nat.add_le_add_left (Nat.mul_le_mul_right _ (Nat.le_add_left _ _)) _⟩

/-- What is spent adds up, and so do the hidden calls. -/
theorem trans (h : b.Spent m w u) (h' : b.Spent n u v) : b.Spent (m + n) w v where
  forward := h.forward.trans h'.forward
  calls := h.calls.trans h'.calls
  deadline := fun d hd hw => h'.deadline d hd (h.deadline d hd hw)
  spent := by
    have hfirst := h.spent
    have hsecond := h'.spent
    rw [Nat.add_mul] at hfirst hsecond ⊢
    rw [Nat.add_mul]
    omega

/-- The time that has gone by, in calls. -/
theorem now_le (h : b.Spent n w v) : v.now ≤ w.now + (n + (v.calls - w.calls)) * b.perCall := by
  obtain ⟨k, hk⟩ := Nat.exists_eq_add_of_le h.calls
  have htime := h.spent
  rw [hk, Nat.add_left_comm, Nat.add_mul] at htime
  rw [hk, Nat.add_sub_cancel_left]
  omega

end Spent

/-- No call may wait longer than a single call may. -/
theorem allowance_le_perCall (b : Budget) (now : Nat) : b.allowance now ≤ b.perCall := by
  rw [allowance]
  cases b.deadline with
  | none => exact le_rfl
  | some d => exact Nat.min_le_left _ _

/-- A call that starts before the deadline may not wait beyond it. -/
theorem add_allowance_le {b : Budget} {now d : Nat} (hdeadline : b.deadline = some d) (hnow : now ≤ d) :
    now + b.allowance now ≤ d := by
  rw [allowance, hdeadline]
  have hleft : min b.perCall (d - now) ≤ d - now := Nat.min_le_right _ _
  show now + min b.perCall (d - now) ≤ d
  omega

/-- Waiting does not turn the clock back. -/
theorem le_wait (b : Budget) (now : Nat) (r : Reply α) : now ≤ (b.wait now r).2 := by
  unfold wait
  cases r.delay with
  | none => exact le_rfl
  | some d =>
    dsimp only
    split
    · exact Nat.le_add_right _ _
    · exact Nat.le_add_right _ _

/-- What is noted costs nothing. -/
theorem spent_note (b : Budget) (t : Trace) (w : World) : b.Spent 0 w ((note t).run w).2 := by
  have hcalls : w.calls ≤ ((note t).run w).2.calls := by
    show w.traces.countP _ ≤ (t :: w.traces).countP _
    rw [List.countP_cons]
    exact Nat.le_add_right _ _
  refine ⟨le_rfl, hcalls, fun _ _ h => h, ?_⟩
  rw [Nat.zero_add]
  exact Nat.add_le_add_left (Nat.mul_le_mul_right _ hcalls) _

/-- The world after a call that an observer sees. -/
def called (b : Budget) (t : Trace) (r : Reply α) (w : World) : World where
  now := (b.wait w.now r).2
  traces := t :: w.traces

/-- **A call keeps to the budget**, if an observer sees it. -/
theorem spent_called (b : Budget) {t : Trace} (ht : t.isCall = true) (r : Reply α) (w : World) :
    b.Spent 0 w (b.called t r w) := by
  have hcalls : (b.called t r w).calls = w.calls + 1 := List.countP_cons_of_pos ht
  have hwait := b.wait_le w.now r
  refine ⟨b.le_wait w.now r, ?_, fun d hd hw => ?_, ?_⟩
  · omega
  · exact hwait.trans (add_allowance_le hd hw)
  · rw [hcalls, Nat.zero_add, Nat.add_mul, Nat.one_mul]
    have hlimit := b.allowance_le_perCall w.now
    show (b.wait w.now r).2 + _ ≤ _
    omega

/-- A call that no observer sees does so too, and has to be counted apart. -/
theorem spent_hidden (b : Budget) (r : Reply α) (w : World) :
    b.Spent 1 w { w with now := (b.wait w.now r).2 } := by
  have hwait := b.wait_le w.now r
  refine ⟨b.le_wait w.now r, le_rfl, fun d hd hw => hwait.trans (add_allowance_le hd hw), ?_⟩
  have hlimit := b.allowance_le_perCall w.now
  rw [Nat.add_mul, Nat.one_mul]
  show (b.wait w.now r).2 + w.calls * b.perCall ≤ w.now + (b.perCall + w.calls * b.perCall)
  omega

/-! ## Steps -/

/-- What one step of a pass can do to the world around it, with given capabilities plugged in. -/
inductive Made (b : Budget) (c : Capabilities) (w : World) : World → Prop where
  /-- Nothing is waited for, and nothing is to be seen. -/
  | nothing : Made b c w w
  /-- A stage is reported. -/
  | reported (stage : String) (success : Bool) : Made b c w ((note (.metric stage success)).run w).2
  /-- A question is put to the language model. -/
  | asked (prompt : String) (context : Context) :
      Made b c w (b.called (.evaluate prompt) (c.evaluate prompt context) w)
  /-- A text is asked for. -/
  | generated (prompt : String) (context : Context) :
      Made b c w (b.called (.generate prompt) (c.generate prompt context) w)
  /-- A rule is announced. -/
  | announced (rule : Rule) : Made b c w (b.called (.precompile rule.id) (c.precompile rule) w)

/-- **A step keeps to the budget.** -/
theorem Made.spent {b : Budget} {c : Capabilities} {w v : World} (h : b.Made c w v) : b.Spent 0 w v := by
  cases h with
  | nothing => exact .refl 0 w
  | reported stage success => exact b.spent_note _ w
  | asked prompt context => exact b.spent_called rfl _ w
  | generated prompt context => exact b.spent_called rfl _ w
  | announced rule => exact b.spent_called rfl _ w

/-- A call that an evaluation waits for leaves the world that `called` says. -/
theorem runIn_ask_snd (b : Budget) (t : Trace) (r : Reply α) (w : World) :
    ((b.ask t r).runIn w).2 = b.called t r w := by
  rw [Eval.runIn_ask]
  rfl

end Budget

section Steps

variable (env : Env) (context : Context) (w : World)

/-- A condition puts at most its own question. -/
theorem Condition.made_check (c : Condition) :
    env.budget.Made env.capabilities w ((c.check env context).runIn w).2 := by
  obtain ⟨-, result, hrun⟩ | ⟨prompt, -, hask⟩ := c.check_or_ask env context
  · rw [hrun]
    exact .nothing
  · rw [hask, Budget.runIn_ask_snd]
    exact .asked prompt context

/-- A condition is a step, whether it can be decided or not. -/
theorem Fold.made_step (f : Fold) (c : Condition) :
    env.budget.Made env.capabilities w ((f.step env context c).runIn w).2 := by
  have hcheck := c.made_check env context w
  rw [step]
  split
  · exact .nothing
  · rw [Eval.runIn_tryCatch, Eval.runIn_bind]
    generalize (c.check env context).runIn w = outcome at hcheck ⊢
    obtain ⟨r, v⟩ := outcome
    cases r with
    | ok holds => exact hcheck
    | error e =>
      dsimp only
      split
      · exact hcheck
      · exact hcheck

/-- An action is a step, whether it fails or not. -/
theorem Action.made_run (a : Action) :
    env.budget.Made env.capabilities w ((a.run env context).runIn w).2 := by
  cases a with
  | set target v => exact .nothing
  | append target v => exact .nothing
  | trigger function target => exact .nothing
  | llmGenerate target prompt =>
    have hask : env.budget.Made env.capabilities w
        ((env.budget.ask (.generate prompt) (env.capabilities.generate prompt context)).runIn w).2 := by
      rw [Budget.runIn_ask_snd]
      exact .generated prompt context
    rw [run, Eval.runIn_bind]
    generalize (env.budget.ask _ _).runIn w = outcome at hask ⊢
    obtain ⟨r, v⟩ := outcome
    cases r with
    | ok text => exact hask
    | error e => exact hask
  | transform target function v =>
    rw [run, Eval.runIn_bind, Eval.runIn_mk_pure]
    cases env.handlers.transform function with
    | error e => exact .nothing
    | ok handler =>
      dsimp only
      rw [Eval.runIn_bind, Eval.runIn_mk_pure]
      cases handler (Context.read? context target) v context with
      | error e => exact .nothing
      | ok replacement =>
        cases replacement with
        | none => exact .nothing
        | some v => exact .nothing

end Steps

/-! ## Trails -/

/-- From one world to another by way of some, by one step from each to the next. -/
inductive Budget.Trail (b : Budget) (c : Capabilities) : World → List World → World → Prop where
  /-- Nothing happens. -/
  | stay (w : World) : Trail b c w [] w
  /-- One more step is made. -/
  | step {w u v : World} {ws : List World} (h : b.Made c w u) (rest : Trail b c u ws v) : Trail b c w (u :: ws) v

namespace Budget.Trail

variable {b : Budget} {c : Capabilities} {w u v : World} {ws ws' : List World}

/-- A trail goes on where another one ends. -/
theorem append (h : b.Trail c w ws u) (h' : b.Trail c u ws' v) : b.Trail c w (ws ++ ws') v := by
  induction h with
  | stay w => exact h'
  | step hstep _ ih => exact .step hstep (ih h')

/-- A trail ends where it says. -/
theorem getLast?_eq (h : b.Trail c w ws v) : (w :: ws).getLast? = some v := by
  induction h with
  | stay w => rfl
  | step _ _ ih => rw [List.getLast?_cons_cons, ih]

/-- What is on a trail is within the budget as seen from all that is before it. -/
theorem pairwise (h : b.Trail c w ws v) : (w :: ws).Pairwise (b.Spent 0) := by
  induction h with
  | stay w => exact List.pairwise_singleton _ w
  | @step w u v ws hstep _ ih =>
    refine List.pairwise_cons.2 ⟨fun x hx => ?_, ih⟩
    rcases List.mem_cons.1 hx with rfl | hx
    · exact hstep.spent
    · exact hstep.spent.trans (List.rel_of_pairwise_cons ih hx)

end Budget.Trail

/-! ## The moments of a pass -/

/-- The worlds after each condition of a row, as far as they are reached. -/
def Fold.moments (env : Env) (context : Context) : List Condition → Fold → World → List World
  | [], _, _ => []
  | c :: rest, f, w =>
    match (f.step env context c).runIn w with
    | (.ok f', w') => w' :: moments env context rest f' w'
    | (.error _, w') => [w']

/-- The worlds after each action that is carried out or fails. -/
def actionMoments (env : Env) (ruleId : String) : List Action → Progress → World → List World
  | [], _, _ => []
  | a :: rest, p, w =>
    if p.isSuppressed ruleId a then actionMoments env ruleId rest (p.suppress a) w
    else match (a.run env p.context).runIn w with
      | (.ok (effect, c), w') => w' :: actionMoments env ruleId rest (p.execute ruleId a effect c) w'
      | (.error (.notImplemented m), w') =>
        w' :: actionMoments env ruleId rest (p.record (.notImplemented m)) w'
      | (.error _, w') => [w']

/-- The worlds that the judgement of a rule comes through. -/
def Rule.moments (env : Env) (rule : Rule) (signal : Signal) (context : Context) (claims : Option Claims)
    (w : World) : List World :=
  let r := rule.conditionOutcome env context w
  let start := Progress.start rule signal context claims r.1
  Fold.moments env context rule.conditions {} w
    ++ if start.result.fires then actionMoments env rule.id rule.actions start r.2 else []

/-- The worlds that a walk comes through: those of its rules, and the report of each. -/
def walkMoments (env : Env) (stopwatch : Stopwatch) :
    List (Rule × Signal) → Context → Option Claims → World → List World
  | [], _, _, _ => []
  | (rule, signal) :: rest, context, claims, w =>
    let p := ((judge env rule signal context claims (stopwatch.rule rule.id)).run w).1
    let w' := worldAfterTurn env stopwatch rule signal context claims w
    rule.moments env signal context claims w ++ w' :: walkMoments env stopwatch rest p.context p.claims w'

namespace Engine

/-- The worlds after each rule that is announced. -/
def announceMoments (e : Engine) (budget : Budget) : List Prediction → World → List World
  | [], _ => []
  | p :: rest, w =>
    match e.rulebook.find? p.ruleId with
    | some rule =>
      let noted := ((Budget.note (.precompile rule.id)).run w).2
      let w' := ((budget.call (e.capabilities.precompile rule)).run noted).2
      w' :: announceMoments e budget rest w'
    | none => announceMoments e budget rest w

/-- The worlds that the end of a pass comes through: the one in which it is reported, and those of its
announcements. -/
def closeMoments (e : Engine) (budget : Budget) (results : List Verdict) (predictions : List Prediction)
    (w : World) : List World :=
  let reported := ((Budget.note (.metric stageOfPass !(results.any (·.hasFailed)))).run w).2
  reported :: e.announceMoments budget predictions reported

/-- The worlds that a pass comes through: the one it begins in, the one in which it has its context, those of
its walk, and those of its end. -/
def moments (e : Engine) (context : Context) (options : PassOptions) : List World :=
  let budget := e.budget options
  let ((start, failure), w) := (e.enrich budget context).run e.world
  let (steps, v) := (walk (e.env options) options.stopwatch (e.scored start) start e.initialClaims).run w
  let results := steps.map (·.result)
  let after := e.recorded options failure start steps
  e.world :: w :: (walkMoments (e.env options) options.stopwatch (e.scored start) start e.initialClaims w
    ++ after.closeMoments budget results (after.predictions (contextAfter start steps) results) v)

end Engine

/-! ## The moments keep to the budget -/

section Trails

variable (env : Env) (context : Context) (w : World)

/-- The conditions of a rule lead from each of their moments to the next. -/
theorem Fold.trail_moments (conditions : List Condition) (f : Fold) :
    env.budget.Trail env.capabilities w (moments env context conditions f w)
      ((conditions.foldlM (step env context) f).runIn w).2 := by
  induction conditions generalizing f w with
  | nil => exact .stay w
  | cons c rest ih =>
    have hstep := f.made_step env context w c
    rw [moments, List.foldlM_cons, Eval.runIn_bind]
    generalize (f.step env context c).runIn w = outcome at hstep ⊢
    obtain ⟨r, v⟩ := outcome
    cases r with
    | ok f' => exact .step hstep (ih v f')
    | error e => exact .step hstep (.stay v)

/-- So do its actions. -/
theorem trail_actionMoments (rule : Rule) (before : Context) (actions : List Action) (p : Progress) :
    env.budget.Trail env.capabilities w (actionMoments env rule.id actions p w)
      ((runActions env rule before actions p).run w).2 := by
  induction actions generalizing p w with
  | nil => exact .stay w
  | cons a rest ih =>
    rw [actionMoments]
    by_cases hsuppressed : p.isSuppressed rule.id a = true
    · rw [runActions, if_pos hsuppressed, if_pos hsuppressed]
      exact ih w _
    · have hstep := a.made_run env p.context w
      rw [runActions_cons (by simpa using hsuppressed), if_neg hsuppressed]
      generalize (a.run env p.context).runIn w = outcome at hstep ⊢
      obtain ⟨r, v⟩ := outcome
      cases r with
      | ok answer => exact .step hstep (ih v _)
      | error e =>
        -- all failures but one end the rule
        cases e with
        | notImplemented m => exact .step hstep (ih v _)
        | _ => exact .step hstep (.stay v)

/-- And so does the judgement as a whole, with the actions only if the rule fires. -/
theorem Rule.trail_moments (rule : Rule) (signal : Signal) (claims : Option Claims) (elapsed : Nat) :
    env.budget.Trail env.capabilities w (rule.moments env signal context claims w)
      ((judge env rule signal context claims elapsed).run w).2 := by
  have hconditions := Fold.trail_moments env context w rule.conditions {}
  rw [judge_run, moments]
  refine hconditions.append ?_
  dsimp only
  split
  · exact trail_actionMoments env _ rule context rule.actions _
  · exact .stay _

/-- A walk leads from each of its moments to the next, by way of its rules. -/
theorem trail_walkMoments (stopwatch : Stopwatch) (ranked : List (Rule × Signal)) (claims : Option Claims) :
    env.budget.Trail env.capabilities w (walkMoments env stopwatch ranked context claims w)
      ((walk env stopwatch ranked context claims).run w).2 := by
  induction ranked generalizing context claims w with
  | nil => exact .stay w
  | cons x rest ih =>
    obtain ⟨rule, signal⟩ := x
    have hrule := rule.trail_moments env context w signal claims (stopwatch.rule rule.id)
    rw [walkMoments, walk, World.run_bind]
    exact hrule.append (.step (.reported _ _) (ih _ _ _))

end Trails

namespace Engine

variable (e : Engine) (context : Context) (options : PassOptions)

/-- The announcements lead from each of their moments to the next; a rule that is no longer there is none. -/
theorem trail_announceMoments (budget : Budget) (predictions : List Prediction) (w : World) :
    budget.Trail e.capabilities w (e.announceMoments budget predictions w) ((e.announce budget predictions).run w).2 := by
  induction predictions generalizing w with
  | nil => exact .stay w
  | cons p rest ih =>
    rw [announceMoments, announce]
    cases e.rulebook.find? p.ruleId with
    | none => exact ih w
    | some rule =>
      exact .step (.announced rule) (ih _)

/-- The end of a pass leads from the report of the pass to its last announcement. -/
theorem trail_closeMoments (budget : Budget) (results : List Verdict) (predictions : List Prediction)
    (w : World) : budget.Trail e.capabilities w (e.closeMoments budget results predictions w)
      ((e.close budget results predictions).run w).2 :=
  .step (.reported _ _) (e.trail_announceMoments budget predictions _)

/-- Where the clock stands when a pass has its context: the reply was waited for, and nothing was to be
seen. -/
theorem enrich_world (budget : Budget) (w : World) : ((e.enrich budget context).run w).2
    = { w with now := (budget.wait w.now (e.capabilities.inject context e.rulebook.globalContext)).2 } := by
  rw [enrich, World.run_bind]
  cases ((budget.call (e.capabilities.inject context e.rulebook.globalContext)).run w).1 with
  | ok enriched => rfl
  | error err => rfl

/-- **The moments of a pass lead from where it has its context to where it ends**, by one step from each to the
next. -/
theorem exists_trail_moments : ∃ ws,
    e.moments context options = e.world :: ((e.enrich (e.budget options) context).run e.world).2 :: ws
    ∧ (e.budget options).Trail e.capabilities ((e.enrich (e.budget options) context).run e.world).2 ws
      (e.evaluate context options).2.world := by
  have hbudget : (e.env options).budget = e.budget options := rfl
  rw [moments, evaluate_eq, passRules, World.run_bind, hbudget]
  generalize (e.enrich (e.budget options) context).run e.world = enriched
  obtain ⟨⟨start, failure⟩, w⟩ := enriched
  dsimp only
  rw [World.run_bind]
  have hwalk := trail_walkMoments (e.env options) start w options.stopwatch (e.scored start) e.initialClaims
  generalize (walk (e.env options) options.stopwatch (e.scored start) start e.initialClaims).run w = walked
    at hwalk ⊢
  exact ⟨_, rfl, hwalk.append ((e.recorded options failure start walked.1).trail_closeMoments _ _ _ _)⟩

end Engine

/-! ## The main statement -/

/-- **A pass keeps its deadline.**  Its clock starts where that of the engine stands, never goes back, and ends
where that of the engine stands afterwards.  If the pass has a limit, no moment of it is later than the limit
after the start: not in the rules, not after failures, and not when rules are announced.  And with or without a
limit, at no moment has more time gone by than the calls made so far may wait, the one for the context and
those that an observer sees.

The moments are those of the pass.  The first two are the one in which it begins and the one in which it has
its context, and from there each is one step from the one before it: nothing happens, or a stage is reported,
or one call of the plugged-in capabilities is made and waited for. -/
theorem passes_keep_their_deadline (e : Engine) (context : Context) (options : PassOptions) :
    let moments := e.moments context options
    moments.head? = some e.world
    ∧ moments.getLast? = some (e.evaluate context options).2.world
    ∧ moments.Pairwise (fun w v => w.now ≤ v.now ∧ w.calls ≤ v.calls)
    ∧ (∀ limit, (options.timeout <|> e.settings.passLimit) = some limit →
      ∀ w ∈ moments, w.now ≤ e.world.now + limit)
    ∧ (∀ w ∈ moments, w.now ≤ e.world.now + (1 + (w.calls - e.world.calls)) * e.settings.callLimit)
    ∧ ∃ enriched later, moments = e.world :: enriched :: later
      ∧ enriched = { e.world with
          now := ((e.budget options).wait e.world.now
            (e.capabilities.inject context e.rulebook.globalContext)).2 }
      ∧ (e.budget options).Trail e.capabilities enriched later (e.evaluate context options).2.world := by
  obtain ⟨ws, hmoments, htrail⟩ := e.exists_trail_moments context options
  have henriched := e.enrich_world context (e.budget options) e.world
  rw [hmoments]
  generalize ((e.enrich (e.budget options) context).run e.world).2 = v at htrail henriched ⊢
  have hcontext : (e.budget options).Spent 1 e.world v := by
    rw [henriched]
    exact (e.budget options).spent_hidden _ e.world
  have hspent : ∀ w ∈ v :: ws, (e.budget options).Spent 1 e.world w := by
    rintro w (_ | ⟨_, hw⟩)
    · exact hcontext
    · exact hcontext.trans (List.rel_of_pairwise_cons htrail.pairwise hw)
  have hmoment : ∀ w ∈ e.world :: v :: ws, (e.budget options).Spent 1 e.world w :=
    List.forall_mem_cons.2 ⟨.refl 1 e.world, hspent⟩
  refine ⟨rfl, ?last, ?forward, fun limit hlimit w hw => ?deadline, fun w hw => (hmoment w hw).now_le,
    v, ws, rfl, henriched, htrail⟩
  case last => rw [List.getLast?_cons_cons, htrail.getLast?_eq]
  case forward =>
    refine List.pairwise_cons.2 ⟨fun w hw => ?_, htrail.pairwise.imp fun h => ⟨h.forward, h.calls⟩⟩
    exact ⟨(hspent w hw).forward, (hspent w hw).calls⟩
  case deadline =>
    have hdeadline : (e.budget options).deadline = some (e.world.now + limit) := by
      rw [Engine.budget, hlimit]
      rfl
    exact (hmoment w hw).deadline _ hdeadline (Nat.le_add_right _ _)

-- the context takes four, the question three, and the text would take nine
example :
    let slow : Capabilities :=
      { inject := fun context _ => ⟨some 4, .ok context⟩
        evaluate := fun _ _ => ⟨some 3, .ok true⟩
        generate := fun _ _ => ⟨some 9, .ok "hello"⟩
        precompile := fun _ => ⟨some 5, .ok ()⟩ }
    let greet : Rule :=
      { id := "greet"
        conditions := [{ field := "user", test := .llmEvaluate "new?" }]
        actions := [.llmGenerate "greeting" "greet"] }
    let e := (Engine.ofSettings {} slow).activate ⟨{ rules := [greet] }⟩
    (e.moments [] { timeout := some 10 }).map (·.now) = [0, 4, 7, 10, 10, 10] := by
  decide +kernel

end Arbiter
