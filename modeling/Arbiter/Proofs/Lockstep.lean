import Arbiter.Engine.Pass
import Arbiter.Proofs.Running
import Arbiter.Verdict.Judge
/-!
# Steps in lockstep

A rule is judged in two worlds, and the question is when it comes to the same.  What the worlds have to do
with each other is left open here: `Lockstep` takes any relation of clocks.  From clocks so related, two
steps give the same answer, and leave clocks so related.

1. **Ways to put steps together** keep the lockstep (`Lockstep.bind`, `Eval.lockstep_bind`,
   `Eval.lockstep_tryCatch`).  What is noted for an observer does not matter to it.
2. **Calls** are where clocks come in.  Two outsides are `Env.Parallel` if the calls that rules make are in
   lockstep; a rule, and a whole walk, then are too (`lockstep_judge`, `lockstep_walk`).
3. **A shifted clock** (`Elapsed`): if as much time has passed in both worlds, a call finds the same
   allowance, whatever the limits, so it is answered or given up alike (`Elapsed.lockstep_call`).
-/

namespace Arbiter

/-- From clocks in a relation, two steps give the same answer, and leave clocks in that relation. -/
def Lockstep (R : Nat → Nat → Prop) (x y : StateM World α) : Prop :=
  ∀ w v, R w.now v.now → (y.run v).1 = (x.run w).1 ∧ R (x.run w).2.now (y.run v).2.now

variable {R : Nat → Nat → Prop}

/-- A step that only answers leaves both clocks where they were. -/
theorem lockstep_pure (a : α) : Lockstep R (pure a) (pure a) := fun _ _ h => ⟨rfl, h⟩

/-- Whatever is noted in either world, the answer and the clocks do not depend on it. -/
theorem lockstep_note (t t' : Trace) : Lockstep R (Budget.note t) (Budget.note t') :=
  fun _ _ h => ⟨rfl, h⟩

/-- One step after another: the second starts from the same answer and from related clocks. -/
theorem Lockstep.bind {x y : StateM World α} {f g : α → StateM World β} (hx : Lockstep R x y)
    (hf : ∀ a, Lockstep R (f a) (g a)) : Lockstep R (x >>= f) (y >>= g) := by
  intro w v h
  obtain ⟨hanswer, hclock⟩ := hx w v h
  rw [World.run_bind, World.run_bind, hanswer]
  exact hf _ _ _ hclock

namespace Eval

theorem lockstep_liftM {x y : StateM World α} (h : Lockstep R x y) :
    Lockstep R (liftM x : Eval α).run (liftM y : Eval α).run :=
  Lockstep.bind h fun a => lockstep_pure (Except.ok a)

/-- One step after another that is only taken if the first has not failed. -/
theorem lockstep_bind {x y : Eval α} {f g : α → Eval β} (hx : Lockstep R x.run y.run)
    (hf : ∀ a, Lockstep R (f a).run (g a).run) : Lockstep R (x >>= f : Eval β).run (y >>= g : Eval β).run := by
  show Lockstep R (x.run >>= ExceptT.bindCont f) (y.run >>= ExceptT.bindCont g)
  refine hx.bind fun outcome => ?_
  cases outcome with
  | ok a => exact hf a
  | error e => exact lockstep_pure _

/-- A step and what is done about its failure: in both worlds it fails alike or not at all. -/
theorem lockstep_tryCatch {x y : Eval α} {handle handle' : Fault → Eval α} (hx : Lockstep R x.run y.run)
    (hhandle : ∀ e, Lockstep R (handle e).run (handle' e).run) :
    Lockstep R (tryCatch x handle : Eval α).run (tryCatch y handle' : Eval α).run := by
  intro w v h
  show ((tryCatch y handle').runIn v).1 = ((tryCatch x handle).runIn w).1
    ∧ R ((tryCatch x handle).runIn w).2.now ((tryCatch y handle').runIn v).2.now
  obtain ⟨hanswer, hclock⟩ : (y.runIn v).1 = (x.runIn w).1 ∧ R (x.runIn w).2.now (y.runIn v).2.now :=
    hx w v h
  rw [runIn_tryCatch, runIn_tryCatch]
  generalize x.runIn w = here at hanswer hclock ⊢
  generalize y.runIn v = there at hanswer hclock ⊢
  obtain ⟨r, w'⟩ := here
  obtain ⟨r', v'⟩ := there
  obtain rfl : r' = r := hanswer
  cases r' with
  | ok a => exact ⟨rfl, hclock⟩
  | error e => exact hhandle e w' v' hclock

/-- A question is in lockstep if the call behind it is, also if it is noted differently. -/
theorem lockstep_ask {b b' : Budget} {r r' : Reply α} (h : Lockstep R (b.call r) (b'.call r'))
    (t : Trace) : Lockstep R (b.ask t r).run (b'.ask t r').run := by
  refine lockstep_bind (lockstep_liftM (lockstep_note t t)) fun _ => ?_
  refine lockstep_bind (lockstep_liftM h) fun outcome => ?_
  cases outcome with
  | ok a => exact lockstep_pure _
  | error e => exact lockstep_pure _

end Eval

/-! ## Rules -/

/-- The calls that rules make are in lockstep, and the handlers are the same. -/
structure Env.Parallel (R : Nat → Nat → Prop) (env env' : Env) : Prop where
  /-- The handlers. -/
  handlers : env'.handlers = env.handlers
  /-- Questions. -/
  evaluate : ∀ prompt context, Lockstep R
    (env.budget.call (env.capabilities.evaluate prompt context))
    (env'.budget.call (env'.capabilities.evaluate prompt context))
  /-- Texts. -/
  generate : ∀ prompt context, Lockstep R
    (env.budget.call (env.capabilities.generate prompt context))
    (env'.budget.call (env'.capabilities.generate prompt context))

section Parallel

variable {env env' : Env} (h : env.Parallel R env')
include h

/-- The check of a condition calls at most once, and is pure otherwise. -/
theorem Condition.lockstep_check (c : Condition) (context : Context) :
    Lockstep R (c.check env context).run (c.check env' context).run := by
  rw [check, check]
  cases c.test with
  | equals v => exact lockstep_pure _
  | contains v => exact lockstep_pure _
  | regex pattern =>
    dsimp only
    cases Pattern.compile pattern with
    | ok machine => exact lockstep_pure _
    | error problem => exact lockstep_pure _
  | llmEvaluate prompt => exact Eval.lockstep_ask (h.evaluate prompt context) _
  | custom handler v =>
    dsimp only
    rw [h.handlers]
    exact Eval.lockstep_bind (lockstep_pure _) fun _ => lockstep_pure _

/-- One more condition of a rule: skipped in both worlds, or checked in both. -/
theorem Fold.lockstep_step (context : Context) (f : Fold) (c : Condition) :
    Lockstep R (f.step env context c).run (f.step env' context c).run := by
  rw [step, step]
  split
  · exact lockstep_pure _
  · refine Eval.lockstep_tryCatch ?_ fun e => ?_
    · exact Eval.lockstep_bind (c.lockstep_check h context) fun _ => lockstep_pure _
    · split
      · exact lockstep_pure _
      · exact lockstep_pure _

/-- All conditions of a rule, by induction on the list from any fold. -/
theorem Fold.lockstep_foldlM (context : Context) (conditions : List Condition) (f : Fold) :
    Lockstep R (conditions.foldlM (step env context) f).run
      (conditions.foldlM (step env' context) f).run := by
  induction conditions generalizing f with
  | nil => exact lockstep_pure _
  | cons c rest ih => exact Eval.lockstep_bind (lockstep_step h context f c) ih

/-- An action calls at most once, to have a text written. -/
theorem Action.lockstep_run (a : Action) (context : Context) :
    Lockstep R (a.run env context).run (a.run env' context).run := by
  cases a with
  | set target v => exact lockstep_pure _
  | append target v => exact lockstep_pure _
  | trigger function target => exact lockstep_pure _
  | llmGenerate target prompt =>
    exact Eval.lockstep_bind (Eval.lockstep_ask (h.generate prompt context) _) fun _ => lockstep_pure _
  | transform target function v =>
    rw [run, run, h.handlers]
    refine Eval.lockstep_bind (lockstep_pure _) fun handler => ?_
    refine Eval.lockstep_bind (lockstep_pure _) fun replacement => ?_
    cases replacement with
    | some v => exact lockstep_pure _
    | none => exact lockstep_pure _

/-- The actions of a rule, by induction on the list from any progress. -/
theorem lockstep_runActions (rule : Rule) (before : Context) (actions : List Action) (p : Progress) :
    Lockstep R (runActions env rule before actions p) (runActions env' rule before actions p) := by
  induction actions generalizing p with
  | nil => exact lockstep_pure _
  | cons a rest ih =>
    rw [runActions, runActions]
    split
    · exact ih _
    · refine (a.lockstep_run h p.context).bind fun outcome => ?_
      cases outcome with
      | ok answer => exact ih _
      | error e =>
        -- all failures but one end the rule
        cases e with
        | notImplemented m => exact ih _
        | _ => exact lockstep_pure _

/-- **What becomes of a rule is the same** in two worlds whose calls are in lockstep. -/
theorem lockstep_judge (rule : Rule) (signal : Signal) (context : Context) (claims : Option Claims)
    (elapsed : Nat) : Lockstep R (judge env rule signal context claims elapsed)
      (judge env' rule signal context claims elapsed) := by
  rw [judge, judge]
  refine (Fold.lockstep_foldlM h context rule.conditions {}).bind fun outcome => ?_
  dsimp only
  split
  · exact (lockstep_runActions h rule context rule.actions _).bind fun p => lockstep_pure _
  · exact (lockstep_pure _).bind fun p => lockstep_pure _

/-- A walk over ranked rules.  The stopwatch is the same in both, as only clocks may differ. -/
theorem lockstep_walk (stopwatch : Stopwatch) (ranked : List (Rule × Signal)) (context : Context)
    (claims : Option Claims) :
    Lockstep R (walk env stopwatch ranked context claims) (walk env' stopwatch ranked context claims) := by
  induction ranked generalizing context claims with
  | nil => exact lockstep_pure _
  | cons x rest ih =>
    obtain ⟨rule, signal⟩ := x
    rw [walk, walk]
    refine (lockstep_judge h rule signal context claims _).bind fun p => ?_
    exact (lockstep_note _ _).bind fun _ => (ih p.context p.claims).bind fun _ => lockstep_pure _

end Parallel

/-! ## A shifted clock -/

/-- As much time has passed from one moment to another as from a third to a fourth. -/
def Elapsed (start start' now now' : Nat) : Prop := now + start' = now' + start

namespace Elapsed

variable {start start' now now' : Nat}

theorem refl (start start' : Nat) : Elapsed start start' start start' := Nat.add_comm start start'

/-- Limits that count from the start leave the same allowance. -/
theorem allowance_eq (h : Elapsed start start' now now') (limit : Nat) (timeout : Option Nat) :
    Budget.allowance ⟨limit, timeout.map (start' + ·)⟩ now'
      = Budget.allowance ⟨limit, timeout.map (start + ·)⟩ now := by
  unfold Elapsed at h
  cases timeout with
  | none => rfl
  | some t =>
    show min limit (start' + t - now') = min limit (start + t - now)
    congr 1
    omega

/-- **A call is answered or given up alike** when as much time has passed. -/
theorem lockstep_call (start start' limit : Nat) (timeout : Option Nat) (r : Reply α) :
    Lockstep (Elapsed start start') (Budget.call ⟨limit, timeout.map (start + ·)⟩ r)
      (Budget.call ⟨limit, timeout.map (start' + ·)⟩ r) := by
  intro w v h
  show (Budget.wait _ v.now r).1 = (Budget.wait _ w.now r).1
    ∧ Elapsed start start' (Budget.wait _ w.now r).2 (Budget.wait _ v.now r).2
  unfold Budget.wait
  rw [h.allowance_eq limit timeout]
  unfold Elapsed at h ⊢
  cases r.delay with
  | none => exact ⟨rfl, h⟩
  | some d =>
    dsimp only
    split
    · exact ⟨rfl, by omega⟩
    · exact ⟨rfl, by omega⟩

end Elapsed

end Arbiter
