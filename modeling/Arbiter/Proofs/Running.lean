import Arbiter.Verdict.Actions
/-!
# Running a step in a world

A step of an evaluation (`Eval`) is a function of the world it starts in.  `Eval.runIn` applies it, and
the laws here say what that gives for each way in which steps are put together, so that proofs about
rules need not look into the monads.  The second half is the inversion law for a single action: all that
carrying it out can come to is listed in `Action.Outcome`.
-/

namespace Arbiter

/-- What a step comes to when it starts in a given world, and the world after it. -/
def Eval.runIn (x : Eval α) (w : World) : Except Fault α × World := x.run.run w

/-- A step that cannot fail hands its answer and its world to the next one. -/
theorem World.run_bind (x : StateM World α) (f : α → StateM World β) (w : World) :
    (x >>= f).run w = (f (x.run w).1).run (x.run w).2 := rfl

namespace Eval

@[simp] theorem runIn_pure (a : α) (w : World) : runIn (pure a) w = (.ok a, w) := rfl

@[simp] theorem runIn_throw (e : Fault) (w : World) : runIn (throw e : Eval α) w = (.error e, w) := rfl

/-- An answer that is known beforehand leaves the world alone. -/
@[simp] theorem runIn_mk_pure (r : Except Fault α) (w : World) :
    runIn (ExceptT.mk (pure r) : Eval α) w = (r, w) := rfl

/-- The second step runs where the first one ended, unless that one failed. -/
theorem runIn_bind (x : Eval α) (f : α → Eval β) (w : World) :
    runIn (x >>= f) w = match runIn x w with
      | (.ok a, v) => runIn (f a) v
      | (.error e, v) => (.error e, v) := by
  show (ExceptT.run x >>= ExceptT.bindCont f) w = _
  show (let (r, v) := runIn x w; ExceptT.bindCont f r v) = _
  rcases runIn x w with ⟨r, v⟩
  cases r <;> rfl

/-- Behind a step that succeeded the next one runs. -/
theorem runIn_bind_ok {x : Eval α} {f : α → Eval β} {w v : World} {a : α}
    (h : runIn x w = (.ok a, v)) : runIn (x >>= f) w = runIn (f a) v := by
  rw [runIn_bind, h]

/-- Behind a step that failed nothing runs. -/
theorem runIn_bind_error {x : Eval α} {f : α → Eval β} {w v : World} {e : Fault}
    (h : runIn x w = (.error e, v)) : runIn (x >>= f) w = (.error e, v) := by
  rw [runIn_bind, h]

/-- A failure is handled where the step ended; what the step did in the world is not taken back. -/
theorem runIn_tryCatch (x : Eval α) (handle : Fault → Eval α) (w : World) :
    runIn (tryCatch x handle) w = match runIn x w with
      | (.ok a, v) => (.ok a, v)
      | (.error e, v) => runIn (handle e) v := by
  unfold runIn ExceptT.run StateT.run
  simp only [tryCatch, tryCatchThe, MonadExceptOf.tryCatch, ExceptT.tryCatch, ExceptT.mk, bind,
    StateT.bind]
  rcases x w with ⟨r, v⟩
  cases r <;> rfl

/-- A step that cannot fail is always followed by the next one. -/
theorem runIn_liftM_bind (x : StateM World α) (f : α → Eval β) (w : World) :
    runIn (liftM x >>= f) w = runIn (f (x.run w).1) (x.run w).2 := rfl

/-- A call that an observer gets to see: it is noted first, and then the clock moves on by the wait. -/
theorem runIn_ask (b : Budget) (t : Trace) (r : Reply α) (w : World) :
    runIn (b.ask t r) w
      = ((b.wait w.now r).1.mapError Fault.externalCapability,
        { now := (b.wait w.now r).2, traces := t :: w.traces }) := by
  have hnote : (Budget.note t).run w = ((), { w with traces := t :: w.traces }) := rfl
  have hcall : (b.call r).run { w with traces := t :: w.traces }
      = ((b.wait w.now r).1, { now := (b.wait w.now r).2, traces := t :: w.traces }) := rfl
  rw [Budget.ask, runIn_liftM_bind, hnote, runIn_liftM_bind, hcall]
  cases (b.wait w.now r).1 with
  | ok a => rfl
  | error e => rfl

end Eval

/-! ## What an action can come to -/

/-- All that carrying out an action in a context and a world can come to. -/
inductive Action.Outcome (a : Action) (c : Context) (w : World) :
    Except Fault (Effect × Context) × World → Prop where
  /-- It wrote at its target, and nowhere else. -/
  | wrote (target : String) (v : Value) (w' : World) (htarget : a.target? = some target) :
      Outcome a c w (.ok (.wrote target, Context.write c target v), w')
  /-- It raised its event. -/
  | raised (function : String) (target : Option String) (htrigger : a = .trigger function target) :
      Outcome a c w (.ok (.triggered function, c), w)
  /-- It was content with what it found. -/
  | content : Outcome a c w (.ok (.unchanged, c), w)
  /-- What it asks for is not there. -/
  | missing (m : String) : Outcome a c w (.error (.notImplemented m), w)
  /-- It failed for good. -/
  | failed (e : Fault) (w' : World) (hfatal : ∀ m, e ≠ .notImplemented m) :
      Outcome a c w (.error e, w')

/-- An action either writes at its target, or leaves the context alone; and if it is not implemented, it
leaves the world alone too. -/
theorem Action.run_outcome (env : Env) (a : Action) (c : Context) (w : World) :
    a.Outcome c w ((a.run env c).runIn w) := by
  -- a handler's own refusal may be of either kind
  have refused : ∀ e : Fault, a.Outcome c w (.error e, w) := by
    intro e
    cases e with
    | notImplemented m => exact .missing m
    | _ => exact .failed _ w (by intro m h; cases h)
  cases a with
  | set target v => exact .wrote target v w rfl
  | append target v => exact .wrote target _ w rfl
  | trigger function target => exact .raised function target rfl
  | llmGenerate target prompt =>
    simp only [Action.run, Eval.runIn_bind, Eval.runIn_ask]
    rcases env.budget.wait w.now (env.capabilities.generate prompt c) with ⟨r, now⟩
    cases r with
    | ok text => exact .wrote target _ _ rfl
    | error e => exact .failed _ _ (by intro m h; cases h)
  | transform target function v =>
    simp only [Action.run, Eval.runIn_bind, Eval.runIn_mk_pure]
    cases env.handlers.transform function with
    | error e => exact refused e
    | ok handler =>
      dsimp only
      cases handler (Context.read? c target) v c with
      | error e => exact refused e
      | ok r =>
        cases r with
        | none => exact .content
        | some replacement => exact .wrote target replacement w rfl

end Arbiter
