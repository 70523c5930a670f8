import Arbiter.Proofs.Running
import Arbiter.Verdict.Conditions
/-!
# Conditions that are not looked at do not matter

A row of conditions is joined from left to right, and a condition is passed over when the operator before
it already decides (`Fold.run`).  The plain meaning of a row knows nothing of that: it joins what every
condition comes to (`plain`).  Here the two are compared, under the one assumption that makes them
comparable: what a condition comes to does not depend on when it is looked at.

1. **Readings.**  A `Reading` puts beside a condition what it comes to whenever it is looked at, and how
   the plain meaning reads it.  A condition that cannot be decided is read as not met; one that fails for
   good may be read either way.
2. **The conditions that matter** (`undecided`) are given by the plain meaning alone: those before which
   it is not settled.
3. **One step, then a whole row.**  `runIn_step` lists what taking one condition comes to; two inductions
   over the row follow, one for rows in which no condition that matters fails for good, one for the rest.

The main statement is `run_refines_plain`.
-/

namespace Arbiter

/-- A condition, what it comes to, and whether it is read as met. -/
structure Reading where
  /-- The condition. -/
  condition : Condition
  /-- What it comes to, whenever it is looked at. -/
  outcome : Except Fault Bool
  /-- Whether it is read as met. -/
  holds : Bool

/-- The calls that looking at a condition issues. -/
def Condition.calls (c : Condition) : List Trace :=
  match c.test with
  | .llmEvaluate prompt => [.evaluate prompt]
  | _ => []

/-- The operator by which a condition joins the next one. -/
def Condition.joiner (c : Condition) : Operator := c.operator.getD .and

namespace Reading

/-- The failure that ends the evaluation if the condition is looked at. -/
def breaks? (r : Reading) : Option Fault :=
  match r.outcome with
  | .ok _ => none
  | .error e => if e.isLocal then none else some e

/-- The failure that is recorded if the condition is looked at. -/
def failure? (r : Reading) : Option Failure :=
  match r.outcome with
  | .ok _ => none
  | .error e => if e.isLocal then some e.failure else none

/-- Whether the condition comes to its outcome at all times. -/
def Stable (env : Env) (context : Context) (r : Reading) : Prop :=
  ∀ w, ((r.condition.check env context).runIn w).1 = r.outcome

/-- Whether the condition is read as what it comes to.  What cannot be decided is not met; of what fails
for good nothing is asked. -/
def Fair (r : Reading) : Prop :=
  match r.outcome with
  | .ok b => r.holds = b
  | .error e => e.isLocal = true → r.holds = false

end Reading

/-- The readings of a row, each with the operator that joins it to those before it. -/
def joined : Operator → List Reading → List (Operator × Reading)
  | _, [] => []
  | op, r :: rest => (op, r) :: joined r.condition.joiner rest

/-- The plain meaning of a row, from what held before it. -/
def plain (running : Bool) (row : List (Operator × Reading)) : Bool :=
  row.foldl (fun b x => x.1.apply b x.2.holds) running

/-- The readings before which the plain meaning is not settled. -/
def undecided : Bool → List (Operator × Reading) → List Reading
  | _, [] => []
  | running, (op, r) :: rest =>
    (if op.settles running then [] else [r]) ++ undecided (op.apply running r.holds) rest

/-! ## The plain meaning -/

/-- Whether all conditions that are joined by *and* are met. -/
def AllMet (row : List (Operator × Reading)) : Prop := ∀ x ∈ row, x.1 = .and → x.2.holds = true

theorem allMet_cons {x : Operator × Reading} {row : List (Operator × Reading)} :
    AllMet (x :: row) ↔ (x.1 = .and → x.2.holds = true) ∧ AllMet row :=
  List.forall_mem_cons

/-- **When a row holds**: from some place on, all conditions that are joined by *and* are met, and the
place is the start, if what was before held, or one right behind a condition that is joined by *or* and
met. -/
theorem plain_eq_true_iff {running : Bool} {row : List (Operator × Reading)} :
    plain running row = true ↔ (running = true ∧ AllMet row)
      ∨ ∃ front r back, row = front ++ (.or, r) :: back ∧ r.holds = true ∧ AllMet back := by
  induction row generalizing running with
  | nil => simp [plain, AllMet]
  | cons x rest ih =>
    obtain ⟨op, q⟩ := x
    have hstep : plain running ((op, q) :: rest) = plain (op.apply running q.holds) rest := rfl
    rw [hstep, ih, allMet_cons]
    constructor
    · rintro (⟨happly, hrest⟩ | ⟨front, r, back, rfl, hr, hback⟩)
      · cases op with
        | and =>
          obtain ⟨hrunning, hq⟩ : running = true ∧ q.holds = true := by
            simpa [Operator.apply] using happly
          exact Or.inl ⟨hrunning, fun _ => hq, hrest⟩
        | or =>
          -- either what was before held already, or this condition is the place to start from
          obtain hrunning | hq : running = true ∨ q.holds = true := by
            simpa [Operator.apply] using happly
          · exact Or.inl ⟨hrunning, by simp, hrest⟩
          · exact Or.inr ⟨[], q, rest, rfl, hq, hrest⟩
      · exact Or.inr ⟨(op, q) :: front, r, back, rfl, hr, hback⟩
    · rintro (⟨hrunning, hq, hrest⟩ | ⟨front, r, back, hsplit, hr, hback⟩)
      · refine Or.inl ⟨?_, hrest⟩
        cases op with
        | and =>
          have hmet : q.holds = true := hq rfl
          simp [Operator.apply, hrunning, hmet]
        | or => simp [Operator.apply, hrunning]
      · cases front with
        | nil =>
          obtain ⟨⟨rfl, rfl⟩, rfl⟩ : (op = .or ∧ q = r) ∧ rest = back := by simpa using hsplit
          exact Or.inl ⟨by simp [Operator.apply, hr], hback⟩
        | cons y front =>
          obtain ⟨-, rfl⟩ : (op, q) = y ∧ rest = front ++ (.or, r) :: back := by simpa using hsplit
          exact Or.inr ⟨front, r, back, rfl, hr, hback⟩

/-! ## Looking at one condition -/

/-- **All that looking at a condition can be**: it is decided on the spot, whatever the world, or one
question is put to the language model. -/
theorem Condition.check_or_ask (env : Env) (c : Condition) (context : Context) :
    (c.calls = [] ∧ ∃ result, ∀ w, (c.check env context).runIn w = (result, w))
      ∨ ∃ prompt, c.calls = [.evaluate prompt] ∧ c.check env context
          = env.budget.ask (.evaluate prompt) (env.capabilities.evaluate prompt context) := by
  rw [check, calls]
  cases c.test with
  | equals v => exact Or.inl ⟨rfl, _, fun _ => rfl⟩
  | contains v => exact Or.inl ⟨rfl, _, fun _ => rfl⟩
  | regex pattern =>
    dsimp only
    cases Pattern.compile pattern with
    | ok machine => exact Or.inl ⟨rfl, _, fun _ => rfl⟩
    | error problem => exact Or.inl ⟨rfl, _, fun _ => rfl⟩
  | llmEvaluate prompt => exact Or.inr ⟨prompt, rfl, rfl⟩
  | custom handler v =>
    left
    dsimp only
    cases env.handlers.condition handler with
    | ok handler => exact ⟨rfl, _, fun _ => rfl⟩
    | error e => exact ⟨rfl, _, fun _ => rfl⟩

/-- Looking at a condition notes its calls, and nothing else. -/
theorem Condition.check_traces (env : Env) (c : Condition) (context : Context) (w : World) :
    ((c.check env context).runIn w).2.traces = c.calls.reverse ++ w.traces := by
  obtain ⟨hcalls, result, hrun⟩ | ⟨prompt, hcalls, hask⟩ := c.check_or_ask env context
  · rw [hrun, hcalls]
    rfl
  · rw [hask, hcalls, Eval.runIn_ask]
    rfl

namespace Fold

/-- Takes a condition that is looked at and does not fail for good. -/
def take (f : Fold) (r : Reading) : Fold :=
  { f with
    matched := f.pending.apply f.matched r.holds
    pending := r.condition.joiner
    failures := f.failures ++ r.failure?.toList }

variable {env : Env} {context : Context} {r : Reading} {f : Fold} {rest : List Reading}

/-- A condition that no longer matters is passed over by the plain meaning too, however it is read. -/
theorem plain_of_settled (h : f.pending.settles f.matched = true) :
    plain f.matched (joined f.pending (r :: rest))
      = plain (f.skip r.condition).matched (joined (f.skip r.condition).pending rest) := by
  show plain (f.pending.apply f.matched r.holds) _ = _
  rw [Operator.apply_of_settles f.pending f.matched r.holds h]
  rfl

/-- A condition that no longer matters is not among those that are looked at. -/
theorem undecided_of_settled (h : f.pending.settles f.matched = true) :
    undecided f.matched (joined f.pending (r :: rest))
      = undecided (f.skip r.condition).matched (joined (f.skip r.condition).pending rest) := by
  rw [joined, undecided, if_pos h, Operator.apply_of_settles f.pending f.matched r.holds h]
  rfl

theorem undecided_of_open (h : f.pending.settles f.matched = false) :
    undecided f.matched (joined f.pending (r :: rest))
      = r :: undecided (f.take r).matched (joined (f.take r).pending rest) := by
  rw [joined, undecided, if_neg (by simp [h])]
  rfl

/-- The program passes it over, and does nothing in the world. -/
theorem runIn_step_of_settled (h : f.pending.settles f.matched = true) (w : World) :
    (step env context f r.condition).runIn w = (.ok (f.skip r.condition), w) := by
  rw [step, if_pos h]
  rfl

/-- **All that looking at a condition can come to**: the condition is taken as it is read, or it fails for
good.  Either way its calls are noted. -/
theorem runIn_step (hstable : r.Stable env context) (hfair : r.Fair)
    (h : f.pending.settles f.matched = false) (w : World) :
    ∃ v, v.traces = r.condition.calls.reverse ++ w.traces
      ∧ (step env context f r.condition).runIn w = match r.breaks? with
        | none => (.ok (f.take r), v)
        | some e => (.error e, v) := by
  have houtcome := hstable w
  have htraces := r.condition.check_traces env context w
  obtain ⟨⟨result, v⟩, hrun⟩ : ∃ x, (r.condition.check env context).runIn w = x := ⟨_, rfl⟩
  rw [hrun] at houtcome htraces
  refine ⟨v, htraces, ?_⟩
  rw [step, if_neg (by simp [h]), Eval.runIn_tryCatch, Eval.runIn_bind, hrun]
  rw [Reading.Fair, ← houtcome] at hfair
  rw [Reading.breaks?, take, Reading.failure?, ← houtcome]
  cases result with
  | ok b =>
    have hread : r.holds = b := hfair
    simp [join, hread, Condition.joiner]
  | error e =>
    by_cases hlocal : e.isLocal = true
    · have hread : r.holds = false := hfair hlocal
      simp [hlocal, fail, join, hread, Condition.joiner]
    · simp [hlocal]

/-! ## A whole row -/

/-- The calls of the conditions that were looked at, latest first. -/
def noted (looked : List Reading) : List Trace := (looked.flatMap (·.condition.calls)).reverse

/-- The calls of a condition that is looked at come before those of the conditions behind it. -/
theorem noted_cons (r : Reading) (looked : List Reading) (traces : List Trace) :
    noted looked ++ (r.condition.calls.reverse ++ traces) = noted (r :: looked) ++ traces := by
  simp [noted]

section Row

variable {row : List Reading} (hstable : ∀ r ∈ row, r.Stable env context) (hfair : ∀ r ∈ row, r.Fair)
include hstable hfair

/-- If no condition that matters fails for good, the row is gone through, and it comes to what it
plainly means. -/
theorem run_of_unbroken (f : Fold) (w : World)
    (h : ∀ r ∈ undecided f.matched (joined f.pending row), r.breaks? = none) :
    ∃ g v, ((row.map Reading.condition).foldlM (step env context) f).runIn w = (.ok g, v)
      ∧ g.matched = plain f.matched (joined f.pending row)
      ∧ g.failures
          = f.failures ++ (undecided f.matched (joined f.pending row)).filterMap Reading.failure?
      ∧ g.skipped + (undecided f.matched (joined f.pending row)).length = f.skipped + row.length
      ∧ v.traces = noted (undecided f.matched (joined f.pending row)) ++ w.traces := by
  induction row generalizing f w with
  | nil =>
    refine ⟨f, w, rfl, rfl, ?_, rfl, rfl⟩
    simp [joined, undecided]
  | cons r rest ih =>
    obtain ⟨hr, hrest⟩ := List.forall_mem_cons.1 hstable
    obtain ⟨hr', hrest'⟩ := List.forall_mem_cons.1 hfair
    rw [List.map_cons, List.foldlM_cons]
    by_cases hsettled : f.pending.settles f.matched = true
    · rw [undecided_of_settled hsettled] at h ⊢
      rw [plain_of_settled hsettled, Eval.runIn_bind_ok (runIn_step_of_settled hsettled w)]
      obtain ⟨g, v, hrun, hmatched, hfailures, hskipped, htraces⟩ :=
        ih hrest hrest' (f.skip r.condition) w h
      refine ⟨g, v, hrun, hmatched, hfailures, ?_, htraces⟩
      have hcount : (f.skip r.condition).skipped = f.skipped + 1 := rfl
      rw [List.length_cons]
      omega
    · have hopen : f.pending.settles f.matched = false := by simpa using hsettled
      rw [undecided_of_open hopen] at h ⊢
      obtain ⟨hfine, h⟩ := List.forall_mem_cons.1 h
      obtain ⟨v, hcalls, hstep⟩ := runIn_step hr hr' hopen w
      rw [hfine] at hstep
      rw [Eval.runIn_bind_ok hstep]
      obtain ⟨g, v', hrun, hmatched, hfailures, hskipped, htraces⟩ :=
        ih hrest hrest' (f.take r) v h
      refine ⟨g, v', hrun, hmatched, ?_, ?_, ?_⟩
      · rw [hfailures]
        cases hf : r.failure? <;> simp [take, hf]
      · have hcount : (f.take r).skipped = f.skipped := rfl
        rw [List.length_cons, List.length_cons]
        omega
      · rw [htraces, hcalls, noted_cons]

/-- Otherwise the first condition that matters and fails for good ends the row with its failure. -/
theorem run_of_broken (f : Fold) (w : World)
    (h : ¬ ∀ r ∈ undecided f.matched (joined f.pending row), r.breaks? = none) :
    ∃ front r back e v, undecided f.matched (joined f.pending row) = front ++ r :: back
      ∧ (∀ q ∈ front, q.breaks? = none) ∧ r.breaks? = some e
      ∧ ((row.map Reading.condition).foldlM (step env context) f).runIn w = (.error e, v)
      ∧ v.traces = noted (front ++ [r]) ++ w.traces := by
  induction row generalizing f w with
  | nil => exact absurd (fun r hr => by cases hr) h
  | cons r rest ih =>
    obtain ⟨hr, hrest⟩ := List.forall_mem_cons.1 hstable
    obtain ⟨hr', hrest'⟩ := List.forall_mem_cons.1 hfair
    rw [List.map_cons, List.foldlM_cons]
    by_cases hsettled : f.pending.settles f.matched = true
    · rw [undecided_of_settled hsettled] at h ⊢
      rw [Eval.runIn_bind_ok (runIn_step_of_settled hsettled w)]
      exact ih hrest hrest' (f.skip r.condition) w h
    · have hopen : f.pending.settles f.matched = false := by simpa using hsettled
      rw [undecided_of_open hopen] at h ⊢
      obtain ⟨v, hcalls, hstep⟩ := runIn_step hr hr' hopen w
      cases hbreaks : r.breaks? with
      | some e =>
        rw [hbreaks] at hstep
        refine ⟨[], r, _, e, v, rfl, by simp, hbreaks, Eval.runIn_bind_error hstep, ?_⟩
        rw [hcalls, List.nil_append, ← noted_cons]
        rfl
      | none =>
        rw [hbreaks] at hstep
        rw [Eval.runIn_bind_ok hstep]
        -- this condition is fine, so the one that fails for good is further on
        have hlater : ¬ ∀ q ∈ undecided (f.take r).matched (joined (f.take r).pending rest),
            q.breaks? = none := fun hall => h (List.forall_mem_cons.2 ⟨hbreaks, hall⟩)
        obtain ⟨front, q, back, e, v', hsplit, hfront, hq, hrun, htraces⟩ :=
          ih hrest hrest' (f.take r) v hlater
        refine ⟨r :: front, q, back, e, v', congrArg (r :: ·) hsplit,
          List.forall_mem_cons.2 ⟨hbreaks, hfront⟩, hq, hrun, ?_⟩
        rw [htraces, hcalls, List.cons_append, noted_cons]

end Row

end Fold

/-! ## Readings at hand -/

/-- **Without a deadline it does not matter when a condition is looked at.** -/
theorem Condition.check_of_no_deadline {env : Env} (h : env.budget.deadline = none) (c : Condition)
    (context : Context) (w v : World) :
    ((c.check env context).runIn w).1 = ((c.check env context).runIn v).1 := by
  obtain ⟨-, result, hrun⟩ | ⟨prompt, -, hask⟩ := c.check_or_ask env context
  · rw [hrun, hrun]
  · have hallowance : ∀ now, env.budget.allowance now = env.budget.perCall := by
      intro now
      rw [Budget.allowance, h]
    rw [hask, Eval.runIn_ask, Eval.runIn_ask]
    simp only [Budget.wait, hallowance]
    cases (env.capabilities.evaluate prompt context).delay with
    | none => rfl
    | some d =>
      dsimp only
      by_cases hd : d ≤ env.budget.perCall
      · rw [if_pos hd, if_pos hd]
      · rw [if_neg hd, if_neg hd]

namespace Reading

/-- A condition with what it comes to in an untouched world; it is read as met if it comes to that. -/
def atStart (env : Env) (context : Context) (c : Condition) : Reading where
  condition := c
  outcome := ((c.check env context).runIn {}).1
  holds := ((c.check env context).runIn {}).1.toOption.getD false

variable {env : Env} {context : Context} {c : Condition}

/-- Without a deadline a condition comes to the same whenever it is looked at. -/
theorem stable_atStart (h : env.budget.deadline = none) : (atStart env context c).Stable env context :=
  fun w => c.check_of_no_deadline h context w {}

/-- A condition that cannot be decided is read as not met. -/
theorem fair_atStart : (atStart env context c).Fair := by
  rw [Fair, atStart]
  cases ((c.check env context).runIn {}).1 with
  | ok b => rfl
  | error e => exact fun _ => rfl

end Reading

namespace Fold

/-! ## The main statement -/

/-- **A row of conditions comes to what it plainly means**, however the conditions that do not matter are
read.  If none that matters fails for good, the row succeeds with the plain meaning; it records the failures
of those that matter, counts the others, and issues the calls of those that matter, each in order.
Otherwise it fails as the first condition that matters and fails for good, and issues the calls up to
there. -/
theorem run_refines_plain (env : Env) (context : Context) (row : List Reading) (w : World)
    (hstable : ∀ r ∈ row, r.Stable env context) (hfair : ∀ r ∈ row, r.Fair) :
    let looked := undecided true (joined .and row)
    let result := (run env context (row.map Reading.condition)).runIn w
    ((∀ r ∈ looked, r.breaks? = none) → ∃ f v, result = (.ok f, v)
      ∧ f.matched = plain true (joined .and row)
      ∧ (f.matched = true ↔ AllMet (joined .and row)
          ∨ ∃ front r back, joined .and row = front ++ (.or, r) :: back
            ∧ r.holds = true ∧ AllMet back)
      ∧ f.failures = looked.filterMap Reading.failure?
      ∧ f.skipped + looked.length = row.length
      ∧ v.traces = noted looked ++ w.traces)
    ∧ ((¬ ∀ r ∈ looked, r.breaks? = none) → ∃ front r back e v, looked = front ++ r :: back
      ∧ (∀ q ∈ front, q.breaks? = none) ∧ r.breaks? = some e
      ∧ result = (.error e, v)
      ∧ v.traces = noted (front ++ [r]) ++ w.traces) := by
  intro looked result
  constructor
  · intro h
    obtain ⟨f, v, hrun, hmatched, hfailures, hskipped, htraces⟩ :=
      run_of_unbroken hstable hfair {} w h
    refine ⟨f, v, hrun, hmatched, ?_, hfailures, ?_, htraces⟩
    · rw [hmatched, plain_eq_true_iff]
      simp
    · rw [hskipped]
      exact Nat.zero_add _
  · intro h
    exact run_of_broken hstable hfair {} w h

end Fold

/-- An outside with a language model that answers one question and fails at all others. -/
def Env.desk : Env where
  capabilities :=
    { Capabilities.alone with
      evaluate := fun prompt _ =>
        .now (if prompt == "Is it urgent?" then .ok true else .error (.backend "busy")) }
  handlers := .builtin
  budget := { perCall := 1000 }

/-- Conditions of which one cannot be decided, and one would fail for good but does not matter. -/
def Condition.urgent : List Condition :=
  [{ field := "user.tier", test := .equals (.str "gold") },
    { field := "user.name", test := .custom none .null, operator := some .or },
    { field := "text", test := .llmEvaluate "Is it urgent?", operator := some .or },
    { field := "text", test := .llmEvaluate "Is it late?" }]

/-- A row that holds by its third condition, with a failure passed over and one call made. -/
theorem run_refines_plain_urgent :
    let context : Context := [("user", .obj [("tier", .str "gold")])]
    let row := Condition.urgent.map (Reading.atStart .desk context)
    (∀ r ∈ row, r.Stable .desk context) ∧ (∀ r ∈ row, r.Fair)
    ∧ (∀ r ∈ undecided true (joined .and row), r.breaks? = none)
    ∧ ∃ f v, (Fold.run .desk context (row.map Reading.condition)).runIn {} = (.ok f, v)
      ∧ f.matched = true ∧ f.skipped + 3 = 4 ∧ v.traces = [.evaluate "Is it urgent?"] := by
  intro context row
  have hstable : ∀ r ∈ row, r.Stable .desk context := by
    intro r hr
    obtain ⟨c, -, rfl⟩ := List.mem_map.1 hr
    exact Reading.stable_atStart rfl
  have hfair : ∀ r ∈ row, r.Fair := by
    intro r hr
    obtain ⟨c, -, rfl⟩ := List.mem_map.1 hr
    exact Reading.fair_atStart
  have hfine : ∀ r ∈ undecided true (joined .and row), r.breaks? = none := by decide +kernel
  obtain ⟨f, v, hrun, hmatched, -, -, hskipped, htraces⟩ :=
    (Fold.run_refines_plain .desk context row {} hstable hfair).1 hfine
  exact ⟨hstable, hfair, hfine, f, v, hrun, hmatched, hskipped, htraces⟩

end Arbiter
