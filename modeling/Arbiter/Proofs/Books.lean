import Arbiter.Proofs.InStep
import Arbiter.Proofs.Recording
/-!
# The books of an engine

An engine keeps four records of its passes, and they last for different times: the history for so many
results, the logs of the stages for good, the counts of matches until the next load.  They are brought up to
date in different places, and nothing in the engine compares them.  Here they are compared with a `Ledger`
that is written beside the run: the results of every pass, and those since the last load that succeeded.

1. **Who writes** (`Engine.books`).  Updates and optimizations leave the books alone, though they change the
   learned signal; a load that fails does too, and one that succeeds drops the counts of matches.
2. **A pass** enters its results into all of them (`Engine.Booked.evaluate`).
3. **A run** is a row of such steps (`Engine.Booked.after`).

The main statement is `books_are_exact`.
-/

namespace Arbiter

/-! ## The ledger -/

/-- What an engine has come through. -/
structure Ledger where
  /-- The results of every pass. -/
  passes : List (List Verdict) := []
  /-- The results since the last load that succeeded. -/
  sinceLoad : List Verdict := []

namespace Ledger

/-- All results, in the order in which they came. -/
def results (l : Ledger) : List Verdict := l.passes.flatten

/-- The ledger after a load. -/
def loaded (l : Ledger) : Except Fault Nat → Ledger
  | .ok _ => { l with sinceLoad := [] }
  | .error _ => l

/-- The ledger after something was asked of an engine. -/
def enter (l : Ledger) (e : Engine) : Operation → Ledger
  | .load set => l.loaded (e.load set).1
  | .loadText text => l.loaded (e.loadText text).1
  | .loadFile file => l.loaded (e.loadFile file).1
  | .evaluate context options =>
    { passes := l.passes ++ [(e.evaluate context options).1.results]
      sinceLoad := l.sinceLoad ++ (e.evaluate context options).1.results }
  | _ => l

/-- The ledger after a row of operations. -/
def enterAll (l : Ledger) (e : Engine) : List Operation → Ledger
  | [] => l
  | op :: rest => (l.enter e op).enterAll (e.perform op) rest

end Ledger

/-! ## Who writes into the books -/

namespace Learner

/-- Training does not count as a match. -/
theorem usage_trainOn (m : Learner) (r : Rule) : (m.trainOn r).usage = m.usage := by
  cases hlearns : m.learns with
  | true =>
    obtain ⟨weights, bias, h⟩ := trainOn_eq hlearns r
    rw [h]
  | false => rw [trainOn_of_idle hlearns]

/-- A new learner has counted no match, as it has only been trained. -/
theorem usage_ofRuleSet (set : RuleSet) : (Learner.ofRuleSet set).usage = [] := by
  suffices h : ∀ m : Learner, (set.rules.foldl trainOn m).usage = m.usage from h _
  intro m
  induction set.rules generalizing m with
  | nil => rfl
  | cons r rest ih => rw [List.foldl_cons, ih, usage_trainOn]

end Learner

namespace Engine

/-- The books: the history, the logs of the stages, and the counts of matches. -/
def books (e : Engine) : Ring Verdict × Timings × Table Nat := (e.history, e.timings, e.learner.usage)

theorem books_patched (e : Engine) (id : String) (rule : Rule) : (e.patched id rule).books = e.books := by
  show (e.history, e.timings, (e.learner.trainOn rule).usage) = _
  rw [Learner.usage_trainOn]
  rfl

/-- An update does not write into the books, whether it succeeds or not. -/
theorem books_update (e : Engine) (id : String) (patch : Patch) (now : Timestamp) :
    (e.update id patch now).2.books = e.books := by
  cases hfind : e.rulebook.find? id with
  | none => rw [e.update_of_unknown patch now hfind]
  | some r =>
    rw [e.update_of_known patch now hfind]
    exact e.books_patched id ((patch.apply r).stamped now)

/-- Nor does the tuning of a rule. -/
theorem books_optimizeRule (e : Engine) (now : Timestamp) (s : TrackRecord) :
    (optimizeRule now e s).2.books = e.books := by
  have hupdate := e.books_update s.ruleId s.patch now
  rw [optimizeRule]
  cases hfind : e.rulebook.find? s.ruleId with
  | none => rfl
  | some r =>
    rw [e.update_of_known s.patch now hfind] at hupdate ⊢
    exact hupdate

/-- Nor does the tuning of all of them. -/
theorem books_optimizeEach (e : Engine) (stamps : Stamps) (rows : List TrackRecord) :
    (optimizeEach stamps e rows).2.books = e.books := by
  induction rows generalizing e with
  | nil => rfl
  | cons s rest ih => exact (ih _).trans (e.books_optimizeRule _ s)

/-- A load drops the counts of matches if it succeeds, and leaves the books alone if not. -/
theorem books_load (e : Engine) (set : RuleSet) : (e.load set).2.books =
    (match (e.load set).1 with
      | .ok _ => (e.history, e.timings, [])
      | .error _ => e.books) := by
  rw [e.load_eq]
  split
  · show (e.history, e.timings, (Learner.ofRuleSet set).usage) = _
    rw [Learner.usage_ofRuleSet]
  · rfl

/-- What a pass writes into the books is its record. -/
theorem books_evaluate (e : Engine) (context : Context) (options : PassOptions) :
    (e.evaluate context options).2.books
      = (e.recordPass (e.evaluate context options).1.results options.stopwatch).books := rfl

/-! ## Books and ledger -/

/-- The books of an engine say what the ledger says. -/
structure Booked (e : Engine) (capacity : Nat) (l : Ledger) : Prop where
  /-- The history has the latest results. -/
  history : e.history = .latest capacity l.results
  /-- The stage of every rule is counted. -/
  rules : ∀ id, e.timings.Counted (stageOfRule id)
    ((l.results.filter (·.ruleId == id)).map (!·.hasFailed))
  /-- The stage of the passes is counted. -/
  passes : e.timings.Counted stageOfPass (l.passes.map fun results => !results.any (·.hasFailed))
  /-- The matches since the last load are counted. -/
  usage : ∀ id, e.learner.usageOf id = l.sinceLoad.countP fun r => r.ruleId == id && r.matched

/-- The books of a new engine are empty, and so is the ledger. -/
theorem booked_ofSettings (settings : Settings) (capabilities : Capabilities) (handlers : Handlers)
    (available : Nat) :
    (ofSettings settings capabilities handlers available).Booked settings.historyCapacity {} where
  history := (Ring.latest_nil settings.historyCapacity).symm
  rules := fun id => Timings.counted_nil settings.metricsWindow (stageOfRule id)
  passes := Timings.counted_nil settings.metricsWindow stageOfPass
  usage := fun _ => rfl

variable {e : Engine} {capacity : Nat} {l : Ledger}

/-- Only the books count. -/
theorem Booked.of_books_eq (h : e.Booked capacity l) {e' : Engine} (hbooks : e'.books = e.books) :
    e'.Booked capacity l := by
  obtain ⟨hhistory, htimings, husage⟩ : e'.history = e.history ∧ e'.timings = e.timings
      ∧ e'.learner.usage = e.learner.usage := by
    simpa [books] using hbooks
  refine ⟨hhistory.trans h.history, ?_, ?_, fun id => ?_⟩
  · rw [htimings]
    exact h.rules
  · rw [htimings]
    exact h.passes
  · rw [Learner.usageOf, husage]
    exact h.usage id

/-- What a load does to the books, it does to the ledger. -/
theorem Booked.loaded (h : e.Booked capacity l) {e' : Engine} {answer : Except Fault Nat}
    (hbooks : e'.books = match answer with
      | .ok _ => (e.history, e.timings, [])
      | .error _ => e.books) : e'.Booked capacity (l.loaded answer) := by
  cases answer with
  | error err => exact h.of_books_eq hbooks
  | ok count =>
    have hfresh : Booked { e with learner := { e.learner with usage := [] } } capacity
        (l.loaded (.ok count)) := ⟨h.history, h.rules, h.passes, fun _ => rfl⟩
    exact hfresh.of_books_eq hbooks

/-- A load of a set, whether it succeeds or not. -/
theorem Booked.load (h : e.Booked capacity l) (set : RuleSet) :
    (e.load set).2.Booked capacity (l.loaded (e.load set).1) :=
  h.loaded (e.books_load set)

theorem Booked.loadText (h : e.Booked capacity l) (text : String) :
    (e.loadText text).2.Booked capacity (l.loaded (e.loadText text).1) := by
  rw [Engine.loadText]
  cases RuleSet.ofFile text with
  | ok set => exact h.load set
  | error err => exact h.of_books_eq rfl

/-- **A pass enters its results into all books.** -/
theorem Booked.evaluate (h : e.Booked capacity l) (context : Context) (options : PassOptions) :
    (e.evaluate context options).2.Booked capacity (l.enter e (.evaluate context options)) := by
  suffices hrecorded : ∀ results stopwatch, (e.recordPass results stopwatch).Booked capacity
      { passes := l.passes ++ [results], sinceLoad := l.sinceLoad ++ results } from
    (hrecorded _ options.stopwatch).of_books_eq (e.books_evaluate context options)
  intro results stopwatch
  have hall : Ledger.results { l with passes := l.passes ++ [results] } = l.results ++ results := by
    simp [Ledger.results]
  refine ⟨?_, fun id => ?_, ?_, fun id => ?_⟩
  · show e.history.extend results = .latest capacity (Ledger.results _)
    rw [h.history, Ring.extend_latest]
    exact congrArg (Ring.latest capacity) hall.symm
  · -- the rule has its results first; the report of the pass that follows is in another stage
    show Timings.Counted _ _ ((List.filter _ (Ledger.results _)).map _)
    have hrules := ((h.rules id).recordResults results).record_of_ne
      (stageOfPass_ne_stageOfRule id).symm (!results.any (·.hasFailed)) stopwatch.pass
    rw [← List.map_append, ← List.filter_append, ← hall] at hrules
    exact hrules
  · have hpass := (h.passes.recordResults_pass results).record (!results.any (·.hasFailed))
      stopwatch.pass
    rw [List.map_append, List.map_singleton]
    exact hpass
  · show ((results.filter (·.matched)).foldl (fun m r => m.countMatch r.ruleId) e.learner).usageOf id = _
    rw [Learner.usageOf_foldl_countMatch, h.usage, List.countP_append, List.countP_filter]

/-- **Whatever is asked of an engine, its books go with the ledger.** -/
theorem Booked.perform (h : e.Booked capacity l) (op : Operation) :
    (e.perform op).Booked capacity (l.enter e op) := by
  cases op with
  | subscribe => exact h.of_books_eq rfl
  | load set => exact h.load set
  | loadText text => exact h.loadText text
  | loadFile file =>
    cases file with
    | ok text => exact h.loadText text
    | error reason => exact h.of_books_eq rfl
  | update id patch now => exact h.of_books_eq (e.books_update id patch now)
  | optimize stamps =>
    exact h.of_books_eq (e.books_optimizeEach stamps (TrackRecord.ofHistory e.history.items))
  | evaluate context options => exact h.evaluate context options

/-- By induction they do so for a row of operations. -/
theorem Booked.after (h : e.Booked capacity l) (ops : List Operation) :
    (e.after ops).Booked capacity (l.enterAll e ops) := by
  induction ops generalizing e l with
  | nil => exact h
  | cons op rest ih => exact ih (h.perform op)

end Engine

/-! ## The main statement -/

/-- **The books of an engine are exact**, whatever was asked of it and whether it failed or not.  The history
has the latest of all results there ever were, as many as it has room for.  The stage of a rule ran as often
as the rule had a result, and failed as often as the result had a failure; the stage of the passes ran as
often as there was a pass, and failed as often as some result of a pass had a failure; that a rule may be
named like that stage does not matter.  The usage of a rule is how often it matched since the last load that
succeeded. -/
theorem books_are_exact (settings : Settings) (capabilities : Capabilities) (handlers : Handlers)
    (available : Nat) (ops : List Operation) :
    let start := Engine.ofSettings settings capabilities handlers available
    let e := start.after ops
    let ledger := ({} : Ledger).enterAll start ops
    e.history.items = ledger.results.rtake (max settings.historyCapacity 1)
    ∧ (∀ id, e.timings.counts (stageOfRule id) =
        (ledger.results.countP (·.ruleId == id),
          ledger.results.countP (fun r => r.ruleId == id && !r.hasFailed),
          ledger.results.countP (fun r => r.ruleId == id && r.hasFailed)))
    ∧ e.timings.counts stageOfPass =
        (ledger.passes.length, ledger.passes.countP (fun results => !results.any (·.hasFailed)),
          ledger.passes.countP (fun results => results.any (·.hasFailed)))
    ∧ ∀ id, e.learner.usageOf id = ledger.sinceLoad.countP fun r => r.ruleId == id && r.matched := by
  intro start e ledger
  have h : e.Booked settings.historyCapacity ledger :=
    (Engine.booked_ofSettings settings capabilities handlers available).after ops
  refine ⟨?_, fun id => ?_, ?_, h.usage⟩
  · rw [h.history]
    rfl
  · rw [(h.rules id).counts_eq, ← List.countP_eq_length_filter, List.countP_filter, List.countP_filter]
    simp only [Bool.not_not, Bool.and_comm]
  · rw [h.passes.counts_eq]
    simp only [Bool.not_not]

-- a rule that is named like the stage of the passes, and fails in both
example :
    let rule : Rule := { id := "evaluate", actions := [.llmGenerate "greeting" "greet"] }
    let e := (Engine.ofSettings { historyCapacity := 1 }).after
      [.load { rules := [rule] }, .evaluate [] {}, .evaluate [] {}]
    e.timings.counts stageOfPass = (2, 0, 2) ∧ e.timings.counts (stageOfRule "evaluate") = (2, 0, 2)
    ∧ e.history.items.map (·.ruleId) = ["evaluate"] ∧ e.learner.usageOf "evaluate" = 0 := by
  decide +kernel

end Arbiter
