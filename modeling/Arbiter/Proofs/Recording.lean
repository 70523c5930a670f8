import Mathlib.Data.List.DropRight
import Arbiter.Ring
import Arbiter.Signal.Learner
import Arbiter.Timings
/-!
# What is recorded

Three records are kept of what an engine does, and each forgets something else.  A ring forgets all but the
latest items; the log of a stage forgets in which order the stages ran; the counts of matches forget all but
how often each name occurred.  Here each is given in terms of everything that was ever recorded.

1. **Rings** (`Ring.latest`): pushing to the latest of some items gives the latest of one item more, and so a ring
   holds the latest of what was added since it was last cleared (`Ring.after_eq_latest`).
2. **Stages** (`Timings.Counted`): a run of a stage is counted there, and nowhere else.
3. **Matches** (`Learner.usageOf_foldl_countMatch`).
-/

namespace Arbiter

/-! ## Rings -/

namespace Ring

/-- The ring that is left when items are pushed one after the other to an empty one. -/
def latest (capacity : Nat) (items : List α) : Ring α where
  capacity := max capacity 1
  items := items.rtake (max capacity 1)

theorem latest_nil (capacity : Nat) : (latest capacity [] : Ring α) = ofCapacity capacity := by
  rw [latest, List.rtake_nil]
  rfl

/-- Without its oldest item, if there are too many, the end of a list is shorter by one. -/
theorem tail_rtake_succ (items : List α) (n : Nat) :
    (if (items.rtake (n + 1)).length = n + 1 then (items.rtake (n + 1)).tail else items.rtake (n + 1))
      = items.rtake n := by
  unfold List.rtake
  rw [List.length_drop]
  split
  · next hfull =>
    rw [List.tail_drop]
    congr 1
    omega
  · next hroom =>
    -- all items are there, and nothing is dropped
    congr 1
    omega

/-- One more item is pushed to it. -/
theorem push_latest (capacity : Nat) (items : List α) (x : α) :
    (latest capacity items).push x = latest capacity (items ++ [x]) := by
  obtain ⟨n, hn⟩ : ∃ n, max capacity 1 = n + 1 := ⟨max capacity 1 - 1, by omega⟩
  rw [push, latest, latest, hn]
  dsimp only
  rw [tail_rtake_succ, List.rtake_concat_succ]

/-- **A ring holds the latest items**, however they came to it. -/
theorem extend_latest (capacity : Nat) (items more : List α) :
    (latest capacity items).extend more = latest capacity (items ++ more) := by
  induction more generalizing items with
  | nil => rw [List.append_nil]; rfl
  | cons x rest ih =>
    show ((latest capacity items).push x).extend rest = _
    rw [push_latest, ih, List.append_assoc, List.singleton_append]

/-- What can be done with a ring. -/
inductive Step (α : Type) where
  /-- An item is added. -/
  | push (x : α)
  /-- Several items are added, one after the other. -/
  | extend (xs : List α)
  /-- All items are let go of. -/
  | clear

/-- The items that a step adds. -/
def Step.added : Step α → List α
  | .push x => [x]
  | .extend xs => xs
  | .clear => []

/-- Whether a step lets go of all items. -/
def Step.isClear : Step α → Bool
  | .clear => true
  | _ => false

/-- One step. -/
def step (r : Ring α) : Step α → Ring α
  | .push x => r.push x
  | .extend xs => r.extend xs
  | .clear => r.clear

/-- A ring after a row of steps. -/
def after (capacity : Nat) (steps : List (Step α)) : Ring α := steps.foldl step (ofCapacity capacity)

/-- The items that were added after the last time that all were let go of. -/
def sinceClear (steps : List (Step α)) : List α :=
  (steps.rtakeWhile fun s => !s.isClear).flatMap Step.added

theorem sinceClear_concat (steps : List (Step α)) (s : Step α) :
    sinceClear (steps ++ [s]) = if s.isClear then [] else sinceClear steps ++ s.added := by
  unfold sinceClear
  cases hs : s.isClear with
  | true =>
    rw [List.rtakeWhile_concat_neg _ _ _ (by simp [hs])]
    rfl
  | false =>
    rw [List.rtakeWhile_concat_pos _ _ _ (by simp [hs]), List.flatMap_append, List.flatMap_singleton]
    rfl

/-- A step takes the latest of some items to the latest of those that are left or added. -/
theorem step_latest (capacity : Nat) (items : List α) (s : Step α) :
    (latest capacity items).step s
      = latest capacity (if s.isClear then [] else items ++ s.added) := by
  cases s with
  | push x => exact push_latest capacity items x
  | extend xs => exact extend_latest capacity items xs
  | clear =>
    show clear _ = latest capacity []
    rw [latest_nil]
    rfl

/-- **After any row of steps a ring holds the latest items since it was last cleared.** -/
theorem after_eq_latest (capacity : Nat) (steps : List (Step α)) :
    after capacity steps = latest capacity (sinceClear steps) := by
  induction steps using List.reverseRecOn with
  | nil => exact (latest_nil capacity).symm
  | append_singleton steps s ih =>
    rw [after, List.foldl_append, ← after, ih, sinceClear_concat]
    exact step_latest capacity (sinceClear steps) s

/-- **A ring holds the newest items, as many as it has room for**, oldest first; there is room for one at least.
Its newest item is the last one that was added. -/
theorem rings_hold_the_newest (capacity : Nat) (steps : List (Step α)) :
    (after capacity steps).items = (sinceClear steps).rtake (max capacity 1)
      ∧ (after capacity steps).size = min (max capacity 1) (sinceClear steps).length
      ∧ (after capacity steps).size ≤ max capacity 1
      ∧ (after capacity steps).newest? = (sinceClear steps).getLast? := by
  have hsize : (after capacity steps).size = min (max capacity 1) (sinceClear steps).length := by
    rw [after_eq_latest, size, latest, List.rtake, List.length_drop]
    omega
  refine ⟨by rw [after_eq_latest]; rfl, hsize, by omega, ?_⟩
  rw [after_eq_latest, newest?, latest, List.rtake, List.getLast?_drop]
  split
  · next hnone =>
    have hempty : (sinceClear steps).length = 0 := by omega
    rw [List.length_eq_zero_iff.1 hempty]
    rfl
  · rfl

end Ring

/-! ## Stages -/

/-- The stages of rules are told apart by the names of the rules. -/
theorem stageOfRule_injective {id id' : String} (h : stageOfRule id = stageOfRule id') : id = id' := by
  unfold stageOfRule at h
  exact (String.append_right_inj _).1 h

/-- No rule has the stage of the passes, whatever its name. -/
theorem stageOfPass_ne_stageOfRule (id : String) : stageOfPass ≠ stageOfRule id := by
  intro h
  -- they differ in their first letter
  have hletters := congrArg String.toList h
  rw [stageOfRule, String.toList_append] at hletters
  exact absurd (congrArg List.head? hletters) (by simp [stageOfPass])

namespace Timings

/-- How often a stage ran, how often it did not fail, and how often it did; nothing of one that never
ran. -/
def counts (m : Timings) (stage : String) : Nat × Nat × Nat :=
  ((m.stage? stage).map fun s => (s.invocations, s.successes, s.failures)).getD (0, 0, 0)

/-- A stage is counted if its counts are those of its outcomes: for each run, whether it did not fail. -/
def Counted (m : Timings) (stage : String) (outcomes : List Bool) : Prop :=
  m.counts stage = (outcomes.length, outcomes.count true, outcomes.count false)

theorem counted_nil (window : Nat) (stage : String) : ({ window } : Timings).Counted stage [] := rfl

variable {m : Timings} {stage other : String} {outcomes : List Bool}

/-- The counts of a stage, when its outcomes are read off some items. -/
theorem Counted.counts_eq {f : α → Bool} {xs : List α} (h : m.Counted stage (xs.map f)) :
    m.counts stage = (xs.length, xs.countP f, xs.countP (!f ·)) := by
  rw [h, List.length_map, List.count_eq_countP, List.count_eq_countP, List.countP_map, List.countP_map]
  simp [Function.comp_def]

/-- A run of a stage adds to its count, and to that of its outcome. -/
theorem counts_record_self (m : Timings) (stage : String) (success : Bool) (latency : Nat) :
    (m.record stage success latency).counts stage =
      ((m.counts stage).1 + 1, (m.counts stage).2.1 + (if success then 1 else 0),
        (m.counts stage).2.2 + (if success then 0 else 1)) := by
  unfold counts stage? record
  rw [Table.lookup_set_self]
  cases m.stages.lookup stage <;> cases success <;> rfl

/-- A run of one stage does not add to another. -/
theorem counts_record_of_ne (m : Timings) (success : Bool) (latency : Nat) (h : stage ≠ other) :
    (m.record other success latency).counts stage = m.counts stage := by
  unfold counts stage? record
  rw [Table.lookup_set_of_ne _ _ h]

/-- A stage that is counted stays so when it runs. -/
theorem Counted.record (h : m.Counted stage outcomes) (success : Bool) (latency : Nat) :
    (m.record stage success latency).Counted stage (outcomes ++ [success]) := by
  unfold Counted at h ⊢
  rw [counts_record_self, h, List.length_append, List.count_append, List.count_append]
  cases success <;> rfl

/-- It also stays so when another one runs. -/
theorem Counted.record_of_ne (h : m.Counted stage outcomes) (hne : stage ≠ other) (success : Bool)
    (latency : Nat) : (m.record other success latency).Counted stage outcomes := by
  unfold Counted at h ⊢
  rw [counts_record_of_ne m success latency hne, h]

/-- The runs of a row of results, each in the stage of its rule. -/
def recordResults (m : Timings) (results : List Verdict) : Timings :=
  results.foldl (fun m r => m.record (stageOfRule r.ruleId) (!r.hasFailed) r.processingTime) m

/-- A row of results adds the outcomes of a rule to its stage. -/
theorem Counted.recordResults {id : String} (h : m.Counted (stageOfRule id) outcomes)
    (results : List Verdict) : (m.recordResults results).Counted (stageOfRule id)
      (outcomes ++ (results.filter (·.ruleId == id)).map (!·.hasFailed)) := by
  induction results generalizing m outcomes with
  | nil =>
    rw [List.filter_nil, List.map_nil, List.append_nil]
    exact h
  | cons r rest ih =>
    by_cases hr : r.ruleId = id
    · subst hr
      rw [List.filter_cons_of_pos (by simp), List.map_cons, List.append_cons]
      exact ih (h.record (!r.hasFailed) r.processingTime)
    · have hne : stageOfRule id ≠ stageOfRule r.ruleId := fun he => hr (stageOfRule_injective he).symm
      rw [List.filter_cons_of_neg (by simpa using hr)]
      exact ih (h.record_of_ne hne (!r.hasFailed) r.processingTime)

/-- The stage of a pass is not touched by the results, whatever the names of the rules. -/
theorem Counted.recordResults_pass (h : m.Counted stageOfPass outcomes) (results : List Verdict) :
    (m.recordResults results).Counted stageOfPass outcomes := by
  induction results generalizing m with
  | nil => exact h
  | cons r rest ih =>
    exact ih (h.record_of_ne (stageOfPass_ne_stageOfRule r.ruleId) (!r.hasFailed) r.processingTime)

end Timings

/-! ## Matches -/

namespace Learner

/-- A match counts for its rule, and for no other. -/
theorem usageOf_countMatch (m : Learner) (id other : String) :
    (m.countMatch other).usageOf id = m.usageOf id + if other = id then 1 else 0 := by
  unfold countMatch usageOf
  by_cases h : other = id
  · rw [if_pos h, h, Table.lookup_set_self]
    rfl
  · rw [if_neg h, Table.lookup_set_of_ne _ _ (Ne.symm h)]
    rfl

/-- Every result counts for its rule, and for no other. -/
theorem usageOf_foldl_countMatch (m : Learner) (results : List Verdict) (id : String) :
    (results.foldl (fun m r => m.countMatch r.ruleId) m).usageOf id
      = m.usageOf id + results.countP (·.ruleId == id) := by
  induction results generalizing m with
  | nil => rfl
  | cons r rest ih =>
    rw [List.foldl_cons, ih, usageOf_countMatch, List.countP_cons, Nat.add_assoc, Nat.add_comm (List.countP _ _)]
    simp only [beq_iff_eq]

end Learner

end Arbiter
