import Mathlib.Algebra.Order.Floor.Ring
import Mathlib.Data.Rat.Floor
import Arbiter.Proofs.Plans
/-!
# Plans in exact numbers

The formulas of a plan are written for any kind of numbers.  In fractions nothing is rounded but the priority at
the end, and then a plan is what it is meant to be: legal, and ordered.

1. **The parts** have their bounds and go one way each: the share of matches goes up with the matches, and the
   efficiency goes down with the time, with its limit in the place of no time at all.
2. **The priority** goes up with both (`Plan.priority_mono`), rounding included, and **the weight** goes down with
   both (`Plan.weight_antitone`), because neither of its two factors falls below nothing.
3. **The bounds** are these laws again: a rule that never matches and takes for ever has the least priority and
   the greatest weight, and a rule that always matches and takes no time has the greatest and the least.

The main statement is `plans_are_legal_and_ordered`.  What the engine computes are the same formulas in doubles.
-/

namespace Arbiter

namespace Plan

/-! ## The parts -/

theorem least_eq_min (x y : ℚ) : least x y = min x y := by
  show (if decide (x < y) = true then x else y) = _
  rcases lt_or_ge x y with h | h
  · rw [if_pos (decide_eq_true h), min_eq_left h.le]
  · rw [if_neg (by simpa using h), min_eq_right h]

/-- How many times go into a second, up to ten. -/
theorem efficiency_eq (time : Nat) :
    (efficiency time : ℚ) = if time = 0 then 10 else min (10 ^ 9 / (time : ℚ)) 10 := by
  unfold efficiency
  show (if decide (((0 : Nat) : ℚ) < (time : ℚ) / ((Duration.second : Nat) : ℚ)) = true
    then least (((1 : Nat) : ℚ) / ((time : ℚ) / ((Duration.second : Nat) : ℚ))) ((10 : Nat) : ℚ)
    else ((10 : Nat) : ℚ)) = _
  have hsecond : ((Duration.second : Nat) : ℚ) = 10 ^ 9 := by norm_num [Duration.second]
  rw [hsecond]
  rcases Nat.eq_zero_or_pos time with rfl | htime
  · rw [if_pos rfl]
    norm_num
  · have hpos : (0 : ℚ) < time := by exact_mod_cast htime
    have hseconds : ((0 : Nat) : ℚ) < (time : ℚ) / 10 ^ 9 := by
      rw [Nat.cast_zero]
      positivity
    rw [if_pos (decide_eq_true hseconds), if_neg (by omega), least_eq_min, Nat.cast_one, one_div_div]
    norm_num

/-- The efficiency is between nothing and ten. -/
theorem efficiency_bounds (time : Nat) : 0 ≤ (efficiency time : ℚ) ∧ (efficiency time : ℚ) ≤ 10 := by
  rw [efficiency_eq]
  split
  · norm_num
  · refine ⟨le_min ?_ (by norm_num), min_le_right _ _⟩
    positivity

/-- The less time, the more efficient. -/
theorem efficiency_antitone {time time' : Nat} (h : time ≤ time') :
    (efficiency time' : ℚ) ≤ efficiency time := by
  rcases Nat.eq_zero_or_pos time with rfl | htime
  · rw [efficiency_eq 0, if_pos rfl]
    exact (efficiency_bounds time').2
  · have hpos : (0 : ℚ) < time := by exact_mod_cast htime
    have hle : (time : ℚ) ≤ time' := by exact_mod_cast h
    rw [efficiency_eq, efficiency_eq, if_neg (by omega), if_neg (by omega)]
    exact min_le_min_right _ (div_le_div_of_nonneg_left (by norm_num) hpos hle)

theorem successRate_eq (matched evaluations : Nat) :
    (successRate matched evaluations : ℚ) = matched / evaluations := rfl

/-- A share is between nothing and one. -/
theorem successRate_bounds {matched evaluations : Nat} (h : matched ≤ evaluations) :
    0 ≤ (successRate matched evaluations : ℚ) ∧ (successRate matched evaluations : ℚ) ≤ 1 := by
  have hle : (matched : ℚ) ≤ evaluations := by exact_mod_cast h
  rw [successRate_eq]
  constructor
  · positivity
  · exact div_le_one_of_le₀ hle (by positivity)

/-- The more matches, the greater their share. -/
theorem successRate_mono {matched matched' : Nat} (h : matched ≤ matched') (evaluations : Nat) :
    (successRate matched evaluations : ℚ) ≤ successRate matched' evaluations := by
  have hle : (matched : ℚ) ≤ matched' := by exact_mod_cast h
  rw [successRate_eq, successRate_eq]
  exact div_le_div_of_nonneg_right hle (by positivity)

/-! ## The priority -/

/-- Going to the nearest whole number keeps the order. -/
theorem nearest_mono {x y : ℚ} (h : x ≤ y) : PlanNumber.nearest x ≤ PlanNumber.nearest y := by
  show (if x < 0 then -(-x + 1 / 2).floor else (x + 1 / 2).floor)
    ≤ (if y < 0 then -(-y + 1 / 2).floor else (y + 1 / 2).floor)
  have hnonneg : ∀ z : ℚ, 0 ≤ z → 0 ≤ (z + 1 / 2).floor := by
    intro z hz
    rw [Rat.le_floor_iff, Int.cast_zero]
    positivity
  rcases lt_or_ge x 0 with hx | hx <;> rcases lt_or_ge y 0 with hy | hy
  · rw [if_pos hx, if_pos hy]
    have := Rat.floor_monotone (show -y + 1 / 2 ≤ -x + 1 / 2 by linarith)
    omega
  · rw [if_pos hx, if_neg hy.not_gt]
    have hbelow := hnonneg (-x) (by linarith)
    have habove := hnonneg y hy
    omega
  · exact absurd h (by linarith)
  · rw [if_neg hx.not_gt, if_neg hy.not_gt]
    exact Rat.floor_monotone (by linarith)

/-- **The priority goes up with success and with efficiency.** -/
theorem priority_mono {share share' speed speed' : ℚ} (hshare : share ≤ share') (hspeed : speed ≤ speed') :
    priority share speed ≤ priority share' speed' := by
  show PlanNumber.nearest (share * ((50 : Nat) : ℚ) + speed * ((50 : Nat) : ℚ))
    ≤ PlanNumber.nearest (share' * ((50 : Nat) : ℚ) + speed' * ((50 : Nat) : ℚ))
  apply nearest_mono
  norm_num
  linarith

/-- The priority is between its values for the least and for the greatest plan. -/
theorem priority_bounds {share speed : ℚ} (hshare : 0 ≤ share ∧ share ≤ 1) (hspeed : 0 ≤ speed ∧ speed ≤ 10) :
    0 ≤ priority share speed ∧ priority share speed ≤ 550 := by
  have hleast : priority (0 : ℚ) 0 = 0 := by decide +kernel
  have hgreatest : priority (1 : ℚ) 10 = 550 := by decide +kernel
  exact ⟨hleast ▸ priority_mono hshare.1 hspeed.1, hgreatest ▸ priority_mono hshare.2 hspeed.2⟩

/-! ## The weight -/

/-- The weight is what success leaves of one, less up to three tenths for efficiency. -/
theorem weight_eq (share speed : ℚ) : weight share speed = (1 - share) * (1 - min (speed / 10) 1 * (3 / 10)) := by
  show (((1 : Nat) : ℚ) - share) * (((1 : Nat) : ℚ)
    - least (speed / ((10 : Nat) : ℚ)) ((1 : Nat) : ℚ) * (((3 : Nat) : ℚ) / ((10 : Nat) : ℚ))) = _
  rw [least_eq_min]
  norm_num

/-- **The weight goes down with success and with efficiency.** -/
theorem weight_antitone {share share' speed speed' : ℚ} (hshare : share ≤ share') (hmost : share' ≤ 1)
    (hspeed : speed ≤ speed') : weight share' speed' ≤ weight share speed := by
  have hcut : min (speed / 10) 1 ≤ min (speed' / 10) 1 := min_le_min_right _ (by linarith)
  have hone : min (speed' / 10) 1 ≤ 1 := min_le_right _ _
  rw [weight_eq, weight_eq]
  -- both factors go down, and neither is below nothing
  apply mul_le_mul
  · linarith
  · linarith
  · linarith
  · linarith

/-- So is the weight, which is greatest where the plan is least. -/
theorem weight_bounds {share speed : ℚ} (hshare : 0 ≤ share ∧ share ≤ 1) (hspeed : 0 ≤ speed ∧ speed ≤ 10) :
    0 ≤ weight share speed ∧ weight share speed ≤ 1 := by
  have hleast : weight (1 : ℚ) 10 = 0 := by decide +kernel
  have hgreatest : weight (0 : ℚ) 0 = 1 := by decide +kernel
  exact ⟨hleast ▸ weight_antitone hshare.2 le_rfl hspeed.2, hgreatest ▸ weight_antitone hshare.1 hshare.2 hspeed.1⟩

end Plan

/-! ## Plans for rules -/

namespace TrackRecord

/-- The priority a rule should have, in numbers of some kind. -/
def priorityIn (α : Type) [PlanNumber α] (s : TrackRecord) : Int :=
  Plan.priority (Plan.successRate s.matched s.evaluations : α) (Plan.efficiency s.averageProcessingTime)

/-- The weight a rule should have, in numbers of some kind. -/
def weightIn (α : Type) [PlanNumber α] (s : TrackRecord) : α :=
  Plan.weight (Plan.successRate s.matched s.evaluations) (Plan.efficiency s.averageProcessingTime)

variable {history : List Verdict} {s : TrackRecord}

/-- What comes into force is the plan in doubles. -/
theorem planned_eq (hs : s ∈ ofHistory history) :
    s.plannedPriority = s.priorityIn Float ∧ s.plannedWeight = s.weightIn Float := by
  obtain ⟨⟨id, t⟩, -, rfl⟩ := List.mem_map.1 hs
  exact ⟨rfl, rfl⟩

/-- A row counts no more matches than evaluations. -/
theorem matched_le (hs : s ∈ ofHistory history) : s.matched ≤ s.evaluations := by
  obtain ⟨⟨id, t⟩, ht, rfl⟩ := List.mem_map.1 hs
  exact (Tally.within_ofHistory history _ ht).matched

/-- Every result counts for a row. -/
theorem exists_row {r : Verdict} (hr : r ∈ history) : ∃ s ∈ ofHistory history, s.ruleId = r.ruleId := by
  rw [ofHistory_eq]
  exact ⟨_, List.mem_map_of_mem (List.mem_eraseDups.2 (List.mem_map_of_mem hr)), rfl⟩

end TrackRecord

/-! ## The main statement -/

/-- **Plans are legal and ordered.**  Every rule in a history has a row, and what comes into force for it is a plan
in doubles.  In exact numbers the same plan has a priority from nothing to 550 and a weight from nothing to one;
and of two rules that were evaluated equally often, in one history or in two, the one that matched no less often
and took no longer on average has no lesser priority and no greater weight.  The weight in doubles passes
validation, too, if the history can be counted in a word. -/
theorem plans_are_legal_and_ordered (history : List Verdict) :
    (∀ r ∈ history, ∃ s ∈ TrackRecord.ofHistory history, s.ruleId = r.ruleId)
    ∧ ∀ s ∈ TrackRecord.ofHistory history,
      (s.plannedPriority = s.priorityIn Float ∧ s.plannedWeight = s.weightIn Float)
      ∧ (0 ≤ s.priorityIn ℚ ∧ s.priorityIn ℚ ≤ 550)
      ∧ (0 ≤ s.weightIn ℚ ∧ s.weightIn ℚ ≤ 1)
      ∧ (history.length ≤ Numeral.maxWord → Validation.inUnit s.plannedWeight = true)
      ∧ ∀ other, ∀ t ∈ TrackRecord.ofHistory other,
        t.evaluations = s.evaluations → s.matched ≤ t.matched →
          t.averageProcessingTime ≤ s.averageProcessingTime →
            s.priorityIn ℚ ≤ t.priorityIn ℚ ∧ t.weightIn ℚ ≤ s.weightIn ℚ := by
  refine ⟨fun r hr => TrackRecord.exists_row hr, ?_⟩
  intro s hs
  have hshare := Plan.successRate_bounds (TrackRecord.matched_le hs)
  have hspeed := Plan.efficiency_bounds s.averageProcessingTime
  refine ⟨TrackRecord.planned_eq hs, Plan.priority_bounds hshare hspeed, Plan.weight_bounds hshare hspeed,
    fun hlength => TrackRecord.inUnit_plannedWeight hlength hs, ?_⟩
  intro other t ht hevaluations hmatched htime
  have hshares := Plan.successRate_mono hmatched s.evaluations
  have hspeeds := Plan.efficiency_antitone htime
  have hmost := (Plan.successRate_bounds (TrackRecord.matched_le ht)).2
  rw [← hevaluations] at hshares
  constructor
  · unfold TrackRecord.priorityIn
    rw [← hevaluations]
    exact Plan.priority_mono hshares hspeeds
  · unfold TrackRecord.weightIn
    rw [← hevaluations]
    exact Plan.weight_antitone hshares hmost hspeeds

end Arbiter
