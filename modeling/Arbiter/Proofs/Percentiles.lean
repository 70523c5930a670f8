import Mathlib.Data.List.GetD
import Arbiter.Proofs.Ranking
import Arbiter.Proofs.Stages
import Arbiter.Proofs.Worth
/-!
# Percentiles

Of each stage the latest times are kept, and two percentiles of them are shown: the time at a rank in the
sorted list, where the rank is a share of the number of times, rounded up.  What that time is can be said without
sorting: it is the least of the times that so many of a hundred do not exceed.

1. **The crux** (`getElem_le_iff`): the entry of a sorted list at a place does not exceed a time exactly if there
   are more entries than the place says that do not.
2. **Ranks** (`percentile_eq_getElem`).  Rounded up and kept within the list, the rank is the least count that is
   enough, so both halves of `NearestRank` are the two directions of the crux (`nearestRank_percentile`).
3. **Ranks in doubles** (`ceil_rank`).  A rank that is rounded up from a quotient of doubles is the same, since a
   hundredth above a whole number is not lost for any number of times that can be kept; so the entry at that
   place is the percentile too (`getElem?_placeInDoubles`).
4. **Stages.**  The times are those of the runs since the last reset, as many as the window has room for.

The main statement is `stages_show_their_percentiles`.
-/

namespace Arbiter

/-! ## Sorted times -/

/-- The order of times, as the program asks for it. -/
theorem sortBy_le_eq_insertionSort (xs : List Nat) :
    sortBy (fun a b => a ≤ b) xs = xs.insertionSort (· ≤ ·) := by
  rw [sortBy_eq_insertionSort]
  simp only [decide_eq_true_eq]

/-- **An entry of a sorted list does not exceed a time exactly if enough entries do not.** -/
theorem getElem_le_iff {sorted : List Nat} (h : sorted.Pairwise (· ≤ ·)) {i : Nat} (hi : i < sorted.length)
    (y : Nat) : sorted[i] ≤ y ↔ i < sorted.countP (· ≤ y) := by
  induction sorted generalizing i with
  | nil => exact absurd hi (Nat.not_lt_zero i)
  | cons x rest ih =>
    obtain ⟨hx, hrest⟩ := List.pairwise_cons.1 h
    by_cases hxy : x ≤ y
    · rw [List.countP_cons_of_pos (by simpa using hxy)]
      cases i with
      | zero => exact iff_of_true hxy (Nat.succ_pos _)
      | succ i =>
        rw [List.getElem_cons_succ, ih hrest (Nat.lt_of_succ_lt_succ hi)]
        omega
    · -- the first entry exceeds the time, and so do all others
      have hnone : (x :: rest).countP (· ≤ y) = 0 := by
        rw [List.countP_eq_zero]
        intro z hz
        rcases List.mem_cons.1 hz with rfl | hz
        · simpa using hxy
        · have := hx z hz
          simp only [decide_eq_true_eq]
          omega
      have hexceeds : y < (x :: rest)[i] := by
        have := List.getElem_mem hi
        rcases List.mem_cons.1 this with heq | hmem
        · omega
        · have := hx _ hmem
          omega
      rw [hnone]
      omega

/-! ## Ranks -/

/-- A percentile of some times: the least of them that so many of a hundred do not exceed. -/
structure NearestRank (p : Nat) (times : List Nat) (x : Nat) : Prop where
  /-- It is one of the times. -/
  mem : x ∈ times
  /-- So many of a hundred do not exceed it. -/
  enough : p * times.length ≤ 100 * times.countP (· ≤ x)
  /-- Of no lesser time can that be said. -/
  least : ∀ y ∈ times, p * times.length ≤ 100 * times.countP (· ≤ y) → x ≤ y

/-- There is one percentile at most. -/
theorem NearestRank.unique {p : Nat} {times : List Nat} {x y : Nat} (hx : NearestRank p times x)
    (hy : NearestRank p times y) : x = y :=
  Nat.le_antisymm (hx.least y hy.mem hy.enough) (hy.least x hx.mem hx.enough)

/-- The place of a percentile in a sorted list. -/
def percentilePlace (p count : Nat) : Nat := max 1 (min ((p * count + 99) / 100) count) - 1

/-- The place is one of the list. -/
theorem percentilePlace_lt {p count : Nat} (hcount : 0 < count) : percentilePlace p count < count := by
  unfold percentilePlace
  omega

/-- A count is enough exactly if it is beyond the place of the percentile. -/
theorem percentilePlace_lt_iff {p count c : Nat} (hp : p ≤ 100) (hc : 0 < c) :
    percentilePlace p count < c ↔ p * count ≤ 100 * c := by
  have hrank : (p * count + 99) / 100 ≤ count := by
    rw [← Nat.lt_succ_iff, Nat.div_lt_iff_lt_mul (by decide)]
    have := Nat.mul_le_mul_right count hp
    omega
  unfold percentilePlace
  rw [Nat.min_eq_left hrank]
  omega

/-- The percentile of a sorted list is its entry at that place. -/
theorem percentile_eq_getElem {sorted : List Nat} {p : Nat}
    (hplace : percentilePlace p sorted.length < sorted.length) :
    percentile sorted p = sorted[percentilePlace p sorted.length] := List.getD_eq_getElem _ _ hplace

/-- **The entry at the rank is the percentile.** -/
theorem nearestRank_percentile {p : Nat} (hp : p ≤ 100) {times : List Nat} (h : times ≠ []) :
    NearestRank p times (percentile (sortBy (fun a b => a ≤ b) times) p) := by
  rw [sortBy_le_eq_insertionSort]
  have hperm := List.perm_insertionSort (· ≤ ·) times
  have hsorted : (times.insertionSort (· ≤ ·)).Pairwise (· ≤ ·) := List.pairwise_insertionSort _ times
  generalize times.insertionSort (· ≤ ·) = sorted at hperm hsorted
  have hlength : 0 < sorted.length := by
    rw [hperm.length_eq]
    exact List.length_pos_iff.2 h
  have hplace := percentilePlace_lt (p := p) hlength
  rw [percentile_eq_getElem hplace]
  refine ⟨hperm.mem_iff.1 (List.getElem_mem hplace), ?_, ?_⟩
  · have hself := (getElem_le_iff hsorted hplace _).1 (Nat.le_refl _)
    rw [← hperm.length_eq, ← hperm.countP_eq]
    exact (percentilePlace_lt_iff hp (Nat.zero_lt_of_lt hself)).1 hself
  · intro y hy henough
    -- at least the time itself does not exceed itself
    have hpos : 0 < sorted.countP (· ≤ y) :=
      List.countP_pos_iff.2 ⟨y, hperm.mem_iff.2 hy, by simp⟩
    rw [← hperm.length_eq, ← hperm.countP_eq] at henough
    exact (getElem_le_iff hsorted hplace y).2 ((percentilePlace_lt_iff hp hpos).2 henough)

/-- The entry at the rank, and nothing else, is the percentile. -/
theorem nearestRank_iff {p : Nat} (hp : p ≤ 100) {times : List Nat} (h : times ≠ []) {x : Nat} :
    NearestRank p times x ↔ x = percentile (sortBy (fun a b => a ≤ b) times) p := by
  have hrank := nearestRank_percentile hp h
  constructor
  · intro hx
    exact hx.unique hrank
  · rintro rfl
    exact hrank

/-! ## Ranks in doubles -/

section Doubles

open Double Float.Model Float.Model.UnpackedFloat

/-- A hundred, as its mantissa and exponent. -/
theorem unpack_hundred :
    (100.0 : Float).toModel.unpack = .finite .positive (25 * 2 ^ 48) (-46) (by decide) := by rfl

theorem worth_hundred : worth 100.0 = 100 := by
  unfold worth
  rw [unpack_hundred]
  show ((25 * 2 ^ 48 : Nat) : ℚ) * 2 ^ (-46 : ℤ) = 100
  norm_num

/-- The place of a percentile if its rank is rounded up from a quotient of doubles. -/
def placeInDoubles (p count : Nat) : Nat :=
  max 1 (min ⌈worth (Float.ofNat p * Float.ofNat count / 100.0)⌉₊ count) - 1

variable {p count : Nat} (hp : p ≤ 100) (hcount : count ≤ 2 ^ 46)
include hp hcount

/-- The product is exact, and the quotient is rounded. -/
theorem rounded_rank :
    Rounded (p * count / 100) (Float.ofNat p * Float.ofNat count / 100.0).toModel.unpack := by
  have hnonneg : (0 : ℚ) ≤ p * count := by positivity
  have hproduct : p * count ≤ 2 ^ 53 := by
    have := Nat.mul_le_mul hp hcount
    omega
  have hcast : (p * count : ℚ) ≤ 2 ^ 53 := by exact_mod_cast hproduct
  have hsmall : (p * count : ℚ) ≤ 2 ^ 971 := hcast.trans (pow_le_pow_right₀ one_le_two (by decide))
  have hnumber : IsNumber (100.0 : Float).toModel.unpack := by
    rw [unpack_hundred]
    exact .finite ⟨by decide, by decide, Or.inl (by decide)⟩
  have hmul := rounded_mul_double (rounded_ofNat_of_small (n := p) (by omega)).number
    (rounded_ofNat_of_small (n := count) (by omega)).number
    (by
      rw [worth_ofNat (by omega), worth_ofNat (by omega), abs_of_nonneg hnonneg]
      exact hsmall)
  rw [worth_ofNat (by omega), worth_ofNat (by omega)] at hmul
  have hexact : worth (Float.ofNat p * Float.ofNat count) = p * count := by
    refine hmul.eq ?_
    have hwhole := representable_count hproduct
    rwa [Nat.cast_mul] at hwhole
  have hdiv := rounded_div_double hmul.number hnumber
    (by
      rw [worth_hundred]
      norm_num)
    (by
      rw [worth_hundred, hexact, abs_of_nonneg (div_nonneg hnonneg (by norm_num))]
      exact (div_le_self hnonneg (by norm_num)).trans hsmall)
  rwa [worth_hundred, hexact] at hdiv

/-- **The rank comes out the same if it is rounded up from a double.** -/
theorem ceil_rank : ⌈worth (Float.ofNat p * Float.ofNat count / 100.0)⌉₊ = (p * count + 99) / 100 := by
  have hround := rounded_rank hp hcount
  have hproduct := Nat.mul_le_mul hp hcount
  rw [← Nat.cast_mul] at hround
  generalize p * count = total at hround hproduct ⊢
  apply le_antisymm
  · rw [Nat.ceil_le]
    refine hround.value_le _ (representable_count (by omega)) ?_
    rw [div_le_iff₀ (by norm_num)]
    exact_mod_cast (by omega : total ≤ (total + 99) / 100 * 100)
  · rcases Nat.eq_zero_or_pos ((total + 99) / 100) with hzero | hpos
    · rw [hzero]
      exact Nat.zero_le _
    · obtain ⟨k, hk⟩ := Nat.exists_eq_succ_of_ne_zero hpos.ne'
      -- the quotient is a hundredth above `k` at least, and doubles have room for seven bits behind the point
      have hbelow : ((k * 128 + 1 : ℤ) : ℚ) / 2 ^ 7 ≤ total / 100 := by
        rw [div_le_div_iff₀ (by norm_num) (by norm_num)]
        exact_mod_cast (by omega : (k * 128 + 1) * 100 ≤ total * 2 ^ 7)
      have hrepresentable : Representable (((k * 128 + 1 : ℤ) : ℚ) / 2 ^ 7) := by
        refine representable_fraction ?_ (by decide)
        rw [abs_of_nonneg (by omega)]
        omega
      have hle := hround.le_value _ hrepresentable hbelow
      rw [hk, Nat.succ_le_iff, Nat.lt_ceil]
      refine lt_of_lt_of_le ?_ hle
      rw [lt_div_iff₀ (by norm_num)]
      push_cast
      norm_num

/-- So the place is the same. -/
theorem placeInDoubles_eq : placeInDoubles p count = percentilePlace p count := by
  rw [placeInDoubles, ceil_rank hp hcount, percentilePlace]

omit hcount in
/-- The entry at the place in doubles is the percentile. -/
theorem getElem?_placeInDoubles {times : List Nat} (htimes : times ≠ []) (hlength : times.length ≤ 2 ^ 46) :
    let sorted := sortBy (fun a b => a ≤ b) times
    sorted[placeInDoubles p times.length]? = some (percentile sorted p) := by
  intro sorted
  have hsame : sorted.length = times.length := by
    rw [show sorted = _ from sortBy_le_eq_insertionSort times, List.length_insertionSort]
  have hplace : percentilePlace p sorted.length < sorted.length := by
    rw [hsame]
    exact percentilePlace_lt (List.length_pos_iff.2 htimes)
  rw [placeInDoubles_eq hp hlength, percentile_eq_getElem hplace, ← hsame]
  exact List.getElem?_eq_getElem hplace

end Doubles

/-! ## Stages -/

namespace StageLog

variable (window : Nat) (runs : List StageRun)

/-- The counts of a stage are those of its runs. -/
theorem counts_summary_ofRuns : (ofRuns window runs).summary.invocations = runs.length
    ∧ (ofRuns window runs).summary.successes = runs.countP (·.success)
    ∧ (ofRuns window runs).summary.failures = runs.countP (!·.success) := by
  unfold summary
  rw [ofRuns_eq]
  exact ⟨rfl, rfl, rfl⟩

/-- The percentiles of a stage are those of the times that its window has room for. -/
theorem percentiles_summary_ofRuns :
    let times := (runs.map (·.latency)).rtake (max window 1)
    (ofRuns window runs).summary.p95Latency = percentile (sortBy (fun a b => a ≤ b) times) 95
    ∧ (ofRuns window runs).summary.p99Latency = percentile (sortBy (fun a b => a ≤ b) times) 99 := by
  intro times
  unfold summary
  rw [ofRuns_eq]
  exact ⟨rfl, rfl⟩

end StageLog

/-- A window has room for the latest time. -/
theorem rtake_window_ne_nil {times : List Nat} (h : times ≠ []) (window : Nat) :
    times.rtake (max window 1) ≠ [] := by
  have hlength := List.length_pos_iff.2 h
  rw [← List.length_pos_iff, List.rtake, List.length_drop]
  omega

/-! ## The main statement -/

/-- **The percentiles of a stage are those of its window.**  After any entries nothing is shown of a stage that did
not run since the last reset.  Of any other stage the number of its runs since then is shown, which is that of
those that did not fail and of those that did; and the percentiles are the least of its latest times, as many as
the window has room for, but at least one, that ninety-five and ninety-nine of a hundred of these times do not
exceed.  They stand in the sorted times at the places that come of ranks in doubles, for any number of times up
to `2 ^ 46`.  Whatever other stages did might as well be left out. -/
theorem stages_show_their_percentiles (window : Nat) (entries : List Timings.Entry) (stage : String) :
    let runs := Timings.runsOf stage entries
    let times := (runs.map (·.latency)).rtake (max window 1)
    (match (Timings.after window entries).stage? stage with
      | none => runs = []
      | some shown => runs ≠ []
        ∧ shown.invocations = runs.length
        ∧ shown.invocations = shown.successes + shown.failures
        ∧ shown.successes = runs.countP (·.success)
        ∧ (∀ x, NearestRank 95 times x ↔ x = shown.p95Latency)
        ∧ (∀ x, NearestRank 99 times x ↔ x = shown.p99Latency)
        ∧ (times.length ≤ 2 ^ 46 →
          let sorted := sortBy (fun a b => a ≤ b) times
          sorted[placeInDoubles 95 times.length]? = some shown.p95Latency
          ∧ sorted[placeInDoubles 99 times.length]? = some shown.p99Latency))
    ∧ (Timings.after window (entries.filter (·.concerns stage))).stage? stage
        = (Timings.after window entries).stage? stage := by
  intro runs times
  constructor
  · rw [Timings.stage?_after]
    by_cases hnone : Timings.runsOf stage entries = []
    · rw [if_pos hnone]
      exact hnone
    · rw [if_neg hnone]
      have htimes : times ≠ [] := rtake_window_ne_nil (by simpa [runs] using hnone) window
      obtain ⟨hinvocations, hsuccesses, hfailures⟩ := StageLog.counts_summary_ofRuns window runs
      obtain ⟨hp95, hp99⟩ := StageLog.percentiles_summary_ofRuns window runs
      refine ⟨hnone, hinvocations, ?_, hsuccesses, ?_, ?_, fun hlength => ?_⟩
      · rw [hinvocations, hsuccesses, hfailures]
        simpa using List.length_eq_countP_add_countP (fun r : StageRun => r.success) (l := runs)
      · intro x
        rw [hp95]
        exact nearestRank_iff (by decide) htimes
      · intro x
        rw [hp99]
        exact nearestRank_iff (by decide) htimes
      · rw [hp95, hp99]
        exact ⟨getElem?_placeInDoubles (by decide) htimes hlength,
          getElem?_placeInDoubles (by decide) htimes hlength⟩
  · rw [Timings.stage?_after, Timings.stage?_after, Timings.runsOf_filter_concerns]

end Arbiter
