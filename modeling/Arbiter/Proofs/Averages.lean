import Arbiter.Proofs.Stages
import Arbiter.Proofs.Worth
/-!
# How near the average is to the mean

A stage does not keep the times of all its runs, and so its average is moved by every run: by the difference to
the new time, over the number of runs, and what is left of a nanosecond is cut off.  The mean would not be cut off,
and what one run loses is not made up for by the next.

1. **One run.**  The average is computed in doubles, but on the way no number is passed that has 53 bits and no more
   of them in its distance to the average (`le_worth_movedDouble`, `worth_movedDouble_le`).  Whole numbers are
   such, and so the average is less than a nanosecond away from where the mean moves (`drift_nextAverage`).
2. **All runs** (`drift_ofRuns`).  By induction on the runs, what was lost adds up: the average of `n` runs is
   `(n - 1) / 2` nanoseconds at most from the mean of their times.  It lies between the least and the greatest
   of them (`average_between`), and if the doubles have room for fractions it is not above the mean
   (`average_le_mean`).
3. **The worst runs** (`average_climbing`).  If the times climb by a nanosecond, every run loses as much as it
   can: the average stays at nothing, and the mean is at `(n - 1) / 2`.
-/

namespace Arbiter

open Double

/-! ## One run -/

/-- Where the mean moves from an average of so many runs with one more. -/
def movedMean (average before latency : Nat) : ℚ := average + (latency - average) / ((before + 1 : Nat) : ℚ)

/-- The same in doubles. -/
def movedDouble (average before latency : Nat) : Float :=
  Float.ofNat average + (Float.ofNat latency - Float.ofNat average) / Float.ofNat (before + 1)

section Step

variable {average before latency : Nat}

/-- The moved mean is the mean of as many runs at the average, and of the one more. -/
theorem movedMean_eq :
    movedMean average before latency = (before * average + latency : Nat) / ((before + 1 : Nat) : ℚ) := by
  have hne : ((before + 1 : Nat) : ℚ) ≠ 0 := by exact_mod_cast before.succ_ne_zero
  unfold movedMean
  rw [eq_div_iff hne, add_mul, div_mul_cancel₀ _ hne]
  push_cast
  ring

/-- Whether the moved mean has reached a whole number is a question about natural numbers. -/
theorem le_movedMean_iff {c : Nat} :
    c ≤ movedMean average before latency ↔ c * (before + 1) ≤ before * average + latency := by
  rw [movedMean_eq, le_div_iff₀ (by exact_mod_cast before.succ_pos)]
  exact_mod_cast Iff.rfl

theorem movedMean_le_iff {c : Nat} :
    movedMean average before latency ≤ c ↔ before * average + latency ≤ c * (before + 1) := by
  rw [movedMean_eq, div_le_iff₀ (by exact_mod_cast before.succ_pos)]
  exact_mod_cast Iff.rfl

/-- The last number with `k` bits behind the point that is below the next whole number is not passed by a mean
below the next whole number, if there are that many runs at most. -/
theorem movedMean_le_below {c k : Nat} (hk : before < 2 ^ k)
    (hlt : before * average + latency < (c + 1) * (before + 1)) :
    movedMean average before latency ≤ (((c + 1) * 2 ^ k - 1 : ℤ) : ℚ) / 2 ^ k := by
  have htotal : ((before * average + latency : Nat) : ℚ) + 1 ≤ (c + 1) * ((before + 1 : Nat) : ℚ) := by
    exact_mod_cast hlt
  have hcount : ((before + 1 : Nat) : ℚ) ≤ 2 ^ k := by exact_mod_cast hk
  have hscaled := mul_le_mul_of_nonneg_right htotal (by positivity : (0 : ℚ) ≤ 2 ^ k)
  rw [movedMean_eq, div_le_div_iff₀ (by exact_mod_cast before.succ_pos) (by positivity)]
  rw [Int.cast_sub, Int.cast_mul, Int.cast_add, Int.cast_pow, Int.cast_natCast, Int.cast_one, Int.cast_ofNat]
  linarith

/-- From a whole number to the next there is room for `k` bits behind the point. -/
def Room (k n : Nat) : Prop := (n + 1) * 2 ^ k ≤ 2 ^ 53

instance (k n : Nat) : Decidable (Room k n) := inferInstanceAs (Decidable (_ ≤ _))

/-- Below a number there is no less room. -/
theorem Room.mono {k m n : Nat} (hmn : m ≤ n) (h : Room k n) : Room k m :=
  le_trans (Nat.mul_le_mul_right _ (Nat.succ_le_succ hmn)) h

/-- Where there is room at all, the next whole number is exact. -/
theorem Room.le {k n : Nat} (h : Room k n) : n + 1 ≤ 2 ^ 53 :=
  le_trans (Nat.le_mul_of_pos_right (n + 1) (Nat.two_pow_pos k)) h

/-- That last number is a double, and so is its distance from the average, if there is room for both. -/
theorem representable_below {c k : Nat} (hroom : Room k average) (hroom' : Room k c) :
    Representable ((((c + 1) * 2 ^ k - 1 : ℤ) : ℚ) / 2 ^ k) ∧
    Representable ((((c + 1) * 2 ^ k - 1 : ℤ) : ℚ) / 2 ^ k - average) := by
  have hpower : 2 ^ k ≤ 2 ^ 53 := le_trans (Nat.le_mul_of_pos_left _ c.succ_pos) hroom'
  have hk : k ≤ 53 := (Nat.pow_le_pow_iff_right (by decide)).1 hpower
  have hone : (1 : ℤ) ≤ (c + 1) * 2 ^ k := by exact_mod_cast Nat.mul_pos c.succ_pos (Nat.two_pow_pos k)
  have hle : ((c + 1) * 2 ^ k : ℤ) ≤ 2 ^ 53 := by exact_mod_cast hroom'
  have hnonneg : (0 : ℤ) ≤ average * 2 ^ k := by positivity
  have haverage : (average * 2 ^ k : ℤ) ≤ 2 ^ 53 := by
    exact_mod_cast le_trans (Nat.mul_le_mul_right _ average.le_succ) hroom
  have hdifference : (((c + 1) * 2 ^ k - 1 : ℤ) : ℚ) / 2 ^ k - average
      = (((c + 1) * 2 ^ k - 1 - average * 2 ^ k : ℤ) : ℚ) / 2 ^ k := by
    push_cast
    field_simp
  rw [hdifference]
  constructor
  · refine representable_fraction ?_ (by omega)
    rw [abs_le]
    constructor <;> linarith
  · refine representable_fraction ?_ (by omega)
    rw [abs_le]
    constructor <;> linarith

section Doubles

variable (haverage : average ≤ 2 ^ 53) (hlatency : latency ≤ 2 ^ 53)
include haverage hlatency

/-- A share of a difference is not greater than what it is a share of. -/
theorem abs_share_le : |((latency : ℚ) - average) / ((before + 1 : Nat) : ℚ)| ≤ 2 ^ 53 := by
  have hone : (1 : ℚ) ≤ ((before + 1 : Nat) : ℚ) := by exact_mod_cast before.succ_pos
  rw [abs_div, abs_of_nonneg (zero_le_one.trans hone)]
  exact le_trans (div_le_self (abs_nonneg _) hone) (abs_difference_le hlatency haverage)

variable (hbefore : before < 2 ^ 53)
include hbefore

/-- The difference is exact, and its share is rounded. -/
theorem rounded_share : Rounded ((latency - average) / ((before + 1 : Nat) : ℚ))
    ((Float.ofNat latency - Float.ofNat average) / Float.ofNat (before + 1)).toModel.unpack := by
  have hroom : (2 : ℚ) ^ 53 ≤ 2 ^ 971 := pow_le_pow_right₀ one_le_two (by decide)
  have hdifference := rounded_sub_double (rounded_ofNat_of_small hlatency).number
    (rounded_ofNat_of_small haverage).number
    (by
      rw [worth_ofNat hlatency, worth_ofNat haverage]
      exact (abs_difference_le hlatency haverage).trans hroom)
  rw [worth_ofNat hlatency, worth_ofNat haverage] at hdifference
  have hexact : worth (Float.ofNat latency - Float.ofNat average) = latency - average :=
    hdifference.eq (representable_difference hlatency haverage)
  have hshare := rounded_div_double hdifference.number (rounded_ofNat_of_small hbefore).number
    (by rw [worth_ofNat hbefore]; exact_mod_cast before.succ_ne_zero)
    (by
      rw [worth_ofNat hbefore, hexact]
      exact (abs_share_le haverage hlatency).trans hroom)
  rwa [worth_ofNat hbefore, hexact] at hshare

/-- The moved double is rounded twice: its share, and the sum. -/
theorem rounded_movedDouble : Rounded
    (average + worth ((Float.ofNat latency - Float.ofNat average) / Float.ofNat (before + 1)))
    (movedDouble average before latency).toModel.unpack := by
  have hroom : (2 : ℚ) ^ 53 + 2 ^ 53 ≤ 2 ^ 971 :=
    le_trans (by norm_num) (pow_le_pow_right₀ one_le_two (by decide : 54 ≤ 971))
  have hshare := rounded_share haverage hlatency hbefore
  have hsize : |worth ((Float.ofNat latency - Float.ofNat average) / Float.ofNat (before + 1))| ≤ 2 ^ 53 :=
    hshare.abs_value_le (representable_two_pow (g := 53) (by decide)) (abs_share_le haverage hlatency)
  have hsum := rounded_add_double (rounded_ofNat_of_small haverage).number hshare.number
    (by
      rw [worth_ofNat haverage]
      have ha : |(average : ℚ)| ≤ 2 ^ 53 := by exact_mod_cast haverage
      exact (abs_add_le _ _).trans ((add_le_add ha hsize).trans hroom))
  rwa [worth_ofNat haverage] at hsum

/-- **On the way to the next average no number is passed that has 53 bits**, and no more of them in its
distance to the average. -/
theorem le_worth_movedDouble {y : ℚ} (hy : Representable y) (hdistance : Representable (y - average))
    (hle : y ≤ movedMean average before latency) : y ≤ worth (movedDouble average before latency) := by
  unfold movedMean at hle
  have hshare := (rounded_share haverage hlatency hbefore).le_value _ hdistance (by linarith)
  exact (rounded_movedDouble haverage hlatency hbefore).le_value y hy (by unfold worth; linarith)

/-- The moved double does not pass a bound that is not passed by the moved mean, if the bound is exact. -/
theorem worth_movedDouble_le {y : ℚ} (hy : Representable y) (hdistance : Representable (y - average))
    (hle : movedMean average before latency ≤ y) : worth (movedDouble average before latency) ≤ y := by
  unfold movedMean at hle
  have hshare := (rounded_share haverage hlatency hbefore).value_le _ hdistance (by linarith)
  exact (rounded_movedDouble haverage hlatency hbefore).value_le y hy (by unfold worth; linarith)

/-- The next average, after the first run. -/
theorem nextAverage_eq (hpos : before ≠ 0) : nextAverage average (before + 1) latency
    = min ⌊worth (movedDouble average before latency)⌋₊ Numeral.maxWord := by
  have hzero : (0 : ℚ) ≤ worth (movedDouble average before latency) := by
    have hle := le_worth_movedDouble haverage hlatency hbefore (y := (0 : Nat)) (representable_count (by decide))
      (representable_difference (by decide) haverage) (le_movedMean_iff.2 (by omega))
    rwa [Nat.cast_zero] at hle
  rw [nextAverage, if_neg (by omega)]
  exact toWord_truncate (rounded_movedDouble haverage hlatency hbefore).number hzero

section Whole

variable {c : Nat} (hc : c ≤ 2 ^ 53)
include hc

/-- The next average is not below a whole number that the moved mean is not below. -/
theorem le_nextAverage (hle : c * (before + 1) ≤ before * average + latency) :
    c ≤ nextAverage average (before + 1) latency := by
  by_cases hpos : before = 0
  · subst hpos
    show c ≤ latency
    omega
  · have hworth := le_worth_movedDouble haverage hlatency hbefore (representable_count hc)
      (representable_difference hc haverage) (le_movedMean_iff.2 hle)
    rw [nextAverage_eq haverage hlatency hbefore hpos, Numeral.maxWord]
    have := Nat.le_floor hworth
    omega

/-- Nor is it above one that the moved mean is not above. -/
theorem nextAverage_le (hle : before * average + latency ≤ c * (before + 1)) :
    nextAverage average (before + 1) latency ≤ c := by
  by_cases hpos : before = 0
  · subst hpos
    show latency ≤ c
    omega
  · have hworth := worth_movedDouble_le haverage hlatency hbefore (representable_count hc)
      (representable_difference hc haverage) (movedMean_le_iff.2 hle)
    rw [nextAverage_eq haverage hlatency hbefore hpos]
    exact le_trans (Nat.min_le_left _ _) (Nat.floor_le_of_le hworth)

end Whole

/-- The average moves towards the new time, and not past it. -/
theorem nextAverage_between : min average latency ≤ nextAverage average (before + 1) latency ∧
    nextAverage average (before + 1) latency ≤ max average latency := by
  constructor
  · refine le_nextAverage haverage hlatency hbefore (by omega) ?_
    have := Nat.mul_le_mul_left before (Nat.min_le_left average latency)
    rw [Nat.mul_comm _ (before + 1), Nat.succ_mul]
    omega
  · refine nextAverage_le haverage hlatency hbefore (by omega) ?_
    have := Nat.mul_le_mul_left before (Nat.le_max_left average latency)
    rw [Nat.mul_comm _ (before + 1), Nat.succ_mul]
    omega

/-- **One run loses less than a nanosecond**, either way. -/
theorem drift_nextAverage :
    before * average + latency ≤ (before + 1) * nextAverage average (before + 1) latency + before ∧
    (before + 1) * nextAverage average (before + 1) latency ≤ before * average + latency + before := by
  have hpos : 0 < before + 1 := before.succ_pos
  have htotal : before * average + latency ≤ (before + 1) * 2 ^ 53 := by
    have := Nat.mul_le_mul_left before haverage
    omega
  generalize hN : before * average + latency = N at htotal ⊢
  constructor
  · -- the whole part of where the mean moves
    have hdiv := Nat.div_add_mod N (before + 1)
    have hrest := Nat.mod_lt N hpos
    have hle := le_nextAverage haverage hlatency hbefore (Nat.div_le_of_le_mul htotal)
      (by rw [hN]; exact Nat.div_mul_le_self N (before + 1))
    have := Nat.mul_le_mul_left (before + 1) hle
    omega
  · -- the next whole number, if it is not one itself
    have hdiv := Nat.div_add_mod (N + before) (before + 1)
    have hrest := Nat.mod_lt (N + before) hpos
    have hle := nextAverage_le haverage hlatency hbefore (c := (N + before) / (before + 1))
      (Nat.le_of_lt_succ ((Nat.div_lt_iff_lt_mul hpos).2 (by omega)))
      (by rw [hN, Nat.mul_comm _ (before + 1)]; omega)
    have := Nat.mul_le_mul_left (before + 1) hle
    omega

/-- **If there is room for `k` bits behind the point, one run only cuts off**: nothing is rounded up to the next
whole number. -/
theorem nextAverage_eq_of_room {c k : Nat} (hc : (before * average + latency) / (before + 1) = c)
    (hk : before < 2 ^ k) (hroom : Room k average) (hroom' : Room k c) :
    nextAverage average (before + 1) latency = c := by
  have hsmall := hroom'.le
  have hdown : c * (before + 1) ≤ before * average + latency := hc ▸ Nat.div_mul_le_self _ _
  have hup : before * average + latency < (c + 1) * (before + 1) :=
    (Nat.div_lt_iff_lt_mul before.succ_pos).1 (hc ▸ c.lt_succ_self)
  apply le_antisymm
  · by_cases hfirst : before = 0
    · subst hfirst
      show latency ≤ c
      omega
    · obtain ⟨hbelow, hdistance⟩ := representable_below hroom hroom'
      have hworth := worth_movedDouble_le haverage hlatency hbefore hbelow hdistance (movedMean_le_below hk hup)
      rw [nextAverage_eq haverage hlatency hbefore hfirst]
      refine le_trans (Nat.min_le_left _ _) (Nat.le_of_lt_succ ((Nat.floor_lt' c.succ_ne_zero).2 ?_))
      refine lt_of_le_of_lt hworth ?_
      rw [div_lt_iff₀ (by positivity)]
      push_cast
      linarith
  · exact le_nextAverage haverage hlatency hbefore (by omega) hdown

/-- If there is room, the next average is the moved mean, cut off. -/
theorem nextAverage_eq_div {k : Nat} (hk : before < 2 ^ k) (hroom : Room k average) (hroom' : Room k latency) :
    nextAverage average (before + 1) latency = (before * average + latency) / (before + 1) := by
  refine nextAverage_eq_of_room haverage hlatency hbefore rfl hk hroom ?_
  have hcut : (before * average + latency) / (before + 1) ≤ max average latency := by
    refine Nat.div_le_of_le_mul ?_
    have := Nat.mul_le_mul_left before (Nat.le_max_left average latency)
    rw [Nat.succ_mul]
    omega
  rcases le_total average latency with hle | hle
  · exact hroom'.mono (hcut.trans (max_eq_right hle).le)
  · exact hroom.mono (hcut.trans (max_eq_left hle).le)

end Doubles

end Step

/-! ## All runs -/

/-- All the time that the runs took. -/
def totalLatency (runs : List StageRun) : Nat := (runs.map (·.latency)).sum

/-- The mean of how long the runs took. -/
def meanLatency (runs : List StageRun) : ℚ := totalLatency runs / runs.length

theorem totalLatency_concat (before : List StageRun) (r : StageRun) :
    totalLatency (before ++ [r]) = totalLatency before + r.latency := by
  unfold totalLatency
  rw [List.map_append, List.sum_append, List.map_singleton, List.sum_singleton]

/-- One more run moves the average. -/
theorem average_ofRuns_concat (window : Nat) (before : List StageRun) (r : StageRun) :
    (StageLog.ofRuns window (before ++ [r])).average
      = nextAverage (StageLog.ofRuns window before).average (before.length + 1) r.latency := by
  rw [StageLog.ofRuns_concat, StageLog.ofRuns_eq window before]
  rfl

/-- Runs that are neither too many nor too long for their counts and times to be exact in doubles. -/
structure ExactInDoubles (runs : List StageRun) : Prop where
  /-- How many there are. -/
  length_le : runs.length ≤ 2 ^ 53
  /-- How long they are. -/
  latency_le : ∀ r ∈ runs, r.latency ≤ 2 ^ 53

/-- If runs are exact in doubles, then so are those before the last one. -/
theorem ExactInDoubles.of_concat {before : List StageRun} {r : StageRun} (h : ExactInDoubles (before ++ [r])) :
    ExactInDoubles before ∧ before.length < 2 ^ 53 ∧ r.latency ≤ 2 ^ 53 := by
  have hlength := h.length_le
  rw [List.length_append, List.length_singleton] at hlength
  refine ⟨⟨by omega, ?_⟩, by omega, ?_⟩
  · intro r' hr'
    exact h.latency_le r' (List.mem_append_left [r] hr')
  · exact h.latency_le r (by simp)

section Runs

variable (window : Nat) {runs : List StageRun} (h : ExactInDoubles runs)
include h

/-- **The average lies between the least and the greatest time.** -/
theorem average_between (hne : runs ≠ []) :
    (∃ r ∈ runs, r.latency ≤ (StageLog.ofRuns window runs).average) ∧
    (∃ r ∈ runs, (StageLog.ofRuns window runs).average ≤ r.latency) := by
  induction runs using List.reverseRecOn with
  | nil => exact absurd rfl hne
  | append_singleton before r ih =>
    obtain ⟨hbefore, hlength, hlatency⟩ := h.of_concat
    rw [average_ofRuns_concat]
    by_cases hfirst : before = []
    · subst hfirst
      exact ⟨⟨r, by simp, le_rfl⟩, ⟨r, by simp, le_rfl⟩⟩
    · obtain ⟨⟨low, hlow, hle⟩, ⟨high, hhigh, hge⟩⟩ := ih hbefore hfirst
      have haverage := hge.trans (hbefore.latency_le high hhigh)
      have hbetween := nextAverage_between haverage hlatency hlength
      constructor
      · rcases le_total (StageLog.ofRuns window before).average r.latency with hup | hdown
        · rw [min_eq_left hup] at hbetween
          exact ⟨low, List.mem_append_left _ hlow, hle.trans hbetween.1⟩
        · rw [min_eq_right hdown] at hbetween
          exact ⟨r, by simp, hbetween.1⟩
      · rcases le_total (StageLog.ofRuns window before).average r.latency with hup | hdown
        · rw [max_eq_right hup] at hbetween
          exact ⟨r, by simp, hbetween.2⟩
        · rw [max_eq_left hdown] at hbetween
          exact ⟨high, List.mem_append_left _ hhigh, hbetween.2.trans hge⟩

/-- What is true of all the times, and of what is less, is true of the average. -/
theorem average_of_all {P : Nat → Prop} (hmono : ∀ m n, m ≤ n → P n → P m) (hzero : P 0)
    (hall : ∀ r ∈ runs, P r.latency) : P (StageLog.ofRuns window runs).average := by
  by_cases hne : runs = []
  · subst hne
    exact hzero
  · obtain ⟨-, r, hr, hle⟩ := average_between window h hne
    exact hmono _ _ hle (hall r hr)

/-- The average is exact in doubles, as the times are. -/
theorem average_small : (StageLog.ofRuns window runs).average ≤ 2 ^ 53 :=
  average_of_all window h (fun _ _ hmn hn => hmn.trans hn) (Nat.zero_le _) h.latency_le

/-- **What the runs lose adds up.**  The last of `n` runs loses `n - 1` parts of `n` at most, so that the time that
all runs took is missed by `0 + 1 + ... + (n - 1)` at most. -/
theorem drift_ofRuns :
    totalLatency runs ≤ runs.length * (StageLog.ofRuns window runs).average + runs.length.choose 2 ∧
    runs.length * (StageLog.ofRuns window runs).average ≤ totalLatency runs + runs.length.choose 2 := by
  induction runs using List.reverseRecOn with
  | nil => exact ⟨Nat.le_refl 0, Nat.le_refl 0⟩
  | append_singleton before r ih =>
    obtain ⟨hbefore, hlength, hlatency⟩ := h.of_concat
    have hdrift := drift_nextAverage (average_small window hbefore) hlatency hlength
    have hlost : (before.length + 1).choose 2 = before.length + before.length.choose 2 := by
      rw [Nat.choose_succ_succ', Nat.choose_one_right]
    have hsofar := ih hbefore
    rw [average_ofRuns_concat, totalLatency_concat, List.length_append, List.length_singleton, hlost]
    omega

/-- The average of `n` runs is at most `(n - 1) / 2` nanoseconds from their mean. -/
theorem abs_average_sub_mean_le (hne : runs ≠ []) :
    |((StageLog.ofRuns window runs).average : ℚ) - meanLatency runs| ≤ (runs.length - 1) / 2 := by
  have hpos : (0 : ℚ) < runs.length := by exact_mod_cast List.length_pos_of_ne_nil hne
  have hdrift := drift_ofRuns window h
  have hup : (totalLatency runs : ℚ) ≤ runs.length * (StageLog.ofRuns window runs).average
      + runs.length.choose 2 := by exact_mod_cast hdrift.1
  have hdown : runs.length * ((StageLog.ofRuns window runs).average : ℚ) ≤ totalLatency runs
      + runs.length.choose 2 := by exact_mod_cast hdrift.2
  rw [Nat.cast_choose_two] at hup hdown
  unfold meanLatency
  rw [abs_le]
  constructor
  · rw [le_sub_iff_add_le, ← le_sub_iff_add_le', div_le_iff₀ hpos]
    linarith
  · rw [sub_le_iff_le_add, ← sub_le_iff_le_add', le_div_iff₀ hpos]
    linarith

section Room

variable {k : Nat} (hk : runs.length ≤ 2 ^ k) (hroom : ∀ r ∈ runs, Room k r.latency)
include hk hroom

/-- The average, as often as there are runs, is not more than what they took in all. -/
theorem mul_average_le : runs.length * (StageLog.ofRuns window runs).average ≤ totalLatency runs := by
  induction runs using List.reverseRecOn with
  | nil => exact Nat.le_refl 0
  | append_singleton before r ih =>
    obtain ⟨hbefore, hlength, hlatency⟩ := h.of_concat
    rw [List.length_append, List.length_singleton] at hk
    have hroom' : ∀ r' ∈ before, Room k r'.latency := fun r' hr' => hroom r' (List.mem_append_left [r] hr')
    have hlast := hroom r (by simp)
    have haverage := average_of_all window hbefore (fun _ _ => Room.mono) (hlast.mono (Nat.zero_le _)) hroom'
    have hnext := nextAverage_eq_div (average_small window hbefore) hlatency hlength (by omega) haverage hlast
    have hwhole := Nat.mul_div_le
      (before.length * (StageLog.ofRuns window before).average + r.latency) (before.length + 1)
    have hsofar := ih hbefore (by omega) hroom'
    rw [average_ofRuns_concat, totalLatency_concat, List.length_append, List.length_singleton, hnext]
    omega

/-- **If there is room for fractions, the average is not above the mean**: all that is lost is cut off. -/
theorem average_le_mean (hne : runs ≠ []) :
    ((StageLog.ofRuns window runs).average : ℚ) ≤ meanLatency runs := by
  have hpos : (0 : ℚ) < runs.length := by exact_mod_cast List.length_pos_of_ne_nil hne
  rw [meanLatency, le_div_iff₀ hpos, mul_comm]
  exact_mod_cast mul_average_le window h hk hroom

end Room

end Runs

/-! ## The worst runs -/

/-- Runs that take longer by a nanosecond each time. -/
def climbing (count : Nat) : List StageRun := (List.range count).map fun latency => ⟨true, latency⟩

theorem climbing_succ (count : Nat) : climbing (count + 1) = climbing count ++ [⟨true, count⟩] := by
  unfold climbing
  rw [List.range_succ, List.map_append, List.map_singleton]

theorem length_climbing (count : Nat) : (climbing count).length = count := by
  unfold climbing
  rw [List.length_map, List.length_range]

/-- What they take in all is the number of pairs of them. -/
theorem totalLatency_climbing (count : Nat) : totalLatency (climbing count) = count.choose 2 := by
  induction count with
  | zero => rfl
  | succ count ih =>
    rw [climbing_succ, totalLatency_concat, ih, Nat.choose_succ_succ', Nat.choose_one_right, Nat.add_comm]

/-- Their mean is half of what the last one takes. -/
theorem meanLatency_climbing {count : Nat} (hpos : 0 < count) :
    meanLatency (climbing count) = (count - 1) / 2 := by
  have hne : (count : ℚ) ≠ 0 := by exact_mod_cast hpos.ne'
  unfold meanLatency
  rw [totalLatency_climbing, length_climbing, Nat.cast_choose_two]
  field_simp

/-- They are exact in doubles. -/
theorem exactInDoubles_climbing {count : Nat} (hcount : count ≤ 2 ^ 53) : ExactInDoubles (climbing count) := by
  constructor
  · rwa [length_climbing]
  · intro r hr
    obtain ⟨latency, hlatency, rfl⟩ := List.mem_map.1 hr
    exact (List.mem_range.1 hlatency).le.trans hcount

/-- **If the times climb, every run loses all that it should have moved the average by.** -/
theorem average_climbing (window : Nat) {count : Nat} (hcount : count ≤ 2 ^ 53) :
    (StageLog.ofRuns window (climbing count)).average = 0 := by
  induction count with
  | zero => rfl
  | succ count ih =>
    have hwhole : (count * 0 + count) / (count + 1) = 0 := Nat.div_eq_of_lt (by omega)
    rw [climbing_succ, average_ofRuns_concat, ih (by omega), length_climbing]
    exact nextAverage_eq_of_room (Nat.zero_le _) (Nat.le_of_succ_le hcount) hcount hwhole hcount
      (k := 53) (Nat.le_refl _) (Nat.le_refl _)

/-! ## What is shown -/

/-- The runs that are reported for a stage are the runs of the stage. -/
theorem runsOf_map_run (stage : String) (runs : List StageRun) :
    Timings.runsOf stage (runs.map (.run stage)) = runs := by
  induction runs using List.reverseRecOn with
  | nil => rfl
  | append_singleton before r ih =>
    rw [List.map_append, List.map_singleton, Timings.runsOf_concat_run, if_pos rfl, ih]

/-- **The average that is shown stays near to the mean**, but its distance grows with the runs.  After `n` runs of
a stage since the last reset it is at most `(n - 1) / 2` nanoseconds, and no less will do for any `n`.  Where
doubles have room behind the point for as many bits as the number of runs has, what is lost is only ever cut off,
and the average is not above the mean. -/
theorem averages_stay_near_the_mean (window : Nat) (stage : String) :
    (∀ entries, Timings.runsOf stage entries ≠ [] → ExactInDoubles (Timings.runsOf stage entries) →
      ∃ shown, (Timings.after window entries).stage? stage = some shown
        ∧ |(shown.averageLatency : ℚ) - meanLatency (Timings.runsOf stage entries)|
          ≤ ((Timings.runsOf stage entries).length - 1) / 2
        ∧ ∀ k, (Timings.runsOf stage entries).length ≤ 2 ^ k →
          (∀ r ∈ Timings.runsOf stage entries, Room k r.latency) →
          (shown.averageLatency : ℚ) ≤ meanLatency (Timings.runsOf stage entries))
    ∧ ∀ count, 0 < count → count ≤ 2 ^ 53 →
      ∃ entries shown, (Timings.runsOf stage entries).length = count
        ∧ ExactInDoubles (Timings.runsOf stage entries)
        ∧ (Timings.after window entries).stage? stage = some shown
        ∧ |(shown.averageLatency : ℚ) - meanLatency (Timings.runsOf stage entries)| = (count - 1) / 2 := by
  constructor
  · intro entries hran hexact
    refine ⟨(StageLog.ofRuns window (Timings.runsOf stage entries)).summary, ?_, ?_, fun k hk hroom => ?_⟩
    · rw [Timings.stage?_after, if_neg hran]
    · exact abs_average_sub_mean_le window hexact hran
    · exact average_le_mean window hexact hk hroom hran
  · intro count hpos hcount
    have hruns := runsOf_map_run stage (climbing count)
    have hne : climbing count ≠ [] := by
      intro hnil
      have hlength := length_climbing count
      rw [hnil] at hlength
      exact hpos.ne hlength
    refine ⟨(climbing count).map (.run stage), (StageLog.ofRuns window (climbing count)).summary,
      ?_, ?_, ?_, ?_⟩
    · rw [hruns, length_climbing]
    · rw [hruns]
      exact exactInDoubles_climbing hcount
    · rw [Timings.stage?_after, hruns, if_neg hne]
    · have hone : (1 : ℚ) ≤ count := by exact_mod_cast hpos
      have haverage : (StageLog.ofRuns window (climbing count)).summary.averageLatency = 0 :=
        average_climbing window hcount
      rw [hruns, haverage, meanLatency_climbing hpos, Nat.cast_zero, zero_sub, abs_neg, abs_of_nonneg]
      linarith

/-- Two runs. -/
theorem averages_stay_near_the_mean_twice :
    let entries : List Timings.Entry := [.run "load" ⟨true, 1⟩, .run "load" ⟨true, 2⟩]
    let mean := meanLatency (Timings.runsOf "load" entries)
    ∃ shown, (Timings.after 16 entries).stage? "load" = some shown
      ∧ |(shown.averageLatency : ℚ) - mean| ≤ ((Timings.runsOf "load" entries).length - 1) / 2
      ∧ (shown.averageLatency : ℚ) ≤ mean := by
  intro entries mean
  obtain ⟨shown, hshown, hnear, hbelow⟩ :=
    (averages_stay_near_the_mean 16 "load").1 entries (by decide) ⟨by decide, by decide⟩
  exact ⟨shown, hshown, hnear, hbelow 1 (by decide) (by decide)⟩

/-- Eleven runs are shown with an average of nothing, and have a mean of five nanoseconds. -/
theorem average_of_eleven_is_behind :
    ∃ shown, (Timings.after 16 ((climbing 11).map (.run "load"))).stage? "load" = some shown
      ∧ ¬ |(shown.averageLatency : ℚ)
          - meanLatency (Timings.runsOf "load" ((climbing 11).map (.run "load")))| < 2 := by
  refine ⟨⟨11, 11, 0, 0, 10, 10⟩, by decide +kernel, ?_⟩
  rw [runsOf_map_run, meanLatency_climbing (by decide)]
  norm_num

end Arbiter
