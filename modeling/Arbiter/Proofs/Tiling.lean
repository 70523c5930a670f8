import Mathlib.Algebra.Order.Floor.Semifield
import Mathlib.Data.Rat.Floor
import Arbiter.Proofs.Alignment
import Arbiter.Text.Numeral
/-!
# Shares tile what is dealt out

The size of a share is a quotient rounded up, and the number of shares is another one with that size below
the line.  Both roundings go the same way, and still there are never more shares than workers:

1. **Sizes** (`Crew.shareSize_eq_ceil`).  So many workers with a share each have enough (`count_le`), which
   bounds the number of shares from above (`Crew.shareCount_le`).
2. **Places.**  Every share but the last is followed by another one, so it is not cut short; and the last one
   begins before the end, so it is not empty (`Crew.start_lt`).
3. **Tiling** (`Crew.flatMap_places`): put one after the other, the places of the shares are all places in
   order.  For scores that is `Crew.score_eq_map`.
-/

namespace Arbiter

namespace Crew

/-! ## Sizes -/

/-- The size of a share is the quotient rounded up, and a crew of nobody counts as one worker. -/
theorem shareSize_eq_ceil (count workers : Nat) :
    shareSize count workers = ⌈(count : ℚ) / ((max workers 1 : Nat) : ℚ)⌉₊ := by
  have hpos : 0 < max workers 1 := by omega
  have hposRat : (0 : ℚ) < ((max workers 1 : Nat) : ℚ) := by exact_mod_cast hpos
  apply eq_of_forall_ge_iff
  intro size
  rw [Nat.ceil_le, div_le_iff₀ hposRat, shareSize]
  show (count + max workers 1 - 1) / max workers 1 ≤ size ↔ _
  rw [← Nat.lt_succ_iff, Nat.div_lt_iff_lt_mul hpos, Nat.succ_mul]
  norm_cast
  omega

/-- So many workers with a share each have enough. -/
theorem count_le (count workers : Nat) : count ≤ max workers 1 * shareSize count workers := by
  rw [Nat.mul_comm]
  exact le_mul_ceil (by omega)

/-- A share is no greater than what is dealt out. -/
theorem shareSize_le (count workers : Nat) : shareSize count workers ≤ count := by
  unfold shareSize
  rcases Nat.eq_zero_or_pos count with rfl | hcount
  · exact Nat.le_of_eq (Nat.div_eq_of_lt (by omega))
  · apply Nat.div_le_of_le_mul
    have hmul : max workers 1 + count ≤ max workers 1 * count + 1 := by
      obtain ⟨w, hw⟩ : ∃ w, max workers 1 = w + 1 := ⟨max workers 1 - 1, by omega⟩
      obtain ⟨c, rfl⟩ : ∃ c, count = c + 1 := ⟨count - 1, by omega⟩
      rw [hw, Nat.mul_succ, Nat.succ_mul]
      omega
    omega

/-- How many shares there are. -/
def shareCount (count workers : Nat) : Nat :=
  (count + shareSize count workers - 1) / shareSize count workers

/-- **There are no more shares than workers.** -/
theorem shareCount_le (count workers : Nat) : shareCount count workers ≤ max workers 1 := by
  have henough := count_le count workers
  unfold shareCount
  rcases Nat.eq_zero_or_pos (shareSize count workers) with hsize | hsize
  · rw [hsize, Nat.div_zero]
    exact Nat.zero_le _
  · rw [← Nat.lt_succ_iff, Nat.div_lt_iff_lt_mul hsize, Nat.succ_mul]
    omega

/-! ## Places -/

section Places

variable {count workers : Nat}

/-- Every share begins before the end. -/
theorem start_lt {i : Nat} (hi : i < shareCount count workers) : i * shareSize count workers < count := by
  unfold shareCount at hi
  rcases Nat.eq_zero_or_pos (shareSize count workers) with hsize | hsize
  · rw [hsize, Nat.div_zero] at hi
    omega
  · have hnext : (i + 1) * shareSize count workers ≤ count + shareSize count workers - 1 :=
      (Nat.le_div_iff_mul_le hsize).1 hi
    rw [Nat.succ_mul] at hnext
    omega

/-- The shares are cut one after the other; only the last one may be smaller. -/
theorem shares_eq (count workers : Nat) : shares count workers =
    (List.range (shareCount count workers)).map fun i => (i * shareSize count workers,
      min (i * shareSize count workers + shareSize count workers) count) := by
  unfold shares
  split
  · next hcount =>
    have hsize : shareSize count workers = 0 := by
      have := shareSize_le count workers
      omega
    rw [shareCount, hsize, Nat.div_zero]
    rfl
  · rfl

/-- There are no more shares than workers. -/
theorem length_shares_le (count workers : Nat) : (shares count workers).length ≤ max workers 1 := by
  rw [shares_eq, List.length_map, List.length_range]
  exact shareCount_le count workers

theorem mem_shares {share : Nat × Nat} (h : share ∈ shares count workers) :
    ∃ i < shareCount count workers, share = (i * shareSize count workers,
      min (i * shareSize count workers + shareSize count workers) count) := by
  rw [shares_eq] at h
  obtain ⟨i, hi, rfl⟩ := List.mem_map.1 h
  exact ⟨i, List.mem_range.1 hi, rfl⟩

/-- What is not the last share is followed by another one. -/
theorem mem_dropLast_shares {share : Nat × Nat} (h : share ∈ (shares count workers).dropLast) :
    ∃ i, i + 1 < shareCount count workers ∧ share = (i * shareSize count workers,
      min (i * shareSize count workers + shareSize count workers) count) := by
  rw [shares_eq, ← List.map_dropLast, List.dropLast_eq_take, List.length_range, List.take_range] at h
  obtain ⟨i, hi, rfl⟩ := List.mem_map.1 h
  have hbefore := List.mem_range.1 hi
  exact ⟨i, by omega, rfl⟩

/-- A piece of all places, from one place to another. -/
theorem take_drop_range {start stop : Nat} (h : stop ≤ count) :
    ((List.range count).drop start).take (stop - start) = List.range' start (stop - start) := by
  rw [List.range_eq_range', List.drop_range', List.take_range'_of_length_ge (by omega), Nat.zero_add,
    Nat.mul_one]

/-- **The places of the shares, one after the other, are all places in order.** -/
theorem flatMap_places (count workers : Nat) :
    (shares count workers).flatMap (fun (start, stop) => List.range' start (stop - start))
      = List.range count := by
  rcases Nat.eq_zero_or_pos count with rfl | hcount
  · rfl
  · have hsize := shareSize_pos workers hcount
    have htiles := flatMap_pieces (List.range count) (shareSize count workers) (shareCount count workers)
    rw [List.length_range, List.take_of_length_le
      (by rw [List.length_range]; exact le_mul_ceil hsize)] at htiles
    rw [shares_eq, List.flatMap_map]
    simp only [take_drop_range (Nat.min_le_right _ count)] at htiles
    exact htiles

end Places

end Crew

/-! ## The main statement -/

/-- **Scoring in shares is scoring in order.**  The scores that a crew gives are those of the rules one by one,
however many workers there are.  So many items are dealt out in shares that are not empty, follow each other
from the first place to the last without a gap, and are no more than there are workers, or one if there are
none.  All shares have the same size, the quotient rounded up, but the last one may be smaller; and up to the
greatest length of a slice no bound that is computed on the way is beyond a word. -/
theorem shares_tile_the_rules :
    (∀ (p : Crew) (m : Learner) (rules : List Rule) (context : Context),
      p.score m rules context = rules.map fun r => m.score r context)
    ∧ ∀ count workers : Nat,
      let shares := Crew.shares count workers
      let size := ⌈(count : ℚ) / ((max workers 1 : Nat) : ℚ)⌉₊
      (∀ share ∈ shares, share.1 < share.2)
      ∧ shares.flatMap (fun (start, stop) => List.range' start (stop - start)) = List.range count
      ∧ shares.length ≤ max workers 1
      ∧ (∀ share ∈ shares.dropLast, share.2 = share.1 + size)
      ∧ (∀ share ∈ shares, share.2 ≤ share.1 + size)
      ∧ (count < 2 ^ 63 → ∀ share ∈ shares, share.1 + size ≤ Numeral.maxWord) := by
  refine ⟨Crew.score_eq_map, fun count workers => ?_⟩
  intro shares size
  have hsize : size = Crew.shareSize count workers := (Crew.shareSize_eq_ceil count workers).symm
  rw [hsize]
  have hmost := Crew.shareSize_le count workers
  refine ⟨?_, Crew.flatMap_places count workers, Crew.length_shares_le count workers, ?_, ?_, ?_⟩
  · intro share hshare
    obtain ⟨i, hi, rfl⟩ := Crew.mem_shares hshare
    have hstart := Crew.start_lt hi
    have hpos := Crew.shareSize_pos workers (Nat.zero_lt_of_lt hstart)
    dsimp only
    omega
  · intro share hshare
    obtain ⟨i, hi, rfl⟩ := Crew.mem_dropLast_shares hshare
    -- the next share begins before the end, and there this one ends
    have hnext := Crew.start_lt hi
    rw [Nat.succ_mul] at hnext
    dsimp only
    omega
  · intro share hshare
    obtain ⟨i, -, rfl⟩ := Crew.mem_shares hshare
    exact Nat.min_le_left _ _
  · intro hslice share hshare
    obtain ⟨i, hi, rfl⟩ := Crew.mem_shares hshare
    have hstart := Crew.start_lt hi
    show i * Crew.shareSize count workers + Crew.shareSize count workers ≤ 2 ^ 64 - 1
    omega

end Arbiter
