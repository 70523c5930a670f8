import Arbiter.Proofs.UnitInterval
/-!
# Shares

The share of evaluations that matched is a quotient of two counts, and both counts are rounded before they
are divided, if they are great enough.  It is in the interval all the same:

1. **Counts** (`unpack_ofNat`).  A count in a word has one of two ways to its double, a short one for small
   counts and one through powers of ten for all others.  Both lead to the same rounding (`countOf`),
   since a mantissa of 53 bits is not changed by it, however many noughts are put behind
   (`roundWithAccuracy_exact`).
2. **Order** (`countOf_mono`).  Of two counts the lesser has the lesser place, or the same place and the
   lesser mantissa.  Within one place that is the monotony of rounding; the crux is a count that carries,
   and moves up to the place of the next ones.
3. **Division** (`inUnit_div`).  The quotient of two such numbers is below one, or they are equal and it
   is one.
-/

open Float.Model Float.Model.UnpackedFloat

namespace Arbiter.Double

/-! ## Counts -/

/-- A mantissa of 53 bits is rounded to itself, with any number of noughts behind. -/
theorem roundWithAccuracy_exact (s : Sign) {m : Nat} {e : Int} (hlow : 2 ^ 52 ≤ m) (hlt : m < 2 ^ 53)
    (he : -1074 ≤ e) (j : Nat) : roundWithAccuracy Format.binary64 s (m * 2 ^ j) (e - j) .exact
      = .finite s m e (by omega) := by
  have hlog : (m * 2 ^ j).log2 = 52 + j := by
    rw [log2_mul_two_pow (by omega), (Nat.log2_eq_iff (by omega)).2 ⟨hlow, hlt⟩]
  have hplace : placeOf (m * 2 ^ j) (e - j) = e := by
    rw [placeOf, hlog]
    omega
  have hshift : (e - (e - (j : Int))).toNat = j := by omega
  have hfirst : firstMantissa (m * 2 ^ j) (e - j) .exact = m := by
    rw [firstMantissa, hplace, hshift, ExtendedMantissa.ofMantissaAndAccuracy, shift_mul_two_pow]
    rfl
  have henough : 2 ^ 52 ≤ m * 2 ^ j := Nat.le_trans hlow (Nat.le_mul_of_pos_right m (Nat.two_pow_pos j))
  rw [roundWithAccuracy_eq s (Or.inl henough), dif_neg (by omega), if_neg (by omega)]
  exact finite_congr hfirst hplace

/-- The double of a count, unpacked. -/
def countOf (n : Nat) : UnpackedFloat := roundWithAccuracy Format.binary64 .positive (n * 2 ^ 53) (-53) .exact

/-- The mantissa of a count, before it may carry. -/
def countMantissa (n : Nat) : Nat := firstMantissa (n * 2 ^ 53) (-53) .exact

section Counts

variable {n : Nat} (hn : 0 < n)
include hn

/-- The place of a count is known from how many bits it has. -/
theorem placeOf_count : placeOf (n * 2 ^ 53) (-53) = (n.log2 : Int) - 52 := by
  rw [placeOf, log2_mul_two_pow (by omega)]
  omega

/-- This mantissa has 53 bits, or it has just carried. -/
theorem countMantissa_bounds : 2 ^ 52 ≤ countMantissa n ∧ countMantissa n ≤ 2 ^ 53 := by
  refine ⟨?_, firstMantissa_le⟩
  rcases firstMantissa_full (m := n * 2 ^ 53) (e := -53) (a := .exact) (Or.inl (by omega)) with h | h
  · exact h
  · rw [placeOf_count hn] at h
    omega

/-- A count ends at its own place, or at the next one if it has carried. -/
theorem exists_countOf : ∃ r e hpos, countOf n = .finite .positive r e hpos
    ∧ (r = countMantissa n ∧ r < 2 ^ 53 ∧ e = (n.log2 : Int) - 52
      ∨ r = 2 ^ 52 ∧ countMantissa n = 2 ^ 53 ∧ e = (n.log2 : Int) - 51) := by
  obtain ⟨hlow, hle⟩ := countMantissa_bounds hn
  have hround := roundWithAccuracy_eq (m := n * 2 ^ 53) (e := -53) (a := .exact) .positive
    (Or.inl (by omega))
  rw [← countOf, ← countMantissa, placeOf_count hn, dif_neg (by omega)] at hround
  by_cases hcarry : countMantissa n = 2 ^ 53
  · rw [if_pos hcarry] at hround
    exact ⟨_, _, _, hround, Or.inr ⟨rfl, hcarry, by omega⟩⟩
  · rw [if_neg hcarry] at hround
    exact ⟨_, _, _, hround, Or.inl ⟨rfl, by omega, rfl⟩⟩

/-- A count in a word has 53 bits, and a place that is not far off. -/
theorem countOf_normal (hword : n ≤ Numeral.maxWord) : ∃ r e hpos,
    countOf n = .finite .positive r e hpos ∧ 2 ^ 52 ≤ r ∧ r < 2 ^ 53 ∧ -52 ≤ e ∧ e ≤ 12 := by
  obtain ⟨r, e, hpos, hcount, hplace⟩ := exists_countOf hn
  obtain ⟨hlow, hle⟩ := countMantissa_bounds hn
  have hlog : n.log2 < 64 := (Nat.log2_lt (by omega)).2 (by rw [Numeral.maxWord] at hword; omega)
  exact ⟨r, e, hpos, hcount, by omega, by omega, by omega, by omega⟩

/-- The double of a count is stored as bits without loss. -/
theorem countOf_unpack_pack (hword : n ≤ Numeral.maxWord) :
    (Float.Model.pack (countOf n)).unpack = countOf n := by
  obtain ⟨r, e, hpos, hcount, hlow, hlt, hleast, hmost⟩ := countOf_normal hn hword
  rw [hcount]
  exact unpack_pack_finite _ hpos ⟨hlt, by omega, Or.inl hlow⟩ (by omega)

/-- A small count is its own mantissa, shifted to 53 bits. -/
theorem countOf_of_small (hsmall : n < 2 ^ 53) : 2 ^ 52 ≤ n * 2 ^ (52 - n.log2)
    ∧ n * 2 ^ (52 - n.log2) < 2 ^ 53
    ∧ ∃ hpos, countOf n = .finite .positive (n * 2 ^ (52 - n.log2)) ((n.log2 : Int) - 52) hpos := by
  have hne : n ≠ 0 := by omega
  have hlog : n.log2 < 53 := (Nat.log2_lt hne).2 hsmall
  have hlog' : (n * 2 ^ (52 - n.log2)).log2 = 52 := by
    rw [log2_mul_two_pow hne]
    omega
  have hne' : n * 2 ^ (52 - n.log2) ≠ 0 := Nat.mul_ne_zero hne (Nat.two_pow_pos _).ne'
  obtain ⟨hlow, hlt⟩ := (Nat.log2_eq_iff hne').1 hlog'
  have hsplit : n * 2 ^ 53 = n * 2 ^ (52 - n.log2) * 2 ^ (n.log2 + 1) := by
    rw [Nat.mul_assoc, ← Nat.pow_add]
    congr 2
    omega
  have hplace : (-53 : Int) = (n.log2 : Int) - 52 - ((n.log2 + 1 : Nat) : Int) := by omega
  refine ⟨hlow, hlt, by omega, ?_⟩
  rw [countOf, hsplit, hplace]
  exact roundWithAccuracy_exact .positive hlow hlt (by omega) _

/-- A small count is rounded to the double of a count. -/
theorem round_of_small (hsmall : n < 2 ^ 53) :
    UnpackedFloat.round Format.binary64 .positive n 0 = countOf n := by
  obtain ⟨hlow, hlt, hpos, hcount⟩ := countOf_of_small hn hsmall
  have hlog : n.log2 < 53 := (Nat.log2_lt (by omega)).2 hsmall
  have hplace : placeOf n 0 = (n.log2 : Int) - 52 := by
    rw [placeOf]
    omega
  have hshift : ((0 : Int) - ((n.log2 : Int) - 52)).toNat = 52 - n.log2 := by omega
  have hexact := roundWithAccuracy_exact .positive hlow hlt (e := (n.log2 : Int) - 52) (by omega) 0
  rw [Nat.pow_zero, Nat.mul_one] at hexact
  have hend : (0 : Int) - ((52 - n.log2 : Nat) : Int) = (n.log2 : Int) - 52 - ((0 : Nat) : Int) := by omega
  rw [UnpackedFloat.round, targetExponent_eq, hplace]
  simp only [decreaseExponent, hshift, Nat.shiftLeft_eq]
  rw [hend, hexact, hcount]

/-- What a small count is unpacked to: it is converted, and multiplied by one. -/
theorem unpack_ofNat_of_small (hsmall : n < 2 ^ 53) : (Float.ofNat n).toModel.unpack = countOf n := by
  obtain ⟨hlow, hlt, hpos, hcount⟩ := countOf_of_small hn hsmall
  have hpack := countOf_unpack_pack hn (by rw [Numeral.maxWord]; omega)
  have hword : n.toUInt64.toNat = n := Nat.mod_eq_of_lt (by omega)
  have hconvert : (n.toUInt64.toFloat).toModel.unpack = countOf n := by
    show (Float.Model.pack (UnpackedFloat.normalize Format.binary64 (n.toUInt64.toNat : Int) 0
      .positive)).unpack = _
    rw [hword, normalize_of_pos (by omega), Int.toNat_natCast, round_of_small hn hsmall, hpack]
  have hmul : UnpackedFloat.mul Format.binary64 (countOf n) one = countOf n := by
    rw [hcount]
    exact roundWithAccuracy_exact .positive hlow hlt (by omega) 52
  have hofNat : Float.ofNat n = n.toUInt64.toFloat * 1.0 := by
    show Float.ofScientific n false 0 = _
    rw [Float.ofScientific, dif_pos ⟨hsmall, by decide⟩]
    rfl
  rw [hofNat]
  show (Float.Model.pack (UnpackedFloat.mul Format.binary64 (n.toUInt64.toFloat).toModel.unpack
    (1.0 : Float).toModel.unpack)).unpack = _
  rw [hconvert, unpack_one, hmul, hpack]

/-- The double of any count in a word is unpacked to that; a greater one is converted in two halves. -/
theorem unpack_ofNat (hword : n ≤ Numeral.maxWord) : (Float.ofNat n).toModel.unpack = countOf n := by
  by_cases hsmall : n < 2 ^ 53
  · exact unpack_ofNat_of_small hn hsmall
  · -- all others are a mantissa of enough bits times a power of ten, here the one that is one
    have hofNat : Float.ofNat n = Float.ofModel (Float.Model.ofScientific n 0) := by
      show Float.ofScientific n false 0 = _
      rw [Float.ofScientific, dif_neg (fun h => hsmall h.1)]
      rfl
    have hnear : ¬ (0 : Int) < -((2 ^ Format.binary64.exponentBits : Int) + n.log2) := by
      show ¬ (0 : Int) < -((2 ^ 11 : Int) + n.log2)
      omega
    have hscientific : UnpackedFloat.ofScientific Format.binary64 n 0 = countOf n := by
      rw [UnpackedFloat.ofScientific, dif_neg (by omega), if_neg (by decide), if_neg hnear,
        if_pos (by decide), countOf, ← Nat.mul_one (n * 2 ^ 53), ← Nat.shiftLeft_eq]
      rfl
    rw [hofNat]
    show (Float.Model.pack (UnpackedFloat.ofScientific Format.binary64 n 0)).unpack = _
    rw [hscientific, countOf_unpack_pack hn hword]

end Counts

/-- **The lesser of two counts is not above the other**, place by place. -/
theorem countOf_mono {m n : Nat} (hm : 0 < m) (hmn : m ≤ n) {r r' : Nat} {e e' : Int} {hr : 0 < r}
    {hr' : 0 < r'} (hcount : countOf m = .finite .positive r e hr)
    (hcount' : countOf n = .finite .positive r' e' hr') : e < e' ∨ e = e' ∧ r ≤ r' := by
  have hn : 0 < n := by omega
  have hlog : m.log2 ≤ n.log2 :=
    (Nat.le_log2 (by omega)).2 (Nat.le_trans (Nat.log2_self_le (by omega)) hmn)
  have hlow := (countMantissa_bounds hn).1
  -- counts with the same number of bits are rounded at the same place
  have hmantissa : m.log2 = n.log2 → countMantissa m ≤ countMantissa n := by
    intro hsame
    have hquarters : quarters ⟨m * 2 ^ 53, false, false⟩ ≤ quarters ⟨n * 2 ^ 53, false, false⟩ := by
      simp only [quarters]
      omega
    rw [countMantissa, countMantissa, firstMantissa, firstMantissa, placeOf_count hm, placeOf_count hn,
      hsame]
    exact rounded_mono (quarters_shift_mono hquarters _)
  obtain ⟨_, _, _, h, hplace⟩ := exists_countOf hm
  obtain ⟨_, _, _, h', hplace'⟩ := exists_countOf hn
  obtain ⟨-, rfl, rfl⟩ := UnpackedFloat.finite.inj (hcount.symm.trans h)
  obtain ⟨-, rfl, rfl⟩ := UnpackedFloat.finite.inj (hcount'.symm.trans h')
  -- one that has carried has the least mantissa of the next place
  omega

/-! ## Division -/

/-- Of two numbers with 53 bits each, the lesser divided by the other is in the interval. -/
theorem inUnit_div {m n : Nat} {e f : Int} {hm : 0 < m} {hn : 0 < n} (hmlow : 2 ^ 52 ≤ m)
    (hmlt : m < 2 ^ 53) (hnlow : 2 ^ 52 ≤ n) (hnlt : n < 2 ^ 53) (hnear : -1000 ≤ e - f)
    (hle : e < f ∨ e = f ∧ m ≤ n) :
    InUnit (UnpackedFloat.div Format.binary64 (.finite .positive m e hm) (.finite .positive n f hn)) := by
  have hmlog : m.log2 = 52 := (Nat.log2_eq_iff (by omega)).2 ⟨hmlow, hmlt⟩
  have hnlog : n.log2 = 52 := (Nat.log2_eq_iff (by omega)).2 ⟨hnlow, hnlt⟩
  have htarget : min (e - f)
      (Format.binary64.targetExponent (totalExponent m e - totalExponent n f)) = e - f - 53 := by
    simp only [Format.targetExponent, totalExponent, Format.mantissaBits, Format.minExponent, hmlog, hnlog]
    norm_num
    omega
  have hshift : (e - f - (e - f - 53)).toNat = 53 := by omega
  have hcore : divCore Format.binary64 m e n f
      = (m * 2 ^ 53 / n, e - f - 53, accuracyOfFraction (m * 2 ^ 53 % n) n) := by
    simp only [divCore, htarget, hshift, Nat.shiftLeft_eq]
  rw [UnpackedFloat.div, hcore]
  dsimp only
  have henough : 2 ^ 52 ≤ m * 2 ^ 53 / n := (Nat.le_div_iff_mul_le hn).2 (by omega)
  rcases hle with hlt | ⟨rfl, hle⟩
  · have hquotient : m * 2 ^ 53 / n < 2 ^ 54 := (Nat.div_lt_iff_lt_mul hn).2 (by omega)
    exact inUnit_of_lt_one (Or.inl henough) (log2_add_lt (by omega) hquotient (by omega))
  · rcases Nat.lt_or_eq_of_le hle with hlt | rfl
    · have hquotient : m * 2 ^ 53 / n < 2 ^ 53 := (Nat.div_lt_iff_lt_mul hn).2 (by omega)
      exact inUnit_of_lt_one (Or.inl henough) (log2_add_lt (by omega) hquotient (by omega))
    · -- equal numbers: the quotient is one, without a rest
      have hquotient : m * 2 ^ 53 / m = 2 ^ 52 * 2 ^ 1 := by
        rw [Nat.mul_div_cancel_left _ hn, ← Nat.pow_add]
      have hrest : accuracyOfFraction (m * 2 ^ 53 % m) m = .exact := by
        rw [Nat.mul_mod_right]
        rfl
      have hone := roundWithAccuracy_exact .positive (Nat.le_refl _) (by decide) (e := -52) (by decide) 1
      have hplace : e - e - 53 = -52 - ((1 : Nat) : Int) := by omega
      rw [hquotient, hrest, hplace]
      show InUnit (roundWithAccuracy Format.binary64 .positive (2 ^ 52 * 2 ^ 1)
        (-52 - ((1 : Nat) : Int)) .exact)
      rw [hone]
      exact .finite settled_one (Or.inr ⟨rfl, rfl⟩)

/-- **The share of a count in one that is not less** is a double from nothing to one. -/
theorem inUnit_share {m n : Nat} (hmn : m ≤ n) (hn : 0 < n) (hword : n ≤ Numeral.maxWord) :
    Validation.inUnit (Float.ofNat m / Float.ofNat n) = true := by
  obtain ⟨r', e', hr', hcount', hlow', hlt', hleast', hmost'⟩ := countOf_normal hn hword
  have hdivisor := unpack_ofNat hn hword
  have hquotient : InUnit (UnpackedFloat.div Format.binary64 (Float.ofNat m).toModel.unpack
      (Float.ofNat n).toModel.unpack) := by
    rw [hdivisor, hcount']
    rcases Nat.eq_zero_or_pos m with rfl | hm
    · exact .zero _
    · obtain ⟨r, e, hr, hcount, hlow, hlt, hleast, hmost⟩ := countOf_normal hm (Nat.le_trans hmn hword)
      rw [unpack_ofNat hm (Nat.le_trans hmn hword), hcount]
      exact inUnit_div hlow hlt hlow' hlt' (by omega) (countOf_mono hm hmn hcount hcount')
  rw [inUnit_iff]
  show InUnit (Float.Model.pack (UnpackedFloat.div Format.binary64 (Float.ofNat m).toModel.unpack
    (Float.ofNat n).toModel.unpack)).unpack
  rwa [hquotient.unpack_pack]

end Arbiter.Double
