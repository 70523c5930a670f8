import Mathlib
/-!
# How doubles are rounded

The arithmetic of doubles ends in one function, `roundWithAccuracy`: a mantissa is shifted to the right,
bit by bit, until it has 53 bits or the exponent is the least one, it is rounded to the nearest, and if
that has carried it to 54 bits it is shifted once more.  This module puts that into a closed form.

1. **Shifting** is division by a power of two (`mantissa_shift`).  What is cut off lives on in two bits;
   read as a number of quarters (`quarters`), a mantissa with these bits goes up when what it was cut from
   does, and rounding goes up with it (`rounded_mono`).  A mantissa that ends in noughts loses nothing
   (`shift_mul_two_pow`).
2. **The place** where a double with a given mantissa and exponent ends is `placeOf`; the first shift leads
   there, and the second moves by one place if the mantissa has carried, and not at all if not.
3. **The closed form** (`roundWithAccuracy_eq`) holds of mantissas that have enough bits to begin with;
   what it gives is `Settled`: a mantissa of exactly 53 bits, or one of less at the least place.
-/

open Float.Model Float.Model.UnpackedFloat

namespace Arbiter.Double

/-! ## Shifting -/

theorem shift_succ (em : ExtendedMantissa) (k : Nat) : em >>> (k + 1) = (em >>> k).shiftRightOne := rfl

/-- A shift cuts the mantissa off, and leaves the rest to its two bits. -/
theorem mantissa_shift (em : ExtendedMantissa) (k : Nat) : (em >>> k).mantissa = em.mantissa / 2 ^ k := by
  induction k with
  | zero => exact (Nat.div_one _).symm
  | succ k ih =>
    show (em >>> k).mantissa / 2 = em.mantissa / 2 ^ (k + 1)
    rw [ih, Nat.div_div_eq_div_mul, ← Nat.pow_succ]

/-- A mantissa that ends in noughts is shifted without loss. -/
theorem shift_mul_two_pow (m k : Nat) :
    (⟨m * 2 ^ k, false, false⟩ : ExtendedMantissa) >>> k = ⟨m, false, false⟩ := by
  induction k generalizing m with
  | zero => rw [Nat.pow_zero, Nat.mul_one]; rfl
  | succ k ih =>
    -- all but the last shift leave `m * 2`, and the last one cuts off a nought
    have hsplit : m * 2 ^ (k + 1) = m * 2 * 2 ^ k := by rw [Nat.pow_succ]; ring
    have heven : m * 2 % 2 = 0 := by omega
    have hhalf : m * 2 / 2 = m := by omega
    rw [shift_succ, hsplit, ih, ExtendedMantissa.shiftRightOne]
    simp [heven, hhalf]

/-- A mantissa with its two bits, counted in quarters: a tie is two of them, and what lies below or above
it is one or three. -/
def quarters (em : ExtendedMantissa) : Nat :=
  4 * em.mantissa + 2 * em.roundBit.toNat + em.stickyBit.toNat

/-- One shift cuts the last two bits down to one. -/
theorem quarters_shiftRightOne (em : ExtendedMantissa) :
    quarters em.shiftRightOne = 2 * em.mantissa + (em.roundBit || em.stickyBit).toNat := by
  obtain ⟨m, round, sticky⟩ := em
  have hbit : (m % 2 != 0).toNat = m % 2 := by
    rcases Nat.mod_two_eq_zero_or_one m with h | h <;> rw [h] <;> rfl
  show 4 * (m / 2) + 2 * (m % 2 != 0).toNat + (round || sticky).toNat
    = 2 * m + (round || sticky).toNat
  rw [hbit]
  omega

/-- A shift keeps the order. -/
theorem quarters_shift_mono {a b : ExtendedMantissa} (h : quarters a ≤ quarters b) (k : Nat) :
    quarters (a >>> k) ≤ quarters (b >>> k) := by
  have hone : ∀ a b : ExtendedMantissa, quarters a ≤ quarters b →
      quarters a.shiftRightOne ≤ quarters b.shiftRightOne := by
    rintro ⟨m, r, s⟩ ⟨n, t, u⟩ h
    rw [quarters_shiftRightOne, quarters_shiftRightOne]
    -- the order of the quarters is that of the pairs of mantissa and bits
    cases r <;> cases s <;> cases t <;> cases u <;>
      simp only [quarters, Bool.or_true, Bool.or_false, Bool.toNat_true, Bool.toNat_false] at h ⊢ <;>
      omega
  induction k with
  | zero => exact h
  | succ k ih => exact hone _ _ ih

/-- Rounding moves a mantissa up by one at most. -/
theorem rounded_bounds (em : ExtendedMantissa) :
    em.mantissa ≤ em.roundedMantissa ∧ em.roundedMantissa ≤ em.mantissa + 1 := by
  obtain ⟨m, round, sticky⟩ := em
  cases round <;> cases sticky <;>
    simp only [ExtendedMantissa.roundedMantissa, ExtendedMantissa.accuracy,
      Accuracy.roundToNearestEven] <;> omega

/-- So does rounding: what the two bits say never turns two mantissas around. -/
theorem rounded_mono {a b : ExtendedMantissa} (h : quarters a ≤ quarters b) :
    a.roundedMantissa ≤ b.roundedMantissa := by
  obtain ⟨m, r, s⟩ := a
  obtain ⟨n, t, u⟩ := b
  cases r <;> cases s <;> cases t <;> cases u <;>
    simp only [quarters, Bool.toNat_true, Bool.toNat_false, ExtendedMantissa.roundedMantissa,
      ExtendedMantissa.accuracy, Accuracy.roundToNearestEven] at h ⊢ <;> omega

/-! ## Places -/

/-- A mantissa and a place of a double. -/
structure Settled (m : Nat) (e : Int) : Prop where
  /-- The mantissa has 53 bits at most. -/
  lt : m < 2 ^ 53
  /-- The place is not below the least one. -/
  least : -1074 ≤ e
  /-- It has less than 53 bits only at the least place. -/
  full : 2 ^ 52 ≤ m ∨ e = -1074

/-- The product of two mantissas has enough bits, or it is at the least place. -/
theorem Settled.enough_of_mul {m n : Nat} {e f : Int} (hm : Settled m e) (hn : Settled n f) (hmpos : 0 < m)
    (hnpos : 0 < n) : 2 ^ 52 ≤ m * n ∨ e + f ≤ -1074 := by
  rcases hm.full with hbits | hplace
  · exact Or.inl (Nat.le_trans hbits (Nat.le_mul_of_pos_right m hnpos))
  · rcases hn.full with hbits | hplace'
    · exact Or.inl (Nat.le_trans hbits (Nat.le_mul_of_pos_left n hmpos))
    · exact Or.inr (by omega)

/-- The place of a double for a mantissa at some place. -/
def placeOf (m : Nat) (e : Int) : Int := max (m.log2 + e - 52) (-1074)

/-- The place that the model of doubles shifts to is that of the mantissa. -/
theorem targetExponent_eq (m : Nat) (e : Int) :
    Format.binary64.targetExponent (totalExponent m e) = placeOf m e := by
  simp only [Format.targetExponent, totalExponent, Format.mantissaBits, Format.minExponent, placeOf]
  norm_num
  omega

theorem least_le_placeOf (m : Nat) (e : Int) : -1074 ≤ placeOf m e := by
  rw [placeOf]
  omega

/-- With enough bits, a mantissa is only ever shifted to the right on the way to its place. -/
theorem add_shift_placeOf {m : Nat} {e : Int} (h : 2 ^ 52 ≤ m ∨ e ≤ -1074) :
    e + ((placeOf m e - e).toNat : Int) = placeOf m e := by
  have hlog : 2 ^ 52 ≤ m → 52 ≤ m.log2 := fun hm => (Nat.le_log2 (by omega)).2 hm
  rcases h with h | h
  · have := hlog h
    rw [placeOf]
    omega
  · rw [placeOf]
    omega

/-- A settled mantissa stays where it is. -/
theorem shift_of_settled {m : Nat} {e : Int} (hm : m < 2 ^ 53) (he : -1074 ≤ e) :
    shiftToTargetExponent Format.binary64 m e .exact = (⟨m, false, false⟩, e) := by
  have hlog : m.log2 ≤ 52 := by
    by_cases h : m = 0
    · rw [h]; decide
    · have := (Nat.log2_lt h).2 hm
      omega
  have hstay : (placeOf m e - e).toNat = 0 := by
    rw [placeOf]
    omega
  rw [shiftToTargetExponent, targetExponent_eq, shiftToExponent, hstay]
  show ((⟨m, false, false⟩ : ExtendedMantissa), e + (0 : Nat)) = _
  simp

/-- A mantissa that has carried moves up by one place. -/
theorem shift_of_carry {e : Int} (he : -1074 ≤ e) :
    shiftToTargetExponent Format.binary64 (2 ^ 53) e .exact = (⟨2 ^ 52, false, false⟩, e + 1) := by
  have hstep : (placeOf (2 ^ 53) e - e).toNat = 1 := by
    rw [placeOf, Nat.log2_two_pow]
    omega
  rw [shiftToTargetExponent, targetExponent_eq, shiftToExponent, hstep]
  rfl

/-! ## The closed form -/

/-- The mantissa after the first shift. -/
def firstMantissa (m : Nat) (e : Int) (a : Accuracy) : Nat :=
  (ExtendedMantissa.ofMantissaAndAccuracy m a >>> (placeOf m e - e).toNat).roundedMantissa

section Rounding

variable {m : Nat} {e : Int} {a : Accuracy}

/-- The first mantissa is what the shift leaves, or one more. -/
theorem firstMantissa_near : m / 2 ^ (placeOf m e - e).toNat ≤ firstMantissa m e a
    ∧ firstMantissa m e a ≤ m / 2 ^ (placeOf m e - e).toNat + 1 := by
  have hmantissa : (ExtendedMantissa.ofMantissaAndAccuracy m a).mantissa = m := by
    cases a with
    | exact => rfl
    | inexact o => cases o <;> rfl
  have hbounds := rounded_bounds (ExtendedMantissa.ofMantissaAndAccuracy m a >>> (placeOf m e - e).toNat)
  rw [mantissa_shift, hmantissa] at hbounds
  exact hbounds

/-- It has 53 bits, or it has just carried. -/
theorem firstMantissa_le : firstMantissa m e a ≤ 2 ^ 53 := by
  have hroom : m < 2 ^ (53 + (placeOf m e - e).toNat) := by
    refine Nat.lt_of_lt_of_le Nat.lt_log2_self (Nat.pow_le_pow_right Nat.two_pos ?_)
    rw [placeOf]
    omega
  have hdiv : m / 2 ^ (placeOf m e - e).toNat < 2 ^ 53 := by
    rw [Nat.div_lt_iff_lt_mul (Nat.two_pow_pos _), ← Nat.pow_add]
    exact hroom
  have hnear := firstMantissa_near (m := m) (e := e) (a := a)
  omega

/-- A mantissa with enough bits has 53 of them after the first shift, unless it ends at the least place. -/
theorem firstMantissa_full (h : 2 ^ 52 ≤ m ∨ e ≤ -1074) :
    2 ^ 52 ≤ firstMantissa m e a ∨ placeOf m e = -1074 := by
  by_cases hleast : placeOf m e = -1074
  · exact Or.inr hleast
  · left
    -- above the least place nothing but the bits beyond 53 are cut off
    have hne : m ≠ 0 := by
      rintro rfl
      rw [placeOf, Nat.log2_zero] at hleast
      omega
    have hlog : 52 ≤ m.log2 := by
      rcases h with h | h
      · exact (Nat.le_log2 hne).2 h
      · rw [placeOf] at hleast
        omega
    have hfull : 2 ^ (52 + (placeOf m e - e).toNat) ≤ m := by
      refine Nat.le_trans (Nat.pow_le_pow_right Nat.two_pos ?_) (Nat.log2_self_le hne)
      rw [placeOf] at hleast ⊢
      omega
    have hdiv : 2 ^ 52 ≤ m / 2 ^ (placeOf m e - e).toNat := by
      rw [Nat.le_div_iff_mul_le (Nat.two_pow_pos _), ← Nat.pow_add]
      exact hfull
    have hnear := firstMantissa_near (m := m) (e := e) (a := a)
    omega

/-- **What rounding comes to**, for a mantissa with enough bits: the mantissa after the first shift, or
half of it one place up if it has carried. -/
theorem roundWithAccuracy_eq (s : Sign) (h : 2 ^ 52 ≤ m ∨ e ≤ -1074) :
    roundWithAccuracy Format.binary64 s m e a
      = if hzero : firstMantissa m e a = 0 then .zero s
        else if firstMantissa m e a = 2 ^ 53 then .finite s (2 ^ 52) (placeOf m e + 1) (by decide)
        else .finite s (firstMantissa m e a) (placeOf m e) (Nat.pos_of_ne_zero hzero) := by
  have hfirst : shiftToTargetExponent Format.binary64 m e a
      = (ExtendedMantissa.ofMantissaAndAccuracy m a >>> (placeOf m e - e).toNat, placeOf m e) := by
    rw [shiftToTargetExponent, targetExponent_eq, shiftToExponent, add_shift_placeOf h]
  have hleast := least_le_placeOf m e
  have hle := firstMantissa_le (m := m) (e := e) (a := a)
  rw [roundWithAccuracy, hfirst]
  dsimp only
  rw [← firstMantissa]
  by_cases hcarry : firstMantissa m e a = 2 ^ 53
  · rw [hcarry, shift_of_carry hleast]
    rfl
  · rw [shift_of_settled (by omega) hleast]
    simp only [hcarry, if_false]

/-- What rounding comes to is a double, though perhaps too great a one. -/
theorem settled_of_roundWithAccuracy {s s' : Sign} {m' : Nat} {e' : Int} {hpos : 0 < m'}
    (h : 2 ^ 52 ≤ m ∨ e ≤ -1074)
    (hround : roundWithAccuracy Format.binary64 s m e a = .finite s' m' e' hpos) :
    Settled m' e' ∧ s' = s ∧ (e' = placeOf m e ∨ e' = placeOf m e + 1 ∧ m' = 2 ^ 52) := by
  have hfull := firstMantissa_full (m := m) (e := e) (a := a) h
  have hle := firstMantissa_le (m := m) (e := e) (a := a)
  have hleast := least_le_placeOf m e
  rw [roundWithAccuracy_eq s h] at hround
  split at hround
  · cases hround
  · split at hround
    · obtain ⟨rfl, rfl, rfl⟩ := UnpackedFloat.finite.inj hround
      exact ⟨⟨by decide, by omega, Or.inl (Nat.le_refl _)⟩, rfl, Or.inr ⟨rfl, rfl⟩⟩
    · obtain ⟨rfl, rfl, rfl⟩ := UnpackedFloat.finite.inj hround
      exact ⟨⟨by omega, hleast, hfull⟩, rfl, Or.inl rfl⟩

end Rounding

/-- Rounding keeps the sign, and makes nothing infinite. -/
theorem roundWithAccuracy_sign (spec : Format) (s : Sign) (m : Nat) (e : Int) (a : Accuracy) :
    roundWithAccuracy spec s m e a = .zero s
      ∨ ∃ m' e' hpos, roundWithAccuracy spec s m e a = .finite s m' e' hpos := by
  rw [roundWithAccuracy]
  dsimp only
  split
  · exact Or.inl rfl
  · next hne => exact Or.inr ⟨_, _, Nat.pos_of_ne_zero hne, rfl⟩

end Arbiter.Double
