import Arbiter.Proofs.Nearest
/-!
# What doubles stand for

An unpacked double that is a number stands for a fraction (`value`), and the arithmetic of doubles is that of
fractions, rounded.  Of the rounding one law is all that is needed: what can be written with 53 bits
(`Representable`) is never passed.  A number that is not below it is not rounded below it, and one that is not
above it is not rounded above it (`Rounded`).

1. **Magnitudes** (`magnitude_le`, `le_magnitude`).  What is rounded is known by a mantissa that it was cut off to,
   and by whether something was cut off (`Approximates`).  At the place where the mantissa is rounded to, all
   bounds are whole numbers, and there the law is one about dividing whole numbers; bounds that
   have less than this place are separated from the number by a bound that has.
2. **Operations** (`rounded_add`, `rounded_sub`, `rounded_mul`, `rounded_div`) end in the same rounding, of the exact result.
-/

open Float.Model Float.Model.UnpackedFloat

namespace Arbiter.Double

/-! ## Values -/

/-- A fraction with a sign. -/
def signed (s : Sign) (x : ℚ) : ℚ :=
  match s with
  | .negative => -x
  | .positive => x

/-- What an unpacked double stands for; nothing if it is no number. -/
def value : UnpackedFloat → ℚ
  | .finite s m e _ => signed s (m * 2 ^ e)
  | _ => 0

/-- What can be written with 53 bits, at a place that doubles have. -/
def Representable (y : ℚ) : Prop := ∃ c g : ℤ, |c| ≤ 2 ^ 53 ∧ -1074 ≤ g ∧ y = c * 2 ^ g

theorem Representable.neg {y : ℚ} (h : Representable y) : Representable (-y) := by
  obtain ⟨c, g, hc, hg, rfl⟩ := h
  refine ⟨-c, g, ?_, hg, ?_⟩
  · rwa [abs_neg]
  · push_cast
    ring

/-- A whole number with 53 bits can be written so. -/
theorem representable_whole {k : ℤ} (hk : |k| ≤ 2 ^ 53) : Representable k :=
  ⟨k, 0, hk, by decide, by rw [zpow_zero, mul_one]⟩

/-- So can one with some of its 53 bits behind the point. -/
theorem representable_fraction {n : ℤ} {k : Nat} (hn : |n| ≤ 2 ^ 53) (hk : k ≤ 1074) :
    Representable (n / 2 ^ k) := by
  refine ⟨n, -k, hn, by omega, ?_⟩
  rw [zpow_neg, zpow_natCast, div_eq_mul_inv]

section Counts

variable {m n : Nat} (hm : m ≤ 2 ^ 53) (hn : n ≤ 2 ^ 53)
include hm

theorem representable_count : Representable m := by
  have hwhole := representable_whole (k := m) (by rw [abs_of_nonneg (by omega)]; omega)
  rwa [Int.cast_natCast] at hwhole

include hn

/-- The difference of two counts up to `2 ^ 53` is no greater than that. -/
theorem abs_difference_le : |(m : ℚ) - n| ≤ 2 ^ 53 := by
  have hbound : |(m : ℤ) - n| ≤ 2 ^ 53 := by
    rw [abs_le]
    omega
  exact_mod_cast hbound

theorem representable_difference : Representable ((m : ℚ) - n) := by
  have hwhole := representable_whole (k := m - n) (by exact_mod_cast abs_difference_le hm hn)
  push_cast at hwhole
  exact hwhole

end Counts

/-- A power of two takes one bit. -/
theorem representable_two_pow {g : ℤ} (hg : -1074 ≤ g) : Representable (2 ^ g) :=
  ⟨1, g, by decide, hg, by rw [Int.cast_one, one_mul]⟩

/-- A number, of whatever size. -/
inductive IsNumber : UnpackedFloat → Prop where
  /-- Nothing. -/
  | zero (s : Sign) : IsNumber (.zero s)
  /-- Something. -/
  | finite {s : Sign} {m : Nat} {e : Int} {hpos : 0 < m} (h : Settled m e) : IsNumber (.finite s m e hpos)

theorem IsNumber.isFinite {u : UnpackedFloat} (h : IsNumber u) : u.isNaN = false ∧ u.isInf = false := by
  cases h <;> exact ⟨rfl, rfl⟩

/-- A fraction is rounded to a double: no bound that can be written with 53 bits is passed. -/
structure Rounded (x : ℚ) (u : UnpackedFloat) : Prop where
  /-- The double is a number. -/
  number : IsNumber u
  /-- What is not above the fraction is not above the double. -/
  le_value : ∀ y, Representable y → y ≤ x → y ≤ value u
  /-- What is not below the fraction is not below the double. -/
  value_le : ∀ y, Representable y → x ≤ y → value u ≤ y

/-- A double is rounded to itself. -/
theorem IsNumber.rounded {u : UnpackedFloat} (h : IsNumber u) : Rounded (value u) u :=
  ⟨h, fun _ _ hy => hy, fun _ _ hy => hy⟩

/-- What can be written with 53 bits is not changed. -/
theorem Rounded.eq {x : ℚ} {u : UnpackedFloat} (h : Rounded x u) (hx : Representable x) : value u = x :=
  le_antisymm (h.value_le x hx le_rfl) (h.le_value x hx le_rfl)

/-- A size that can be written with 53 bits is kept. -/
theorem Rounded.abs_value_le {x y : ℚ} {u : UnpackedFloat} (h : Rounded x u) (hy : Representable y)
    (hx : |x| ≤ y) : |value u| ≤ y := by
  rw [abs_le] at hx ⊢
  exact ⟨h.le_value _ hy.neg hx.1, h.value_le _ hy hx.2⟩

/-! ## Magnitudes -/

/-- A mantissa that a fraction was cut off to, with what is known of the rest. -/
structure Approximates (m : Nat) (e : Int) (a : Accuracy) (x : ℚ) : Prop where
  /-- The mantissa is not above the fraction. -/
  le : m * 2 ^ e ≤ x
  /-- The next one is above it. -/
  lt : x < (m + 1) * 2 ^ e
  /-- If there is no rest, this is known. -/
  exact : x = m * 2 ^ e → a = .exact

/-- What has no rest is approximated by itself. -/
theorem approximates_exact (m : Nat) (e : Int) : Approximates m e .exact (m * 2 ^ e) := by
  refine ⟨le_rfl, ?_, fun _ => rfl⟩
  have : (0 : ℚ) < 2 ^ e := by positivity
  linarith

section Magnitudes

variable {m : Nat} {e : Int} {a : Accuracy} {x : ℚ} (h : 2 ^ 52 ≤ m ∨ e ≤ -1074) (ha : Approximates m e a x)

/-- What a mantissa is rounded to. -/
def magnitude (m : Nat) (e : Int) (a : Accuracy) : ℚ := firstMantissa m e a * 2 ^ placeOf m e

theorem magnitude_nonneg : 0 ≤ magnitude m e a := by
  unfold magnitude
  positivity

include h in
/-- A multiple of the place, in terms of what was there before the shift. -/
theorem mul_place_eq (c : Nat) :
    (c : ℚ) * 2 ^ placeOf m e = ((c * 2 ^ (placeOf m e - e).toNat : Nat) : ℚ) * 2 ^ e := by
  conv_lhs => rw [← add_shift_placeOf h]
  rw [zpow_add₀ two_ne_zero, zpow_natCast]
  push_cast
  ring

include h ha in
/-- A multiple of the place that is not above the fraction is not above what it is rounded to. -/
theorem le_firstMantissa {c : Nat} (hc : (c : ℚ) * 2 ^ placeOf m e ≤ x) : c ≤ firstMantissa m e a := by
  have hpos : (0 : ℚ) < 2 ^ e := by positivity
  rw [mul_place_eq h] at hc
  have hlt : ((c * 2 ^ (placeOf m e - e).toNat : Nat) : ℚ) < ((m + 1 : Nat) : ℚ) := by
    refine lt_of_mul_lt_mul_right (lt_of_le_of_lt hc ?_) hpos.le
    push_cast
    exact ha.lt
  have hle : c * 2 ^ (placeOf m e - e).toNat ≤ m := Nat.le_of_lt_succ (by exact_mod_cast hlt)
  exact Nat.le_trans ((Nat.le_div_iff_mul_le (Nat.two_pow_pos _)).2 hle) firstMantissa_near.1

omit ha in
/-- A mantissa with noughts to be cut off is rounded to what is left. -/
theorem firstMantissa_of_eq {c : Nat} (hm : m = c * 2 ^ (placeOf m e - e).toNat) :
    firstMantissa m e .exact = c := by
  rw [firstMantissa, ExtendedMantissa.ofMantissaAndAccuracy]
  generalize (placeOf m e - e).toNat = k at hm ⊢
  rw [hm, shift_mul_two_pow]
  rfl

include h ha in
/-- A multiple of the place that is not below the fraction is not below what it is rounded to. -/
theorem firstMantissa_le_of_le {c : Nat} (hc : x ≤ (c : ℚ) * 2 ^ placeOf m e) : firstMantissa m e a ≤ c := by
  have hpos : (0 : ℚ) < 2 ^ e := by positivity
  rw [mul_place_eq h] at hc
  have hle : m ≤ c * 2 ^ (placeOf m e - e).toNat := by
    have := le_of_mul_le_mul_right (le_trans ha.le hc) hpos
    exact_mod_cast this
  rcases Nat.lt_or_eq_of_le hle with hlt | heq
  · have hdiv := (Nat.div_lt_iff_lt_mul (Nat.two_pow_pos _)).2 hlt
    have hnear := (firstMantissa_near (m := m) (e := e) (a := a)).2
    omega
  · -- the fraction is that multiple, and nothing but noughts is cut off
    rw [← heq] at hc
    rw [ha.exact (le_antisymm hc ha.le), firstMantissa_of_eq heq]

/-- A bound with 53 bits is a multiple of the place, or it has less than the least number there. -/
theorem multiple_or_le {c : Nat} {g : ℤ} (hc : c ≤ 2 ^ 53) (p : ℤ) :
    (∃ n : Nat, (c : ℚ) * 2 ^ g = n * 2 ^ p)
      ∨ g < p ∧ (c : ℚ) * 2 ^ g ≤ ((2 ^ 52 : Nat) : ℚ) * 2 ^ p := by
  rcases le_or_gt p g with hle | hlt
  · left
    obtain ⟨k, rfl⟩ : ∃ k : Nat, g = p + k := ⟨(g - p).toNat, by omega⟩
    refine ⟨c * 2 ^ k, ?_⟩
    rw [zpow_add₀ two_ne_zero, zpow_natCast]
    push_cast
    ring
  · right
    have hc' : (c : ℚ) ≤ 2 ^ 53 := by exact_mod_cast hc
    refine ⟨hlt, ?_⟩
    calc (c : ℚ) * 2 ^ g ≤ 2 ^ 53 * 2 ^ g := mul_le_mul_of_nonneg_right hc' (by positivity)
      _ = 2 ^ (53 + g) := by rw [zpow_add₀ two_ne_zero]; rfl
      _ ≤ 2 ^ (52 + p) := zpow_le_zpow_right₀ (by norm_num) (by omega)
      _ = ((2 ^ 52 : Nat) : ℚ) * 2 ^ p := by
        rw [zpow_add₀ two_ne_zero]
        norm_num

include h ha in
/-- Above the least place a fraction has 53 bits. -/
theorem two_pow_mul_place_le (hplace : placeOf m e ≠ -1074) :
    ((2 ^ 52 : Nat) : ℚ) * 2 ^ placeOf m e ≤ x := by
  have hm : m ≠ 0 := by
    rintro rfl
    rw [placeOf, Nat.log2_zero] at hplace
    omega
  have hlog : placeOf m e + 52 = m.log2 + e := by
    rw [placeOf] at hplace ⊢
    omega
  have hself : (2 : ℚ) ^ m.log2 ≤ m := by exact_mod_cast Nat.log2_self_le hm
  calc ((2 ^ 52 : Nat) : ℚ) * 2 ^ placeOf m e = 2 ^ (placeOf m e + 52) := by
        rw [zpow_add₀ two_ne_zero, mul_comm]
        norm_num
    _ = 2 ^ m.log2 * 2 ^ e := by rw [hlog, zpow_add₀ two_ne_zero, zpow_natCast]
    _ ≤ m * 2 ^ e := mul_le_mul_of_nonneg_right hself (by positivity)
    _ ≤ x := ha.le

include h ha in
/-- **Rounding does not go below a bound with 53 bits.** -/
theorem le_magnitude {c : Nat} {g : ℤ} (hc : c ≤ 2 ^ 53) (hg : -1074 ≤ g) (hle : (c : ℚ) * 2 ^ g ≤ x) :
    (c : ℚ) * 2 ^ g ≤ magnitude m e a := by
  have hpos : (0 : ℚ) < 2 ^ placeOf m e := by positivity
  rcases multiple_or_le hc (placeOf m e) (g := g) with ⟨n, hn⟩ | ⟨hlt, hless⟩
  · rw [hn] at hle ⊢
    have hfirst : (n : ℚ) ≤ firstMantissa m e a := by exact_mod_cast le_firstMantissa h ha hle
    exact mul_le_mul_of_nonneg_right hfirst hpos.le
  · have hfull := (firstMantissa_full (a := a) h).resolve_right (by omega)
    have hfirst : ((2 ^ 52 : Nat) : ℚ) ≤ firstMantissa m e a := by exact_mod_cast hfull
    exact le_trans hless (mul_le_mul_of_nonneg_right hfirst hpos.le)

include h ha in
/-- **Rounding does not go above a bound with 53 bits.** -/
theorem magnitude_le {c : Nat} {g : ℤ} (hc : c ≤ 2 ^ 53) (hg : -1074 ≤ g) (hle : x ≤ (c : ℚ) * 2 ^ g) :
    magnitude m e a ≤ (c : ℚ) * 2 ^ g := by
  have hpos : (0 : ℚ) < 2 ^ placeOf m e := by positivity
  have hmultiple : ∀ n : Nat, x ≤ (n : ℚ) * 2 ^ placeOf m e →
      magnitude m e a ≤ (n : ℚ) * 2 ^ placeOf m e := by
    intro n hn
    have hfirst : (firstMantissa m e a : ℚ) ≤ n := by exact_mod_cast firstMantissa_le_of_le h ha hn
    exact mul_le_mul_of_nonneg_right hfirst hpos.le
  rcases multiple_or_le hc (placeOf m e) (g := g) with ⟨n, hn⟩ | ⟨hlt, hless⟩
  · rw [hn] at hle ⊢
    exact hmultiple n hle
  · -- the least number with 53 bits at the place is between the fraction and the bound
    have hleast := two_pow_mul_place_le h ha (by omega)
    exact le_trans (hmultiple _ (le_trans hle hless)) (le_trans hleast hle)

include h in
/-- What the rounding gives stands for the magnitude with the sign. -/
theorem value_roundWithAccuracy (s : Sign) :
    value (roundWithAccuracy Format.binary64 s m e a) = signed s (magnitude m e a) := by
  rw [roundWithAccuracy_eq s h]
  unfold magnitude
  split
  · next hzero =>
    rw [hzero, Nat.cast_zero, zero_mul]
    cases s
    · exact neg_zero.symm
    · rfl
  · split
    · next hcarry =>
      -- half of it one place up is the same
      have hup : ((2 ^ 52 : Nat) : ℚ) * 2 ^ (placeOf m e + 1) = (2 ^ 53 : Nat) * 2 ^ placeOf m e := by
        rw [zpow_add₀ two_ne_zero]
        push_cast
        ring
      rw [hcarry, ← hup]
      rfl
    · rfl

include h in
/-- What the rounding gives is a number. -/
theorem isNumber_roundWithAccuracy (s : Sign) : IsNumber (roundWithAccuracy Format.binary64 s m e a) := by
  obtain hround | ⟨m', e', hpos, hround⟩ := roundWithAccuracy_sign Format.binary64 s m e a
  · rw [hround]
    exact .zero s
  · rw [hround]
    exact .finite (settled_of_roundWithAccuracy h hround).1

include h ha in
/-- **Rounding is rounding**: with the sign put on again, no bound with 53 bits is passed. -/
theorem rounded_roundWithAccuracy (s : Sign) :
    Rounded (signed s x) (roundWithAccuracy Format.binary64 s m e a) := by
  have hnonneg : 0 ≤ x := le_trans (by positivity) ha.le
  have hup : ∀ y, Representable y → y ≤ x → y ≤ magnitude m e a := by
    rintro y ⟨c, g, hc, hg, rfl⟩ hy
    rcases le_or_gt c 0 with hneg | hpos
    · have hcneg : (c : ℚ) ≤ 0 := by exact_mod_cast hneg
      exact le_trans (mul_nonpos_of_nonpos_of_nonneg hcneg (by positivity)) magnitude_nonneg
    · obtain ⟨n, rfl⟩ := Int.eq_ofNat_of_zero_le hpos.le
      rw [abs_of_pos hpos] at hc
      rw [Int.cast_natCast] at hy ⊢
      exact le_magnitude h ha (by exact_mod_cast hc) hg hy
  have hdown : ∀ y, Representable y → x ≤ y → magnitude m e a ≤ y := by
    rintro y ⟨c, g, hc, hg, rfl⟩ hy
    have hcpos : 0 ≤ c := by
      have hprod := le_trans hnonneg hy
      have := nonneg_of_mul_nonneg_left hprod (by positivity)
      exact_mod_cast this
    obtain ⟨n, rfl⟩ := Int.eq_ofNat_of_zero_le hcpos
    rw [abs_of_nonneg hcpos] at hc
    rw [Int.cast_natCast] at hy ⊢
    exact magnitude_le h ha (by exact_mod_cast hc) hg hy
  refine ⟨isNumber_roundWithAccuracy h s, ?_, ?_⟩
  · intro y hrepresentable hy
    rw [value_roundWithAccuracy h]
    cases s with
    | positive => exact hup y hrepresentable hy
    | negative => exact le_neg_of_le_neg (hdown _ hrepresentable.neg (le_neg_of_le_neg hy))
  · intro y hrepresentable hy
    rw [value_roundWithAccuracy h]
    cases s with
    | positive => exact hdown y hrepresentable hy
    | negative => exact neg_le_of_neg_le (hup _ hrepresentable.neg (neg_le_of_neg_le hy))

end Magnitudes

/-! ## Operations -/

/-- A mantissa that is given more noughts at a lower place is the same number. -/
theorem decrease_value (m k : Nat) (e : Int) : ((m * 2 ^ k : Nat) : ℚ) * 2 ^ (e - k) = m * 2 ^ e := by
  rw [zpow_sub₀ two_ne_zero, zpow_natCast]
  push_cast
  field_simp

/-- A mantissa at any place is rounded, also if it has too few bits. -/
theorem rounded_round (s : Sign) {m : Nat} (hm : m ≠ 0) (e : Int) :
    Rounded (signed s (m * 2 ^ e)) (UnpackedFloat.round Format.binary64 s m e) := by
  rw [UnpackedFloat.round, targetExponent_eq]
  simp only [decreaseExponent, Nat.shiftLeft_eq]
  rw [← decrease_value m (e - placeOf m e).toNat e]
  exact rounded_roundWithAccuracy (enough_of_decrease hm e) (approximates_exact _ _) s

/-- A whole number at any place is rounded, with the sign it has. -/
theorem rounded_normalize (z : Int) (e : Int) (s : Sign) :
    Rounded (z * 2 ^ e) (UnpackedFloat.normalize Format.binary64 z e s) := by
  rw [UnpackedFloat.normalize]
  rcases Int.lt_trichotomy z 0 with hneg | rfl | hpos
  · rw [Int.compare_eq_lt.2 hneg]
    have hcast : (((-z).toNat : Nat) : ℚ) = -z := by
      have : (((-z).toNat : Nat) : ℤ) = -z := Int.toNat_of_nonneg (by omega)
      exact_mod_cast this
    have hround := rounded_round .negative (m := (-z).toNat) (by omega) e
    rw [hcast] at hround
    have hvalue : signed .negative (-(z : ℚ) * 2 ^ e) = z * 2 ^ e := by
      show -(-(z : ℚ) * 2 ^ e) = _
      ring
    rwa [hvalue] at hround
  · rw [Int.compare_eq_eq.2 rfl, Int.cast_zero, zero_mul]
    exact (IsNumber.zero s).rounded
  · rw [Int.compare_eq_gt.2 hpos]
    have hcast : ((z.toNat : Nat) : ℚ) = z := by
      have : ((z.toNat : Nat) : ℤ) = z := Int.toNat_of_nonneg hpos.le
      exact_mod_cast this
    have hround := rounded_round .positive (m := z.toNat) (by omega) e
    rw [hcast] at hround
    exact hround

/-- Two numbers that are brought to the lesser place. -/
theorem aligned_value (s : Sign) (m : Nat) {e place : Int} (h : place ≤ e) :
    ((s.apply ((m <<< (e - place).toNat : Nat) : Int) : Int) : ℚ) * 2 ^ place = signed s (m * 2 ^ e) := by
  have hplace : place = e - ((e - place).toNat : Int) := by omega
  have hvalue := decrease_value m (e - place).toNat e
  rw [← hplace] at hvalue
  rw [Nat.shiftLeft_eq]
  cases s with
  | positive => exact hvalue
  | negative =>
    show ((-((m * 2 ^ (e - place).toNat : Nat) : Int) : Int) : ℚ) * 2 ^ place = -_
    rw [Int.cast_neg, Int.cast_natCast, neg_mul, hvalue]

/-- The sign of a product is the product of the signs. -/
theorem signed_mul (s t : Sign) (x y : ℚ) : signed s x * signed t y = signed (s * t) (x * y) := by
  cases s <;> cases t
  · exact neg_mul_neg x y
  · exact neg_mul x y
  · exact mul_neg x y
  · rfl

theorem signed_div (s t : Sign) (x y : ℚ) : signed s x / signed t y = signed (s / t) (x / y) := by
  cases s <;> cases t
  · exact neg_div_neg_eq x y
  · exact neg_div y x
  · exact div_neg x
  · rfl

/-- A quotient of whole numbers that is cut off, with what is known of its rest. -/
theorem approximates_quotient (m : Nat) {n : Nat} (hn : 0 < n) (e : Int) :
    Approximates (m / n) e (accuracyOfFraction (m % n) n) ((m / n : ℚ) * 2 ^ e) := by
  have hpos : (0 : ℚ) < 2 ^ e := by positivity
  have hnpos : (0 : ℚ) < n := by exact_mod_cast hn
  constructor
  · exact mul_le_mul_of_nonneg_right Nat.cast_div_le hpos.le
  · refine mul_lt_mul_of_pos_right ?_ hpos
    rw [div_lt_iff₀ hnpos]
    exact_mod_cast (Nat.div_lt_iff_lt_mul hn).1 (Nat.lt_succ_self (m / n))
  · intro heq
    have hquotient : (m / n : ℚ) = (m / n : Nat) := mul_right_cancel₀ hpos.ne' heq
    rw [div_eq_iff hnpos.ne'] at hquotient
    have hwhole : m = m / n * n := by exact_mod_cast hquotient
    have hrest : m % n = 0 := by
      have := Nat.div_add_mod' m n
      omega
    rw [accuracyOfFraction, if_pos hrest]

/-- The place where a quotient is cut off. -/
def quotientPlace (m : Nat) (e : Int) (n : Nat) (f : Int) : Int :=
  min (e - f) (max (m.log2 - n.log2 + (e - f) - 53) (-1074))

/-- It is not above the place that the quotient has by itself. -/
theorem quotientPlace_le (m : Nat) (e : Int) (n : Nat) (f : Int) : quotientPlace m e n f ≤ e - f := by
  rw [quotientPlace]
  omega

/-- The division of the model cuts the quotient off there, and tells of the rest. -/
theorem divCore_eq (m : Nat) (e : Int) (n : Nat) (f : Int) :
    divCore Format.binary64 m e n f
      = (m * 2 ^ (e - f - quotientPlace m e n f).toNat / n, quotientPlace m e n f,
        accuracyOfFraction (m * 2 ^ (e - f - quotientPlace m e n f).toNat % n) n) := by
  have htarget : min (e - f) (Format.binary64.targetExponent (totalExponent m e - totalExponent n f))
      = quotientPlace m e n f := by
    simp only [Format.targetExponent, totalExponent, Format.mantissaBits, Format.minExponent, quotientPlace]
    norm_num
    omega
  simp only [divCore, htarget, Nat.shiftLeft_eq]

section Quotients

variable {m n : Nat} (hm : 0 < m) (hn : 0 < n) (e f : Int)
include hm hn

/-- A quotient is given noughts until it has enough bits, or is at the least place. -/
theorem enough_of_quotient :
    2 ^ 52 ≤ m * 2 ^ (e - f - quotientPlace m e n f).toNat / n ∨ quotientPlace m e n f ≤ -1074 := by
  by_cases hleast : quotientPlace m e n f ≤ -1074
  · exact Or.inr hleast
  · left
    have hdivisor : n < 2 ^ (n.log2 + 1) := Nat.lt_log2_self
    rw [Nat.le_div_iff_mul_le hn]
    calc 2 ^ 52 * n ≤ 2 ^ 52 * 2 ^ (n.log2 + 1) := Nat.mul_le_mul_left _ hdivisor.le
      _ = 2 ^ (n.log2 + 53) := by rw [← Nat.pow_add]; congr 1; omega
      _ ≤ 2 ^ (m.log2 + (e - f - quotientPlace m e n f).toNat) := by
        refine Nat.pow_le_pow_right Nat.two_pos ?_
        rw [quotientPlace] at hleast ⊢
        omega
      _ = 2 ^ m.log2 * 2 ^ (e - f - quotientPlace m e n f).toNat := Nat.pow_add _ _ _
      _ ≤ m * 2 ^ (e - f - quotientPlace m e n f).toNat := Nat.mul_le_mul_right _ (Nat.log2_self_le hm.ne')

/-- So what division gives is the exact quotient, rounded. -/
theorem rounded_quotient (s : Sign) :
    Rounded (signed s (m * 2 ^ e / (n * 2 ^ f)))
      (let (q, p, a) := divCore Format.binary64 m e n f
       roundWithAccuracy Format.binary64 s q p a) := by
  rw [divCore_eq]
  have hplace : e - f = quotientPlace m e n f + ((e - f - quotientPlace m e n f).toNat : Int) := by
    have := quotientPlace_le m e n f
    omega
  have hvalue : (m * 2 ^ e / (n * 2 ^ f) : ℚ)
      = ((m * 2 ^ (e - f - quotientPlace m e n f).toNat : Nat) / n : ℚ) * 2 ^ quotientPlace m e n f := by
    rw [mul_div_mul_comm, ← zpow_sub₀ two_ne_zero]
    conv_lhs => rw [hplace]
    rw [zpow_add₀ two_ne_zero, zpow_natCast]
    push_cast
    ring
  rw [hvalue]
  exact rounded_roundWithAccuracy (enough_of_quotient hm hn e f) (approximates_quotient _ hn _) s

end Quotients

section Operations

variable {u v : UnpackedFloat} (hu : IsNumber u) (hv : IsNumber v)
include hu hv

/-- **A sum is the exact sum, rounded.** -/
theorem rounded_add : Rounded (value u + value v) (UnpackedFloat.add Format.binary64 u v) := by
  cases hu with
  | zero s =>
    cases hv with
    | zero t =>
      rw [show value (.zero s) + value (.zero t) = 0 from add_zero 0]
      cases s <;> cases t <;> exact (IsNumber.zero _).rounded
    | finite h =>
      rw [show value (.zero s) = 0 from rfl, zero_add]
      exact (IsNumber.finite h).rounded
  | @finite s m e hm h =>
    cases hv with
    | zero t =>
      rw [show value (.zero t) = 0 from rfl, add_zero]
      exact (IsNumber.finite h).rounded
    | @finite t n f hn h' =>
      have hround := rounded_normalize (s.apply ((m <<< (e - min e f).toNat : Nat) : Int)
        + t.apply ((n <<< (f - min e f).toNat : Nat) : Int)) (min e f) .positive
      rw [Int.cast_add, add_mul, aligned_value s m (by omega), aligned_value t n (by omega)] at hround
      exact hround

/-- **A difference is the exact difference, rounded.** -/
theorem rounded_sub : Rounded (value u - value v) (UnpackedFloat.sub Format.binary64 u v) := by
  cases hu with
  | zero s =>
    cases hv with
    | zero t =>
      rw [show value (.zero s) - value (.zero t) = 0 from sub_zero 0]
      cases s <;> cases t <;> exact (IsNumber.zero _).rounded
    | @finite t n f hn h' =>
      have hneg : value (.finite (-t) n f hn) = value (.zero s) - value (.finite t n f hn) := by
        rw [show value (.zero s) = 0 from rfl, zero_sub]
        cases t
        · exact (neg_neg _).symm
        · rfl
      rw [← hneg]
      exact (IsNumber.finite h').rounded
  | @finite s m e hm h =>
    cases hv with
    | zero t =>
      rw [show value (.zero t) = 0 from rfl, sub_zero]
      exact (IsNumber.finite h).rounded
    | @finite t n f hn h' =>
      have hround := rounded_normalize (s.apply ((m <<< (e - min e f).toNat : Nat) : Int)
        - t.apply ((n <<< (f - min e f).toNat : Nat) : Int)) (min e f) .positive
      rw [Int.cast_sub, sub_mul, aligned_value s m (by omega), aligned_value t n (by omega)] at hround
      exact hround

/-- **A product is the exact product, rounded.** -/
theorem rounded_mul : Rounded (value u * value v) (UnpackedFloat.mul Format.binary64 u v) := by
  cases hu with
  | zero s =>
    rw [show value (.zero s) = 0 from rfl, zero_mul]
    cases hv <;> exact (IsNumber.zero _).rounded
  | @finite s m e hm h =>
    cases hv with
    | zero t =>
      rw [show value (.zero t) = 0 from rfl, mul_zero]
      exact (IsNumber.zero _).rounded
    | @finite t n f hn h' =>
      have hvalue : (m * 2 ^ e : ℚ) * (n * 2 ^ f) = (m * n : Nat) * 2 ^ (e + f) := by
        rw [zpow_add₀ two_ne_zero]
        push_cast
        ring
      have hround := rounded_roundWithAccuracy (h.enough_of_mul h' hm hn) (approximates_exact _ _) (s * t)
      rw [← hvalue, ← signed_mul] at hround
      exact hround

/-- **A quotient is the exact quotient, rounded.** -/
theorem rounded_div (hv0 : value v ≠ 0) :
    Rounded (value u / value v) (UnpackedFloat.div Format.binary64 u v) := by
  cases hv with
  | zero t => exact absurd rfl hv0
  | @finite t n f hn h' =>
    cases hu with
    | zero s =>
      rw [show value (.zero s) = 0 from rfl, zero_div]
      exact (IsNumber.zero _).rounded
    | @finite s m e hm h =>
      rw [show value (.finite s m e hm) = signed s (m * 2 ^ e) from rfl,
        show value (.finite t n f hn) = signed t (n * 2 ^ f) from rfl, signed_div]
      exact rounded_quotient hm hn e f (s / t)

end Operations

end Arbiter.Double
