import Arbiter.Proofs.Doubles
/-!
# Arithmetic of packed doubles

What is known of unpacked doubles holds of the packed ones that programs compute with, and their whole parts are
those of the fractions they stand for (`worth`).

1. **Arithmetic.**  A sum, a difference, a product or a quotient that is not too great is packed without loss
   (`Rounded.unpack_pack`), so it is the exact result, rounded.  A count is rounded to its double, and one up to
   `2 ^ 53` stands for itself (`worth_ofNat`).
2. **Whole parts.**  The bits of a double give a mantissa and an exponent, with which it is cut down to a
   whole number; they are what it stands for (`value_unpack`), and so cutting the fraction off a double is
   cutting it off what it stands for (`toWord_truncate`).
-/

open Float.Model Float.Model.UnpackedFloat

namespace Arbiter.Double

/-! ## Arithmetic -/

/-- What a double stands for. -/
def worth (x : Float) : ℚ := value x.toModel.unpack

/-- Packing loses nothing as long as the result is not too great. -/
theorem Rounded.unpack_pack {q : ℚ} {u : UnpackedFloat} (h : Rounded q u) (hq : |q| ≤ 2 ^ 971) :
    (Float.Model.pack u).unpack = u := by
  have hvalue : |value u| ≤ 2 ^ (971 : ℤ) := h.abs_value_le (representable_two_pow (by decide)) hq
  have hnumber := h.number
  cases hnumber with
  | zero s => cases s <;> rfl
  | @finite s m e hm hsettled =>
    have hmone : (1 : ℚ) ≤ m := by exact_mod_cast hm
    have hsize : |value (.finite s m e hm)| = m * 2 ^ e := by
      have hnonneg : (0 : ℚ) ≤ m * 2 ^ e := by positivity
      cases s
      · exact (abs_neg _).trans (abs_of_nonneg hnonneg)
      · exact abs_of_nonneg hnonneg
    have hle : (2 : ℚ) ^ e ≤ 2 ^ (971 : ℤ) := by
      rw [hsize] at hvalue
      exact le_trans (le_mul_of_one_le_left (by positivity) hmone) hvalue
    exact unpack_pack_finite s hm hsettled ((zpow_le_zpow_iff_right₀ (by norm_num)).1 hle)

/-- A rounded number that is not too great stays the same when it is stored as bits. -/
theorem Rounded.packed {q : ℚ} {u : UnpackedFloat} (h : Rounded q u) (hq : |q| ≤ 2 ^ 971) :
    Rounded q (Float.Model.pack u).unpack := by
  rwa [h.unpack_pack hq]

section Arithmetic

variable {x y : Float} (hx : IsNumber x.toModel.unpack) (hy : IsNumber y.toModel.unpack)
include hx hy

/-- The sum of two doubles is their exact sum, rounded. -/
theorem rounded_add_double (hle : |worth x + worth y| ≤ 2 ^ 971) :
    Rounded (worth x + worth y) (x + y).toModel.unpack := (rounded_add hx hy).packed hle

/-- The difference of two doubles is their exact difference, rounded. -/
theorem rounded_sub_double (hle : |worth x - worth y| ≤ 2 ^ 971) :
    Rounded (worth x - worth y) (x - y).toModel.unpack := (rounded_sub hx hy).packed hle

/-- The product of two doubles is their exact product, rounded. -/
theorem rounded_mul_double (hle : |worth x * worth y| ≤ 2 ^ 971) :
    Rounded (worth x * worth y) (x * y).toModel.unpack := (rounded_mul hx hy).packed hle

/-- The quotient of two doubles is their exact quotient, rounded, unless by nothing. -/
theorem rounded_div_double (hy0 : worth y ≠ 0) (hle : |worth x / worth y| ≤ 2 ^ 971) :
    Rounded (worth x / worth y) (x / y).toModel.unpack := (rounded_div hx hy hy0).packed hle

end Arithmetic

/-- A count is rounded to its double. -/
theorem rounded_ofNat {n : Nat} (hn : n ≤ Numeral.maxWord) : Rounded n (Float.ofNat n).toModel.unpack := by
  rcases Nat.eq_zero_or_pos n with rfl | hpos
  · exact (IsNumber.zero .positive).rounded
  · have hvalue : signed .positive (((n * 2 ^ 53 : Nat) : ℚ) * 2 ^ (-53 : ℤ)) = n := by
      exact (decrease_value n 53 0).trans (by rw [zpow_zero, mul_one])
    have hround := rounded_roundWithAccuracy (m := n * 2 ^ 53) (e := -53) (Or.inl (by omega))
      (approximates_exact _ _) .positive
    rw [hvalue] at hround
    rw [unpack_ofNat hpos hn]
    exact hround

section SmallCounts

variable {n : Nat} (hn : n ≤ 2 ^ 53)
include hn

/-- A count up to `2 ^ 53` is small enough for that. -/
theorem rounded_ofNat_of_small : Rounded n (Float.ofNat n).toModel.unpack :=
  rounded_ofNat (by rw [Numeral.maxWord]; omega)

/-- Up to `2 ^ 53` a count stands for itself. -/
theorem worth_ofNat : worth (Float.ofNat n) = n := (rounded_ofNat_of_small hn).eq (representable_count hn)

end SmallCounts

/-! ## Whole parts -/

/-- The mantissa is the lowest 52 bits. -/
theorem toNat_unpackMantissa (b : UInt64) :
    (@unpackMantissa Format.binary64 b.toBitVec).toNat = (b &&& 0xFFFFFFFFFFFFF).toNat := by
  unfold unpackMantissa
  simp only [BitVec.toNat_cast, BitVec.extractLsb_toNat, UInt64.toNat_and]
  show b.toNat >>> 0 % 2 ^ 52 = b.toNat &&& (2 ^ 52 - 1)
  rw [Nat.and_two_pow_sub_one_eq_mod]
  rfl

/-- The exponent is the 11 bits above the mantissa. -/
theorem toNat_unpackExponent (b : UInt64) :
    (@unpackExponent Format.binary64 b.toBitVec).toNat = ((b >>> 52) &&& 0x7FF).toNat := by
  unfold unpackExponent
  simp only [BitVec.toNat_cast, BitVec.extractLsb_toNat, UInt64.toNat_and, UInt64.toNat_shiftRight]
  show b.toNat >>> 52 % 2 ^ 11 = (b.toNat >>> 52) &&& (2 ^ 11 - 1)
  rw [Nat.and_two_pow_sub_one_eq_mod]

/-- The sign is the highest bit. -/
theorem toNat_unpackSign (b : UInt64) :
    (@unpackSign Format.binary64 b.toBitVec).toNat = (b >>> 63).toNat := by
  unfold unpackSign
  simp only [BitVec.toNat_cast, BitVec.extractLsb_toNat, UInt64.toNat_shiftRight]
  show b.toNat >>> 63 % 2 ^ 1 = b.toNat >>> 63
  have hlt := b.toNat_lt
  rw [Nat.shiftRight_eq_div_pow]
  omega

/-- What a dyadic number is. -/
def dyadic (d : Decimal.Dyadic) : ℚ := d.mantissa * 2 ^ d.exponent

theorem dyadic_nonneg (d : Decimal.Dyadic) : 0 ≤ dyadic d := by
  unfold dyadic
  positivity

/-- The mantissa and the exponent that are read off the bits, with the sign, are what a number stands for. -/
theorem value_unpack {b : UInt64} (h : IsNumber (UnpackedFloat.unpack Format.binary64 b.toBitVec)) :
    value (UnpackedFloat.unpack Format.binary64 b.toBitVec)
      = signed (.ofBitVec (@unpackSign Format.binary64 b.toBitVec)) (dyadic (.ofBits b)) := by
  rw [dyadic, Decimal.Dyadic.ofBits, ← toNat_unpackMantissa, ← toNat_unpackExponent]
  rw [UnpackedFloat.unpack] at h ⊢
  dsimp only at h ⊢
  generalize Sign.ofBitVec (@unpackSign Format.binary64 b.toBitVec) = s at h ⊢
  split at h
  · split at h <;> cases h
  · next hones =>
    rw [if_neg hones]
    split at h
    · next hzero =>
      have hexponent : (@unpackExponent Format.binary64 b.toBitVec).toNat = 0 := congrArg BitVec.toNat hzero
      rw [if_pos hzero, if_pos hexponent]
      split at h
      · next hnone =>
        rw [dif_pos hnone, hnone]
        show 0 = signed s (((0 : Nat) : ℚ) * 2 ^ (-1074 : ℤ))
        rw [Nat.cast_zero, zero_mul]
        cases s
        · exact neg_zero.symm
        · rfl
      · next hsome =>
        rw [dif_neg hsome, hzero]
        rfl
    · next hnonzero =>
      have hexponent : (@unpackExponent Format.binary64 b.toBitVec).toNat ≠ 0 :=
        fun h0 => hnonzero (BitVec.eq_of_toNat_eq h0)
      rw [if_neg hnonzero, if_neg hexponent]
      show signed s (((1#1 ++ @unpackMantissa Format.binary64 b.toBitVec).toNat : ℚ)
        * 2 ^ (((@unpackExponent Format.binary64 b.toBitVec).toNat : ℤ) - ((1023 : Nat) + (52 : Nat)))) = _
      rw [toNat_leading]
      rfl

/-- A dyadic number without its fraction. -/
theorem whole_eq_floor (m : Nat) (e : Int) :
    (if e ≥ 0 then m * Nat.pow 2 e.toNat else m / Nat.pow 2 (-e).toNat) = ⌊(m * 2 ^ e : ℚ)⌋₊ := by
  split
  · next he =>
    obtain ⟨k, rfl⟩ := Int.eq_ofNat_of_zero_le he
    have hwhole : (m * 2 ^ (k : ℤ) : ℚ) = (m * 2 ^ k : Nat) := by
      push_cast
      rw [zpow_natCast]
    rw [hwhole, Nat.floor_natCast]
    rfl
  · next he =>
    obtain ⟨k, rfl⟩ : ∃ k : Nat, e = -k := ⟨(-e).toNat, by omega⟩
    have hquotient : (m * 2 ^ (-(k : ℤ)) : ℚ) = m / (2 ^ k : Nat) := by
      rw [zpow_neg, zpow_natCast, ← div_eq_mul_inv]
      push_cast
      rfl
    rw [hquotient, Nat.floor_div_eq_div, neg_neg]
    rfl

section Whole

variable {x : Float} (hx : IsNumber x.toModel.unpack) (hnonneg : 0 ≤ worth x)
include hx hnonneg

/-- Cutting the fraction off a double is cutting it off what it stands for. -/
theorem truncate_eq_floor : Decimal.truncate x = (⌊worth x⌋₊ : Int) := by
  have hworth : worth x
      = signed (.ofBitVec (@unpackSign Format.binary64 x.toBits.toBitVec)) (dyadic (.ofBits x.toBits)) :=
    value_unpack hx
  rw [Decimal.truncate, whole_eq_floor, ← dyadic]
  by_cases hsign : @unpackSign Format.binary64 x.toBits.toBitVec = 0#1
  · have hpositive : Decimal.isNegative x = false := by
      have hbit : x.toBits >>> 63 = 0 := by
        rw [← UInt64.toNat_inj, ← toNat_unpackSign, hsign]
        rfl
      rw [Decimal.isNegative, hbit]
      rfl
    rw [hsign] at hworth
    rw [hpositive, hworth]
    rfl
  · -- a number with the other sign is not below nothing only if it is nothing
    rw [Sign.ofBitVec, if_neg hsign] at hworth
    have hzero : dyadic (.ofBits x.toBits) = 0 := by
      rw [hworth] at hnonneg
      exact le_antisymm (neg_nonneg.1 hnonneg) (dyadic_nonneg _)
    rw [hzero] at hworth
    rw [hzero, hworth]
    show (if Decimal.isNegative x then -((⌊(0 : ℚ)⌋₊ : Nat) : Int) else _)
      = ((⌊-(0 : ℚ)⌋₊ : Nat) : Int)
    rw [neg_zero, Nat.floor_zero]
    split <;> rfl

/-- The same, as a word. -/
theorem toWord_truncate : Decimal.toWord Decimal.truncate x = min ⌊worth x⌋₊ Numeral.maxWord := by
  have hnan : x.isNaN = false := by
    show x.toModel.unpack.isNaN = false
    exact hx.isFinite.1
  have hinf : x.isInf = false := by
    show x.toModel.unpack.isInf = false
    exact hx.isFinite.2
  rw [Decimal.toWord, hnan, hinf, truncate_eq_floor hx hnonneg]
  rfl

end Whole

end Arbiter.Double
