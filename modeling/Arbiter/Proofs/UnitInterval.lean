import Arbiter.Proofs.Rounding
import Arbiter.Validation
/-!
# Doubles from nothing to one

A weight is legal if it is a double from nothing to one (`Validation.inUnit`).  In exact numbers that is
kept by products and by `1 - x`.  In doubles both are rounded, and rounding might lead out: here it is
shown that it does not, because one is a double itself, so that nothing below it is rounded beyond it.

1. **Unpacked** (`InUnit`): a zero of either sign, or a positive settled number that is one or has its
   place below that of one.  The crux is `inUnit_of_lt_one`: an exact number below one, whose mantissa has
   enough bits, is rounded to such a number.  It is all that the operations need.
2. **Packed.**  Packing and unpacking a settled number gives it back (`unpack_pack_finite`), and what is
   unpacked is settled (`settled_of_unpack`).
3. **Doubles.**  `inUnit_iff` ties the comparison of the program to `InUnit`; the laws follow.
-/

open Float.Model Float.Model.UnpackedFloat

namespace Arbiter.Double

/-! ## Unpacked -/

/-- A number from nothing to one. -/
inductive InUnit : UnpackedFloat → Prop where
  /-- Nothing. -/
  | zero (s : Sign) : InUnit (.zero s)
  /-- One, or less. -/
  | finite {m : Nat} {e : Int} {hpos : 0 < m} (hsettled : Settled m e)
      (hle : e < -52 ∨ e = -52 ∧ m = 2 ^ 52) : InUnit (.finite .positive m e hpos)

/-- One. -/
def one : UnpackedFloat := .finite .positive (2 ^ 52) (-52) (by decide)

theorem settled_one : Settled (2 ^ 52) (-52) := ⟨by decide, by decide, Or.inl (Nat.le_refl _)⟩

/-- A mantissa below a power of two, at the place that makes it less than one. -/
theorem log2_add_lt {m k : Nat} {e : Int} (hm : m ≠ 0) (hlt : m < 2 ^ k) (he : k + e ≤ 0) :
    m.log2 + e < 0 := by
  have hlog : m.log2 < k := (Nat.log2_lt hm).2 hlt
  omega

/-- Noughts at the end of a mantissa count as bits. -/
theorem log2_mul_two_pow {m : Nat} (hm : m ≠ 0) (k : Nat) : (m * 2 ^ k).log2 = m.log2 + k := by
  induction k with
  | zero => rw [Nat.pow_zero, Nat.mul_one, Nat.add_zero]
  | succ k ih =>
    have hne : m * 2 ^ k ≠ 0 := Nat.mul_ne_zero hm (Nat.two_pow_pos k).ne'
    rw [Nat.pow_succ, ← Nat.mul_assoc, Nat.mul_comm _ 2, Nat.log2_two_mul hne, ih, Nat.add_assoc]

/-- **What is less than one is rounded to one at most.** -/
theorem inUnit_of_lt_one {m : Nat} {e : Int} {a : Accuracy} (h : 2 ^ 52 ≤ m ∨ e ≤ -1074)
    (hlt : m.log2 + e < 0) : InUnit (roundWithAccuracy Format.binary64 .positive m e a) := by
  obtain hround | ⟨m', e', hpos, hround⟩ := roundWithAccuracy_sign Format.binary64 .positive m e a
  · rw [hround]
    exact .zero _
  · obtain ⟨hsettled, -, hplace⟩ := settled_of_roundWithAccuracy h hround
    have hbelow : placeOf m e ≤ -53 := by
      rw [placeOf]
      omega
    rw [hround]
    refine .finite hsettled ?_
    rcases hplace with hplace | ⟨hplace, hcarry⟩
    · exact Or.inl (by omega)
    · omega

/-- A mantissa that may have too few bits is given noughts until it has enough, or is at the least place. -/
theorem enough_of_decrease {m : Nat} (hm : m ≠ 0) (e : Int) :
    2 ^ 52 ≤ m * 2 ^ (e - placeOf m e).toNat ∨ e - ((e - placeOf m e).toNat : Int) ≤ -1074 := by
  by_cases hleast : placeOf m e = -1074
  · right
    omega
  · left
    have hne : m * 2 ^ (e - placeOf m e).toNat ≠ 0 := Nat.mul_ne_zero hm (Nat.two_pow_pos _).ne'
    rw [← Nat.le_log2 hne, log2_mul_two_pow hm]
    rw [placeOf] at hleast ⊢
    omega

/-- The same for a mantissa that may have too few bits, and is given more first. -/
theorem inUnit_round_of_lt_one {m : Nat} {e : Int} (hm : m ≠ 0) (hlt : m.log2 + e < 0) :
    InUnit (UnpackedFloat.round Format.binary64 .positive m e) := by
  rw [UnpackedFloat.round, targetExponent_eq]
  simp only [decreaseExponent, Nat.shiftLeft_eq]
  apply inUnit_of_lt_one (enough_of_decrease hm e)
  rw [log2_mul_two_pow hm]
  omega

/-- A product of numbers in the interval is in it. -/
theorem InUnit.mul {x y : UnpackedFloat} (hx : InUnit x) (hy : InUnit y) :
    InUnit (UnpackedFloat.mul Format.binary64 x y) := by
  cases hx with
  | zero s =>
    cases hy with
    | zero t => exact .zero _
    | finite _ _ => exact .zero _
  | @finite m e hm hx hxle =>
    cases hy with
    | zero t => exact .zero _
    | @finite n f hn hy hyle =>
      have hne : m * n ≠ 0 := Nat.mul_ne_zero (by omega) (by omega)
      have henough := hx.enough_of_mul hy hm hn
      show InUnit (roundWithAccuracy Format.binary64 .positive (m * n) (e + f) .exact)
      rcases hxle with hxlt | ⟨rfl, rfl⟩ <;> rcases hyle with hylt | ⟨rfl, rfl⟩
      · have hlt : m * n < 2 ^ 53 * 2 ^ 53 := Nat.mul_lt_mul'' hx.lt hy.lt
        rw [← Nat.pow_add] at hlt
        exact inUnit_of_lt_one henough (log2_add_lt hne hlt (by omega))
      · have hlt : m * 2 ^ 52 < 2 ^ 105 := by
          have := hx.lt
          omega
        exact inUnit_of_lt_one henough (log2_add_lt hne hlt (by omega))
      · have hlt : 2 ^ 52 * n < 2 ^ 105 := by
          have := hy.lt
          omega
        exact inUnit_of_lt_one henough (log2_add_lt hne hlt (by omega))
      · -- one times one is the only product that is not below one
        exact .finite settled_one (Or.inr ⟨rfl, rfl⟩)

/-- A positive sum is rounded as a positive number. -/
theorem normalize_of_pos {n : Int} (hn : 0 < n) (spec : Format) (e : Int) (zero : Sign) :
    UnpackedFloat.normalize spec n e zero = UnpackedFloat.round spec .positive n.toNat e := by
  have hcompare : compare n 0 = .gt := Int.compare_eq_gt.2 hn
  rw [UnpackedFloat.normalize, hcompare]

/-- What a number in the interval leaves of one is in the interval. -/
theorem InUnit.one_sub {x : UnpackedFloat} (hx : InUnit x) :
    InUnit (UnpackedFloat.sub Format.binary64 one x) := by
  cases hx with
  | zero s => exact .finite settled_one (Or.inr ⟨rfl, rfl⟩)
  | @finite m e hm hx hle =>
    rcases hle with hlt | ⟨rfl, rfl⟩
    · -- both are brought to the place of `x`, and the difference stands there
      have hmin : min (-52) e = e := by omega
      have hsub : UnpackedFloat.sub Format.binary64 one (.finite .positive m e hm)
          = UnpackedFloat.normalize Format.binary64
              (((2 ^ 52 * 2 ^ (-52 - e).toNat : Nat) : Int) - (m : Int)) e .positive := by
        rw [one, UnpackedFloat.sub, hmin]
        simp only [decreaseExponent, Nat.shiftLeft_eq, Sign.apply, Int.sub_self]
        simp
      have hroom : m < 2 ^ (52 + (-52 - e).toNat) := by
        refine Nat.lt_of_lt_of_le hx.lt (Nat.pow_le_pow_right Nat.two_pos ?_)
        omega
      rw [hsub, ← Nat.pow_add, normalize_of_pos (by omega)]
      refine inUnit_round_of_lt_one (by omega) (log2_add_lt (k := 52 + (-52 - e).toNat) ?_ ?_ ?_)
      · omega
      · omega
      · omega
    · exact .zero _

/-! ## Packed -/

/-- The mantissa with the leading bit that is not stored. -/
theorem toNat_leading (m : BitVec 52) : (1#1 ++ m).toNat = 2 ^ 52 + m.toNat := by
  rw [BitVec.toNat_append, ← Nat.shiftLeft_add_eq_or_of_lt m.isLt]
  rfl

theorem finite_congr {s : Sign} {m n : Nat} {e f : Int} {hm : 0 < m} (hmn : m = n) (hef : e = f) :
    UnpackedFloat.finite s m e hm = .finite s n f (hmn ▸ hm) := by
  subst hmn hef
  rfl

/-- A settled number that is not too great is packed without loss. -/
theorem unpack_pack_finite (s : Sign) {m : Nat} {e : Int} (hpos : 0 < m) (h : Settled m e)
    (he : e ≤ 971) : (Float.Model.pack (.finite s m e hpos)).unpack = .finite s m e hpos := by
  have hleast := h.least
  show UnpackedFloat.unpack Format.binary64 (UnpackedFloat.pack Format.binary64 (.finite s m e hpos)) = _
  have hbiased : (e + (Format.binary64.exponentBias : Int)
      + (Format.binary64.mantissaBitsWithoutImplicit : Int)).toNat = (e + 1075).toNat := by
    show (e + (1023 : Int) + (52 : Int)).toNat = _
    omega
  have hfits : ¬ 2 ^ 11 ≤ (e + 1075).toNat + 1 := by omega
  rw [UnpackedFloat.pack]
  dsimp only
  rw [hbiased, if_neg hfits]
  by_cases hnormal : 2 ^ 52 ≤ m
  · -- 53 bits, of which the leading one is not stored
    have hlog : m.log2 + 1 = Format.binary64.mantissaBits :=
      congrArg (· + 1) ((Nat.log2_eq_iff (by omega)).2 ⟨hnormal, h.lt⟩)
    have hexp : (BitVec.ofNat 11 (e + 1075).toNat).toNat = (e + 1075).toNat :=
      Nat.mod_eq_of_lt (by omega)
    have hones : BitVec.ofNat 11 (e + 1075).toNat ≠ -1#11 := by
      intro heq
      have := hexp.symm.trans (congrArg BitVec.toNat heq)
      simp at this
      omega
    have hnoughts : BitVec.ofNat 11 (e + 1075).toNat ≠ 0#11 := by
      intro heq
      have := hexp.symm.trans (congrArg BitVec.toNat heq)
      simp at this
      omega
    have hmantissa : (1#1 ++ BitVec.ofNat 52 m).toNat = m := by
      rw [toNat_leading, BitVec.toNat_ofNat]
      have := h.lt
      omega
    have hplace : ((BitVec.ofNat 11 (e + 1075).toNat).toNat : Int)
        - ((1023 : Nat) + (52 : Nat)) = e := by
      rw [hexp]
      omega
    rw [if_pos hlog, UnpackedFloat.unpack]
    simp only [unpackExponent_packComponents, unpackMantissa_packComponents,
      unpackSign_packComponents, Sign.ofBitVec_toBitVec]
    rw [if_neg hones, if_neg hnoughts]
    exact finite_congr hmantissa hplace
  · -- fewer bits, so the place is the least one, and no bit of the exponent is set
    have hlog : ¬ m.log2 + 1 = Format.binary64.mantissaBits := by
      have hlt : m.log2 < 52 := (Nat.log2_lt (by omega)).2 (by omega)
      show ¬ m.log2 + 1 = 53
      omega
    obtain rfl : e = -1074 := h.full.resolve_left hnormal
    have hmantissa : (BitVec.ofNat 52 m).toNat = m := Nat.mod_eq_of_lt (by omega)
    have hnonzero : BitVec.ofNat 52 m ≠ 0#52 := by
      intro heq
      have : m = 0 := hmantissa.symm.trans (congrArg BitVec.toNat heq)
      omega
    rw [if_neg hlog, UnpackedFloat.unpack]
    simp only [unpackExponent_packComponents, unpackMantissa_packComponents,
      unpackSign_packComponents, Sign.ofBitVec_toBitVec]
    rw [if_neg (by decide), if_pos trivial, dif_neg hnonzero]
    exact finite_congr hmantissa rfl

/-- What is unpacked is settled. -/
theorem settled_of_unpack {x : Float.Model} {s : Sign} {m : Nat} {e : Int} {hpos : 0 < m}
    (h : x.unpack = .finite s m e hpos) : Settled m e := by
  have hmantissa := (@unpackMantissa Format.binary64 x.toBits.toBitVec).isLt
  rw [Float.Model.unpack, UnpackedFloat.unpack] at h
  dsimp only at h hmantissa
  split at h
  · split at h <;> cases h
  · split at h
    · -- no bits of the exponent: a number at the least place
      next hzero =>
      split at h
      · cases h
      · obtain ⟨-, rfl, rfl⟩ := UnpackedFloat.finite.inj h
        rw [hzero]
        exact ⟨by omega, by decide, Or.inr (by decide)⟩
    · -- the leading bit is not stored
      next hnonzero =>
      obtain ⟨-, rfl, rfl⟩ := UnpackedFloat.finite.inj h
      have hexponent : 0 < (@unpackExponent Format.binary64 x.toBits.toBitVec).toNat :=
        Nat.pos_of_ne_zero fun h0 => hnonzero (BitVec.eq_of_toNat_eq h0)
      have hleading := toNat_leading (@unpackMantissa Format.binary64 x.toBits.toBitVec)
      refine ⟨by omega, ?_, Or.inl (by omega)⟩
      show (-1074 : Int) ≤ ((@unpackExponent Format.binary64 x.toBits.toBitVec).toNat : Int)
        - ((1023 : Nat) + (52 : Nat))
      omega

/-- What is in the interval is packed without loss. -/
theorem InUnit.unpack_pack {x : UnpackedFloat} (hx : InUnit x) : (Float.Model.pack x).unpack = x := by
  cases hx with
  | zero s => cases s <;> rfl
  | finite hsettled hle => exact unpack_pack_finite _ _ hsettled (by omega)

/-! ## Doubles -/

theorem unpack_zero : (0.0 : Float).toModel.unpack = .zero .positive := by rfl

theorem unpack_one : (1.0 : Float).toModel.unpack = one := by rfl

theorem le_iff {x y : Float} : x ≤ y ↔ x.toModel.unpack.le y.toModel.unpack = true := by
  show decide (x.toModel ≤ y.toModel) = true ↔ _
  rw [decide_eq_true_iff]
  rfl

/-- Positive numbers are compared by their places first. -/
theorem finite_le_iff {m n : Nat} {e f : Int} {hm : 0 < m} {hn : 0 < n} :
    (UnpackedFloat.finite .positive m e hm).le (.finite .positive n f hn) = true
      ↔ e < f ∨ e = f ∧ m ≤ n := by
  show ((compare e f).then (compare m n)).isLE = true ↔ _
  rcases Int.lt_trichotomy e f with h | rfl | h
  · rw [Int.compare_eq_lt.2 h]
    simp [h]
  · rw [Int.compare_eq_eq.2 rfl]
    simp [Nat.isLE_compare]
  · rw [Int.compare_eq_gt.2 h]
    simp
    omega

/-- **Validation lets a double pass exactly if it is in the interval**, however it is written. -/
theorem inUnit_iff {x : Float} : Validation.inUnit x = true ↔ InUnit x.toModel.unpack := by
  rw [Validation.inUnit, Bool.and_eq_true, decide_eq_true_iff, decide_eq_true_iff, le_iff, le_iff,
    unpack_zero, unpack_one, one]
  have hsettled := @settled_of_unpack x.toModel
  cases hx : x.toModel.unpack with
  | notANumber => exact ⟨fun h => absurd h.1 Bool.false_ne_true, fun h => nomatch h⟩
  | infinity s =>
    cases s with
    | negative => exact ⟨fun h => absurd h.1 Bool.false_ne_true, fun h => nomatch h⟩
    | positive => exact ⟨fun h => absurd h.2 Bool.false_ne_true, fun h => nomatch h⟩
  | zero s => exact ⟨fun _ => .zero s, fun _ => ⟨by cases s <;> rfl, by cases s <;> rfl⟩⟩
  | finite s m e hpos =>
    cases s with
    | negative => exact ⟨fun h => absurd h.1 Bool.false_ne_true, fun h => nomatch h⟩
    | positive =>
      have hm := hsettled hx
      rw [finite_le_iff]
      constructor
      · rintro ⟨-, hlt | ⟨rfl, hle⟩⟩
        · exact .finite hm (Or.inl hlt)
        · have hfull := hm.full
          exact .finite hm (Or.inr ⟨rfl, by omega⟩)
      · intro h
        cases h with
        | finite _ hle => exact ⟨rfl, hle.imp_right fun h => ⟨h.1, Nat.le_of_eq h.2⟩⟩

/-- For doubles: a product of two in the interval is in it. -/
theorem inUnit_mul {x y : Float} (hx : Validation.inUnit x = true) (hy : Validation.inUnit y = true) :
    Validation.inUnit (x * y) = true := by
  rw [inUnit_iff] at hx hy ⊢
  have hmul := hx.mul hy
  show InUnit (Float.Model.pack (UnpackedFloat.mul Format.binary64 x.toModel.unpack y.toModel.unpack)).unpack
  rwa [hmul.unpack_pack]

/-- For doubles: what one in the interval leaves of one is in it. -/
theorem inUnit_one_sub {x : Float} (hx : Validation.inUnit x = true) :
    Validation.inUnit (1.0 - x) = true := by
  rw [inUnit_iff] at hx ⊢
  have hsub := hx.one_sub
  show InUnit (Float.Model.pack
    (UnpackedFloat.sub Format.binary64 (1.0 : Float).toModel.unpack x.toModel.unpack)).unpack
  rwa [unpack_one, hsub.unpack_pack]

end Arbiter.Double
