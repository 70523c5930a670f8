import Arbiter.Proofs.Shares
/-!
# Whole numbers as doubles

A double has 53 bits, so most whole numbers of sixty-four bits have none of their own: they share the double
of a number near to them.  Which numbers share one is said here without doubles.

1. **Half to even** (`halfEven`) cuts bits off a number and goes to the nearest number of what is left.  The
   shifts of a mantissa keep two bits of what they cut off, and that is all it takes
   (`roundedMantissa_shift`).
2. **The nearest number** (`nearest`) has 53 bits and noughts behind them.  The double of a count is a mantissa
   of 53 bits and a place, and together they are the nearest number (`exists_countOf_nearest`).
3. **Shared doubles** (`ofInt_beq_iff`): two whole numbers have equal doubles exactly if the nearest numbers
   are the same.  Up to `2 ^ 53` each is its own (`nearest_of_small`).
-/

open Float.Model Float.Model.UnpackedFloat

namespace Arbiter.Double

/-! ## Half to even -/

/-- Cuts `k` bits off a number; what is nearer to the next number goes up, and a half goes to the even one. -/
def halfEven (n k : Nat) : Nat :=
  if 2 * (n % 2 ^ k) < 2 ^ k ∨ 2 * (n % 2 ^ k) = 2 ^ k ∧ n / 2 ^ k % 2 = 0 then n / 2 ^ k
  else n / 2 ^ k + 1

/-- What shifts leave: the first bit says whether a half at least was cut off, the second whether it was
something else than nothing or a half. -/
theorem shift_exact (m k : Nat) : (⟨m, false, false⟩ : ExtendedMantissa) >>> k
    = ⟨m / 2 ^ k, decide (2 ^ k ≤ 2 * (m % 2 ^ k)), decide (2 * (m % 2 ^ k) % 2 ^ k ≠ 0)⟩ := by
  induction k with
  | zero =>
    show (⟨m, false, false⟩ : ExtendedMantissa) = _
    simp [Nat.mod_one]
  | succ k ih =>
    have hrest : m % 2 ^ k < 2 ^ k := Nat.mod_lt m (Nat.two_pow_pos k)
    have hmod : m % 2 ^ (k + 1) = m % 2 ^ k + 2 ^ k * (m / 2 ^ k % 2) := Nat.mod_pow_succ
    have hdouble : 2 * (m % 2 ^ (k + 1)) % 2 ^ (k + 1) = 2 * (m % 2 ^ k) := by
      rw [Nat.pow_succ, Nat.mul_comm (2 ^ k), Nat.mul_mod_mul_left, Nat.mod_mod_of_dvd]
      exact Nat.dvd_mul_left (2 ^ k) 2
    have hquotient : m / 2 ^ k / 2 = m / 2 ^ (k + 1) := by rw [Nat.div_div_eq_div_mul, ← Nat.pow_succ]
    have hround : (m / 2 ^ k % 2 != 0) = decide (2 ^ (k + 1) ≤ 2 * (m % 2 ^ (k + 1))) := by
      rw [hmod, Nat.pow_succ]
      rcases Nat.mod_two_eq_zero_or_one (m / 2 ^ k) with hbit | hbit <;> rw [hbit]
      · exact (decide_eq_false (by omega)).symm
      · exact (decide_eq_true (by omega)).symm
    have hsticky : (decide (2 ^ k ≤ 2 * (m % 2 ^ k)) || decide (2 * (m % 2 ^ k) % 2 ^ k ≠ 0))
        = decide (2 * (m % 2 ^ (k + 1)) % 2 ^ (k + 1) ≠ 0) := by
      rw [hdouble, ← Bool.decide_or, decide_eq_decide]
      constructor
      · rintro (h | h) h0
        · omega
        · exact h (by rw [h0, Nat.zero_mod])
      · intro h
        by_cases hhalf : 2 ^ k ≤ 2 * (m % 2 ^ k)
        · exact Or.inl hhalf
        · exact Or.inr (by rwa [Nat.mod_eq_of_lt (by omega)])
    rw [shift_succ, ih, ExtendedMantissa.shiftRightOne]
    dsimp only
    rw [hquotient, hround, hsticky]

/-- **A mantissa that is shifted and rounded goes half to even.** -/
theorem roundedMantissa_shift (m k : Nat) :
    ((⟨m, false, false⟩ : ExtendedMantissa) >>> k).roundedMantissa = halfEven m k := by
  have hrest : m % 2 ^ k < 2 ^ k := Nat.mod_lt m (Nat.two_pow_pos k)
  rw [shift_exact, halfEven]
  generalize m % 2 ^ k = r at hrest ⊢
  generalize m / 2 ^ k = q
  rcases Nat.lt_trichotomy (2 * r) (2 ^ k) with hlt | heq | hgt
  · have hbelow : ¬ 2 ^ k ≤ 2 * r := by omega
    rw [if_pos (Or.inl hlt), decide_eq_false hbelow]
    cases decide (2 * r % 2 ^ k ≠ 0) <;> rfl
  · have hhalf : 2 * r % 2 ^ k = 0 := by rw [heq, Nat.mod_self]
    rw [decide_eq_true (Nat.le_of_eq heq.symm), decide_eq_false (not_not_intro hhalf)]
    show q + q % 2 = _
    split <;> omega
  · have hmore : 2 * r % 2 ^ k ≠ 0 := by
      rw [Nat.mod_eq_sub_mod (Nat.le_of_lt hgt), Nat.mod_eq_of_lt (by omega)]
      omega
    rw [if_neg (by omega), decide_eq_true (Nat.le_of_lt hgt), decide_eq_true hmore]
    rfl

/-- Noughts behind a number can be cut off first. -/
theorem halfEven_mul_two_pow (n k j : Nat) : halfEven (n * 2 ^ j) (k + j) = halfEven n k := by
  have hpos : 0 < 2 ^ j := Nat.two_pow_pos j
  have hdiv : n * 2 ^ j / 2 ^ (k + j) = n / 2 ^ k := by
    rw [Nat.pow_add, Nat.mul_div_mul_right _ _ hpos]
  have hmod : n * 2 ^ j % 2 ^ (k + j) = n % 2 ^ k * 2 ^ j := by
    rw [Nat.pow_add, Nat.mul_mod_mul_right]
  have hlt : 2 * (n % 2 ^ k * 2 ^ j) < 2 ^ (k + j) ↔ 2 * (n % 2 ^ k) < 2 ^ k := by
    rw [Nat.pow_add, ← Nat.mul_assoc, Nat.mul_lt_mul_right hpos]
  have heq : 2 * (n % 2 ^ k * 2 ^ j) = 2 ^ (k + j) ↔ 2 * (n % 2 ^ k) = 2 ^ k := by
    rw [Nat.pow_add, ← Nat.mul_assoc, Nat.mul_left_inj hpos.ne']
  simp only [halfEven, hdiv, hmod, hlt, heq]

/-! ## The nearest number -/

/-- The nearest number of 53 bits with noughts behind them; of two as near, the one with the even bits. -/
def nearestNat (n : Nat) : Nat := halfEven n (n.log2 - 52) * 2 ^ (n.log2 - 52)

/-- The same with a sign. -/
def nearest (z : Int) : Int := z.sign * nearestNat z.natAbs

/-- A number that has 53 bits at most is its own nearest one. -/
theorem nearestNat_of_log2 {n : Nat} (h : n.log2 ≤ 52) : nearestNat n = n := by
  have hzero : n.log2 - 52 = 0 := by omega
  rw [nearestNat, hzero, halfEven, Nat.pow_zero, Nat.mod_one, Nat.div_one, if_pos (Or.inl Nat.one_pos),
    Nat.mul_one]

/-- **Up to `2 ^ 53` a number is its own nearest one.** -/
theorem nearest_of_small {z : Int} (hz : z.natAbs ≤ 2 ^ 53) : nearest z = z := by
  have hnat : nearestNat z.natAbs = z.natAbs := by
    rcases Nat.lt_or_eq_of_le hz with hlt | heq
    · refine nearestNat_of_log2 ?_
      by_cases hzero : z.natAbs = 0
      · rw [hzero]
        decide
      · exact Nat.le_of_lt_succ ((Nat.log2_lt hzero).2 hlt)
    · rw [heq]
      decide
  rw [nearest, hnat, Int.sign_mul_natAbs]

section Counts

variable {n : Nat} (hn : 0 < n)
include hn

/-- The mantissa of its double is the count with the bits that are too many cut off. -/
theorem countMantissa_eq (hlog : 52 ≤ n.log2) : countMantissa n = halfEven n (n.log2 - 52) := by
  have hshift : (placeOf (n * 2 ^ 53) (-53) - -53).toNat = n.log2 - 52 + 53 := by
    rw [placeOf_count hn]
    omega
  rw [countMantissa, firstMantissa, hshift, ExtendedMantissa.ofMantissaAndAccuracy, roundedMantissa_shift,
    halfEven_mul_two_pow]

/-- **The double of a count is the nearest number**, as a mantissa of 53 bits and a place. -/
theorem exists_countOf_nearest : ∃ r e hpos, countOf n = .finite .positive r e hpos
    ∧ 2 ^ 52 ≤ r ∧ r < 2 ^ 53 ∧ -52 ≤ e ∧ r * 2 ^ (e + 52).toNat = nearestNat n * 2 ^ 52 := by
  rcases Nat.lt_or_ge n (2 ^ 53) with hsmall | hgreat
  · obtain ⟨hlow, hlt, hpos, hcount⟩ := countOf_of_small hn hsmall
    have hlog : n.log2 < 53 := (Nat.log2_lt hn.ne').2 hsmall
    have hplace : ((n.log2 : Int) - 52 + 52).toNat = n.log2 := by omega
    have hbits : 52 - n.log2 + n.log2 = 52 := by omega
    refine ⟨_, _, hpos, hcount, hlow, hlt, by omega, ?_⟩
    rw [hplace, Nat.mul_assoc, ← Nat.pow_add, hbits, nearestNat_of_log2 (by omega)]
  · have hlog : 53 ≤ n.log2 := (Nat.le_log2 hn.ne').2 hgreat
    obtain ⟨hlow, hle⟩ := countMantissa_bounds hn
    have hmantissa := countMantissa_eq hn (by omega)
    obtain ⟨r, e, hpos, hcount, ⟨rfl, hlt, rfl⟩ | ⟨rfl, hcarry, rfl⟩⟩ := exists_countOf hn
    · have hplace : ((n.log2 : Int) - 52 + 52).toNat = n.log2 - 52 + 52 := by omega
      refine ⟨_, _, hpos, hcount, hlow, hlt, by omega, ?_⟩
      rw [hplace, nearestNat, hmantissa, Nat.pow_add, Nat.mul_assoc]
    · -- the mantissa has carried, and the next place makes up for it
      have hplace : ((n.log2 : Int) - 51 + 52).toNat = n.log2 - 52 + 53 := by omega
      refine ⟨_, _, hpos, hcount, by decide, by decide, by omega, ?_⟩
      rw [hplace, nearestNat, ← hmantissa, hcarry, Nat.pow_add]
      ring

theorem nearestNat_pos : 0 < nearestNat n := by
  obtain ⟨r, e, hpos, -, -, -, -, hvalue⟩ := exists_countOf_nearest hn
  have hproduct : 0 < nearestNat n * 2 ^ 52 := hvalue ▸ Nat.mul_pos hpos (Nat.two_pow_pos _)
  exact Nat.pos_of_mul_pos_right hproduct

end Counts

/-- A mantissa of 53 bits and its place are known from the number that they are. -/
theorem mantissa_place_inj {r r' i j : Nat} (hr : 2 ^ 52 ≤ r ∧ r < 2 ^ 53) (hr' : 2 ^ 52 ≤ r' ∧ r' < 2 ^ 53)
    (h : r * 2 ^ i = r' * 2 ^ j) : r = r' ∧ i = j := by
  have hlog : r.log2 = 52 := (Nat.log2_eq_iff (by omega)).2 hr
  have hlog' : r'.log2 = 52 := (Nat.log2_eq_iff (by omega)).2 hr'
  have hplaces := congrArg Nat.log2 h
  rw [log2_mul_two_pow (by omega), log2_mul_two_pow (by omega), hlog, hlog'] at hplaces
  obtain rfl : i = j := by omega
  exact ⟨Nat.eq_of_mul_eq_mul_right (Nat.two_pow_pos i) h, rfl⟩

/-! ## Shared doubles -/

/-- The double of a whole number, unpacked. -/
def wholeOf (z : Int) : UnpackedFloat :=
  if z = 0 then .zero .positive else if z < 0 then (countOf z.natAbs).neg else countOf z.natAbs

/-- Above zero it is the double of a count. -/
theorem wholeOf_of_pos {z : Int} (hz : 0 < z) : wholeOf z = countOf z.natAbs := by
  rw [wholeOf, if_neg (by omega), if_neg (by omega)]

theorem wholeOf_of_neg {z : Int} (hz : z < 0) : wholeOf z = (countOf z.natAbs).neg := by
  rw [wholeOf, if_neg (by omega), if_pos hz]

/-- The double of a whole number that fits into a word is the one above. -/
theorem unpack_ofInt {z : Int} (hz : z.natAbs ≤ Numeral.maxWord) :
    (Float.ofInt z).toModel.unpack = wholeOf z := by
  rcases Int.lt_trichotomy z 0 with hneg | rfl | hpos
  · obtain ⟨r, e, hr, hfinite, hlow, hlt, hleast, hmost⟩ := countOf_normal (Int.natAbs_pos.2 hneg.ne) hz
    have hcount := unpack_ofNat (Int.natAbs_pos.2 hneg.ne) hz
    obtain ⟨n, rfl⟩ := Int.eq_negSucc_of_lt_zero hneg
    rw [wholeOf_of_neg hneg]
    show (Float.Model.pack (Float.ofNat (Int.negSucc n).natAbs).toModel.unpack.neg).unpack = _
    rw [hcount, hfinite]
    exact unpack_pack_finite _ hr ⟨hlt, by omega, Or.inl hlow⟩ (by omega)
  · rfl
  · have hcount := unpack_ofNat (Int.natAbs_pos.2 hpos.ne') hz
    obtain ⟨n, rfl⟩ := Int.eq_ofNat_of_zero_le hpos.le
    rw [wholeOf_of_pos hpos]
    exact hcount

/-- The sign of a whole number that is not zero. -/
def signOf (z : Int) : Sign := if z < 0 then .negative else .positive

/-- Signs are the same if both numbers are below zero, or neither is. -/
theorem signOf_inj {y z : Int} : signOf y = signOf z ↔ (y < 0 ↔ z < 0) := by
  by_cases hy : y < 0 <;> by_cases hz : z < 0 <;> simp [signOf, hy, hz]

/-- The double of a whole number has its sign, and the nearest number for a mantissa and a place. -/
theorem exists_wholeOf {z : Int} (hz : z ≠ 0) :
    ∃ r e hpos, wholeOf z = .finite (signOf z) r e hpos
      ∧ (2 ^ 52 ≤ r ∧ r < 2 ^ 53) ∧ -52 ≤ e ∧ r * 2 ^ (e + 52).toNat = nearestNat z.natAbs * 2 ^ 52 := by
  obtain ⟨r, e, hpos, hcount, hlow, hlt, hleast, hvalue⟩ := exists_countOf_nearest (Int.natAbs_pos.2 hz)
  refine ⟨r, e, hpos, ?_, ⟨hlow, hlt⟩, hleast, hvalue⟩
  rcases Int.lt_or_gt_of_ne hz with hneg | hpos
  · rw [wholeOf_of_neg hneg, hcount, signOf, if_pos hneg]
    rfl
  · rw [wholeOf_of_pos hpos, hcount, signOf, if_neg (by omega)]

/-- Above zero the nearest number is that of the count. -/
theorem nearest_of_pos {z : Int} (hz : 0 < z) : nearest z = nearestNat z.natAbs := by
  rw [nearest, Int.sign_eq_one_of_pos hz, Int.one_mul]

theorem nearest_of_neg {z : Int} (hz : z < 0) : nearest z = -nearestNat z.natAbs := by
  rw [nearest, Int.sign_eq_neg_one_of_neg hz, Int.neg_one_mul]

/-- Other than zero, nearest numbers are the same if signs and counts agree. -/
theorem nearest_eq_iff {y z : Int} (hy : y ≠ 0) (hz : z ≠ 0) :
    nearest y = nearest z ↔ (y < 0 ↔ z < 0) ∧ nearestNat y.natAbs = nearestNat z.natAbs := by
  have hypos := nearestNat_pos (Int.natAbs_pos.2 hy)
  have hzpos := nearestNat_pos (Int.natAbs_pos.2 hz)
  rcases Int.lt_or_gt_of_ne hy with hy | hy <;> rcases Int.lt_or_gt_of_ne hz with hz | hz
  · rw [nearest_of_neg hy, nearest_of_neg hz]
    omega
  · rw [nearest_of_neg hy, nearest_of_pos hz]
    omega
  · rw [nearest_of_pos hy, nearest_of_neg hz]
    omega
  · rw [nearest_of_pos hy, nearest_of_pos hz]
    omega

/-- **Whole numbers share a double exactly if the nearest numbers are the same.** -/
theorem wholeOf_inj {y z : Int} : wholeOf y = wholeOf z ↔ nearest y = nearest z := by
  have hnonzero : ∀ {z : Int}, z ≠ 0 → nearest z ≠ 0 := by
    intro z hz
    have hpos := nearestNat_pos (Int.natAbs_pos.2 hz)
    exact Int.mul_ne_zero (mt Int.sign_eq_zero_iff_zero.1 hz) (by omega)
  by_cases hy : y = 0
  · subst hy
    by_cases hz : z = 0
    · subst hz
      exact iff_of_true rfl rfl
    · obtain ⟨r, e, hpos, hfinite, -⟩ := exists_wholeOf hz
      refine iff_of_false ?_ (hnonzero hz).symm
      rw [hfinite]
      exact nofun
  · obtain ⟨r, e, hpos, hfinite, hbits, hleast, hvalue⟩ := exists_wholeOf hy
    by_cases hz : z = 0
    · subst hz
      refine iff_of_false ?_ (hnonzero hy)
      rw [hfinite]
      exact nofun
    · obtain ⟨r', e', hpos', hfinite', hbits', hleast', hvalue'⟩ := exists_wholeOf hz
      rw [nearest_eq_iff hy hz, hfinite, hfinite']
      constructor
      · intro heq
        obtain ⟨hsign, rfl, rfl⟩ := UnpackedFloat.finite.inj heq
        have hnearest := Nat.eq_of_mul_eq_mul_right (Nat.two_pow_pos 52) (hvalue.symm.trans hvalue')
        exact ⟨signOf_inj.1 hsign, hnearest⟩
      · rintro ⟨hsign, hnearest⟩
        obtain ⟨rfl, hplace⟩ := mantissa_place_inj hbits hbits' (hvalue.trans (hnearest ▸ hvalue'.symm))
        rw [signOf_inj.2 hsign]
        exact finite_congr rfl (by omega)

/-- The double of a whole number is a number, and its zero is the positive one. -/
theorem wholeOf_proper (z : Int) : wholeOf z ≠ .notANumber ∧ wholeOf z ≠ .zero .negative := by
  by_cases hz : z = 0
  · subst hz
    exact ⟨nofun, nofun⟩
  · obtain ⟨r, e, hpos, hfinite, -⟩ := exists_wholeOf hz
    rw [hfinite]
    exact ⟨nofun, nofun⟩

/-- **Doubles of whole numbers are equal exactly if the nearest numbers are the same.** -/
theorem ofInt_beq_iff {y z : Int} (hy : y.natAbs ≤ Numeral.maxWord) (hz : z.natAbs ≤ Numeral.maxWord) :
    (Float.ofInt y == Float.ofInt z) = true ↔ nearest y = nearest z := by
  show (Float.ofInt y).toModel.unpack.beq (Float.ofInt z).toModel.unpack = true ↔ _
  rw [unpack_ofInt hy, unpack_ofInt hz, beq_iff_ne_notANumber_and_eq, ← wholeOf_inj]
  constructor
  · rintro ⟨-, -, heq | ⟨-, hneg⟩ | ⟨hneg, -⟩⟩
    · exact heq
    · exact absurd hneg (wholeOf_proper z).2
    · exact absurd hneg (wholeOf_proper y).2
  · exact fun heq => ⟨(wholeOf_proper y).1, (wholeOf_proper z).1, Or.inl heq⟩

/-- The double of a whole number is a number. -/
theorem ofInt_ne_nan {z : Int} (hz : z.natAbs ≤ Numeral.maxWord) : Float.ofInt z ≠ Float.nan := by
  intro hnan
  have hself := (ofInt_beq_iff hz hz).2 rfl
  rw [hnan, Float.nan_beq_eq_false] at hself
  cases hself

end Arbiter.Double
