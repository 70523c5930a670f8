import Arbiter.Proofs.Shares
import Arbiter.Proofs.TrackRecords
import Arbiter.Ring
/-!
# Planned weights are legal

The optimizer computes a weight from two doubles, and nobody looks at it before it comes into force.  It is

    (1 - share) * (1 - speed * (3 / 10))        with   speed = min (efficiency / 10) 1

and the laws of `Validation.inUnit` carry it through, given that both the share and the speed are in the
interval.  They are, for different reasons:

1. **The speed** is cut off at one from above.  From below there is only the sign to go by, since the time it
   is computed from is any double above nothing: dividing neither makes a minus sign nor loses one
   (`unsigned_div`).  A number that is none is `Unsigned` too; it is not below one, and so it is cut off.
2. **The share** is a quotient of two counts of a tally (`inUnit_share`).  What it takes is that no rule
   matched more often than it was evaluated, that it was evaluated at all, and that the counts are words;
   they count results of the history, so they are no greater than it is long (`Tally.within_ofHistory`).
3. **The history** is no longer than its capacity (`Ring.Within.extend`).
-/

open Float.Model Float.Model.UnpackedFloat

namespace Arbiter

/-! ## Signs -/

namespace Double

/-- Something without a minus sign: a number, or what is none. -/
inductive Unsigned : UnpackedFloat → Prop where
  /-- What is no number. -/
  | notANumber : Unsigned .notANumber
  /-- What is beyond all numbers. -/
  | infinity : Unsigned (.infinity .positive)
  /-- Nothing. -/
  | zero : Unsigned (.zero .positive)
  /-- A number above nothing. -/
  | finite {m : Nat} {e : Int} {hm : 0 < m} : Unsigned (.finite .positive m e hm)

/-- A number that is rounded keeps its sign. -/
theorem unsigned_roundWithAccuracy (m : Nat) (e : Int) (a : Accuracy) :
    Unsigned (roundWithAccuracy Format.binary64 .positive m e a) := by
  obtain hround | ⟨_, _, _, hround⟩ := roundWithAccuracy_sign Format.binary64 .positive m e a
  · rw [hround]
    exact .zero
  · rw [hround]
    exact .finite

/-- A quotient of what has no minus sign has none. -/
theorem Unsigned.div {x y : UnpackedFloat} (hx : Unsigned x) (hy : Unsigned y) :
    Unsigned (UnpackedFloat.div Format.binary64 x y) := by
  cases hx with
  | notANumber => exact .notANumber
  | infinity =>
    cases hy with
    | notANumber | infinity => exact .notANumber
    | zero | finite => exact .infinity
  | zero =>
    cases hy with
    | notANumber | zero => exact .notANumber
    | infinity | finite => exact .zero
  | finite =>
    cases hy with
    | notANumber => exact .notANumber
    | infinity => exact .zero
    | zero => exact .infinity
    | finite => exact unsigned_roundWithAccuracy _ _ _

/-- What has no sign bit is unpacked to something without a minus sign. -/
theorem unsigned_unpack {x : Float.Model} (h : @unpackSign Format.binary64 x.toBits.toBitVec = 0#1) :
    Unsigned x.unpack := by
  rw [Float.Model.unpack, UnpackedFloat.unpack]
  dsimp only
  rw [h]
  -- whatever exponent and mantissa are, the sign comes from the sign bit
  split
  · split
    · exact .infinity
    · exact .notANumber
  · split
    · split
      · exact .zero
      · exact .finite
    · exact .finite

/-- Nor does a sign appear when a number is stored as bits. -/
theorem Unsigned.unpack_pack {x : UnpackedFloat} (hx : Unsigned x) :
    Unsigned (Float.Model.pack x).unpack := by
  apply unsigned_unpack
  show unpackSign (UnpackedFloat.pack Format.binary64 x) = 0#1
  cases hx with
  | notANumber | infinity | zero => exact unpackSign_packComponents _ _ _
  | finite =>
    rw [UnpackedFloat.pack]
    dsimp only
    split
    · exact unpackSign_packComponents _ _ _
    · split <;> exact unpackSign_packComponents _ _ _

/-- So the quotient of two doubles without a minus sign has none. -/
theorem unsigned_div {x y : Float} (hx : Unsigned x.toModel.unpack) (hy : Unsigned y.toModel.unpack) :
    Unsigned (x / y).toModel.unpack :=
  (hx.div hy).unpack_pack

theorem lt_iff {x y : Float} : x < y ↔ x.toModel.unpack.lt y.toModel.unpack = true := by
  show decide (x.toModel < y.toModel) = true ↔ _
  rw [decide_eq_true_iff]
  rfl

theorem le_of_lt {x y : Float} (h : x < y) : x ≤ y := by
  rw [lt_iff, UnpackedFloat.lt, beq_iff_eq] at h
  rw [le_iff, UnpackedFloat.le, h]
  rfl

/-- What is above nothing has no minus sign. -/
theorem unsigned_of_pos {x : Float} (h : 0.0 < x) : Unsigned x.toModel.unpack := by
  rw [lt_iff, unpack_zero] at h
  generalize x.toModel.unpack = u at h
  cases u with
  | notANumber => exact .notANumber
  | zero s => cases h
  | infinity s =>
    cases s with
    | positive => exact .infinity
    | negative => cases h
  | finite s m e hm =>
    cases s with
    | positive => exact .finite
    | negative => cases h

/-- Without a minus sign and below one, a double is in the interval. -/
theorem inUnit_of_unsigned {x : Float} (hx : Unsigned x.toModel.unpack) (h : x < 1.0) :
    Validation.inUnit x = true := by
  have hle := le_of_lt h
  have hnonneg : (0.0 : Float) ≤ x := by
    rw [lt_iff, unpack_one, one] at h
    rw [le_iff, unpack_zero]
    generalize x.toModel.unpack = u at hx h
    cases hx with
    | notANumber => cases h
    | infinity | zero | finite => rfl
  rw [Validation.inUnit, Bool.and_eq_true, decide_eq_true_iff, decide_eq_true_iff]
  exact ⟨hnonneg, hle⟩

end Double

/-! ## Plans -/

namespace Plan

open Double

/-- What has no minus sign is in the interval once it is cut off at one. -/
theorem inUnit_least_one {x : Float} (hx : Unsigned x.toModel.unpack) :
    Validation.inUnit (least x (PlanNumber.whole 1)) = true := by
  have hone : (PlanNumber.whole 1 : Float) = 1.0 := by rfl
  have hbelow : PlanNumber.below x 1.0 = decide (x < 1.0) := rfl
  rw [least, hone, hbelow]
  -- what is no number is not below one, and cut off like what is too great
  by_cases h : x < 1.0
  · rw [if_pos (decide_eq_true h)]
    exact inUnit_of_unsigned hx h
  · rw [if_neg (by simpa using h)]
    decide +kernel

/-- The efficiency has no minus sign, even where its quotient is no number. -/
theorem unsigned_efficiency (average : Nat) : Unsigned (efficiency average : Float).toModel.unpack := by
  have hlimit : Unsigned (efficiencyLimit : Float).toModel.unpack := .finite
  rw [efficiency]
  split
  · next hsecs =>
    have hpos : (0.0 : Float) < PlanNumber.seconds average := of_decide_eq_true hsecs
    rw [least]
    split
    · exact unsigned_div .finite (unsigned_of_pos hpos)
    · exact hlimit
  · exact hlimit

/-- **A planned weight is in the interval** if the share of matches is, however fast the rule was. -/
theorem inUnit_weight {share : Float} (hshare : Validation.inUnit share = true) (average : Nat) :
    Validation.inUnit (weight share (efficiency average)) = true := by
  have hone : (PlanNumber.whole 1 : Float) = 1.0 := by rfl
  have hspeed : Validation.inUnit (least (efficiency average / PlanNumber.whole 10)
      (PlanNumber.whole 1) : Float) = true :=
    inUnit_least_one (unsigned_div (unsigned_efficiency average) .finite)
  have htenths : Validation.inUnit (PlanNumber.whole 3 / PlanNumber.whole 10 : Float) = true := by
    decide +kernel
  have hslow := inUnit_one_sub (inUnit_mul hspeed htenths)
  have hplan := inUnit_mul (inUnit_one_sub hshare) hslow
  rw [← hone] at hplan
  exact hplan

end Plan

/-! ## Tallies -/

namespace Tally

/-- A tally of no more than so many results. -/
structure Within (t : Tally) (n : Nat) : Prop where
  /-- Something was evaluated. -/
  evaluated : 0 < t.evaluations
  /-- No more matched than was evaluated. -/
  matched : t.matched ≤ t.evaluations
  /-- No more was evaluated than there are results. -/
  bounded : t.evaluations ≤ n

/-- The tallies of a history count no more results than it has. -/
theorem within_ofHistory (history : List Verdict) :
    ∀ x ∈ ofHistory history, x.2.Within history.length := by
  rw [ofHistory_eq, List.forall_mem_map]
  exact fun id hid =>
    { evaluated := length_resultsOf_pos (List.mem_eraseDups.1 hid)
      matched := List.countP_le_length
      bounded := List.length_filter_le _ _ }

end Tally

/-- **The weights that a history suggests are in the interval**, if it is not too long to be counted. -/
theorem TrackRecord.inUnit_plannedWeight {history : List Verdict} (h : history.length ≤ Numeral.maxWord)
    {s : TrackRecord} (hs : s ∈ TrackRecord.ofHistory history) :
    Validation.inUnit s.plannedWeight = true := by
  obtain ⟨⟨id, t⟩, ht, rfl⟩ := List.mem_map.1 hs
  have hwithin := Tally.within_ofHistory history _ ht
  have hshare : Validation.inUnit (Plan.successRate t.matched t.evaluations) = true :=
    Double.inUnit_share hwithin.matched hwithin.evaluated (Nat.le_trans hwithin.bounded h)
  exact Plan.inUnit_weight hshare _

/-! ## Histories -/

namespace Ring

/-- A ring with room for so many items, at least one, has no more of them. -/
structure Within (r : Ring α) (n : Nat) : Prop where
  /-- The room. -/
  capacity : r.capacity = n
  /-- There is some. -/
  room : 0 < n
  /-- It is enough. -/
  length_le : r.items.length ≤ n

/-- A new ring has room for its capacity, or for one item if that is nothing. -/
theorem within_ofCapacity (n : Nat) : (ofCapacity n : Ring α).Within (max n 1) :=
  ⟨rfl, by omega, Nat.zero_le _⟩

variable {r : Ring α} {n : Nat}

/-- The oldest item makes room for a new one. -/
theorem Within.push (h : r.Within n) (x : α) : (r.push x).Within n := by
  obtain ⟨hcapacity, hroom, hlength⟩ := h
  refine ⟨hcapacity, hroom, ?_⟩
  rw [Ring.push, List.length_append, List.length_singleton]
  split
  · rw [List.length_tail]
    omega
  · omega

/-- Many items go in one by one. -/
theorem Within.extend (h : r.Within n) (xs : List α) : (r.extend xs).Within n := by
  induction xs generalizing r with
  | nil => exact h
  | cons x rest ih => exact ih (h.push x)

end Ring

end Arbiter
