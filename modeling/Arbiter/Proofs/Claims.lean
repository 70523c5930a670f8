import Arbiter.Proofs.Paths
import Arbiter.Verdict.Claims
/-!
# Claims by steps

Conflicts between paths are decided on their texts, character by character.  Here they are read as a
relation of the steps: two paths are in conflict exactly if their steps are comparable
(`inConflict_iff`).  With that the questions to a table of claims have answers that no longer speak of
texts.
-/

namespace Arbiter

/-! ## Texts that lead on from each other -/

namespace Text

/-- Cutting at every separator, as the standard library does it. -/
theorem splitOn_eq (sep : Char) (cs : List Char) : splitOn sep cs = cs.splitOn sep := by
  induction cs with
  | nil => rfl
  | cons c cs ih =>
    rw [splitOn, List.splitOn_cons_eq_if_modifyHead, ih]
    by_cases h : c = sep
    · simp [h]
    · rw [if_neg h, if_neg (by simpa using h)]
      cases hs : cs.splitOn sep with
      | nil => exact absurd hs (List.splitOn_ne_nil sep cs)
      | cons piece rest => rfl

theorem splitOn_ne_nil (sep : Char) (cs : List Char) : splitOn sep cs ≠ [] := by
  rw [splitOn_eq]
  exact List.splitOn_ne_nil sep cs

/-- Joining two rows of pieces puts one separator between them. -/
theorem intercalate_append (sep : Char) {ps qs : List (List Char)} (hp : ps ≠ []) (hq : qs ≠ []) :
    [sep].intercalate (ps ++ qs) = [sep].intercalate ps ++ sep :: [sep].intercalate qs := by
  induction ps with
  | nil => exact absurd rfl hp
  | cons p rest ih =>
    by_cases hrest : rest = []
    · subst hrest
      simp [List.intercalate_cons_of_ne_nil hq]
    · rw [List.cons_append, List.intercalate_cons_of_ne_nil (by simp [hrest]), ih hrest,
        List.intercalate_cons_of_ne_nil hrest]
      simp

/-- The pieces of one text begin the pieces of another exactly if the texts are equal or a separator
follows the one in the other. -/
theorem splitOn_prefix_iff (sep : Char) {xs ys : List Char} :
    splitOn sep xs <+: splitOn sep ys ↔ xs = ys ∨ ∃ rest, ys = xs ++ sep :: rest := by
  have hjoin : ∀ cs : List Char, [sep].intercalate (splitOn sep cs) = cs := by
    intro cs
    rw [splitOn_eq]
    exact List.intercalate_splitOn sep
  constructor
  · rintro ⟨more, hmore⟩
    have hys : [sep].intercalate (splitOn sep xs ++ more) = ys := by rw [hmore, hjoin]
    by_cases h : more = []
    · left
      rw [← hys, h, List.append_nil, hjoin]
    · right
      refine ⟨[sep].intercalate more, ?_⟩
      rw [← hys, intercalate_append sep (splitOn_ne_nil sep xs) h, hjoin]
  · rintro (rfl | ⟨rest, rfl⟩)
    · exact List.prefix_rfl
    · rw [splitOn_eq, splitOn_eq, List.splitOn_append_cons_self]
      exact List.prefix_append _ _

end Text

/-- A path leads on from another if a point and more follow it. -/
theorem leadsOn_iff {a b : List Char} : leadsOn a b = true ↔ ∃ rest, b = a ++ '.' :: rest := by
  simp only [leadsOn, Bool.and_eq_true, List.isPrefixOf_iff_prefix, beq_iff_eq]
  constructor
  · rintro ⟨⟨t, rfl⟩, hdot⟩
    rw [List.getElem?_append_right (Nat.le_refl _), Nat.sub_self] at hdot
    cases t with
    | nil => cases hdot
    | cons d rest =>
      obtain rfl : d = '.' := by simpa using hdot
      exact ⟨rest, rfl⟩
  · rintro ⟨rest, rfl⟩
    refine ⟨List.prefix_append _ _, ?_⟩
    rw [List.getElem?_append_right (Nat.le_refl _), Nat.sub_self]
    rfl

/-! ## Conflicts of paths -/

/-- Segments begin others exactly if the paths are equal or one leads on from the other. -/
theorem segments_prefix_iff {a b : String} :
    segments a <+: segments b ↔ a = b ∨ leadsOn a.toList b.toList = true := by
  rw [segments, segments, List.prefix_map_iff_of_injective fun _ _ h => String.ofList_injective h,
    Text.splitOn_prefix_iff, String.toList_inj, leadsOn_iff]

/-- **Paths are in conflict exactly if their steps are comparable.** -/
theorem inConflict_iff {a b : String} :
    inConflict a b = true ↔ Comparable (segments a) (segments b) := by
  rw [Comparable, segments_prefix_iff, segments_prefix_iff]
  simp only [inConflict, Bool.or_eq_true, beq_iff_eq]
  constructor
  · rintro ((h | h) | h)
    · exact Or.inl (Or.inl h)
    · exact Or.inl (Or.inr h)
    · exact Or.inr (Or.inr h)
  · rintro ((h | h) | (h | h))
    · exact Or.inl (Or.inl h)
    · exact Or.inl (Or.inr h)
    · exact Or.inl (Or.inl h.symm)
    · exact Or.inr h

/-! ## The table of claims -/

namespace Claims

/-- A path is kept from a rule exactly by a comparable claim of another one. -/
theorem rival?_isSome_iff {cs : Claims} {target ruleId : String} :
    (cs.rival? target ruleId).isSome = true
      ↔ ∃ c ∈ cs, c.2 ≠ ruleId ∧ Comparable (segments c.1) (segments target) := by
  simp only [rival?, Option.isSome_map, List.find?_isSome, Bool.and_eq_true, bne_iff_ne,
    inConflict_iff]

/-- What is looked for before a claim is added is whether it is there. -/
theorem any_eq_true_iff_mem {cs : Claims} {target ruleId : String} :
    (cs.any fun c => c.1 == target && c.2 == ruleId) = true ↔ (target, ruleId) ∈ cs := by
  simp only [List.any_eq_true, Bool.and_eq_true, beq_iff_eq]
  constructor
  · rintro ⟨⟨target, ruleId⟩, hc, rfl, rfl⟩
    exact hc
  · intro hmem
    exact ⟨_, hmem, rfl, rfl⟩

/-- A claim that is added is there, and so are all that were. -/
theorem mem_claim {cs : Claims} {target ruleId : String} {c : String × String} :
    c ∈ cs.claim target ruleId ↔ c ∈ cs ∨ c = (target, ruleId) := by
  rw [claim]
  split
  · next h =>
    constructor
    · exact Or.inl
    · rintro (hc | rfl)
      · exact hc
      · exact any_eq_true_iff_mem.1 h
  · simp

/-- Releasing takes nothing from a table in which the rule holds no claim. -/
theorem release_eq_self {cs : Claims} {ruleId : String} (h : ∀ c ∈ cs, c.2 ≠ ruleId) :
    cs.release ruleId = cs := by
  rw [release, List.filter_eq_self]
  intro c hc
  simpa using h c hc

/-- Releasing undoes a claim. -/
theorem release_claim (cs : Claims) (target ruleId : String) :
    (cs.claim target ruleId).release ruleId = cs.release ruleId := by
  rw [claim]
  split
  · rfl
  · simp [release]

end Claims

end Arbiter
