import Mathlib.Data.List.MinMax
import Arbiter.Proofs.Distances
/-!
# Suggestions

A name that is not known is answered with the one that was probably meant.  Two things decide which one.

1. **The nearest candidate** (`nearest?_eq_some_iff`): the walk through the candidates keeps the first of those at
   the least distance (`FirstNearest`), where letters of either case are the same.
2. **The bound** (`suggest?_eq_some_iff`): it is suggested if its distance is at most half the size of the longer
   name.  The distance counts characters, but the size counts bytes, so the bound is the one in characters
   where every character is one byte (`suggestions_are_the_first_nearest`), and elsewhere it is too generous:
   a single character of two bytes has anything of one character for a near miss
   (`one_letter_is_suggested_for_another`).
-/

namespace Arbiter.Text

/-! ## The nearest candidate -/

/-- A name is the first of the candidates that are nearest to the input. -/
structure FirstNearest (input : String) (candidates : List String) (name : String) : Prop where
  /-- It is a candidate. -/
  mem : name ∈ candidates
  /-- No candidate is nearer. -/
  nearest : ∀ c ∈ candidates, caselessDistance input name ≤ caselessDistance input c
  /-- None before it is as near. -/
  first : ∀ c ∈ candidates, caselessDistance input c ≤ caselessDistance input name →
    candidates.idxOf name ≤ candidates.idxOf c

variable {input name : String} {candidates : List String}

/-- The walk through the candidates finds the first place of the least distance. -/
theorem nearest?_eq_argmin (input : String) (candidates : List String) :
    nearest? input candidates = (candidates.argmin (caselessDistance input)).map
      fun c => (c, caselessDistance input c) := by
  induction candidates using List.reverseRecOn with
  | nil => rfl
  | append_singleton before c ih =>
    rw [nearest?, List.map_append, List.foldl_append, ← nearest?, ih, List.argmin_concat]
    cases before.argmin (caselessDistance input) with
    | none => rfl
    | some best =>
      rw [List.map_singleton, List.foldl_cons, List.foldl_nil, Option.map_some, nearer]
      by_cases hnearer : caselessDistance input c < caselessDistance input best
      · simp only [if_pos hnearer, Option.map_some]
      · simp only [if_neg hnearer, Option.map_some]

/-- **What is kept is the first of the nearest candidates**, with its distance. -/
theorem nearest?_eq_some_iff {d : Nat} : nearest? input candidates = some (name, d)
    ↔ FirstNearest input candidates name ∧ d = caselessDistance input name := by
  rw [nearest?_eq_argmin, Option.map_eq_some_iff]
  constructor
  · rintro ⟨c, hc, heq⟩
    obtain ⟨rfl, rfl⟩ := Prod.mk.inj heq
    obtain ⟨hmem, hnearest, hfirst⟩ := List.argmin_eq_some_iff.1 hc
    exact ⟨⟨hmem, hnearest, hfirst⟩, rfl⟩
  · rintro ⟨⟨hmem, hnearest, hfirst⟩, rfl⟩
    exact ⟨name, List.argmin_eq_some_iff.2 ⟨hmem, hnearest, hfirst⟩, rfl⟩

/-! ## The bound -/

/-- **A name is suggested if it is the first of the nearest and near enough**, and no other is. -/
theorem suggest?_eq_some_iff : suggest? input candidates = some name
    ↔ FirstNearest input candidates name
      ∧ caselessDistance input name ≤ max input.utf8ByteSize name.utf8ByteSize / 2 := by
  rw [suggest?, Option.bind_eq_some_iff]
  constructor
  · rintro ⟨⟨best, d⟩, hbest, hbound⟩
    obtain ⟨hfirst, rfl⟩ := nearest?_eq_some_iff.1 hbest
    dsimp only at hbound
    split at hbound
    · next hle =>
      obtain rfl := Option.some.inj hbound
      exact ⟨hfirst, hle⟩
    · cases hbound
  · rintro ⟨hfirst, hle⟩
    exact ⟨_, nearest?_eq_some_iff.2 ⟨hfirst, rfl⟩, if_pos hle⟩

/-- A text has no more characters than bytes. -/
theorem length_le_utf8ByteSize (s : String) : s.length ≤ s.utf8ByteSize := by
  have hchars : ∀ cs : List Char, cs.length ≤ cs.utf8Encode.size := by
    intro cs
    induction cs with
    | nil => exact Nat.zero_le _
    | cons c cs ih =>
      have hpos := c.utf8Size_pos
      rw [List.utf8Encode_cons, ByteArray.size_append, List.utf8Encode_singleton,
        List.size_toByteArray, String.length_utf8EncodeChar, List.length_cons]
      omega
  rw [← String.size_toByteArray, ← String.utf8Encode_toList, ← String.length_toList]
  exact hchars s.toList

/-- **Suggestions are the first of the nearest candidates.**  The distance of a candidate is the least number of
edits between the names in lower case.  A name is suggested exactly if it is the first of the nearest ones and its
distance is at most half the bytes of the longer name; so it is whenever the distance is at most half the
characters of the longer name, and where all characters are single bytes only then. -/
theorem suggestions_are_the_first_nearest (input : String) (candidates : List String) (name : String) :
    IsLeast {n | Edits n (lower input).toList (lower name).toList} (caselessDistance input name)
      ∧ (suggest? input candidates = some name ↔ FirstNearest input candidates name
          ∧ caselessDistance input name ≤ max input.utf8ByteSize name.utf8ByteSize / 2)
      ∧ (FirstNearest input candidates name →
          caselessDistance input name ≤ max input.length name.length / 2 →
            suggest? input candidates = some name)
      ∧ (input.utf8ByteSize = input.length → name.utf8ByteSize = name.length →
          suggest? input candidates = some name →
            caselessDistance input name ≤ max input.length name.length / 2) := by
  refine ⟨isDistance_editDistance _ _, suggest?_eq_some_iff, ?_, ?_⟩
  · intro hfirst hle
    have hinput := length_le_utf8ByteSize input
    have hname := length_le_utf8ByteSize name
    exact suggest?_eq_some_iff.2 ⟨hfirst, by omega⟩
  · intro hinput hname hsuggest
    have hle := (suggest?_eq_some_iff.1 hsuggest).2
    rwa [hinput, hname] at hle

/-- A name in capitals, among names that begin alike. -/
theorem suggestions_are_the_first_nearest_vip :
    FirstNearest "VIP-up" ["vip-on", "vip-up", "vip-ups"] "vip-up"
      ∧ suggest? "VIP-up" ["vip-on", "vip-up", "vip-ups"] = some "vip-up"
      ∧ caselessDistance "VIP-up" "vip-up" ≤ max "VIP-up".length "vip-up".length / 2 := by
  have hsuggest : suggest? "VIP-up" ["vip-on", "vip-up", "vip-ups"] = some "vip-up" := by decide
  obtain ⟨-, hiff, hsuggested, hbound⟩ :=
    suggestions_are_the_first_nearest "VIP-up" ["vip-on", "vip-up", "vip-ups"] "vip-up"
  have hle := hbound (by decide) (by decide) hsuggest
  have hfirst := (hiff.1 hsuggest).1
  exact ⟨hfirst, hsuggested hfirst hle, hle⟩

/-- A letter of two bytes is answered with another letter, although the only edit there is changes all of it. -/
theorem one_letter_is_suggested_for_another :
    FirstNearest "Σ" ["x"] "x" ∧ suggest? "Σ" ["x"] = some "x" ∧ caselessDistance "Σ" "x" = 1
      ∧ ¬ caselessDistance "Σ" "x" ≤ max "Σ".length "x".length / 2 := by
  have hsuggest : suggest? "Σ" ["x"] = some "x" := by decide
  exact ⟨(suggest?_eq_some_iff.1 hsuggest).1, hsuggest, by decide, by decide⟩

end Arbiter.Text
