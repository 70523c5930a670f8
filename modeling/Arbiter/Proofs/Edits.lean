import Mathlib.Order.Bounds.Basic
import Mathlib.Order.MinMax
import Arbiter.Text.Similar
/-!
# Edits

What the distance of two texts is meant to be, without a table: the least number of edits that turn one into
the other, where an edit puts in, leaves out or replaces one character at any place, and one edit may undo
another.

1. **Edits** (`Edits`) can be turned round, put one after the other, and carried into longer texts.
2. **Alignments** (`Aligned`) go through both texts once, from left to right.  Whatever edits do in whatever
   order, an alignment does with no more of them (`Edits.exists_aligned`), and so the last characters of two
   texts can be looked at first.
3. **The recurrence** (`IsDistance.concat`): the distance of two texts from those of the texts without their
   last characters.
-/

namespace Arbiter.Text

variable {a b c : List Char} {n m : Nat}

/-! ## Edits -/

/-- One edit puts in, leaves out or replaces a character. -/
inductive Edit : List Char → List Char → Prop
  | insert (before after : List Char) (x : Char) : Edit (before ++ after) (before ++ x :: after)
  | delete (before after : List Char) (x : Char) : Edit (before ++ x :: after) (before ++ after)
  | replace (before after : List Char) (x y : Char) :
      Edit (before ++ x :: after) (before ++ y :: after)

/-- So many edits, one after the other. -/
inductive Edits : Nat → List Char → List Char → Prop
  | none (a : List Char) : Edits 0 a a
  | more {n : Nat} {a b c : List Char} : Edits n a b → Edit b c → Edits (n + 1) a c

/-- The least number of edits that turn one text into another. -/
def IsDistance (a b : List Char) (n : Nat) : Prop := IsLeast {k | Edits k a b} n

namespace Edit

/-- An edit can be taken back by an edit. -/
theorem symm (h : Edit a b) : Edit b a := by
  cases h with
  | insert before after x => exact .delete before after x
  | delete before after x => exact .insert before after x
  | replace before after x y => exact .replace before after y x

/-- An edit read from right to left is an edit. -/
theorem reverse (h : Edit a b) : Edit a.reverse b.reverse := by
  cases h with
  | insert before after x =>
    simp only [List.reverse_append, List.reverse_cons, List.append_assoc, List.singleton_append]
    exact .insert _ _ x
  | delete before after x =>
    simp only [List.reverse_append, List.reverse_cons, List.append_assoc, List.singleton_append]
    exact .delete _ _ x
  | replace before after x y =>
    simp only [List.reverse_append, List.reverse_cons, List.append_assoc, List.singleton_append]
    exact .replace _ _ x y

/-- An edit stays one if both words get the same first character. -/
theorem cons (x : Char) (h : Edit a b) : Edit (x :: a) (x :: b) := by
  cases h with
  | insert before after y => exact .insert (x :: before) after y
  | delete before after y => exact .delete (x :: before) after y
  | replace before after y z => exact .replace (x :: before) after y z

/-- An edit has one short text for another, and leaves what is before and after. -/
theorem exists_middle (h : Edit a b) : ∃ before middle middle' after,
    a = before ++ (middle ++ after) ∧ b = before ++ (middle' ++ after)
      ∧ middle.length ≤ 1 ∧ middle'.length ≤ 1 := by
  cases h with
  | insert before after x => exact ⟨before, [], [x], after, rfl, rfl, Nat.zero_le 1, Nat.le_refl 1⟩
  | delete before after x => exact ⟨before, [x], [], after, rfl, rfl, Nat.le_refl 1, Nat.zero_le 1⟩
  | replace before after x y =>
    exact ⟨before, [x], [y], after, rfl, rfl, Nat.le_refl 1, Nat.le_refl 1⟩

/-- An edit adds at most one character. -/
theorem length_le (h : Edit a b) : b.length ≤ a.length + 1 := by
  obtain ⟨before, middle, middle', after, rfl, rfl, -, hmiddle'⟩ := h.exists_middle
  simp only [List.length_append]
  omega

end Edit

namespace Edits

theorem one (h : Edit a b) : Edits 1 a b := .more (.none a) h

/-- Edits after edits, whose numbers add up. -/
theorem trans (hab : Edits m a b) (hbc : Edits n b c) : Edits (m + n) a c := by
  induction hbc with
  | none => exact hab
  | more _ hlast ih => exact .more (ih hab) hlast

/-- As many edits lead back. -/
theorem symm (h : Edits n a b) : Edits n b a := by
  induction h with
  | none a => exact .none a
  | @more n a b c _ hlast ih =>
    have hback : Edits (1 + n) c a := (one hlast.symm).trans ih
    rwa [Nat.add_comm] at hback

/-- Edits read from right to left are as many edits. -/
theorem reverse (h : Edits n a b) : Edits n a.reverse b.reverse := by
  induction h with
  | none a => exact .none a.reverse
  | more _ hlast ih => exact .more ih hlast.reverse

/-- Edits stay as many if both words get the same first character. -/
theorem cons (x : Char) (h : Edits n a b) : Edits n (x :: a) (x :: b) := by
  induction h with
  | none a => exact .none (x :: a)
  | more _ hlast ih => exact .more ih (hlast.cons x)

/-- Each edit adds at most one character. -/
theorem length_le (h : Edits n a b) : b.length ≤ a.length + n := by
  induction h with
  | none a => exact Nat.le_refl _
  | more _ hlast ih =>
    have hstep := hlast.length_le
    omega

/-- Every text can be written from nothing, one character after the other. -/
theorem of_nil (b : List Char) : Edits b.length [] b := by
  induction b with
  | nil => exact .none []
  | cons x b ih => exact .more ih (.insert [] b x)

/-- No edit leads to another word. -/
theorem zero_iff : Edits 0 a b ↔ a = b := by
  constructor
  · intro h
    cases h
    rfl
  · rintro rfl
    exact .none a

end Edits

/-! ## Alignments -/

/-- An alignment of two texts: each character of the one is kept, replaced or left out, and characters of the
other are put in between.  Only what is kept is free. -/
inductive Aligned : Nat → List Char → List Char → Prop
  | done : Aligned 0 [] []
  | keep {n : Nat} {a b : List Char} (x : Char) : Aligned n a b → Aligned n (x :: a) (x :: b)
  | replace {n : Nat} {a b : List Char} (x y : Char) :
      Aligned n a b → Aligned (n + 1) (x :: a) (y :: b)
  | insert {n : Nat} {a b : List Char} (y : Char) : Aligned n a b → Aligned (n + 1) a (y :: b)
  | delete {n : Nat} {a b : List Char} (x : Char) : Aligned n a b → Aligned (n + 1) (x :: a) b

namespace Aligned

theorem refl (a : List Char) : Aligned 0 a a := by
  induction a with
  | nil => exact .done
  | cons x a ih => exact .keep x ih

/-- An alignment can be carried out, by an edit for each of its costs. -/
theorem edits (h : Aligned n a b) : Edits n a b := by
  induction h with
  | done => exact .none []
  | keep x _ ih => exact ih.cons x
  | @replace n a b x y _ ih => exact .more (ih.cons x) (.replace [] b x y)
  | @insert n a b y _ ih => exact .more ih (.insert [] b y)
  | @delete n a b x _ ih => exact .more (ih.cons x) (.delete [] b x)

/-- Alignments can be put side by side. -/
theorem append {a' b' : List Char} (h : Aligned n a b) (h' : Aligned m a' b') :
    Aligned (n + m) (a ++ a') (b ++ b') := by
  induction h with
  | done => rwa [Nat.zero_add]
  | keep x _ ih => exact .keep x ih
  | replace x y _ ih =>
    rw [Nat.add_right_comm]
    exact .replace x y ih
  | insert y _ ih =>
    rw [Nat.add_right_comm]
    exact .insert y ih
  | delete x _ ih =>
    rw [Nat.add_right_comm]
    exact .delete x ih

/-- Where the second text is cut, an alignment can be cut too. -/
theorem exists_split {left right : List Char} (h : Aligned n a (left ++ right)) :
    ∃ m k a₁ a₂, n = m + k ∧ a = a₁ ++ a₂ ∧ Aligned m a₁ left ∧ Aligned k a₂ right := by
  -- wherever a character of the second text is used up, the cut may be right before it
  generalize hb : left ++ right = b at h
  induction h generalizing left with
  | done =>
    obtain ⟨rfl, rfl⟩ := List.append_eq_nil_iff.1 hb
    exact ⟨0, 0, [], [], rfl, rfl, .done, .done⟩
  | @keep n a b x h ih =>
    rcases List.append_eq_cons_iff.1 hb with ⟨rfl, rfl⟩ | ⟨left, rfl, rfl⟩
    · exact ⟨0, n, [], x :: a, (Nat.zero_add n).symm, rfl, .done, .keep x h⟩
    · obtain ⟨m, k, a₁, a₂, rfl, rfl, h₁, h₂⟩ := ih rfl
      exact ⟨m, k, x :: a₁, a₂, rfl, rfl, .keep x h₁, h₂⟩
  | @replace n a b x y h ih =>
    rcases List.append_eq_cons_iff.1 hb with ⟨rfl, rfl⟩ | ⟨left, rfl, rfl⟩
    · exact ⟨0, n + 1, [], x :: a, (Nat.zero_add _).symm, rfl, .done, .replace x y h⟩
    · obtain ⟨m, k, a₁, a₂, rfl, rfl, h₁, h₂⟩ := ih rfl
      exact ⟨m + 1, k, x :: a₁, a₂, by omega, rfl, .replace x y h₁, h₂⟩
  | @insert n a b y h ih =>
    rcases List.append_eq_cons_iff.1 hb with ⟨rfl, rfl⟩ | ⟨left, rfl, rfl⟩
    · exact ⟨0, n + 1, [], a, (Nat.zero_add _).symm, rfl, .done, .insert y h⟩
    · obtain ⟨m, k, a₁, a₂, rfl, rfl, h₁, h₂⟩ := ih rfl
      exact ⟨m + 1, k, a₁, a₂, by omega, rfl, .insert y h₁, h₂⟩
  | @delete n a b x h ih =>
    obtain ⟨m, k, a₁, a₂, rfl, rfl, h₁, h₂⟩ := ih hb
    exact ⟨m + 1, k, x :: a₁, a₂, by omega, rfl, .delete x h₁, h₂⟩

/-- Any two texts can be aligned with no more edits than the longer one has characters. -/
theorem exists_le_max (a b : List Char) : ∃ m ≤ max a.length b.length, Aligned m a b := by
  induction a generalizing b with
  | nil =>
    induction b with
    | nil => exact ⟨0, Nat.le_refl 0, .done⟩
    | cons y b ih =>
      obtain ⟨m, hm, h⟩ := ih
      exact ⟨m + 1, by simp only [List.length_nil, List.length_cons] at hm ⊢; omega, .insert y h⟩
  | cons x a ih =>
    cases b with
    | nil =>
      obtain ⟨m, hm, h⟩ := ih []
      exact ⟨m + 1, by simp only [List.length_nil, List.length_cons] at hm ⊢; omega, .delete x h⟩
    | cons y b =>
      obtain ⟨m, hm, h⟩ := ih b
      exact ⟨m + 1, by simp only [List.length_cons]; omega, .replace x y h⟩

/-- **An edit of the second text costs an alignment one edit more at most**, wherever it is. -/
theorem exists_edit (h : Aligned n a b) (hedit : Edit b c) : ∃ m ≤ n + 1, Aligned m a c := by
  obtain ⟨before, middle, middle', after, rfl, rfl, hmiddle, hmiddle'⟩ := hedit.exists_middle
  obtain ⟨m₁, k, a₁, rest, rfl, rfl, hbefore, h⟩ := h.exists_split
  obtain ⟨m₂, m₃, a₂, a₃, rfl, rfl, h, hafter⟩ := h.exists_split
  -- what stands for the middle is short, and is aligned anew
  have hlength : a₂.length ≤ middle.length + m₂ := h.edits.symm.length_le
  obtain ⟨m, hm, h'⟩ := exists_le_max a₂ middle'
  exact ⟨m₁ + (m + m₃), by omega, hbefore.append (h'.append hafter)⟩

end Aligned

/-- **Whatever edits do, an alignment does with no more of them.** -/
theorem Edits.exists_aligned (h : Edits n a b) : ∃ m ≤ n, Aligned m a b := by
  induction h with
  | none a => exact ⟨0, Nat.le_refl 0, .refl a⟩
  | more _ hlast ih =>
    obtain ⟨m, hm, haligned⟩ := ih
    obtain ⟨k, hk, haligned'⟩ := haligned.exists_edit hlast
    exact ⟨k, by omega, haligned'⟩

/-! ## The recurrence -/

/-- What it costs to have one character for another. -/
def exchange (x y : Char) : Nat := if x = y then 0 else 1

/-- Edits of two texts leave out the first character of the one, put in that of the other, or have the one for
the other. -/
theorem Edits.cons_cases {x y : Char} (h : Edits n (x :: a) (y :: b)) :
    (∃ k, Edits k a (y :: b) ∧ k + 1 ≤ n) ∨ (∃ k, Edits k (x :: a) b ∧ k + 1 ≤ n)
      ∨ ∃ k, Edits k a b ∧ k + exchange x y ≤ n := by
  -- an alignment says what happens to the first characters, a row of edits does not
  obtain ⟨m, hm, haligned⟩ := h.exists_aligned
  cases haligned with
  | keep x h =>
    have hfree : exchange x x = 0 := if_pos rfl
    exact Or.inr (Or.inr ⟨m, h.edits, by omega⟩)
  | @replace k _ _ x y h =>
    have hcost : exchange x y ≤ 1 := by
      unfold exchange
      split <;> omega
    exact Or.inr (Or.inr ⟨k, h.edits, by omega⟩)
  | @insert k _ _ y h => exact Or.inr (Or.inl ⟨k, h.edits, hm⟩)
  | @delete k _ _ x h => exact Or.inl ⟨k, h.edits, hm⟩

/-- One character exchanged for another in front of two words costs an edit, unless they are equal. -/
theorem Edits.exchanged (x y : Char) (h : Edits n a b) : Edits (n + exchange x y) (x :: a) (y :: b) := by
  unfold exchange
  split
  · next heq =>
    subst heq
    exact h.cons x
  · exact .more (h.cons x) (.replace [] b x y)

namespace IsDistance

/-- From nothing to a word it takes an edit for each of its characters. -/
theorem nil_left (b : List Char) : IsDistance [] b b.length := by
  refine ⟨Edits.of_nil b, ?_⟩
  intro n h
  have hlength := Edits.length_le h
  rwa [List.length_nil, Nat.zero_add] at hlength

/-- The distance is the same in both directions. -/
theorem symm (h : IsDistance a b n) : IsDistance b a n :=
  ⟨h.1.symm, fun _ hk => h.2 hk.symm⟩

/-- From a word to nothing it takes an edit for each of its characters. -/
theorem nil_right (a : List Char) : IsDistance a [] a.length := (nil_left a).symm

/-- The distance is the same from right to left. -/
theorem reverse (h : IsDistance a b n) : IsDistance a.reverse b.reverse n := by
  refine ⟨h.1.reverse, ?_⟩
  intro k hk
  have hback := Edits.reverse hk
  rw [List.reverse_reverse, List.reverse_reverse] at hback
  exact h.2 hback

/-- The distance of two texts from those of the texts without their first characters. -/
theorem cons {x y : Char} {up left corner : Nat} (hup : IsDistance a (y :: b) up)
    (hleft : IsDistance (x :: a) b left) (hcorner : IsDistance a b corner) :
    IsDistance (x :: a) (y :: b) (min (min (up + 1) (left + 1)) (corner + exchange x y)) := by
  constructor
  · have hdelete : Edits (up + 1) (x :: a) (y :: b) := .more (hup.1.cons x) (.delete [] (y :: b) x)
    have hinsert : Edits (left + 1) (x :: a) (y :: b) := .more hleft.1 (.insert [] b y)
    have hexchange : Edits (corner + exchange x y) (x :: a) (y :: b) := hcorner.1.exchanged x y
    show Edits _ _ _
    rcases min_choice (min (up + 1) (left + 1)) (corner + exchange x y) with h | h <;> rw [h]
    · rcases min_choice (up + 1) (left + 1) with h | h <;> rw [h]
      · exact hdelete
      · exact hinsert
    · exact hexchange
  · intro n hn
    rcases Edits.cons_cases hn with ⟨k, hk, hle⟩ | ⟨k, hk, hle⟩ | ⟨k, hk, hle⟩
    · have hmin := hup.2 hk
      omega
    · have hmin := hleft.2 hk
      omega
    · have hmin := hcorner.2 hk
      omega

/-- **The distance of two texts from those of the texts without their last characters.** -/
theorem concat {x y : Char} {up left corner : Nat} (hup : IsDistance a (b ++ [y]) up)
    (hleft : IsDistance (a ++ [x]) b left) (hcorner : IsDistance a b corner) :
    IsDistance (a ++ [x]) (b ++ [y]) (min (min (up + 1) (left + 1)) (corner + exchange x y)) := by
  have hup := hup.reverse
  have hleft := hleft.reverse
  rw [List.reverse_concat] at hup hleft
  have hback := (cons hup hleft hcorner.reverse).reverse
  rwa [List.reverse_cons, List.reverse_cons, List.reverse_reverse, List.reverse_reverse] at hback

end IsDistance

end Arbiter.Text
