import Mathlib.Data.List.Sort
import Arbiter.Rulebook
/-!
# The order of evaluation

Rules have their turn by descending priority, and rules of one priority in the order in which they were
declared.  `Ranking` says that about two lists without a word about sorting:

1. **same rules**: the one is a rearrangement of the other;
2. **descending**: no rule stands before one of higher priority;
3. **ties**: for every priority, the rules that have it stand in their old order.

The crux is that this leaves no choice (`Ranking.eq_sorted`).  The program sorts by insertion, which is the
insertion sort of the library (`sortBy_eq_insertionSort`), so 1 and 2 are had from there.  For 3 the rules
of one priority are looked at as a part of the list that is in order already: sorting keeps such a part as
it is, and there is nothing else of that priority.
-/

namespace Arbiter

/-! ## The sort -/

theorem insertBy_eq_orderedInsert (le : α → α → Bool) (x : α) (xs : List α) :
    insertBy le x xs = xs.orderedInsert (fun a b => le a b = true) x := by
  induction xs with
  | nil => rfl
  | cons y ys ih => rw [insertBy, List.orderedInsert_cons, ih]

/-- The sort is the one of Mathlib, so that its lemmas apply. -/
theorem sortBy_eq_insertionSort (le : α → α → Bool) (xs : List α) :
    sortBy le xs = xs.insertionSort (fun a b => le a b = true) := by
  induction xs with
  | nil => rfl
  | cons x xs ih => rw [sortBy, List.insertionSort_cons, ih, insertBy_eq_orderedInsert]

/-- The sort keeps all items. -/
theorem sortBy_perm (le : α → α → Bool) (xs : List α) : (sortBy le xs).Perm xs := by
  rw [sortBy_eq_insertionSort]
  exact List.perm_insertionSort _ xs

@[simp] theorem mem_sortBy {le : α → α → Bool} {xs : List α} {x : α} : x ∈ sortBy le xs ↔ x ∈ xs :=
  (sortBy_perm le xs).mem_iff

/-- One item comes ahead of another by its key, or by an order of their own if the keys are equal. -/
def Ahead (key : α → Int) (before : α → α → Prop) (a b : α) : Prop :=
  key b < key a ∨ (key a = key b ∧ before a b)

section

variable {key : α → Int} {before : α → α → Prop}

/-- An item that was before all others goes ahead of those with its key, and the list stays in order. -/
theorem pairwise_insertBy {x : α} {ys : List α} (hys : ys.Pairwise (Ahead key before))
    (hx : ∀ y ∈ ys, before x y) :
    (insertBy (fun a b => key b ≤ key a) x ys).Pairwise (Ahead key before) := by
  induction ys with
  | nil => exact List.pairwise_singleton _ _
  | cons y ys ih =>
    obtain ⟨hy, hys'⟩ := List.pairwise_cons.1 hys
    rw [insertBy]
    by_cases hle : key y ≤ key x
    · rw [if_pos (by simpa using hle)]
      refine List.pairwise_cons.2 ⟨fun z hz => ?_, hys⟩
      have hzy : key z ≤ key y := by
        rcases List.mem_cons.1 hz with rfl | hz'
        · exact Int.le_refl _
        · rcases hy z hz' with hlt | ⟨heq, -⟩ <;> omega
      rcases Int.lt_or_eq_of_le (Int.le_trans hzy hle) with hlt | heq
      · exact .inl hlt
      · exact .inr ⟨heq.symm, hx z hz⟩
    · rw [if_neg (by simpa using hle)]
      refine List.pairwise_cons.2 ⟨fun z hz => ?_, ih hys' fun z hz => hx z (List.mem_cons_of_mem _ hz)⟩
      rw [insertBy_eq_orderedInsert, List.mem_orderedInsert] at hz
      rcases hz with rfl | hz'
      · exact .inl (by omega)
      · exact hy z hz'

/-- **Sorting by a key is stable**: of items with equal keys the one that came before stays before. -/
theorem pairwise_sortBy {xs : List α} (h : xs.Pairwise before) :
    (sortBy (fun a b => key b ≤ key a) xs).Pairwise (Ahead key before) := by
  induction xs with
  | nil => exact List.Pairwise.nil
  | cons x xs ih =>
    obtain ⟨hx, hxs⟩ := List.pairwise_cons.1 h
    exact pairwise_insertBy (ih hxs) fun y hy => hx y (mem_sortBy.1 hy)

end

/-! ## Rankings -/

/-- A list of rules, ranked: by descending priority, and of equal ones the one declared first. -/
structure Ranking (rules ranked : List Rule) : Prop where
  /-- They are the same rules. -/
  perm : ranked.Perm rules
  /-- No rule stands before one of higher priority. -/
  descending : ranked.Pairwise fun a b => b.priority ≤ a.priority
  /-- Rules of one priority stand as they were declared. -/
  ties : ∀ p, ranked.filter (·.priority = p) = rules.filter (·.priority = p)

/-- Whether a rule may stand before another. -/
abbrev MayPrecede (a b : Rule) : Prop := b.priority ≤ a.priority

instance : Std.Total MayPrecede := ⟨fun a b => Int.le_total b.priority a.priority⟩

instance : IsTrans Rule MayPrecede := ⟨fun _ _ _ hab hbc => Int.le_trans hbc hab⟩

/-- The order of evaluation is a stable sort by priority. -/
theorem Rulebook.sorted_eq_insertionSort (book : Rulebook) :
    book.sorted = book.active.rules.insertionSort MayPrecede := by
  rw [Rulebook.sorted, sortBy_eq_insertionSort]
  simp only [decide_eq_true_eq]

/-- The order of evaluation is a ranking of the active rules. -/
theorem Rulebook.ranking_sorted (book : Rulebook) : Ranking book.active.rules book.sorted := by
  rw [sorted_eq_insertionSort]
  have hperm := List.perm_insertionSort MayPrecede book.active.rules
  refine ⟨hperm, List.pairwise_insertionSort MayPrecede _, fun p => ?_⟩
  -- the rules of one priority are in order among themselves, so the sort takes them over as they are
  have horder : (book.active.rules.filter (·.priority = p)).Pairwise MayPrecede := by
    refine List.pairwise_of_forall_mem_list fun a ha b hb => ?_
    have hpa : a.priority = p := by simpa using (List.mem_filter.1 ha).2
    have hpb : b.priority = p := by simpa using (List.mem_filter.1 hb).2
    show b.priority ≤ a.priority
    omega
  have hkept := (List.sublist_insertionSort horder List.filter_sublist).filter (·.priority = p)
  rw [List.filter_filter] at hkept
  simp only [Bool.and_self] at hkept
  have hlength := (hperm.filter (·.priority = p)).length_eq
  exact (hkept.eq_of_length hlength.symm).symm

/-- Two lists in descending order that agree on every priority are equal. -/
theorem eq_of_descending {xs ys : List Rule} (hxs : xs.Pairwise MayPrecede) (hys : ys.Pairwise MayPrecede)
    (h : ∀ p, xs.filter (·.priority = p) = ys.filter (·.priority = p)) : xs = ys := by
  induction xs generalizing ys with
  | nil =>
    cases ys with
    | nil => rfl
    | cons y ys => simpa using h y.priority
  | cons x xs ih =>
    cases ys with
    | nil => simpa using h x.priority
    | cons y ys =>
      have hx : x ∈ y :: ys := by
        have hmem : x ∈ (y :: ys).filter (·.priority = x.priority) := by simp [← h]
        exact List.mem_of_mem_filter hmem
      have hy : y ∈ x :: xs := by
        have hmem : y ∈ (x :: xs).filter (·.priority = y.priority) := by simp [h]
        exact List.mem_of_mem_filter hmem
      -- each head is in the other list, so neither may be of higher priority
      have hyx : y.priority ≤ x.priority := by
        rcases List.mem_cons.1 hy with rfl | hy
        · exact Int.le_refl _
        · exact List.rel_of_pairwise_cons hxs hy
      have hxy : x.priority ≤ y.priority := by
        rcases List.mem_cons.1 hx with rfl | hx
        · exact Int.le_refl _
        · exact List.rel_of_pairwise_cons hys hx
      have hsame : y.priority = x.priority := Int.le_antisymm hyx hxy
      have hhead := h x.priority
      simp only [List.filter_cons, hsame, decide_true, if_true, List.cons.injEq] at hhead
      obtain ⟨rfl, -⟩ := hhead
      congr 1
      refine ih hxs.of_cons hys.of_cons fun p => ?_
      have hp := h p
      simp only [List.filter_cons] at hp
      split at hp
      · exact (List.cons.inj hp).2
      · exact hp

/-- **There is one way to rank the active rules**, and it is the order of evaluation. -/
theorem Ranking.eq_sorted {book : Rulebook} {ranked : List Rule} :
    Ranking book.active.rules ranked ↔ ranked = book.sorted := by
  have hsorted := book.ranking_sorted
  constructor
  · intro h
    exact eq_of_descending h.descending hsorted.descending fun p => (h.ties p).trans (hsorted.ties p).symm
  · rintro rfl
    exact hsorted

end Arbiter
