import Arbiter.Proofs.Edits
/-!
# Distances

The distance of two texts is computed row by row.  A row belongs to a start of the first text, and its entries
are the distances from there to the starts of the second one (`IsRow`); the last entry of the last row is the
distance of the texts (`isDistance_editDistance`).

Every entry comes from three others by one equation (`nextRow_succ`), and no proof here looks further into the
rows than that.  In particular it does not matter where they are kept: two rows of memory that are written
over in turn, each still holding what was left in it two rows ago, come to the same (`Slate.distance_eq`).
-/

namespace Arbiter.Text

variable {a b : List Char} {row : List Nat} {x : Char}

/-! ## Entries of a row -/

theorem length_rowFrom {ds : List Char} {above : List Nat} (h : above.length = ds.length)
    (corner left : Nat) : (rowFrom x ds above corner left).length = ds.length := by
  induction ds generalizing above corner left with
  | nil => cases above <;> rfl
  | cons d ds ih =>
    cases above with
    | nil => cases h
    | cons up above =>
      rw [rowFrom, List.length_cons, List.length_cons, ih (Nat.succ_inj.1 h)]

/-- Each entry that is left comes from its neighbours, by induction on the characters that are left. -/
theorem getD_rowFrom {ds : List Char} {above : List Nat} (h : above.length = ds.length)
    (corner left : Nat) {j : Nat} (hj : j < ds.length) :
    (rowFrom x ds above corner left).getD j 0
      = min (min (above.getD j 0 + 1) ((left :: rowFrom x ds above corner left).getD j 0 + 1))
          ((corner :: above).getD j 0 + exchange x ds[j]) := by
  induction ds generalizing above corner left j with
  | nil => exact absurd hj (Nat.not_lt_zero j)
  | cons d ds ih =>
    cases above with
    | nil => cases h
    | cons up above =>
      rw [rowFrom]
      cases j with
      | zero => rfl
      | succ j => exact ih (Nat.succ_inj.1 h) up _ (Nat.succ_lt_succ_iff.1 hj)

theorem length_nextRow (h : row.length = b.length + 1) : (nextRow b row x).length = b.length + 1 := by
  cases row with
  | nil => cases h
  | cons corner above => rw [nextRow, List.length_cons, length_rowFrom (Nat.succ_inj.1 h)]

/-- The next row begins with one edit more. -/
theorem nextRow_zero (h : row.length = b.length + 1) :
    (nextRow b row x).getD 0 0 = row.getD 0 0 + 1 := by
  cases row with
  | nil => cases h
  | cons corner above => rfl

/-- **Each entry comes from the ones above it, to its left and in the corner between.** -/
theorem nextRow_succ (h : row.length = b.length + 1) {j : Nat} (hj : j < b.length) :
    (nextRow b row x).getD (j + 1) 0
      = min (min (row.getD (j + 1) 0 + 1) ((nextRow b row x).getD j 0 + 1))
          (row.getD j 0 + exchange x b[j]) := by
  cases row with
  | nil => cases h
  | cons corner above => exact getD_rowFrom (Nat.succ_inj.1 h) corner (corner + 1) hj

/-! ## Rows of distances -/

/-- The row of a text has the distances to the starts of another. -/
structure IsRow (a b : List Char) (row : List Nat) : Prop where
  /-- There is an entry for every start. -/
  length : row.length = b.length + 1
  /-- It is the distance. -/
  distance : ∀ j ≤ b.length, IsDistance a (b.take j) (row.getD j 0)

namespace IsRow

/-- The first row has the distances to nothing. -/
theorem first (b : List Char) : IsRow [] b (firstRow b) where
  length := List.length_range
  distance := by
    intro j hj
    have hentry : (firstRow b).getD j 0 = (b.take j).length := by
      rw [firstRow, List.getD_eq_getElem?_getD, List.getElem?_range (by omega), List.length_take]
      exact (Nat.min_eq_left hj).symm
    rw [hentry]
    exact IsDistance.nil_left _

theorem zero (h : IsRow a b row) : row.getD 0 0 = a.length := by
  have hdistance := h.distance 0 (Nat.zero_le _)
  rw [List.take_zero] at hdistance
  exact hdistance.unique (IsDistance.nil_right a)

/-- One character further on, the row has changed to the next one. -/
theorem next (h : IsRow a b row) (x : Char) : IsRow (a ++ [x]) b (nextRow b row x) where
  length := length_nextRow h.length
  distance := by
    intro j hj
    -- from left to right, as each entry needs the one to its left
    induction j with
    | zero =>
      have hall := IsDistance.nil_right (a ++ [x])
      rw [List.length_append, List.length_singleton] at hall
      rwa [nextRow_zero h.length, h.zero, List.take_zero]
    | succ j ih =>
      have hup := h.distance (j + 1) hj
      rw [List.take_succ_eq_append_getElem hj] at hup ⊢
      rw [nextRow_succ h.length hj]
      exact hup.concat (ih (by omega)) (h.distance j (by omega))

/-- What holds of one row holds of the last one. -/
theorem foldl (h : IsRow a b row) (rest : List Char) :
    IsRow (a ++ rest) b (rest.foldl (nextRow b) row) := by
  induction rest generalizing a row with
  | nil => rwa [List.append_nil]
  | cons x rest ih =>
    rw [List.append_cons]
    exact ih (h.next x)

/-- A row ends with the distance to the whole text. -/
theorem getLastD_eq (h : IsRow a b row) : row.getLastD 0 = row.getD b.length 0 := by
  rw [List.getLastD_eq_getLast?, List.getLast?_eq_getElem?, h.length, List.getD_eq_getElem?_getD]
  rfl

end IsRow

/-- **The distance that is computed is the least number of edits.** -/
theorem isDistance_editDistance (a b : List Char) : IsDistance a b (editDistance a b) := by
  have hrow : IsRow a b (a.foldl (nextRow b) (firstRow b)) := (IsRow.first b).foldl a
  have hdistance := hrow.distance b.length (Nat.le_refl _)
  rwa [List.take_length, ← hrow.getLastD_eq] at hdistance

/-! ## Two rows of memory -/

/-- Two rows of memory for a text of `n` characters: the last row, and the one to be written. -/
structure Slate (n : Nat) where
  /-- The row before. -/
  last : Vector Nat (n + 1)
  /-- The row to be written; until an entry is written, it is what was left there. -/
  next : Vector Nat (n + 1)

namespace Slate

/-- The first row, and an empty one. -/
def blank (n : Nat) : Slate n := ⟨.range (n + 1), .replicate (n + 1) 0⟩

/-- Writes the first entry. -/
def begin {n : Nat} (s : Slate n) (i : Nat) : Slate n := { s with next := s.next.set 0 i }

/-- Writes the entry after the `j`-th. -/
def write (b : List Char) (x : Char) (j : Nat) (hj : j < b.length) (s : Slate b.length) :
    Slate b.length :=
  let entry := min (min (s.last[j + 1] + 1) (s.next[j] + 1)) (s.last[j] + exchange x b[j])
  { s with next := s.next.set (j + 1) entry }

/-- Writes the row of the `i`-th character, and has the two rows change places. -/
def advance (b : List Char) (s : Slate b.length) (character : Char × Nat) : Slate b.length :=
  let s := b.length.fold (write b character.1) (s.begin character.2)
  ⟨s.next, s.last⟩

/-- The distance of two texts, computed in two rows of memory. -/
def distance (a b : List Char) : Nat :=
  ((a.zipIdx 1).foldl (advance b) (blank b.length)).last[b.length]

/-- A slate holds a row if it has its entries, whatever is in the other row. -/
def Holds {n : Nat} (s : Slate n) (row : List Nat) : Prop :=
  ∀ j (hj : j < n + 1), s.last[j] = row.getD j 0

/-- A blank slate holds the first row. -/
theorem holds_blank (b : List Char) : (blank b.length).Holds (firstRow b) := by
  intro j hj
  rw [firstRow, List.getD_eq_getElem?_getD, List.getElem?_range hj]
  exact Vector.getElem_range hj

/-- As far as the row is written it is the next one, and the row before stays as it is.  Nothing is said of the
entries further on, where something old is left. -/
theorem written {s : Slate b.length} (hlength : row.length = b.length + 1) (h : s.Holds row) {i k : Nat}
    (hi : i = row.getD 0 0 + 1) (hk : k ≤ b.length) :
    let s' := k.fold (fun j hj => write b x j (by omega)) (s.begin i)
    s'.last = s.last ∧ ∀ j (_ : j < k + 1), s'.next[j] = (nextRow b row x).getD j 0 := by
  induction k with
  | zero =>
    refine ⟨rfl, ?_⟩
    intro j hj
    obtain rfl : j = 0 := by omega
    rw [nextRow_zero hlength, ← hi]
    exact Vector.getElem_set_self _
  | succ k ih =>
    obtain ⟨hlast, hnext⟩ := ih (by omega)
    rw [Nat.fold_succ]
    refine ⟨hlast, ?_⟩
    intro j hj
    rw [write, Vector.getElem_set]
    split
    · next heq =>
      -- the entry just written: all that it was computed from is written, or in the row before
      subst heq
      rw [nextRow_succ hlength (by omega), hnext k (by omega)]
      simp only [hlast, h k (by omega), h (k + 1) (by omega)]
    · exact hnext j (by omega)

/-- A slate that holds a row holds the next one when it is written. -/
theorem Holds.advance {s : Slate b.length} (h : s.Holds row) (hrow : IsRow a b row) (x : Char) :
    (s.advance b (x, a.length + 1)).Holds (nextRow b row x) := by
  have hfirst : a.length + 1 = row.getD 0 0 + 1 := by rw [hrow.zero]
  exact (written hrow.length h hfirst (Nat.le_refl _)).2

/-- By induction it holds the row of every start of the text. -/
theorem holds_foldl {s : Slate b.length} (h : s.Holds row) (hrow : IsRow a b row) (rest : List Char) :
    ((rest.zipIdx (a.length + 1)).foldl (advance b) s).Holds (rest.foldl (nextRow b) row) := by
  induction rest generalizing a row s with
  | nil => exact h
  | cons x rest ih =>
    have hnext := ih (h.advance hrow x) (hrow.next x)
    rwa [List.length_append, List.length_singleton] at hnext

/-- **Two rows of memory are enough**, and what was left in them does no harm. -/
theorem distance_eq (a b : List Char) : distance a b = editDistance a b := by
  have hrow := IsRow.first b
  have hend := holds_foldl (holds_blank b) hrow a b.length (Nat.lt_succ_self _)
  rw [editDistance, (hrow.foldl a).getLastD_eq]
  exact hend

end Slate

/-! ## Distances are a measure -/

/-- **The distance of two texts is the least number of edits that turn one into the other.**  It can be computed in
two rows of memory, it is zero for equal texts only, it is the same in both directions, and no detour is
shorter. -/
theorem distance_is_the_fewest_edits (a b : String) :
    IsLeast {n | Edits n a.toList b.toList} (editDistance a.toList b.toList)
      ∧ Slate.distance a.toList b.toList = editDistance a.toList b.toList
      ∧ (editDistance a.toList b.toList = 0 ↔ a = b)
      ∧ editDistance a.toList b.toList = editDistance b.toList a.toList
      ∧ ∀ c : String, editDistance a.toList c.toList
          ≤ editDistance a.toList b.toList + editDistance b.toList c.toList := by
  have hab := isDistance_editDistance a.toList b.toList
  refine ⟨hab, Slate.distance_eq _ _, ?_, ?_, ?_⟩
  · rw [← String.toList_inj, ← Edits.zero_iff]
    constructor
    · intro hzero
      rw [← hzero]
      exact hab.1
    · intro hnone
      exact Nat.le_zero.1 (hab.2 hnone)
  · exact hab.unique (isDistance_editDistance b.toList a.toList).symm
  · intro c
    have hbc := isDistance_editDistance b.toList c.toList
    exact (isDistance_editDistance a.toList c.toList).2 (hab.1.trans hbc.1)

end Arbiter.Text
