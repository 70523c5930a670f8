/-!
# Tables

A table has one entry for each of some names, in the order in which the names first came.  Setting an
entry does not move it; reading is `List.lookup`.
-/

namespace Arbiter

/-- Entries under names. -/
abbrev Table (α : Type) := List (String × α)

namespace Table

/-- Puts an entry in the place of the one of the same name, or at the end. -/
def set (t : Table α) (name : String) (value : α) : Table α :=
  match t with
  | [] => [(name, value)]
  | (k, v) :: rest => if k = name then (k, value) :: rest else (k, v) :: set rest name value

/-- What was set is read. -/
theorem lookup_set_self (t : Table α) (name : String) (value : α) :
    List.lookup name (t.set name value) = some value := by
  induction t with
  | nil => simp [set]
  | cons e rest ih =>
    obtain ⟨k, v⟩ := e
    by_cases h : k = name
    · simp [set, h]
    · have hne : (name == k) = false := by simpa using fun e => h e.symm
      simp [set, h, List.lookup_cons, hne, ih]

/-- Setting one entry leaves the others alone. -/
theorem lookup_set_of_ne (t : Table α) {name other : String} (value : α) (h : other ≠ name) :
    List.lookup other (t.set name value) = List.lookup other t := by
  induction t with
  | nil =>
    have hne : (other == name) = false := by simpa using h
    simp [set, List.lookup_cons, hne]
  | cons e rest ih =>
    obtain ⟨k, v⟩ := e
    by_cases hk : k = name
    · subst hk
      have hne : (other == k) = false := by simpa using h
      simp [set, List.lookup_cons, hne]
    · simp [set, hk, List.lookup_cons, ih]

/-- An entry under a new name goes to the end. -/
theorem set_of_notMem {t : Table α} {name : String} (value : α) (h : name ∉ t.map (·.1)) :
    t.set name value = t ++ [(name, value)] := by
  induction t with
  | nil => rfl
  | cons e rest ih =>
    obtain ⟨k, v⟩ := e
    rw [List.map_cons, List.mem_cons, not_or] at h
    obtain ⟨hk, hrest⟩ := h
    rw [set, if_neg (fun hkn => hk hkn.symm), ih hrest, List.cons_append]

/-- What is read under a name is an entry. -/
theorem mem_of_lookup {t : Table α} {name : String} {value : α} (h : t.lookup name = some value) :
    (name, value) ∈ t := by
  obtain ⟨before, rest, rfl, -⟩ := List.lookup_eq_some_iff.1 h
  exact List.mem_append_right _ List.mem_cons_self

/-- Setting an entry brings in no other. -/
theorem mem_of_mem_set {t : Table α} {name : String} {value : α} {e : String × α}
    (h : e ∈ t.set name value) : e = (name, value) ∨ e ∈ t := by
  induction t with
  | nil => exact Or.inl (List.mem_singleton.1 h)
  | cons first rest ih =>
    obtain ⟨k, v⟩ := first
    rw [set] at h
    split at h
    · next hk =>
      rcases List.mem_cons.1 h with rfl | hrest
      · exact Or.inl (by rw [hk])
      · exact Or.inr (List.mem_cons_of_mem _ hrest)
    · rcases List.mem_cons.1 h with rfl | hrest
      · exact Or.inr List.mem_cons_self
      · exact (ih hrest).imp_right (List.mem_cons_of_mem _)

end Table

example : Table.set [("a", 1), ("b", 2)] "b" 3 = [("a", 1), ("b", 3)] := by decide
example : Table.set [("a", 1)] "c" 3 = [("a", 1), ("c", 3)] := by decide

end Arbiter
