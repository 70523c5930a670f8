import Mathlib.Data.List.Dedup
import Mathlib.Data.List.Induction
import Mathlib.Data.List.Perm.Basic
import Arbiter.Table
/-!
# Tables and first occurrences

A table that is filled name by name has its names in the order in which they first came: a name that is there
already stays in its place.  So the names are those that came, each at its first occurrence
(`Table.names_set_eq`), and as no name is there twice the table is known from its names and from what is read
under them (`Table.eq_map_lookup`).
-/

namespace Arbiter

/-! ## First occurrences -/

/-- One more item is a first occurrence if it was not there before. -/
theorem eraseDups_concat (xs : List String) (x : String) :
    (xs ++ [x]).eraseDups = if x ∈ xs then xs.eraseDups else xs.eraseDups ++ [x] := by
  rw [List.eraseDups_append]
  by_cases hx : x ∈ xs
  · have hnone : [x].removeAll xs = [] := by simp [List.removeAll, hx]
    rw [if_pos hx, hnone, List.eraseDups_nil, List.append_nil]
  · have hone : [x].removeAll xs = [x] := by simp [List.removeAll, hx]
    rw [if_neg hx, hone, List.eraseDups_cons, List.filter_nil, List.eraseDups_nil]

theorem nodup_eraseDups (xs : List String) : xs.eraseDups.Nodup := by
  induction xs using List.reverseRecOn with
  | nil => exact List.nodup_nil
  | append_singleton xs x ih =>
    rw [eraseDups_concat]
    split
    · exact ih
    · next hx =>
      refine List.nodup_append.2 ⟨ih, List.nodup_singleton x, ?_⟩
      rintro y hy z hz rfl
      rw [List.mem_singleton.1 hz] at hy
      exact hx (List.mem_eraseDups.1 hy)

/-- What occurs does not depend on the order. -/
theorem eraseDups_perm {xs ys : List String} (h : xs.Perm ys) : xs.eraseDups.Perm ys.eraseDups := by
  refine (List.perm_ext_iff_of_nodup (nodup_eraseDups xs) (nodup_eraseDups ys)).2 fun x => ?_
  rw [List.mem_eraseDups, List.mem_eraseDups, h.mem_iff]

/-- Whether the first or the last of equal names is kept, the names are the same but for their order. -/
theorem eraseDups_perm_dedup (xs : List String) : xs.eraseDups.Perm xs.dedup := by
  refine (List.perm_ext_iff_of_nodup (nodup_eraseDups xs) xs.nodup_dedup).2 fun x => ?_
  rw [List.mem_eraseDups, List.mem_dedup]

/-! ## Tables -/

namespace Table

variable {t : Table α} {name : String}

/-- An entry under an old name stays in its place. -/
theorem names_set_of_mem (value : α) (h : name ∈ t.map (·.1)) :
    (t.set name value).map (·.1) = t.map (·.1) := by
  induction t with
  | nil => cases h
  | cons e rest ih =>
    obtain ⟨k, v⟩ := e
    rw [set]
    split
    · rfl
    · next hk =>
      rcases List.mem_cons.1 h with heq | hrest
      · exact absurd heq.symm hk
      · rw [List.map_cons, List.map_cons, ih hrest]

/-- **The names of a table are the first occurrences** of those that came. -/
theorem names_set_eq {came : List String} (h : t.map (·.1) = came.eraseDups) (value : α) :
    (t.set name value).map (·.1) = (came ++ [name]).eraseDups := by
  have hmem : name ∈ t.map (·.1) ↔ name ∈ came := by rw [h, List.mem_eraseDups]
  rw [eraseDups_concat]
  split
  · next hold => rw [names_set_of_mem value (hmem.2 hold), h]
  · next hnew => rw [set_of_notMem value (mt hmem.1 hnew), List.map_append, h, List.map_singleton]

/-- Where no name is there twice, an entry is read under its name. -/
theorem lookup_of_mem (hnames : (t.map (·.1)).Nodup) {value : α} (h : (name, value) ∈ t) :
    t.lookup name = some value := by
  induction t with
  | nil => cases h
  | cons e rest ih =>
    obtain ⟨k, v⟩ := e
    obtain ⟨hk, hrest⟩ := List.nodup_cons.1 hnames
    rcases List.mem_cons.1 h with heq | hmem
    · cases heq
      exact List.lookup_cons_self
    · have hne : (name == k) = false := by
        rw [beq_eq_false_iff_ne]
        rintro rfl
        exact hk (List.mem_map.2 ⟨_, hmem, rfl⟩)
      rw [List.lookup_cons, hne]
      exact ih hrest hmem

/-- A table is known from its names and from what is read under them. -/
theorem eq_map_lookup (hnames : (t.map (·.1)).Nodup) (missing : α) :
    t = (t.map (·.1)).map fun name => (name, (t.lookup name).getD missing) := by
  rw [List.map_map]
  refine (List.map_id' t).symm.trans (List.map_congr_left fun e he => ?_)
  simp [lookup_of_mem hnames he]

end Table

end Arbiter
