import Arbiter.Proofs.ReadBack
/-!
# Writing twice

What two writes come to, as laws on the steps of their paths.  A write turns whatever stands in its way into
records, so the second of two writes may find something else than the first did; the context they leave is
the same all the same, field by field and in the same order.

1. **Over** (`Context.setAlong_setAlong_of_prefix`): a write at a path, or above it, undoes the write before.
2. **Beside** (`Context.setAlong_comm`): writes at two paths that part somewhere can change places.  Up to the
   step where they part both make the same records, whichever is first.

Both are by induction on the steps, and come down to the same two laws on fields, `Fields.insert_insert_self`
and `Fields.insert_comm`.  The main statement is `writes_absorb_and_commute`.
-/

namespace Arbiter

/-! ## Fields -/

namespace Fields

theorem insert_cons_self (fs : Fields) (k : String) (v u : Value) :
    insert ((k, u) :: fs) k v = (k, v) :: fs := by
  rw [insert, if_pos rfl]

/-- A field whose name comes before all others is put in front. -/
theorem insert_cons_of_lt (fs : Fields) {k l : String} (v u : Value) (h : k < l) :
    insert ((l, u) :: fs) k v = (k, v) :: (l, u) :: fs := by
  have hne : k ≠ l := fun heq => String.lt_irrefl k (heq ▸ h)
  rw [insert, if_neg hne, if_pos h]

/-- A field whose name comes later passes the first one. -/
theorem insert_cons_of_gt (fs : Fields) {k l : String} (v u : Value) (h : l < k) :
    insert ((l, u) :: fs) k v = (l, u) :: insert fs k v := by
  have hne : k ≠ l := fun heq => String.lt_irrefl k (heq ▸ h)
  rw [insert, if_neg hne, if_neg (String.lt_asymm h)]

/-- Of two values set in one field the later stays. -/
theorem insert_insert_self (fs : Fields) (k : String) (v w : Value) :
    insert (insert fs k w) k v = insert fs k v := by
  induction fs with
  | nil => exact insert_cons_self [] k v w
  | cons f rest ih =>
    obtain ⟨m, u⟩ := f
    rcases Std.lt_trichotomy k m with hkm | rfl | hmk
    · rw [insert_cons_of_lt rest w u hkm, insert_cons_of_lt rest v u hkm, insert_cons_self]
    · rw [insert_cons_self rest k w u, insert_cons_self, insert_cons_self]
    · rw [insert_cons_of_gt rest w u hmk, insert_cons_of_gt rest v u hmk, insert_cons_of_gt _ v u hmk, ih]

/-- Two fields may be inserted in either order, here with their names in order. -/
theorem insert_comm_of_lt (fs : Fields) {k l : String} (v w : Value) (h : k < l) :
    insert (insert fs k v) l w = insert (insert fs l w) k v := by
  induction fs with
  | nil =>
    show insert [(k, v)] l w = insert [(l, w)] k v
    rw [insert_cons_of_gt [] w v h, insert_cons_of_lt [] v w h]
    rfl
  | cons f rest ih =>
    obtain ⟨m, u⟩ := f
    rcases Std.lt_trichotomy k m with hkm | rfl | hmk
    · -- the lesser name goes to the front, whatever the other does behind it
      rw [insert_cons_of_lt rest v u hkm, insert_cons_of_gt _ w v h]
      rcases Std.lt_trichotomy l m with hlm | rfl | hml
      · rw [insert_cons_of_lt rest w u hlm, insert_cons_of_lt _ v w h]
      · rw [insert_cons_self, insert_cons_of_lt rest v w h]
      · rw [insert_cons_of_gt rest w u hml, insert_cons_of_lt _ v u hkm]
    · rw [insert_cons_self, insert_cons_of_gt rest w v h, insert_cons_of_gt rest w u h, insert_cons_self]
    · have hml : m < l := String.lt_trans hmk h
      rw [insert_cons_of_gt rest v u hmk, insert_cons_of_gt _ w u hml, insert_cons_of_gt rest w u hml,
        insert_cons_of_gt _ v u hmk, ih]

/-- **Two fields are set in either order.** -/
theorem insert_comm (fs : Fields) {k l : String} (v w : Value) (h : k ≠ l) :
    insert (insert fs k v) l w = insert (insert fs l w) k v := by
  rcases Std.lt_trichotomy k l with hlt | rfl | hgt
  · exact insert_comm_of_lt fs v w hlt
  · exact absurd rfl h
  · exact (insert_comm_of_lt fs w v hgt).symm

end Fields

/-! ## Writes along steps -/

namespace Context

/-- The record below a field is what was inserted there. -/
theorem recordAt_insert_self (c : Context) (x : String) (fs : Fields) :
    recordAt (Fields.insert c x (.obj fs)) x = fs := by
  rw [recordAt, Fields.get?_insert_self]

/-- An insertion elsewhere leaves the record below a field alone. -/
theorem recordAt_insert_of_ne (c : Context) {x y : String} (v : Value) (h : y ≠ x) :
    recordAt (Fields.insert c x v) y = recordAt c y := by
  rw [recordAt, Fields.get?_insert_of_ne c v h, recordAt]

/-- A write that goes on below a field changes the record that is there, or makes one. -/
theorem setAlong_below (c : Context) (x : String) {rest : List String} (v : Value) (h : rest ≠ []) :
    setAlong c (x :: rest) v = Fields.insert c x (.obj (setAlong (recordAt c x) rest v)) := by
  rw [setAlong_cons, if_neg h]

/-- **A write at a path or above it undoes the write before.** -/
theorem setAlong_setAlong_of_prefix (c : Context) {p q : List String} (v w : Value) (hp : p ≠ [])
    (hpq : p <+: q) : setAlong (setAlong c q w) p v = setAlong c p v := by
  induction p generalizing c q with
  | nil => exact absurd rfl hp
  | cons x p ih =>
    obtain ⟨further, rfl⟩ := hpq
    rw [List.cons_append]
    by_cases hrest : p = []
    · subst hrest
      rw [setAlong_cons c x ([] ++ further)]
      exact Fields.insert_insert_self c x v _
    · have hlong : p ++ further ≠ [] := List.append_ne_nil_of_left_ne_nil hrest further
      rw [setAlong_below c x w hlong, setAlong_below c x v hrest, setAlong_below _ x v hrest,
        recordAt_insert_self, Fields.insert_insert_self, ih (recordAt c x) hrest (List.prefix_append p further)]

/-- **Writes at two paths that part somewhere change places.** -/
theorem setAlong_comm (c : Context) {p q : List String} (v w : Value) (hapart : ¬ Comparable p q) :
    setAlong (setAlong c p v) q w = setAlong (setAlong c q w) p v := by
  induction p generalizing c q with
  | nil => exact absurd (Or.inl List.nil_prefix) hapart
  | cons x p ih =>
    cases q with
    | nil => exact absurd (Or.inr List.nil_prefix) hapart
    | cons y q =>
      by_cases hxy : x = y
      · -- the ways are still one: both writes leave a record at `x`, and part further down
        subst hxy
        have hapart' : ¬ Comparable p q := fun h => hapart (comparable_cons.2 h)
        have hp : p ≠ [] := by rintro rfl; exact hapart' (Or.inl List.nil_prefix)
        have hq : q ≠ [] := by rintro rfl; exact hapart' (Or.inr List.nil_prefix)
        rw [setAlong_below c x v hp, setAlong_below c x w hq, setAlong_below _ x w hq, setAlong_below _ x v hp,
          recordAt_insert_self, recordAt_insert_self, Fields.insert_insert_self, Fields.insert_insert_self,
          ih (recordAt c x) hapart']
      · -- the ways part here: neither write sees the field of the other
        have hyx : y ≠ x := fun h => hxy h.symm
        rw [setAlong_cons c x p, setAlong_cons c y q, setAlong_cons _ y q, setAlong_cons _ x p,
          recordAt_insert_of_ne c _ hyx, recordAt_insert_of_ne c _ hxy]
        exact Fields.insert_comm c _ _ hxy

end Context

/-! ## The main statement -/

/-- **What is written at a path, or below it, is gone once the path is written**, and the context is as if that
write had been the only one; **writes at two paths that part somewhere change places.**  Both hold whatever
stands on the way. -/
theorem writes_absorb_and_commute (c : Context) (p q : String) (v w : Value) :
    (segments p <+: segments q → Context.write (Context.write c q w) p v = Context.write c p v)
    ∧ (¬ Comparable (segments p) (segments q) →
        Context.write (Context.write c p v) q w = Context.write (Context.write c q w) p v) :=
  ⟨Context.setAlong_setAlong_of_prefix c v w (Context.segments_ne_nil p), Context.setAlong_comm c v w⟩

/-- A list that stands on the way of both writes does not keep them apart. -/
theorem writes_absorb_and_commute_shared_list :
    let c : Context := [("a", .arr [.null])]
    segments "a" <+: segments "a.x" ∧ Context.write (Context.write c "a.x" (.int 1)) "a" .null = Context.write c "a" .null
    ∧ ¬ Comparable (segments "a.x") (segments "a.y")
    ∧ Context.write (Context.write c "a.x" (.int 1)) "a.y" (.int 2)
      = Context.write (Context.write c "a.y" (.int 2)) "a.x" (.int 1) := by
  intro c
  have habove : segments "a" <+: segments "a.x" := by decide
  have hapart : ¬ Comparable (segments "a.x") (segments "a.y") := by decide
  exact ⟨habove, (writes_absorb_and_commute c "a" "a.x" .null (.int 1)).1 habove,
    hapart, (writes_absorb_and_commute c "a.x" "a.y" (.int 1) (.int 2)).2 hapart⟩

-- a list that both writes meet is one record after them
example : Context.write (Context.write [("a", .arr [.null])] "a.x" .null) "a.y" .null
    = [("a", .obj [("x", .null), ("y", .null)])] := by rfl

end Arbiter
