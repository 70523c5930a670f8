import Arbiter.Value.Path
/-!
# Reading after writing

What a write at one path does to a read at another, as laws on the steps of the two paths.  Either one
path leads on from the other (`Comparable`), and then the read is known from the value written, or the
paths part at some step, and then the read is what it was, unless a list stood on their common way: a
write turns it into a record and loses its items.

The three laws are `getAlong?_setAlong_append` (at the path and below it), `getAlong?_setAlong_above`
(above it) and `getAlong?_setAlong_of_apart` (beside it).
-/

namespace Arbiter

/-- Two rows of steps are comparable if they are equal or one leads on from the other. -/
def Comparable (p q : List String) : Prop := p <+: q ∨ q <+: p

instance (p q : List String) : Decidable (Comparable p q) := inferInstanceAs (Decidable (_ ∨ _))

/-- If one path leads on from the other, it does so whichever is named first. -/
theorem Comparable.symm {p q : List String} (h : Comparable p q) : Comparable q p := Or.symm h

/-- A first step that both have in common does not matter. -/
theorem comparable_cons {x : String} {p q : List String} :
    Comparable (x :: p) (x :: q) ↔ Comparable p q := by
  simp only [Comparable, List.cons_prefix_cons, true_and]

/-- What leads on to something comparable is comparable itself. -/
theorem Comparable.of_prefix {p q r : List String} (hrp : r <+: p) (h : Comparable p q) :
    Comparable r q := by
  rcases h with hpq | hqp
  · exact Or.inl (hrp.trans hpq)
  · exact List.prefix_or_prefix_of_prefix hrp hqp

/-! ## Fields -/

namespace Fields

/-- A field that was set is found. -/
theorem get?_insert_self (fs : Fields) (k : String) (v : Value) :
    get? (insert fs k v) k = some v := by
  induction fs with
  | nil => simp [insert, get?]
  | cons f rest ih =>
    obtain ⟨k', v'⟩ := f
    rw [insert]
    split
    · simp [get?]
    · next hne =>
      split
      · simp [get?]
      · simp only [get?, if_neg hne]
        exact ih

theorem get?_insert_of_ne (fs : Fields) {k l : String} (v : Value) (h : l ≠ k) :
    get? (insert fs k v) l = get? fs l := by
  induction fs with
  | nil => simp [insert, get?, h]
  | cons f rest ih =>
    obtain ⟨k', v'⟩ := f
    rw [insert]
    split
    · next heq =>
      subst heq
      simp [get?, h]
    · split
      · simp [get?, h]
      · simp only [get?]
        rw [ih]

end Fields

namespace Context

/-! ## Reading step by step -/

/-- Reading on from a record is reading in its fields. -/
theorem foldlM_step?_obj (fs : Fields) {q : List String} (hq : q ≠ []) :
    q.foldlM Value.step? (.obj fs) = getAlong? fs q := by
  cases q with
  | nil => exact absurd rfl hq
  | cons x rest => rfl

/-- A write changes one field of the context at its first step. -/
theorem setAlong_cons (c : Context) (x : String) (rest : List String) (v : Value) :
    setAlong c (x :: rest) v
      = Fields.insert c x (if rest = [] then v else .obj (setAlong (recordAt c x) rest v)) := by
  cases rest with
  | nil => rfl
  | cons y rest => rfl

/-- Below a field that holds no list, the record there shows all that can be read. -/
theorem getAlong?_recordAt (c : Context) (x : String) {q : List String} (hq : q ≠ [])
    (harr : ∀ items, Fields.get? c x ≠ some (.arr items)) :
    getAlong? (recordAt c x) q = getAlong? c (x :: q) := by
  obtain ⟨y, rest, rfl⟩ := List.exists_cons_of_ne_nil hq
  cases hx : Fields.get? c x with
  | none => simp [getAlong?, recordAt, hx, Fields.get?]
  | some v =>
    cases v with
    | obj fs => simp only [getAlong?, recordAt, hx]; rfl
    | arr items => exact absurd hx (harr items)
    | _ => simp [getAlong?, recordAt, hx, Fields.get?, Value.step?]

/-! ## The three laws -/

/-- **At the path and below it** the value written is read. -/
theorem getAlong?_setAlong_append (c : Context) {p : List String} (s : List String) (v : Value)
    (hp : p ≠ []) : getAlong? (setAlong c p v) (p ++ s) = s.foldlM Value.step? v := by
  induction p generalizing c with
  | nil => exact absurd rfl hp
  | cons x rest ih =>
    rw [setAlong_cons]
    show (Fields.get? _ x).bind (fun u => (rest ++ s).foldlM Value.step? u) = _
    rw [Fields.get?_insert_self, Option.bind_some]
    by_cases hrest : rest = []
    · subst hrest; rfl
    · rw [if_neg hrest, foldlM_step?_obj _ (by simp [hrest]), ih _ hrest]

/-- **Above the path** there is a record after the write. -/
theorem getAlong?_setAlong_above (c : Context) {r s : List String} (v : Value) (hr : r ≠ [])
    (hs : s ≠ []) : ∃ fs, getAlong? (setAlong c (r ++ s) v) r = some (.obj fs) := by
  induction r generalizing c with
  | nil => exact absurd rfl hr
  | cons x rest ih =>
    have hne : rest ++ s ≠ [] := by simp [hs]
    rw [List.cons_append, setAlong_cons, if_neg hne]
    show ∃ fs, (Fields.get? _ x).bind (fun u => rest.foldlM Value.step? u) = some (.obj fs)
    rw [Fields.get?_insert_self, Option.bind_some]
    by_cases hrest : rest = []
    · subst hrest
      exact ⟨_, rfl⟩
    · rw [foldlM_step?_obj _ hrest]
      exact ih _ hrest

/-- **Beside the path** nothing changes, unless a list stands where the two ways are still one. -/
theorem getAlong?_setAlong_of_apart (c : Context) {p q : List String} (v : Value)
    (hapart : ¬ Comparable p q)
    (harr : ∀ r, r ≠ [] → r <+: p → r <+: q → ∀ items, getAlong? c r ≠ some (.arr items)) :
    getAlong? (setAlong c p v) q = getAlong? c q := by
  induction p generalizing c q with
  | nil => exact absurd (Or.inl List.nil_prefix) hapart
  | cons x p ih =>
    cases q with
    | nil => exact absurd (Or.inr List.nil_prefix) hapart
    | cons y q =>
      rw [setAlong_cons]
      by_cases hyx : y = x
      · -- the ways are still one: go on in the record at `x`
        subst hyx
        have hapart' : ¬ Comparable p q := fun h => hapart (comparable_cons.2 h)
        have hp : p ≠ [] := by rintro rfl; exact hapart' (Or.inl List.nil_prefix)
        have hq : q ≠ [] := by rintro rfl; exact hapart' (Or.inr List.nil_prefix)
        have hfield : ∀ items, Fields.get? c y ≠ some (.arr items) := by
          intro items hx
          refine harr [y] (by simp) (by simp) (by simp) items ?_
          rw [getAlong?, hx]; rfl
        rw [if_neg hp]
        show (Fields.get? _ y).bind (fun u => q.foldlM Value.step? u) = _
        rw [Fields.get?_insert_self, Option.bind_some, foldlM_step?_obj _ hq,
          ih (recordAt c y) hapart', getAlong?_recordAt c y hq hfield]
        intro r hr hrp hrq items hitems
        rw [getAlong?_recordAt c y hr hfield] at hitems
        exact harr (y :: r) (by simp) (List.cons_prefix_cons.2 ⟨rfl, hrp⟩)
          (List.cons_prefix_cons.2 ⟨rfl, hrq⟩) items hitems
      · -- the ways part here
        show (Fields.get? _ y).bind _ = (Fields.get? c y).bind _
        rw [Fields.get?_insert_of_ne _ _ hyx]

end Context

end Arbiter
