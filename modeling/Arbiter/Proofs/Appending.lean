import Arbiter.Proofs.ReadBack
import Arbiter.Proofs.Running
/-!
# Adding to a list

An append reads its target and writes it back with one item more.  The read goes through records and lists,
the write through records alone, so the two agree on the target and not on what stands around it.

1. **At the target** the items that were there are read, and the new one behind them, whatever was there.
2. **Beside the target** nothing changes, unless a list stands on the common way (`SharesList`): the write
   makes a record of it (`Context.leads_write_of_shared`), and none of its items can be read any more
   (`Context.getAlong?_setAlong_of_list`).

The main statement is `appends_are_local`.  Its exception is met whenever the target is an item of a list, or
lies inside of one (`append_forgets_the_other_items`).
-/

namespace Arbiter

/-! ## Lists on the way -/

/-- A list stands on the common way of two paths. -/
def SharesList (c : Context) (p q : List String) : Prop :=
  ∃ common items, common <+: p ∧ common <+: q ∧ Leads (.obj c) common (.arr items)

namespace Context

/-- In an empty context there is nothing to read. -/
theorem getAlong?_nil (q : List String) : getAlong? [] q = none := by
  cases q with
  | nil => rfl
  | cons x rest => rfl

/-- A write into nothing makes its own path, and what leads there. -/
theorem getAlong?_setAlong_nil {p q : List String} (v : Value) (hapart : ¬ Comparable p q) :
    getAlong? (setAlong [] p v) q = none := by
  rw [getAlong?_setAlong_of_apart [] v hapart, getAlong?_nil]
  intro r _ _ _ items hr
  rw [getAlong?_nil] at hr
  cases hr

/-- **Beside the path** nothing is left of a list that stands where the two ways are still one. -/
theorem getAlong?_setAlong_of_list (c : Context) {p q r : List String} (v : Value) {items : List Value}
    (hapart : ¬ Comparable p q) (hr : r ≠ []) (hrp : r <+: p) (hrq : r <+: q)
    (hitems : getAlong? c r = some (.arr items)) : getAlong? (setAlong c p v) q = none := by
  induction r generalizing c p q with
  | nil => exact absurd rfl hr
  | cons x r ih =>
    obtain ⟨p, rfl⟩ := hrp
    obtain ⟨q, rfl⟩ := hrq
    simp only [List.cons_append] at hapart ⊢
    have hapart' : ¬ Comparable (r ++ p) (r ++ q) := fun h => hapart (comparable_cons.2 h)
    have hp : r ++ p ≠ [] := fun h => hapart' (h ▸ Or.inl List.nil_prefix)
    have hq : r ++ q ≠ [] := fun h => hapart' (h ▸ Or.inr List.nil_prefix)
    rw [setAlong_cons, if_neg hp]
    show (Fields.get? _ x).bind (fun u => (r ++ q).foldlM Value.step? u) = none
    rw [Fields.get?_insert_self, Option.bind_some, foldlM_step?_obj _ hq]
    by_cases hfield : ∃ found, Fields.get? c x = some (.arr found)
    · -- the list stands here: the write goes on in an empty record
      obtain ⟨found, hfound⟩ := hfield
      have hrecord : recordAt c x = [] := by rw [recordAt, hfound]
      rw [hrecord, getAlong?_setAlong_nil v hapart']
    · -- it stands further down, in the record that is here
      have hnone : ∀ found, Fields.get? c x ≠ some (.arr found) := fun found h => hfield ⟨found, h⟩
      have hrest : r ≠ [] := by
        rintro rfl
        obtain ⟨u, hu, hlist⟩ := Option.bind_eq_some_iff.1 hitems
        cases hlist
        exact hnone items hu
      refine ih (recordAt c x) hapart' hrest (List.prefix_append r p) (List.prefix_append r q) ?_
      rw [getAlong?_recordAt c x hrest hnone, hitems]

/-- What a write leaves of the paths beside its own. -/
theorem read?_write_of_apart (c : Context) {p q : String} (v : Value)
    (hapart : ¬ Comparable (segments p) (segments q)) :
    (¬ SharesList c (segments p) (segments q) → read? (write c p v) q = read? c q)
    ∧ (SharesList c (segments p) (segments q) → read? (write c p v) q = none) := by
  constructor
  · intro hfree
    refine getAlong?_setAlong_of_apart c v hapart fun common hcommon hp hq items hitems => hfree ?_
    exact ⟨common, items, hp, hq, (getAlong?_eq_some_iff hcommon).1 hitems⟩
  · rintro ⟨common, items, hp, hq, hleads⟩
    have hcommon : common ≠ [] := by
      rintro rfl
      cases hleads
    exact getAlong?_setAlong_of_list c v hapart hcommon hp hq ((getAlong?_eq_some_iff hcommon).2 hleads)

/-- Where the ways of two paths are still one, a write at the first leaves a record, whatever was there. -/
theorem leads_write_of_shared (c : Context) {p q : String} (v : Value)
    (hapart : ¬ Comparable (segments p) (segments q)) {common : List String} (hp : common <+: segments p)
    (hq : common <+: segments q) : ∃ fields, Leads (.obj (write c p v)) common (.obj fields) := by
  by_cases hcommon : common = []
  · subst hcommon
    exact ⟨_, .here _⟩
  · obtain ⟨further, hfurther⟩ := hp
    have hne : further ≠ [] := by
      rintro rfl
      rw [List.append_nil] at hfurther
      exact hapart (Or.inl (hfurther ▸ hq))
    obtain ⟨fields, hfields⟩ := getAlong?_setAlong_above c v hcommon hne
    rw [hfurther] at hfields
    exact ⟨fields, (getAlong?_eq_some_iff hcommon).1 hfields⟩

end Context

/-! ## The main statement -/

/-- **An append adds one item behind those at its target**: those of a list, none where there is nothing or
null, and anything else as the only one.  **A path beside the target reads what it read before**, unless a
list stands on their common way; then it reads nothing.  All along their common way there are records
afterwards, so a list that stood there has given way to one. -/
theorem appends_are_local (env : Env) (context : Context) (target : String) (v : Value) (w : World) :
    ∃ after, ((Action.append target v).run env context).runIn w = (.ok (.wrote target, after), w)
      ∧ (∀ items, Context.read? context target = some (.arr items) →
          Context.read? after target = some (.arr (items ++ [v])))
      ∧ (Context.read? context target = none ∨ Context.read? context target = some .null →
          Context.read? after target = some (.arr [v]))
      ∧ (∀ u, Context.read? context target = some u → u ≠ .null → (∀ items, u ≠ .arr items) →
          Context.read? after target = some (.arr [u, v]))
      ∧ ∀ q, ¬ Comparable (segments target) (segments q) →
          (¬ SharesList context (segments target) (segments q) →
            Context.read? after q = Context.read? context q)
          ∧ (SharesList context (segments target) (segments q) → Context.read? after q = none)
          ∧ ∀ common, common <+: segments target → common <+: segments q →
            ∃ fields, Leads (.obj after) common (.obj fields) := by
  let items := Value.asItems (Context.read? context target)
  have hread : Context.read? (Context.write context target (.arr (items ++ [v]))) target
      = some (.arr (items ++ [v])) := by
    have hthere := Context.getAlong?_setAlong_append context [] (.arr (items ++ [v]))
      (Context.segments_ne_nil target)
    rw [List.append_nil] at hthere
    exact hthere
  refine ⟨Context.write context target (.arr (items ++ [v])), rfl, ?_, ?_, ?_, ?_⟩
  · intro found hfound
    have hitems : items = found := by
      show Value.asItems _ = _
      rw [hfound, Value.asItems]
    rw [hread, hitems]
  · intro hnothing
    have hitems : items = [] := by
      show Value.asItems _ = _
      rcases hnothing with h | h <;> rw [h, Value.asItems]
    rw [hread, hitems, List.nil_append]
  · intro u hu hnull hlist
    have hitems : items = [u] := by
      show Value.asItems _ = _
      rw [hu]
      cases u with
      | null => exact absurd rfl hnull
      | arr found => exact absurd rfl (hlist found)
      | _ => rfl
    rw [hread, hitems, List.singleton_append]
  · intro q hapart
    obtain ⟨hsame, hgone⟩ := Context.read?_write_of_apart context (.arr (items ++ [v])) hapart
    exact ⟨hsame, hgone, fun common hp hq => Context.leads_write_of_shared context _ hapart hp hq⟩

/-- An append to one item of a list: the other items are gone. -/
theorem append_forgets_the_other_items :
    let context : Context := [("a", .arr [.int 1, .int 2])]
    Context.read? context "a.0" = some (.int 1) ∧ Context.read? context "a.1" = some (.int 2)
    ∧ ¬ Comparable (segments "a.0") (segments "a.1")
    ∧ ∃ after, ((Action.append "a.0" (.int 3)).run ⟨.alone, .builtin, { perCall := 1000 }⟩ context).runIn {}
        = (.ok (.wrote "a.0", after), {})
      ∧ Context.read? after "a.0" = some (.arr [.int 1, .int 3])
      ∧ Context.read? after "a.1" = none := by
  intro context
  have hapart : ¬ Comparable (segments "a.0") (segments "a.1") := by decide
  exact ⟨by rfl, by rfl, hapart, _, rfl, by rfl, by rfl⟩

end Arbiter
