import Arbiter.Proofs.Claims
/-!
# What is written is read back

Reading and writing walk along the same steps and do not agree on what they meet: the reader goes through
records and lists, the writer through records alone, and makes one where it finds something else.  What a
write is worth to a later reader is said here for all paths at once.

1. **What steps lead to** (`Leads`) is a relation that neither reads nor writes: a step is the name of a field
   or the number of an item.  Reading finds exactly that (`Context.read?_eq_some_iff`).
2. **Three positions.**  A path is at or below the one written, and then the read goes on inside the value; or
   it is beside it, and then the read is what it was, if no list stands on their common way.  Of a path above
   it nothing is said but that there is a record (`Context.getAlong?_setAlong_above`).

The condition on lists in the last part is there because a write that meets a list on its way drops the items
of it.  The main statement is `writes_are_read_back`.
-/

namespace Arbiter

/-! ## What steps lead to -/

/-- Steps lead from one value to another inside it. -/
inductive Leads : Value → List String → Value → Prop where
  /-- No steps lead nowhere else. -/
  | here (v : Value) : Leads v [] v
  /-- A step into a record is the name of a field. -/
  | field {fields : Fields} {name : String} {v u : Value} {rest : List String}
      (hname : Fields.get? fields name = some v) (hrest : Leads v rest u) :
      Leads (.obj fields) (name :: rest) u
  /-- A step into a list is the number of an item. -/
  | item {items : List Value} {step : String} {i : Nat} {v u : Value} {rest : List String}
      (hstep : Numeral.word? 10 step.toList = some i) (hitem : items[i]? = some v)
      (hrest : Leads v rest u) : Leads (.arr items) (step :: rest) u

/-- Reading on from a value finds what the steps lead to. -/
theorem leads_iff {v u : Value} {steps : List String} :
    Leads v steps u ↔ steps.foldlM Value.step? v = some u := by
  induction steps generalizing v with
  | nil =>
    constructor
    · rintro ⟨⟩
      rfl
    · rintro ⟨⟩
      exact .here _
  | cons step rest ih =>
    rw [List.foldlM_cons, Option.bind_eq_bind, Option.bind_eq_some_iff]
    constructor
    · intro h
      cases h with
      | field hname hrest => exact ⟨_, hname, ih.1 hrest⟩
      | item hstep hitem hrest => exact ⟨_, by simp [Value.step?, hstep, hitem], ih.1 hrest⟩
    · rintro ⟨w, hw, hrest⟩
      cases v with
      | obj fields => exact .field hw (ih.2 hrest)
      | arr items =>
        obtain ⟨i, hi, hitem⟩ := Option.bind_eq_some_iff.1 hw
        exact .item hi hitem (ih.2 hrest)
      | _ => cases hw

namespace Context

/-- Reading along some steps finds what they lead to. -/
theorem getAlong?_eq_some_iff {c : Context} {steps : List String} {u : Value} (hsteps : steps ≠ []) :
    getAlong? c steps = some u ↔ Leads (.obj c) steps u := by
  rw [leads_iff, foldlM_step?_obj c hsteps]

theorem segments_ne_nil (path : String) : segments path ≠ [] := by
  rw [segments, ne_eq, List.map_eq_nil_iff]
  exact Text.splitOn_ne_nil '.' path.toList

/-- **Reading a path finds what its steps lead to**, and nothing if they lead nowhere. -/
theorem read?_eq_some_iff {c : Context} {path : String} {u : Value} :
    read? c path = some u ↔ Leads (.obj c) (segments path) u :=
  getAlong?_eq_some_iff (segments_ne_nil path)

end Context

/-! ## The main statement -/

/-- **What is written at a path is read there**, whatever the context and the path.  A path that goes on from
there reads what its further steps lead to inside the value, and a path that neither goes on from there nor
leads there reads what it read before, unless their common way leads to a list. -/
theorem writes_are_read_back (c : Context) (p : String) (v : Value) :
    let after := Context.write c p v
    Context.read? after p = some v
    ∧ (∀ (q : String) (further : List String), segments q = segments p ++ further →
        ∀ u, Context.read? after q = some u ↔ Leads v further u)
    ∧ ∀ q : String, ¬ Comparable (segments p) (segments q) →
        (∀ common items, common <+: segments p → common <+: segments q →
          ¬ Leads (.obj c) common (.arr items)) →
        Context.read? after q = Context.read? c q := by
  intro after
  have hp := Context.segments_ne_nil p
  -- reading at the path is reading on by no further steps
  have hbelow : ∀ (q : String) (further : List String), segments q = segments p ++ further →
      ∀ u, Context.read? after q = some u ↔ Leads v further u := by
    intro q further hq u
    rw [Context.read?, hq, leads_iff]
    show Context.getAlong? (Context.setAlong c (segments p) v) (segments p ++ further) = some u ↔ _
    rw [Context.getAlong?_setAlong_append c further v hp]
  refine ⟨(hbelow p [] (List.append_nil _).symm v).2 (.here v), hbelow, fun q hapart hlists => ?_⟩
  refine Context.getAlong?_setAlong_of_apart c v hapart fun common hcommon hcp hcq items hitems => ?_
  exact hlists common items hcp hcq ((Context.getAlong?_eq_some_iff hcommon).1 hitems)

-- a list on the way gives way to a record, and what was beside the path in it is gone
example : Context.read? [("a", .arr [.null])] "a.0" = some .null
    ∧ Context.read? (Context.write [("a", .arr [.null])] "a.b" (.int 1)) "a.0" = none :=
  ⟨by rfl, by rfl⟩

end Arbiter
