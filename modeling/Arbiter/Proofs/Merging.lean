import Arbiter.Proofs.Announcements
import Arbiter.Proofs.Documents
/-!
# What a merge makes of two records

A merge goes through the fields of the overlay and changes the base under way, and into a record on both sides
it goes down.  What comes out can be said path by path, with no word about that order.

1. **Paths through records.**  Fields hold a value at a path if every step of it but the last leads to a record
   (`Fields.Holds`).  They lack a path if it leads through records up to some step and that step is no field
   (`Fields.Lacks`).  A path may also run into a value that is no record; then neither is the case.
2. **One level** (`Fields.get?_mergeAll`).  A field is what the overlay makes of it, or what it was.  A record
   of the overlay is merged into the record that was there, and anything else there counts as an empty one
   (`Value.mergeOnto_obj`), just as for a write.
3. **All levels**, by induction on the path: what the overlay says is said (`Fields.Holds.overlay`), what it
   lacks is said by the base (`Fields.Holds.base`), and there is nothing else (`Fields.Holds.of_merge`).

Records with the same fields are the same (`Fields.eq_of_get?_eq`), which makes laws on fields into equations
between records: a second merge changes nothing (`Fields.mergeAll_mergeAll`).  The main statement is
`merge_is_a_right_biased_union`.
-/

namespace Arbiter

/-! ## Records in order -/

namespace Value

/-- Whether the fields of all records in a value are in order, each name at most once. -/
def InOrder (v : Value) : Prop := v.All (fun _ => True) Fields.Ordered

/-- A record is in order if its own fields are, and what is in them. -/
theorem inOrder_obj {fs : Fields} : (Value.obj fs).InOrder ↔ fs.Ordered ∧ ∀ f ∈ fs, f.2.InOrder := by
  rw [InOrder, All, allFields_iff]
  rfl

end Value

/-- Data with names, as it is stored: its fields are in order, and so are those of all records in it. -/
abbrev Record := {fs : Fields // (Value.obj fs).InOrder}

namespace Fields

/-- A field that is found is there. -/
theorem mem_of_get? {fs : Fields} {k : String} {v : Value} (h : get? fs k = some v) : (k, v) ∈ fs := by
  induction fs with
  | nil => cases h
  | cons f rest ih =>
    obtain ⟨l, u⟩ := f
    rw [get?_cons] at h
    split at h
    · next heq =>
      cases h
      subst heq
      exact List.mem_cons_self
    · exact List.mem_cons_of_mem _ (ih h)

theorem inOrder_of_get? {fs : Fields} (h : (Value.obj fs).InOrder) {k : String} {v : Value}
    (hv : get? fs k = some v) : v.InOrder :=
  (Value.inOrder_obj.1 h).2 _ (mem_of_get? hv)

/-- A record whose fields come after a name has no field of that name, and none before it. -/
theorem get?_of_le {fs : Fields} {k l : String} (h : ∀ n ∈ fs.names, k < n) (hlk : l ≤ k) :
    get? fs l = none := by
  rw [get?_eq_none_iff]
  intro hl
  exact String.not_le.2 (h l hl) hlk

/-- **Records with the same fields are the same.** -/
theorem eq_of_get?_eq {xs ys : Fields} (hxs : xs.Ordered) (hys : ys.Ordered)
    (h : ∀ k, get? xs k = get? ys k) : xs = ys := by
  induction xs generalizing ys with
  | nil =>
    cases ys with
    | nil => rfl
    | cons g ys => simpa [get?] using h g.1
  | cons f xs ih =>
    obtain ⟨k, v⟩ := f
    cases ys with
    | nil => simpa using h k
    | cons g ys =>
      obtain ⟨l, u⟩ := g
      obtain ⟨hk, hxs⟩ := ordered_cons.1 hxs
      obtain ⟨hl, hys'⟩ := ordered_cons.1 hys
      -- of two different first names the lesser would be missing on the other side
      have hkl : k = l := by
        rcases Std.lt_trichotomy k l with hlt | heq | hlt
        · have hmissing := get?_of_le hl (Std.le_of_lt hlt)
          have hne : k ≠ l := fun heq => String.lt_irrefl k (heq ▸ hlt)
          simpa [hne, hmissing] using h k
        · exact heq
        · have hmissing := get?_of_le hk (Std.le_of_lt hlt)
          have hne : l ≠ k := fun heq => String.lt_irrefl l (heq ▸ hlt)
          simpa [hne, hmissing] using (h l).symm
      subst hkl
      obtain rfl : v = u := by simpa using h k
      congr 1
      refine ih hxs hys' fun j => ?_
      by_cases hj : j = k
      · rw [hj, get?_of_le hk (String.le_refl k), get?_of_le hl (String.le_refl k)]
      · simpa [hj] using h j

/-! ## Paths through records -/

/-- Fields hold a value at a path: every step but the last leads to a record. -/
inductive Holds : Fields → List String → Value → Prop where
  /-- The last step is the name of a field. -/
  | last {fs : Fields} {name : String} {v : Value} (hname : get? fs name = some v) : Holds fs [name] v
  /-- A step before leads to a record. -/
  | within {fs inner : Fields} {name : String} {rest : List String} {v : Value}
      (hname : get? fs name = some (.obj inner)) (hrest : Holds inner rest v) : Holds fs (name :: rest) v

/-- Fields lack a path: it leads through records, and then to a name that is not there. -/
inductive Lacks : Fields → List String → Prop where
  /-- There is no field of the name. -/
  | here {fs : Fields} {name : String} (rest : List String) (hname : get? fs name = none) :
      Lacks fs (name :: rest)
  /-- A step leads to a record that lacks the rest. -/
  | within {fs inner : Fields} {name : String} {rest : List String}
      (hname : get? fs name = some (.obj inner)) (hrest : Lacks inner rest) : Lacks fs (name :: rest)

theorem Holds.ne_nil {fs : Fields} {path : List String} {v : Value} (h : Holds fs path v) : path ≠ [] := by
  rintro rfl
  cases h

theorem Lacks.ne_nil {fs : Fields} {path : List String} (h : Lacks fs path) : path ≠ [] := by
  rintro rfl
  cases h

/-- Before its last step a path leads to records only. -/
theorem Holds.inner {fs : Fields} {name : String} {rest : List String} {v : Value}
    (h : Holds fs (name :: rest) v) (hrest : rest ≠ []) :
    ∃ inner, get? fs name = some (.obj inner) ∧ Holds inner rest v := by
  cases h with
  | last => exact absurd rfl hrest
  | within hname hinner => exact ⟨_, hname, hinner⟩

/-- What fields hold at a path is read there. -/
theorem Holds.getAlong? {c : Context} {path : List String} {v : Value} (h : Holds c path v) :
    Context.getAlong? c path = some v := by
  induction h with
  | last hname =>
    rw [Context.getAlong?, hname]
    rfl
  | within hname hrest ih =>
    rw [Context.getAlong?, hname, Option.bind_some, Context.foldlM_step?_obj _ hrest.ne_nil, ih]

/-! ## One level -/

/-- A field of a merge is what the overlay makes of it, or else what it was. -/
theorem get?_mergeAll {base overlay : Fields} (h : overlay.names.Nodup) (k : String) :
    get? (mergeAll base overlay) k =
      match get? overlay k with
      | none => get? base k
      | some v => some (v.mergeOnto (get? base k)) := by
  induction overlay generalizing base with
  | nil => rw [mergeAll, get?_nil]
  | cons f rest ih =>
    obtain ⟨l, u⟩ := f
    obtain ⟨hl, hrest⟩ := List.nodup_cons.1 h
    rw [mergeAll, ih hrest, get?_cons]
    by_cases hk : k = l
    · -- its turn is now, and it has no other
      subst hk
      rw [if_pos rfl, get?_eq_none_iff.2 hl, get?_insert_self]
    · rw [if_neg hk, get?_insert_of_ne _ _ hk]

/-- A merge is in order, whatever the overlay is like. -/
theorem ordered_mergeAll {base : Fields} (h : base.Ordered) (overlay : Fields) :
    Ordered (mergeAll base overlay) := by
  induction overlay generalizing base with
  | nil =>
    rw [mergeAll]
    exact h
  | cons f rest ih =>
    rw [mergeAll]
    exact ih (h.insert _ _)

end Fields

namespace Value

theorem mergeOnto_none (v : Value) : v.mergeOnto none = v := by
  cases v <;> rfl

/-- What is no record takes the place of whatever was there. -/
theorem mergeOnto_of_ne {v : Value} (h : ∀ fs, v ≠ .obj fs) (old : Option Value) : v.mergeOnto old = v := by
  cases v with
  | obj fs => exact absurd rfl (h fs)
  | _ => rfl

end Value

namespace Fields

/-- Merging into nothing gives the overlay. -/
theorem mergeAll_nil_left {overlay : Fields} (h : overlay.Ordered) : mergeAll [] overlay = overlay := by
  refine eq_of_get?_eq (ordered_mergeAll ordered_nil overlay) h fun k => ?_
  rw [get?_mergeAll h.nodup]
  cases hk : get? overlay k with
  | none => rfl
  | some v => exact congrArg some v.mergeOnto_none

end Fields

/-- A record is merged into the record that was there; anything else there counts as an empty one. -/
theorem Value.mergeOnto_obj {fs : Fields} (h : fs.Ordered) (base : Fields) (k : String) :
    (Value.obj fs).mergeOnto (Fields.get? base k)
      = .obj (Fields.mergeAll (Context.recordAt base k) fs) := by
  have hnothing : (Value.obj fs).mergeOnto none = .obj (Fields.mergeAll [] fs) := by
    rw [mergeOnto_none, Fields.mergeAll_nil_left h]
  rw [Context.recordAt]
  cases hold : Fields.get? base k with
  | none => exact hnothing
  | some old =>
    cases old with
    | obj existing => rfl
    | _ => exact hnothing

namespace Fields

section

variable (base : Fields) {overlay : Fields} {name : String} (h : (Value.obj overlay).InOrder)
include h

/-- Under a name that the overlay does not have, the base has its say. -/
theorem get?_merge_of_none (hname : get? overlay name = none) :
    get? (mergeAll base overlay) name = get? base name := by
  rw [get?_mergeAll (Value.inOrder_obj.1 h).1.nodup, hname]

/-- Under a name where the overlay has something else than a record, it has its say. -/
theorem get?_merge_of_ne {v : Value} (hv : ∀ fs, v ≠ .obj fs) (hname : get? overlay name = some v) :
    get? (mergeAll base overlay) name = some v := by
  rw [get?_mergeAll (Value.inOrder_obj.1 h).1.nodup, hname]
  exact congrArg some (Value.mergeOnto_of_ne hv _)

/-- Under a name where the overlay has a record, both have. -/
theorem get?_merge_of_obj {inner : Fields} (hname : get? overlay name = some (.obj inner)) :
    get? (mergeAll base overlay) name = some (.obj (mergeAll (Context.recordAt base name) inner)) := by
  have hinner := Value.inOrder_obj.1 (inOrder_of_get? h hname)
  rw [get?_mergeAll (Value.inOrder_obj.1 h).1.nodup, hname]
  exact congrArg some (Value.mergeOnto_obj hinner.1 base name)

end

/-! ## All levels -/

/-- **What the overlay says is said**, if it is not a record. -/
theorem Holds.overlay {overlay : Fields} {path : List String} {v : Value} (h : Holds overlay path v)
    (horder : (Value.obj overlay).InOrder) (hv : ∀ fs, v ≠ .obj fs) (base : Fields) :
    Holds (mergeAll base overlay) path v := by
  induction h generalizing base with
  | last hname => exact .last (get?_merge_of_ne _ horder hv hname)
  | within hname _ ih =>
    exact .within (get?_merge_of_obj _ horder hname) (ih (inOrder_of_get? horder hname) hv _)

/-- **What the overlay lacks is said by the base.** -/
theorem Holds.base {base overlay : Fields} {path : List String} {v : Value} (h : Holds base path v)
    (horder : (Value.obj overlay).InOrder) (hlacks : Lacks overlay path) :
    Holds (mergeAll base overlay) path v := by
  induction hlacks generalizing base with
  | here rest hname =>
    -- from here on there is only the base
    have hsame := get?_merge_of_none base horder hname
    cases h with
    | last hbase => exact .last (hsame.trans hbase)
    | within hbase hrest => exact .within (hsame.trans hbase) hrest
  | @within overlay _ name _ hname hrest ih =>
    obtain ⟨inner, hbase, hinner⟩ := h.inner hrest.ne_nil
    have hrecord : Context.recordAt base name = inner := by rw [Context.recordAt, hbase]
    refine .within (get?_merge_of_obj _ horder hname) ?_
    rw [hrecord]
    exact ih hinner (inOrder_of_get? horder hname)

/-- What is held by the record at a name is held behind that name. -/
theorem Holds.of_recordAt {base : Fields} {name : String} {rest : List String} {v : Value}
    (h : Holds (Context.recordAt base name) rest v) : Holds base (name :: rest) v := by
  unfold Context.recordAt at h
  split at h
  · next inner hname => exact .within hname h
  · cases h with
    | last hnone => cases hnone
    | within hnone => cases hnone

/-- **Nothing else is said**: a value that is not a record comes from the overlay, or from the base at a path
that the overlay lacks. -/
theorem Holds.of_merge {base overlay : Fields} {path : List String} {v : Value}
    (h : Holds (mergeAll base overlay) path v) (horder : (Value.obj overlay).InOrder)
    (hv : ∀ fs, v ≠ .obj fs) : Holds overlay path v ∨ (Holds base path v ∧ Lacks overlay path) := by
  induction path generalizing base overlay with
  | nil => exact absurd rfl h.ne_nil
  | cons name rest ih =>
    cases hname : get? overlay name with
    | none =>
      have hsame := get?_merge_of_none base horder hname
      refine .inr ⟨?_, .here rest hname⟩
      cases h with
      | last hmerged => exact .last (hsame.symm.trans hmerged)
      | within hmerged hrest => exact .within (hsame.symm.trans hmerged) hrest
    | some u =>
      cases u with
      | obj inner =>
        -- a record on the overlay's side: the value lies in what it was merged into
        have hmerged := get?_merge_of_obj base horder hname
        cases h with
        | last hlast => exact absurd (Option.some.inj (hlast.symm.trans hmerged)) (hv _)
        | within hbelow hrest =>
          cases hbelow.symm.trans hmerged
          rcases ih hrest (inOrder_of_get? horder hname) with hover | ⟨hbase, hlacks⟩
          · exact .inl (.within hname hover)
          · exact .inr ⟨hbase.of_recordAt, .within hname hlacks⟩
      | _ =>
        have hmerged := get?_merge_of_ne base horder (by simp) hname
        refine .inl ?_
        cases h with
        | last hlast => exact .last (hname.trans (hmerged.symm.trans hlast))
        | within hbelow => cases hbelow.symm.trans hmerged

/-! ## A second merge -/

/-- The record below a field is in order. -/
theorem inOrder_recordAt {base : Fields} (h : (Value.obj base).InOrder) (name : String) :
    (Value.obj (Context.recordAt base name)).InOrder := by
  unfold Context.recordAt
  split
  · next inner hname => exact inOrder_of_get? h hname
  · exact Value.inOrder_obj.2 ⟨ordered_nil, by simp⟩

/-- A field is smaller than the record. -/
theorem sizeOf_lt_of_get? {fs inner : Fields} {k : String} (h : get? fs k = some (.obj inner)) :
    sizeOf inner < sizeOf fs := by
  have hlt := List.sizeOf_lt_of_mem (mem_of_get? h)
  simp only [Prod.mk.sizeOf_spec, Value.obj.sizeOf_spec] at hlt
  omega

/-- **A second merge changes nothing**, at no depth. -/
theorem mergeAll_mergeAll {base overlay : Fields} (hbase : (Value.obj base).InOrder)
    (horder : (Value.obj overlay).InOrder) :
    mergeAll (mergeAll base overlay) overlay = mergeAll base overlay := by
  have hmerged := ordered_mergeAll (Value.inOrder_obj.1 hbase).1 overlay
  refine eq_of_get?_eq (ordered_mergeAll hmerged overlay) hmerged fun k => ?_
  cases hk : get? overlay k with
  | none => rw [get?_merge_of_none _ horder hk]
  | some v =>
    cases v with
    | obj inner =>
      have hfirst := get?_merge_of_obj base horder hk
      have hrecord : Context.recordAt (mergeAll base overlay) k
          = mergeAll (Context.recordAt base k) inner := by rw [Context.recordAt, hfirst]
      rw [get?_merge_of_obj _ horder hk, hrecord, hfirst,
        mergeAll_mergeAll (inOrder_recordAt hbase k) (inOrder_of_get? horder hk)]
    | _ => rw [get?_merge_of_ne _ horder (by simp) hk, get?_merge_of_ne _ horder (by simp) hk]
termination_by sizeOf overlay
decreasing_by exact sizeOf_lt_of_get? hk

end Fields

/-! ## The context of a pass -/

/-- A pass starts from the caller's context laid over the global one if that is what it is told, and also if it
is told nothing in time. -/
theorem Engine.startOfPass_eq_merge {e : Engine} {context : Context} {options : PassOptions}
    (h : let told := fun c : Capabilities => (c.inject context e.rulebook.globalContext).outcome
      told e.capabilities = told .alone ∨ (e.injectionFailure context options).isSome = true) :
    e.startOfPass context options = Context.merge e.rulebook.globalContext context := by
  let reply := e.capabilities.inject context e.rulebook.globalContext
  have hheard : (((e.budget options).call reply).run e.world).1
      = ((e.budget options).wait e.world.now reply).1 := rfl
  rw [startOfPass, enrich, World.run_bind, hheard, Budget.fst_wait]
  by_cases hlate : reply.delay.any ((e.budget options).allowance e.world.now < ·)
  · rw [if_pos hlate]
    rfl
  · rw [if_neg hlate]
    rw [injectionFailure, if_neg hlate] at h
    cases hsaid : reply.outcome with
    | error err => rfl
    | ok enriched =>
      rcases h with hsame | hfailed
      · cases hsaid.symm.trans hsame
        rfl
      · rw [hsaid] at hfailed
        cases hfailed

/-! ## The main statement -/

/-- **A merge is a union in which the overlay has the last word**, at every depth.  At a path that leads through
records to something else the merge holds what the overlay holds there, or else what the base holds if the
overlay lacks the path, and no more than that; where the overlay lacks the path the base's records stay, too.
What is held at a path is what is read there.  A second merge of the same overlay changes nothing, and an empty
record on either side gives the other.  A pass starts from the caller's context merged into the global one
if nobody is there to make another of the two, and also if whoever is there fails or is too late. -/
theorem merge_is_a_right_biased_union (base overlay : Record) :
    let merged := Context.merge base.1 overlay.1
    (∀ path v, (∀ fields, v ≠ .obj fields) →
      (Fields.Holds merged path v
        ↔ Fields.Holds overlay.1 path v ∨ (Fields.Holds base.1 path v ∧ Fields.Lacks overlay.1 path)))
    ∧ (∀ path v, Fields.Holds base.1 path v → Fields.Lacks overlay.1 path → Fields.Holds merged path v)
    ∧ (∀ path v, Fields.Holds merged path v → Context.getAlong? merged path = some v)
    ∧ Context.merge merged overlay.1 = merged
    ∧ (Context.merge base.1 [] = base.1 ∧ Context.merge [] overlay.1 = overlay.1)
    ∧ ∀ (e : Engine) (context : Context) (options : PassOptions),
        let told := fun c : Capabilities => (c.inject context e.rulebook.globalContext).outcome
        told e.capabilities = told .alone ∨ (e.injectionFailure context options).isSome = true →
        e.startOfPass context options = Context.merge e.rulebook.globalContext context := by
  intro merged
  refine ⟨fun path v hv => ⟨fun h => h.of_merge overlay.2 hv, ?_⟩, fun path v h => h.base overlay.2,
    fun path v h => h.getAlong?, Fields.mergeAll_mergeAll base.2 overlay.2, ⟨rfl, ?_⟩,
    fun e context options h => Engine.startOfPass_eq_merge h⟩
  · rintro (hover | ⟨hbase, hlacks⟩)
    · exact hover.overlay overlay.2 hv base.1
    · exact hbase.base overlay.2 hlacks
  · exact Fields.mergeAll_nil_left (Value.inOrder_obj.1 overlay.2).1

-- a number gives way to a record, and a record to a number
example : Context.merge [("a", .int 1), ("b", .obj [("c", .null)])]
    [("a", .obj [("d", .int 2)]), ("b", .int 3)] = [("a", .obj [("d", .int 2)]), ("b", .int 3)] := by rfl

end Arbiter
