import Arbiter.Proofs.Documents
import Arbiter.Proofs.Moments
import Arbiter.Rule.Decode
import Arbiter.Rule.Encode
/-!
# Readers and writers

A type of rule files has a reader, from documents, and a writer, to data.  They are written down apart from
each other, and agree if a document made from what the writer gives is read as what was written.  That cannot
hold of all there is: a number may be too large to be read.  It holds of what can be read in the first place.

1. **Records** are read by looking up their fields.  A record that comes from data without repeated names
   gives its fields, settled or not, whole or with one of them taken out (`Fields.named`).
2. **What a field is read from** comes from data as well (`FromData`), and this says of what kind it is
   (`of_optional`, `of_maybe`).
3. **Agreement** is `Faithful`: what is read from data is of a certain kind, and what is of this kind is read
   back.  The leaves have it, and it is passed on from items to lists and from fields to records, in any
   layout.
-/

namespace Arbiter

open Document

/-! ## Fields of a record -/

/-- Some fields as a reader finds them. -/
def Fields.named (fs : Fields) : Named := fs.map fun f => (f.1, ofValue f.2)

/-- Whether the fields that a reader finds come from data with finite doubles. -/
def FromData (named : Named) : Prop := ∀ f ∈ named, ∃ v : Value, v.Finite ∧ f.2 = ofValue v

namespace Fields

/-- The entries of a record are written one by one, under their names as texts. -/
theorem ofFields_eq (fs : Fields) : ofFields fs = fs.map fun f => (.text f.1, ofValue f.2) := by
  induction fs with
  | nil => rfl
  | cons f fs ih => rw [ofFields, ih, List.map_cons]

theorem ofItems_eq (vs : List Value) : ofItems vs = vs.map ofValue := by
  induction vs with
  | nil => rfl
  | cons v vs ih => rw [ofItems, ih, List.map_cons]

/-- A reader that looks up a name finds the document of the field of this name. -/
theorem lookup_named (fs : Fields) (k : String) : fs.named.lookup k = (get? fs k).map ofValue := by
  induction fs with
  | nil => rfl
  | cons f fs ih =>
    obtain ⟨l, v⟩ := f
    rw [named, List.map_cons, List.lookup_cons, get?]
    by_cases heq : k = l
    · have hbeq : (k == l) = true := beq_iff_eq.2 heq
      rw [if_pos heq, hbeq]
      rfl
    · have hbeq : (k == l) = false := beq_eq_false_iff_ne.2 heq
      rw [if_neg heq, hbeq]
      exact ih

/-- If no name is repeated then no reader complains about a repeated one. -/
theorem distinct_named {fs : Fields} (h : fs.names.Nodup) (known : List String) :
    distinct known fs.named = true := by
  induction fs with
  | nil => rfl
  | cons f fs ih =>
    obtain ⟨k, v⟩ := f
    obtain ⟨hfresh, hrest⟩ := List.nodup_cons.1 h
    have hnone : (named fs).any (·.1 == k) = false := by
      rw [List.any_eq_false]
      rintro g hg heq
      obtain ⟨f, hf, rfl⟩ := List.mem_map.1 hg
      exact hfresh (List.mem_map.2 ⟨f, hf, beq_iff_eq.1 heq⟩)
    show (!(known.contains k && (named fs).any (·.1 == k)) && distinct known (named fs)) = true
    rw [hnone, ih hrest, Bool.and_false]
    rfl

/-- The fields of a record come from the record's data. -/
theorem fromData_named {fs : Fields} (h : (Value.obj fs).Finite) : FromData fs.named := by
  intro f hf
  obtain ⟨g, hg, rfl⟩ := List.mem_map.1 hf
  exact ⟨g.2, Value.finite_obj.1 h g hg, rfl⟩

/-- All keys of a record that comes from data are texts. -/
theorem mapM_names (fs : Fields) :
    (ofFields fs).mapM (fun e => (string? e.1).map fun k => (k, e.2)) = some fs.named := by
  rw [ofFields_eq]
  induction fs with
  | nil => rfl
  | cons f fs ih =>
    rw [List.map_cons, List.mapM_cons, ih]
    rfl

/-- A record gives a reader its own fields, unless a known name is repeated. -/
theorem fields?_ofValue_obj (known : List String) (fs : Fields) : fields? known (ofValue (.obj fs))
    = if distinct known fs.named then some fs.named else none := by
  have hrecord : fields? known (ofValue (.obj fs))
      = ((ofFields fs).mapM fun e => (string? e.1).map fun k => (k, e.2)).bind fun named =>
        if distinct known named then some named else none := rfl
  rw [hrecord, mapM_names, Option.bind_some]

/-- A record without repeated names gives its fields. -/
theorem fields?_ofValue {fs : Fields} (h : fs.names.Nodup) (known : List String) :
    fields? known (ofValue (.obj fs)) = some fs.named := by
  rw [fields?_ofValue_obj, if_pos (distinct_named h known)]

end Fields

/-- A positional list gives fields that come from data, like its items. -/
theorem fromData_zip {vs : List Value} (h : (Value.arr vs).Finite) (known : List String) :
    FromData (known.zip (ofItems vs)) := by
  intro f hf
  have hmem : f.2 ∈ ofItems vs := (List.of_mem_zip hf).2
  rw [Fields.ofItems_eq] at hmem
  obtain ⟨v, hv, heq⟩ := List.mem_map.1 hmem
  exact ⟨v, Value.finite_arr.1 h v hv, heq.symm⟩

/-- Whatever fields a reader gets from data, they come from data. -/
theorem fromData_fields? {known : List String} {v : Value} {named : Named} (hv : v.Finite)
    (h : fields? known (ofValue v) = some named) : FromData named := by
  cases v with
  | arr vs =>
    rw [ofValue, fields?] at h
    split at h
    · cases h
      exact fromData_zip hv known
    · cases h
  | obj fs =>
    rw [Fields.fields?_ofValue_obj] at h
    split at h
    · cases h
      exact Fields.fromData_named hv
    · cases h
  | null => cases h
  | bool b => cases h
  | num n => cases n <;> cases h
  | str s => cases h

/-! ### Settled records -/

/-- The entries of a record are all named by texts, so that each finds its name or its alias. -/
theorem mapM_fieldName? (known : List String) (aliases : List (String × String)) (fs : Fields) :
    (ofFields fs).mapM (fun e => (fieldName? known e.1).map fun k => ((aliases.lookup k).getD k, e.2))
      = some (fs.named.map fun f => ((aliases.lookup f.1).getD f.1, f.2)) := by
  rw [Fields.ofFields_eq, Fields.named, List.map_map]
  induction fs with
  | nil => rfl
  | cons f fs ih =>
    rw [List.map_cons, List.mapM_cons, ih]
    rfl

/-- A record that is settled first gives its own fields, with the aliases replaced. -/
theorem settledFields?_ofValue_obj (known : List String) (aliases : List (String × String)) (fs : Fields) :
    settledFields? known aliases (ofValue (.obj fs))
      = let named := fs.named.map fun f => ((aliases.lookup f.1).getD f.1, f.2)
        if distinct known named then some named else none := by
  have hrecord : settledFields? known aliases (ofValue (.obj fs))
      = ((ofFields fs).mapM fun e =>
          (fieldName? known e.1).map fun k => ((aliases.lookup k).getD k, e.2)).bind
        fun named => if distinct known named then some named else none := rfl
  rw [hrecord, mapM_fieldName?, Option.bind_some]

/-- A record without repeated names, and without other names for the known ones, gives its fields. -/
theorem settledFields?_ofValue {fs : Fields} (h : fs.names.Nodup) (known : List String)
    {aliases : List (String × String)} (haliases : ∀ k ∈ fs.names, aliases.lookup k = none) :
    settledFields? known aliases (ofValue (.obj fs)) = some fs.named := by
  have hsame : (fs.named.map fun f => ((aliases.lookup f.1).getD f.1, f.2)) = fs.named := by
    rw [Fields.named, List.map_map]
    refine List.map_congr_left fun f hf => ?_
    have hnone := haliases f.1 (List.mem_map_of_mem hf)
    show ((aliases.lookup f.1).getD f.1, ofValue f.2) = _
    rw [hnone]
    rfl
  rw [settledFields?_ofValue_obj]
  dsimp only
  rw [hsame, if_pos (Fields.distinct_named h known)]

/-- Also what a reader gets after settling comes from data. -/
theorem fromData_settledFields? {known : List String} {aliases : List (String × String)} {v : Value}
    {named : Named} (hv : v.Finite) (h : settledFields? known aliases (ofValue v) = some named) :
    FromData named := by
  cases v with
  | arr vs =>
    rw [ofValue, settledFields?] at h
    split at h
    · cases h
      exact fromData_zip hv known
    · cases h
  | obj fs =>
    rw [settledFields?_ofValue_obj] at h
    dsimp only at h
    split at h
    · cases h
      intro f hf
      obtain ⟨g, hg, rfl⟩ := List.mem_map.1 hf
      exact Fields.fromData_named hv g hg
    · cases h
  | null => cases h
  | bool b => cases h
  | num n => cases n <;> cases h
  | str s => cases h

/-- A field that is there once is the one of its name, and leaves the others. -/
theorem Fields.filter_eq_singleton {fs : Fields} (h : fs.names.Nodup) {k : String} {v : Value}
    (hk : Fields.get? fs k = some v) : fs.filter (fun f => f.1 == k) = [(k, v)] := by
  induction fs with
  | nil => cases hk
  | cons f fs ih =>
    obtain ⟨l, w⟩ := f
    obtain ⟨hfresh, hrest⟩ := List.nodup_cons.1 h
    rw [Fields.get?] at hk
    by_cases heq : k = l
    · rw [if_pos heq] at hk
      cases hk
      subst heq
      have hnone : fs.filter (fun f => f.1 == k) = [] := by
        rw [List.filter_eq_nil_iff]
        intro g hg hbeq
        exact hfresh (List.mem_map.2 ⟨g, hg, beq_iff_eq.1 hbeq⟩)
      rw [List.filter_cons, if_pos (beq_self_eq_true k), hnone]
    · rw [if_neg heq] at hk
      have hne : ¬ ((l == k) = true) := fun hbeq => heq (beq_iff_eq.1 hbeq).symm
      rw [List.filter_cons, if_neg hne]
      exact ih hrest hk

/-- The fields but for those of one name. -/
def Fields.without (fs : Fields) (k : String) : Fields := fs.filter fun f => f.1 != k

/-- A field is still found after another one has been taken out. -/
theorem Fields.get?_without (fs : Fields) (k l : String) :
    Fields.get? (fs.without k) l = if l != k then Fields.get? fs l else none :=
  Fields.get?_filter fs (· != k) l

/-- A key that is there once is taken out of a record. -/
theorem takeKey?_ofFields {fs : Fields} (h : fs.names.Nodup) {k : String} {v : Value}
    (hk : Fields.get? fs k = some v) :
    takeKey? k (ofFields fs) = some (ofValue v, ofFields (fs.without k)) := by
  have hmine : (ofFields fs).filter (fun e => string? e.1 == some k) = [(.text k, ofValue v)] := by
    rw [Fields.ofFields_eq, List.filter_map]
    have hsame : fs.filter ((fun e : Document × Document => string? e.1 == some k)
        ∘ fun f => (.text f.1, ofValue f.2)) = fs.filter fun f => f.1 == k :=
      List.filter_congr fun f _ => rfl
    rw [hsame, Fields.filter_eq_singleton h hk]
    rfl
  have hothers : (ofFields fs).filter (fun e => !(string? e.1 == some k)) = ofFields (fs.without k) := by
    rw [Fields.ofFields_eq, Fields.ofFields_eq, List.filter_map]
    rfl
  rw [takeKey?]
  dsimp only
  rw [hmine]
  dsimp only
  rw [hothers]

/-! ## What fields are read from -/

section Kinds

variable {read : Document → Option α} {P : α → Prop} {named : Named} {k : String}

/-- What is looked up among fields from data is a document made from data. -/
theorem FromData.lookup (h : FromData named) {d : Document} (hk : named.lookup k = some d) :
    ∃ v : Value, v.Finite ∧ d = ofValue v := by
  obtain ⟨l₁, l₂, rfl, -⟩ := List.lookup_eq_some_iff.1 hk
  exact h (k, d) (List.mem_append_right _ List.mem_cons_self)

/-- An optional field has any property that its default has, and all that its reader accepts. -/
theorem of_optional (hread : ∀ v a, v.Finite → read (ofValue v) = some a → P a) (hnamed : FromData named)
    {default a : α} (hdefault : P default) (h : optional named k default read = some a) : P a := by
  rw [Document.optional] at h
  split at h
  case h_1 d hd =>
    obtain ⟨v, hv, rfl⟩ := hnamed.lookup hd
    exact hread v a hv h
  case h_2 =>
    cases h
    exact hdefault

/-- Data is there unless it is null. -/
theorem present?_ofValue {v : Value} (h : v ≠ .null) : present? (ofValue v) = some true := by
  cases v with
  | null => exact absurd rfl h
  | num n => cases n <;> rfl
  | _ => rfl

/-- A field that may be missing has, if it is there, any property of all that its reader accepts. -/
theorem of_maybe (hread : ∀ v a, v.Finite → v ≠ .null → read (ofValue v) = some a → P a)
    (hnamed : FromData named) {o : Option α} (h : maybe named k read = some o) : ∀ a ∈ o, P a := by
  refine of_optional (P := fun o => ∀ a ∈ o, P a) ?_ hnamed (by rintro a ⟨⟩) h
  intro v o hv ho a ha
  by_cases hnull : v = .null
  · subst hnull
    cases ho
    cases ha
  · have hpresent := present?_ofValue hnull
    rw [option?, hpresent] at ho
    obtain ⟨b, hb, rfl⟩ := Option.map_eq_some_iff.1 ho
    cases ha
    exact hread v a hv hnull hb

end Kinds

/-! ## Agreement -/

/-- A reader and a writer agree on the things of a kind: what is read from data is of this kind, and what is
of this kind is written as data other than null and read back. -/
structure Faithful (read : Document → Option α) (write : α → Value) (Kind : α → Prop) : Prop where
  /-- What is read from data is of the kind. -/
  kind : ∀ v a, v.Finite → read (ofValue v) = some a → Kind a
  /-- What is of the kind is there when it is written. -/
  present : ∀ a, Kind a → write a ≠ .null
  /-- What is of the kind is read back. -/
  back : ∀ a, Kind a → read (ofValue (write a)) = some a

section Agreement

variable {read : Document → Option α} {write : α → Value} {Kind : α → Prop} {named : Named} {k : String}

/-- A required field that is there is read. -/
theorem required_eq {v : Value} {a : α} (hread : read (ofValue v) = some a)
    (hk : named.lookup k = some (ofValue v)) : required named k read = some a := by
  rw [required, hk]
  exact hread

theorem optional_eq {v : Value} {default a : α} (hread : read (ofValue v) = some a)
    (hk : named.lookup k = some (ofValue v)) : optional named k default read = some a := by
  rw [Document.optional, hk]
  exact hread

/-- A field that may be missing is read as what was written, or as missing if nothing was. -/
theorem maybe_eq {o : Option α} (hpresent : ∀ a ∈ o, write a ≠ .null)
    (hread : ∀ a ∈ o, read (ofValue (write a)) = some a)
    (hk : named.lookup k = o.map fun a => ofValue (write a)) : maybe named k read = some o := by
  rw [maybe, Document.optional, hk]
  cases o with
  | none => rfl
  | some a =>
    show option? read (ofValue (write a)) = some (some a)
    rw [option?, present?_ofValue (hpresent a rfl), hread a rfl]
    rfl

theorem Faithful.maybe_eq (h : Faithful read write Kind) {o : Option α} (ho : ∀ a ∈ o, Kind a)
    (hk : named.lookup k = o.map fun a => ofValue (write a)) : maybe named k read = some o :=
  Arbiter.maybe_eq (fun a ha => h.present a (ho a ha)) (fun a ha => h.back a (ho a ha)) hk

/-- Lists are read back if their items are. -/
theorem Faithful.list (h : Faithful read write Kind) :
    Faithful (list? read) (fun as => .arr (as.map write)) fun as => ∀ a ∈ as, Kind a where
  kind v as hv has := by
    cases v with
    | arr vs =>
      have hitems : ∀ v ∈ vs, v.Finite := Value.finite_arr.1 hv
      have hread : (ofItems vs).mapM read = some as := has
      rw [Fields.ofItems_eq] at hread
      clear hv has
      induction vs generalizing as with
      | nil =>
        cases hread
        rintro a ⟨⟩
      | cons v vs ih =>
        obtain ⟨hv, hvs⟩ := List.forall_mem_cons.1 hitems
        rw [List.map_cons, List.mapM_cons] at hread
        obtain ⟨a, ha, hread⟩ := Option.bind_eq_some_iff.1 hread
        obtain ⟨rest, hrest, hread⟩ := Option.bind_eq_some_iff.1 hread
        cases hread
        exact List.forall_mem_cons.2 ⟨h.kind v a hv ha, ih rest hvs hrest⟩
    | null => cases has
    | bool b => cases has
    | num n => cases n <;> cases has
    | str s => cases has
    | obj fs => cases has
  present as _ := nofun
  back as has := by
    show (ofItems (as.map write)).mapM read = some as
    rw [Fields.ofItems_eq]
    induction as with
    | nil => rfl
    | cons a as ih =>
      obtain ⟨ha, hrest⟩ := List.forall_mem_cons.1 has
      rw [List.map_cons, List.map_cons, List.mapM_cons, h.back a ha, ih hrest]
      rfl

end Agreement

/-! ## Leaves -/

theorem faithful_string : Faithful string? .str fun _ => True where
  kind _ _ _ _ := trivial
  present _ _ := nofun
  back _ _ := rfl

theorem faithful_bool : Faithful bool? .bool fun _ => True where
  kind _ _ _ _ := trivial
  present _ _ := nofun
  back _ _ := rfl

/-- Doubles are read back, even those that are not finite. -/
theorem faithful_float : Faithful float? .float fun _ => True where
  kind _ _ _ _ := trivial
  present _ _ := nofun
  back _ _ := rfl

/-- Integers are read back if they fit into a signed word. -/
theorem faithful_signed : Faithful signed? .int fun n => Numeral.fitsSigned n = true where
  kind v n _ h := by
    cases v with
    | num m =>
      cases m with
      | int m =>
        rw [ofValue, signed?] at h
        split at h
        case isTrue hfits =>
          cases h
          exact hfits
        case isFalse => cases h
      | float x => cases h
    | _ => cases h
  present _ _ := nofun
  back n h := if_pos h

/-- Natural numbers are read back if they fit into a word. -/
theorem faithful_word : Faithful word? .nat fun n => n ≤ Numeral.maxWord where
  kind v n _ h := by
    cases v with
    | num m =>
      cases m with
      | int m =>
        rw [ofValue, word?] at h
        split at h
        case isTrue hfits =>
          cases h
          omega
        case isFalse => cases h
      | float x => cases h
    | _ => cases h
  present _ _ := nofun
  back n h := by
    have hfits : 0 ≤ (n : Int) ∧ (n : Int) ≤ Numeral.maxWord := by omega
    rw [ofValue, word?, if_pos hfits, Int.toNat_natCast]

/-- Valid timestamps are read back from the text they are shown by. -/
theorem faithful_timestamp : Faithful Timestamp.decode? (fun t => .str t.text) Timestamp.Valid where
  kind v t _ h := by
    obtain ⟨s, -, ht⟩ := Option.bind_eq_some_iff.1 h
    exact Timestamp.valid_of_read? ht
  present _ _ := nofun
  back t h := by
    have htext := Timestamp.read?_text h
    rw [ofValue, Timestamp.decode?, string?, Option.bind_eq_bind, Option.bind_some, htext]

/-- Contexts are read back if the fields of all records in them are in order. -/
theorem faithful_context : Faithful context? .obj fun c => (Value.obj c).Normal where
  kind v c _ h := by
    obtain ⟨entries, -, hc⟩ := Option.bind_eq_some_iff.1 h
    exact Value.normal_obj.2 (normal_of_valueFields? ⟨Fields.ordered_nil, by rintro f ⟨⟩⟩ hc)
  present _ _ := nofun
  back _ h := context?_ofValue h

theorem faithful_operator : Faithful Operator.decode? (fun op => .str op.name) fun _ => True where
  kind _ _ _ _ := trivial
  present _ _ := nofun
  back op _ := by cases op <;> rfl

theorem faithful_policy : Faithful ConflictPolicy.decode? (fun p => .str p.name) fun _ => True where
  kind _ _ _ _ := trivial
  present _ _ := nofun
  back p _ := by cases p <;> rfl

/-! ## Layouts of records -/

section Layouts

variable {layout : Value → Value} (hlayout : Value.Layout layout)
include hlayout

theorem Value.Layout.str (s : String) : layout (.str s) = .str s := hlayout.normal _ trivial

theorem Value.Layout.bool (b : Bool) : layout (.bool b) = .bool b := hlayout.normal _ trivial

omit hlayout in
/-- What no layout changes is read back from any. -/
theorem Faithful.laid {read : Document → Option α} {write : α → Value} {Kind : α → Prop}
    (h : Faithful read write Kind) (hsame : ∀ a, Kind a → layout (write a) = write a) :
    Faithful read (fun a => layout (write a)) Kind where
  kind := h.kind
  present a ha := by
    rw [hsame a ha]
    exact h.present a ha
  back a ha := by
    rw [hsame a ha]
    exact h.back a ha

/-- Lists are read back from any layout if their items are. -/
theorem Faithful.laidList {read : Document → Option α} {write : α → Value} {Kind : α → Prop}
    (h : Faithful read (fun a => layout (write a)) Kind) :
    Faithful (list? read) (fun as => layout (.arr (as.map write))) fun as => ∀ a ∈ as, Kind a := by
  have hsame : ∀ as : List α, layout (.arr (as.map write)) = .arr (as.map fun a => layout (write a)) := by
    intro as
    rw [hlayout.arr, List.map_map]
    rfl
  have hlist := h.list
  refine ⟨hlist.kind, fun as has => ?_, fun as has => ?_⟩
  · rw [hsame]
    exact hlist.present as has
  · rw [hsame]
    exact hlist.back as has

omit hlayout in
/-- What is looked up in a record that is laid out is what was written, laid out. -/
theorem Fields.lookup_laid {fs gs : Fields} (hget : ∀ k, Fields.get? gs k = (Fields.get? fs k).map layout)
    (k : String) : gs.named.lookup k = (Fields.get? fs k).map fun v => ofValue (layout v) := by
  rw [Fields.lookup_named, hget, Option.map_map]
  rfl

/-- A record that is laid out is there. -/
theorem Value.Layout.obj_ne_null {fs : Fields} (h : fs.names.Nodup) : layout (.obj fs) ≠ .null := by
  obtain ⟨gs, hgs, -⟩ := hlayout.obj fs h
  rw [hgs]
  nofun

end Layouts

/-! ### Fields of a laid out record -/

section Fields

variable {layout : Value → Value} {read : Document → Option α} {write : α → Value} {Kind : α → Prop}
  {fs gs : Fields} {k : String} (h : Faithful read (fun a => layout (write a)) Kind)
  (hget : ∀ k, Fields.get? gs k = (Fields.get? fs k).map layout)
include h hget

/-- A required field is read back, however the record around it is laid out. -/
theorem Faithful.required_laid {a : α} (ha : Kind a) (hk : Fields.get? fs k = some (write a)) :
    required gs.named k read = some a := by
  refine required_eq (h.back a ha) ?_
  rw [Fields.lookup_laid hget, hk]
  rfl

/-- An optional field that was written is read back, however the record is laid out. -/
theorem Faithful.optional_laid {a : α} (default : α) (ha : Kind a) (hk : Fields.get? fs k = some (write a)) :
    optional gs.named k default read = some a := by
  refine optional_eq (h.back a ha) ?_
  rw [Fields.lookup_laid hget, hk]
  rfl

/-- A field that may be missing is read back, however the record is laid out. -/
theorem Faithful.maybe_laid {o : Option α} (ho : ∀ a ∈ o, Kind a) (hk : Fields.get? fs k = o.map write) :
    maybe gs.named k read = some o := by
  refine h.maybe_eq ho ?_
  rw [Fields.lookup_laid hget, hk, Option.map_map]
  rfl

end Fields

/-- A field that is left out has its usual value. -/
theorem optional_missing {layout : Value → Value} {fs gs : Fields} {k : String}
    (hget : ∀ k, Fields.get? gs k = (Fields.get? fs k).map layout) (default : α)
    (read : Document → Option α) (hk : Fields.get? fs k = none) :
    optional gs.named k default read = some default := by
  rw [Document.optional, Fields.lookup_laid hget, hk]
  rfl

section Data

variable {layout : Value → Value} (hlayout : Value.Layout layout) {fs gs : Fields} {k : String}
  (hget : ∀ k, Fields.get? gs k = (Fields.get? fs k).map layout)
include hlayout hget

theorem required_text {s : String} (hk : Fields.get? fs k = some (.str s)) :
    required gs.named k string? = some s :=
  (faithful_string.laid fun s _ => hlayout.str s).required_laid hget trivial hk

theorem maybe_text {o : Option String} (hk : Fields.get? fs k = o.map .str) :
    maybe gs.named k string? = some o :=
  (faithful_string.laid fun s _ => hlayout.str s).maybe_laid hget (fun _ _ => trivial) hk

/-- Data in normal form is read back; null is data, too. -/
theorem optional_data {v : Value} (hv : v.Normal) (hk : Fields.get? fs k = some v) :
    optional gs.named k .null value? = some v := by
  refine optional_eq (v := v) (value?_ofValue hv) ?_
  rw [Fields.lookup_laid hget, hk, Option.map_some, hlayout.normal v hv]

/-- Data in normal form other than null is read back, or that there is none. -/
theorem maybe_data {o : Option Value} (ho : ∀ v ∈ o, v.Normal ∧ v ≠ .null) (hk : Fields.get? fs k = o) :
    maybe gs.named k value? = some o := by
  have hpresent : ∀ v ∈ o, id v ≠ Value.null := fun v hv => (ho v hv).2
  have hread : ∀ v ∈ o, value? (ofValue (id v)) = some v := fun v hv => value?_ofValue (ho v hv).1
  have hlookup : gs.named.lookup k = o.map fun v => ofValue (id v) := by
    rw [Fields.lookup_laid hget, hk]
    exact Option.map_congr fun v hv => congrArg ofValue (hlayout.normal v (ho v hv).1)
  exact maybe_eq hpresent hread hlookup

end Data

/-! ### Fields that may be missing -/

@[simp] theorem get?_optionalField (name : String) (write : α → Value) (o : Option α) (k : String) :
    Fields.get? (optionalField name write o) k = if k = name then o.map write else none := by
  cases o with
  | none => rw [optionalField, Option.map_none, ite_self, Fields.get?]
  | some a => rw [optionalField, Fields.get?, Fields.get?, Option.map_some]

/-- A field that may be missing adds no other name. -/
theorem names_optionalField (name : String) (write : α → Value) (o : Option α) :
    (Fields.names (optionalField name write o)).Sublist [name] := by
  cases o with
  | none => exact List.nil_sublist _
  | some a => exact List.Sublist.refl _

theorem Fields.names_append (fs gs : Fields) : Fields.names (fs ++ gs) = fs.names ++ gs.names :=
  List.map_append

end Arbiter
