import Arbiter.Document.Typed
import Arbiter.Proofs.Paths
import Arbiter.Value.Canonical
/-!
# Data as documents

Plain data becomes a document to be read, and a document is read as plain data.  Both ways lead through all of
a tree, so the laws here are by induction on it, one case per kind of node.

1. **Data in normal form** has the fields of its records in order and finite doubles.  Whatever is read as
   data is in normal form (`Document.normal_of_value?`), and what is in normal form is read as itself
   (`Document.value?_ofValue`).  The invariant of the second law is that the fields already read stand before
   those to come.
2. **Settling** leaves a document that comes from data as it is (`Document.settle?_ofValue`).
3. **Layouts.**  The fields of a record may be written in another order.  Whatever the layout, each field has
   the same value (`Value.Layout`); the order of the names is a layout (`Value.layout_canonical`).
-/

namespace Arbiter

/-! ## Records in order -/

namespace Fields

/-- The names of some fields. -/
def names (fs : Fields) : List String := fs.map (·.1)

/-- Whether the fields are in the order of their names, each name at most once. -/
def Ordered (fs : Fields) : Prop := fs.names.Pairwise (· < ·)

theorem ordered_nil : Ordered [] := List.Pairwise.nil

theorem ordered_cons {k : String} {v : Value} {fs : Fields} :
    Ordered ((k, v) :: fs) ↔ (∀ l ∈ fs.names, k < l) ∧ fs.Ordered := List.pairwise_cons

/-- A record in order has no name twice. -/
theorem Ordered.nodup {fs : Fields} (h : fs.Ordered) : fs.names.Nodup :=
  List.Pairwise.imp (fun {k l} (hlt : k < l) (heq : k = l) => String.lt_irrefl k (heq ▸ hlt)) h

/-- What is in a record after an insertion was in it before or has been inserted. -/
theorem mem_of_mem_insert {fs : Fields} {k : String} {v : Value} {f : String × Value}
    (h : f ∈ insert fs k v) : f = (k, v) ∨ f ∈ fs := by
  induction fs with
  | nil => exact .inl (List.mem_singleton.1 h)
  | cons g rest ih =>
    obtain ⟨k', v'⟩ := g
    rw [insert] at h
    split at h
    · rcases List.mem_cons.1 h with heq | hrest
      · exact .inl heq
      · exact .inr (List.mem_cons_of_mem _ hrest)
    · split at h
      · rcases List.mem_cons.1 h with heq | hrest
        · exact .inl heq
        · exact .inr hrest
      · rcases List.mem_cons.1 h with heq | hrest
        · exact .inr (heq ▸ List.mem_cons_self)
        · rcases ih hrest with heq | hmem
          · exact .inl heq
          · exact .inr (List.mem_cons_of_mem _ hmem)

/-- Setting a field keeps the order. -/
theorem Ordered.insert {fs : Fields} (h : fs.Ordered) (k : String) (v : Value) : (fs.insert k v).Ordered := by
  induction fs with
  | nil => exact ordered_cons.2 ⟨by rintro l ⟨⟩, ordered_nil⟩
  | cons g rest ih =>
    obtain ⟨k', v'⟩ := g
    obtain ⟨hfirst, hrest⟩ := ordered_cons.1 h
    rw [Fields.insert]
    split
    case isTrue heq =>
      subst heq
      exact ordered_cons.2 ⟨hfirst, hrest⟩
    case isFalse hne =>
      split
      case isTrue hlt =>
        refine ordered_cons.2 ⟨?_, h⟩
        intro l hl
        rcases List.mem_cons.1 hl with rfl | hmem
        · exact hlt
        · exact String.lt_trans hlt (hfirst l hmem)
      case isFalse hge =>
        have hlt : k' < k := by
          apply String.not_le.1
          intro hle
          exact hne (String.le_antisymm hle (String.not_lt.1 hge))
        refine ordered_cons.2 ⟨?_, ih hrest⟩
        intro l hl
        obtain ⟨f, hf, rfl⟩ := List.mem_map.1 hl
        rcases mem_of_mem_insert hf with rfl | hmem
        · exact hlt
        · exact hfirst _ (List.mem_map_of_mem hmem)

/-- A field whose name comes after all others goes to the end. -/
theorem insert_of_lt {fs : Fields} {k : String} (h : ∀ l ∈ fs.names, l < k) (v : Value) :
    fs.insert k v = fs ++ [(k, v)] := by
  induction fs with
  | nil => rfl
  | cons g rest ih =>
    obtain ⟨k', v'⟩ := g
    obtain ⟨hlt, hrest⟩ := List.forall_mem_cons.1 h
    have hne : k ≠ k' := by
      rintro rfl
      exact String.lt_irrefl _ hlt
    have hge : ¬ k < k' := String.lt_asymm hlt
    rw [Fields.insert, if_neg hne, if_neg hge, ih hrest]
    rfl

/-! ### Reading fields -/

@[simp] theorem get?_nil (k : String) : get? [] k = none := rfl

@[simp] theorem get?_cons (l : String) (v : Value) (fs : Fields) (k : String) :
    get? ((l, v) :: fs) k = if k = l then some v else get? fs k := rfl

@[simp] theorem get?_append (fs gs : Fields) (k : String) :
    get? (fs ++ gs) k = (get? fs k).or (get? gs k) := by
  induction fs with
  | nil => rfl
  | cons f rest ih =>
    obtain ⟨k', v'⟩ := f
    rw [List.cons_append, get?, get?]
    split
    · rfl
    · exact ih

/-- Nothing is found exactly under the names that a record does not have. -/
theorem get?_eq_none_iff {fs : Fields} {k : String} : get? fs k = none ↔ k ∉ fs.names := by
  induction fs with
  | nil => exact ⟨fun _ => List.not_mem_nil, fun _ => rfl⟩
  | cons f rest ih =>
    obtain ⟨k', v'⟩ := f
    have hnames : k ∈ names ((k', v') :: rest) ↔ k = k' ∨ k ∈ names rest := List.mem_cons
    rw [get?, hnames]
    by_cases heq : k = k'
    · rw [if_pos heq]
      exact ⟨fun hnone => absurd hnone (Option.some_ne_none v'), fun h => absurd (.inl heq) h⟩
    · rw [if_neg heq, ih]
      exact ⟨fun h hor => hor.elim heq h, fun h hmem => h (.inr hmem)⟩

/-- Leaving out fields by their names leaves the others as they are. -/
theorem get?_filter (fs : Fields) (p : String → Bool) (k : String) :
    get? (fs.filter fun f => p f.1) k = if p k then get? fs k else none := by
  induction fs with
  | nil => cases p k <;> rfl
  | cons f rest ih =>
    obtain ⟨k', v'⟩ := f
    cases hp : p k' with
    | true =>
      have hkept : ((k', v') :: rest).filter (fun f => p f.1) = (k', v') :: rest.filter fun f => p f.1 :=
        List.filter_cons_of_pos hp
      rw [hkept, get?, get?, ih]
      by_cases heq : k = k'
      · subst heq
        rw [if_pos rfl, if_pos rfl, if_pos hp]
      · rw [if_neg heq, if_neg heq]
    | false =>
      have hdropped : ((k', v') :: rest).filter (fun f => p f.1) = rest.filter fun f => p f.1 :=
        List.filter_cons_of_neg (Bool.not_eq_true _ ▸ hp)
      rw [hdropped, ih, get?]
      by_cases heq : k = k'
      · subst heq
        rw [hp]
        rfl
      · rw [if_neg heq]

/-- A change to all values of a record changes what is found under each name. -/
theorem get?_map (fs : Fields) (g : Value → Value) (k : String) :
    get? (fs.map fun f => (f.1, g f.2)) k = (get? fs k).map g := by
  induction fs with
  | nil => rfl
  | cons f fs ih =>
    obtain ⟨l, v⟩ := f
    rw [List.map_cons, get?, get?]
    split
    · rfl
    · exact ih

theorem nodup_filter {fs : Fields} (h : fs.names.Nodup) (p : String × Value → Bool) :
    (names (fs.filter p)).Nodup :=
  h.sublist (List.filter_sublist.map _)

/-- A record from fields in any order has each of them. -/
theorem get?_ofList {fs : Fields} (h : fs.names.Nodup) (k : String) : get? (ofList fs) k = get? fs k := by
  have hfold : ∀ done : Fields, get? (fs.foldl (fun acc f => Fields.insert acc f.1 f.2) done) k
      = (get? fs k).or (get? done k) := by
    induction fs with
    | nil => exact fun done => rfl
    | cons f rest ih =>
      intro done
      obtain ⟨k', v'⟩ := f
      obtain ⟨hfresh, hrest⟩ := List.nodup_cons.1 h
      rw [List.foldl_cons, ih hrest, get?]
      by_cases heq : k = k'
      · subst heq
        rw [if_pos rfl, get?_insert_self, get?_eq_none_iff.2 hfresh]
        rfl
      · rw [if_neg heq, get?_insert_of_ne _ _ heq]
  rw [ofList, hfold]
  exact Option.or_none

/-- Fields that are inserted one by one are in order, whatever order they come in. -/
theorem ordered_ofList (fs : Fields) : (ofList fs).Ordered := by
  have hfold : ∀ done : Fields, done.Ordered →
      (fs.foldl (fun acc f => Fields.insert acc f.1 f.2) done).Ordered := by
    induction fs with
    | nil => exact fun done h => h
    | cons f rest ih => exact fun done h => ih _ (h.insert f.1 f.2)
  exact hfold [] ordered_nil

/-- Fields in order are a record as they are. -/
theorem ofList_of_ordered {fs : Fields} (h : fs.Ordered) : ofList fs = fs := by
  have hfold : ∀ done : Fields, Ordered (done ++ fs) →
      fs.foldl (fun acc f => Fields.insert acc f.1 f.2) done = done ++ fs := by
    induction fs with
    | nil => exact fun done _ => (List.append_nil done).symm
    | cons f rest ih =>
      intro done hall
      obtain ⟨k', v'⟩ := f
      have hlater : ∀ l ∈ done.names, l < k' := by
        intro l hl
        rw [Ordered, names, List.map_append, List.pairwise_append] at hall
        exact hall.2.2 l hl k' List.mem_cons_self
      rw [List.foldl_cons, insert_of_lt hlater, ih (ordered_cons.1 h).2, List.append_assoc,
        List.singleton_append]
      rw [List.append_assoc, List.singleton_append]
      exact hall
  exact hfold [] h

end Fields

/-! ## Data in normal form -/

namespace Value

mutual

/-- Whether all doubles and all records in a value are of a kind. -/
def All (float : Float → Prop) (record : Fields → Prop) : Value → Prop
  | .num (.float x) => float x
  | .arr items => AllItems float record items
  | .obj fields => record fields ∧ AllFields float record fields
  | _ => True

/-- Whether that holds of the items of a list. -/
def AllItems (float : Float → Prop) (record : Fields → Prop) : List Value → Prop
  | [] => True
  | v :: vs => All float record v ∧ AllItems float record vs

/-- Whether that holds of the values of some fields. -/
def AllFields (float : Float → Prop) (record : Fields → Prop) : List (String × Value) → Prop
  | [] => True
  | (_, v) :: fs => All float record v ∧ AllFields float record fs

end

/-- Data whose doubles are all finite, as they are wherever data is written down. -/
def Finite (v : Value) : Prop := v.All (·.isFinite = true) fun _ => True

/-- Data in normal form: its doubles are finite, and the fields of its records are in order. -/
def Normal (v : Value) : Prop := v.All (·.isFinite = true) Fields.Ordered

variable {float : Float → Prop} {record : Fields → Prop}

theorem allItems_iff {vs : List Value} : AllItems float record vs ↔ ∀ v ∈ vs, v.All float record := by
  induction vs with
  | nil => simp [AllItems]
  | cons v vs ih => rw [AllItems, ih, List.forall_mem_cons]

theorem allFields_iff {fs : Fields} : AllFields float record fs ↔ ∀ f ∈ fs, f.2.All float record := by
  induction fs with
  | nil => simp [AllFields]
  | cons f fs ih => rw [AllFields, ih, List.forall_mem_cons]

theorem finite_arr {vs : List Value} : (Value.arr vs).Finite ↔ ∀ v ∈ vs, v.Finite := allItems_iff

theorem finite_obj {fs : Fields} : (Value.obj fs).Finite ↔ ∀ f ∈ fs, f.2.Finite := by
  rw [Finite, All, allFields_iff]
  exact ⟨fun h => h.2, fun h => ⟨trivial, h⟩⟩

/-- A record is normal if its fields are in order and their values are normal. -/
theorem normal_obj {fs : Fields} : (Value.obj fs).Normal ↔ fs.Ordered ∧ ∀ f ∈ fs, f.2.Normal := by
  rw [Normal, All, allFields_iff]
  rfl

end Value

namespace Document

/-! ### Reading gives normal forms -/

/-- What is read from a document without parts is normal, as it has no records in it. -/
theorem normal_of_leaf? {d : Document} {v : Value} (h : leaf? d = some v) : v.Normal := by
  rw [leaf?.eq_def] at h
  split at h
  case h_4 x =>
    obtain rfl := Option.some.inj h
    split
    case isTrue hfinite => exact hfinite
    case isFalse => trivial
  all_goals
    cases h <;> trivial

/-- A field that is read takes its place among those already read. -/
theorem normalFields_insert {fs : Fields} {k : String} {v : Value}
    (hfs : fs.Ordered ∧ ∀ f ∈ fs, f.2.Normal) (hv : v.Normal) :
    (fs.insert k v).Ordered ∧ ∀ f ∈ fs.insert k v, f.2.Normal := by
  refine ⟨hfs.1.insert k v, fun f hf => ?_⟩
  rcases Fields.mem_of_mem_insert hf with rfl | hmem
  · exact hv
  · exact hfs.2 f hmem

mutual

/-- **What is read as data is in normal form.** -/
theorem normal_of_value? : ∀ {d : Document} {v : Value}, value? d = some v → v.Normal
  | .written s, v, h => by
    obtain ⟨d, -, hleaf⟩ := Option.bind_eq_some_iff.1 (value?.eq_1 s ▸ h)
    exact normal_of_leaf? hleaf
  | .list tag positional items, v, h => by
    rw [value?] at h
    split at h
    · cases h
    · obtain ⟨vs, hvs, rfl⟩ := Option.map_eq_some_iff.1 h
      exact Value.allItems_iff.2 (normal_of_values? hvs)
  | .record tag entries, v, h => by
    rw [value?] at h
    split at h
    · cases h
    · obtain ⟨fs, hfs, rfl⟩ := Option.map_eq_some_iff.1 h
      exact Value.normal_obj.2 (normal_of_valueFields? ⟨Fields.ordered_nil, by rintro f ⟨⟩⟩ hfs)
  | .null, v, h => normal_of_leaf? (d := .null) h
  | .bool b, v, h => normal_of_leaf? (d := .bool b) h
  | .int n, v, h => normal_of_leaf? (d := .int n) h
  | .float x, v, h => normal_of_leaf? (d := .float x) h
  | .text s, v, h => normal_of_leaf? (d := .text s) h
  | .void, v, h => normal_of_leaf? (d := .void) h
  | .unreadable, v, h => normal_of_leaf? (d := .unreadable) h

/-- What is read from a list of documents is normal, item by item. -/
theorem normal_of_values? : ∀ {ds : List Document} {vs : List Value}, values? ds = some vs →
    ∀ v ∈ vs, v.Normal
  | [], vs, h => by
    cases h
    rintro v ⟨⟩
  | d :: ds, vs, h => by
    rw [values?] at h
    obtain ⟨v, hv, h⟩ := Option.bind_eq_some_iff.1 h
    obtain ⟨rest, hrest, h⟩ := Option.bind_eq_some_iff.1 h
    cases h
    exact List.forall_mem_cons.2 ⟨normal_of_value? hv, normal_of_values? hrest⟩

/-- What is read from entries is normal, if what has been read before them is. -/
theorem normal_of_valueFields? : ∀ {entries : List (Document × Document)} {done fs : Fields},
    done.Ordered ∧ (∀ f ∈ done, f.2.Normal) → valueFields? done entries = some fs →
    fs.Ordered ∧ ∀ f ∈ fs, f.2.Normal
  | [], done, fs, hdone, h => by
    cases h
    exact hdone
  | (k, d) :: rest, done, fs, hdone, h => by
    rw [valueFields?] at h
    obtain ⟨k, -, h⟩ := Option.bind_eq_some_iff.1 h
    obtain ⟨v, hv, h⟩ := Option.bind_eq_some_iff.1 h
    exact normal_of_valueFields? (normalFields_insert hdone (normal_of_value? hv)) h

end

/-! ### Normal forms are read back -/

mutual

/-- **Data in normal form is read as itself.** -/
theorem value?_ofValue : ∀ {v : Value}, v.Normal → value? (ofValue v) = some v
  | .null, _ => rfl
  | .bool b, _ => rfl
  | .num (.int n), _ => rfl
  | .num (.float x), h => by
    have hfinite : x.isFinite = true := h
    show some (if x.isFinite then Value.float x else .null) = _
    rw [if_pos hfinite]
  | .str s, _ => rfl
  | .arr items, h => by
    have hitems := Value.allItems_iff.1 h
    rw [ofValue, value?, values?_ofItems hitems]
    rfl
  | .obj fields, h => by
    obtain ⟨hordered, hfields⟩ := Value.normal_obj.1 h
    have hread := valueFields?_ofFields (List.nil_append fields ▸ hordered) hfields
    rw [ofValue, value?, hread]
    rfl

/-- The items of a list are read back if they are normal. -/
theorem values?_ofItems : ∀ {vs : List Value}, (∀ v ∈ vs, v.Normal) → values? (ofItems vs) = some vs
  | [], _ => rfl
  | v :: vs, h => by
    obtain ⟨hv, hvs⟩ := List.forall_mem_cons.1 h
    rw [ofItems, values?, value?_ofValue hv, values?_ofItems hvs]
    rfl

/-- The fields still to be read go behind those already read. -/
theorem valueFields?_ofFields : ∀ {fs done : Fields}, Fields.Ordered (done ++ fs) →
    (∀ f ∈ fs, f.2.Normal) → valueFields? done (ofFields fs) = some (done ++ fs)
  | [], done, _, _ => by rw [ofFields, valueFields?, List.append_nil]
  | (k, v) :: fs, done, hordered, h => by
    obtain ⟨hv, hfs⟩ := List.forall_mem_cons.1 h
    have hlater : ∀ l ∈ done.names, l < k := by
      intro l hl
      rw [Fields.Ordered, Fields.names, List.map_append, List.pairwise_append] at hordered
      exact hordered.2.2 l hl k List.mem_cons_self
    have hnext : Fields.Ordered ((done ++ [(k, v)]) ++ fs) := by
      rw [List.append_assoc, List.singleton_append]
      exact hordered
    rw [ofFields, valueFields?, value?_ofValue hv]
    show valueFields? (Fields.insert done k v) (ofFields fs) = _
    rw [Fields.insert_of_lt hlater, valueFields?_ofFields hnext hfs, List.append_assoc,
      List.singleton_append]

end

/-- A record of data in normal form is read as itself. -/
theorem context?_ofValue {c : Context} (h : (Value.obj c).Normal) :
    context? (ofValue (.obj c)) = some c := by
  obtain ⟨hordered, hfields⟩ := Value.normal_obj.1 h
  exact valueFields?_ofFields (List.nil_append c ▸ hordered) hfields

/-! ### Settling -/

mutual

/-- A document that comes from data is settled. -/
theorem settle?_ofValue : ∀ v : Value, settle? (ofValue v) = some (ofValue v)
  | .null => rfl
  | .bool b => rfl
  | .num (.int n) => rfl
  | .num (.float x) => rfl
  | .str s => rfl
  | .arr items => by
    rw [ofValue, settle?, settleItems?_ofItems items]
    rfl
  | .obj fields => by
    rw [ofValue, settle?, settleEntries?_ofFields fields]
    rfl

/-- The items of a list that was written are settled already. -/
theorem settleItems?_ofItems : ∀ vs : List Value, settleItems? (ofItems vs) = some (ofItems vs)
  | [] => rfl
  | v :: vs => by
    rw [ofItems, settleItems?, settle?_ofValue v, settleItems?_ofItems vs]
    rfl

/-- The entries of a record that was written are settled already. -/
theorem settleEntries?_ofFields : ∀ fs : Fields, settleEntries? (ofFields fs) = some (ofFields fs)
  | [] => rfl
  | (k, v) :: fs => by
    rw [ofFields, settleEntries?, settle?_ofValue v, settleEntries?_ofFields fs]
    rfl

end

end Document

/-! ## Layouts -/

namespace Value

/-- A way to lay values out: lists keep their items, and records their fields, though perhaps in another
order; what is in normal form stays as it is. -/
structure Layout (layout : Value → Value) : Prop where
  /-- Numbers stay as they are. -/
  num : ∀ n, layout (.num n) = .num n
  /-- Data in normal form stays as it is. -/
  normal : ∀ v, v.Normal → layout v = v
  /-- Items are laid out in their places. -/
  arr : ∀ vs, layout (.arr vs) = .arr (vs.map layout)
  /-- Fields are laid out under their names. -/
  obj : ∀ fs : Fields, fs.names.Nodup → ∃ gs : Fields, layout (.obj fs) = .obj gs
    ∧ gs.names.Nodup ∧ ∀ k, Fields.get? gs k = (Fields.get? fs k).map layout

/-- To leave a value as it is is a layout. -/
theorem layout_id : Layout id where
  num _ := rfl
  normal _ _ := rfl
  arr vs := by rw [List.map_id]; rfl
  obj fs h := ⟨fs, rfl, h, fun k => (congrFun Option.map_id _).symm⟩

theorem canonicalItems_eq (vs : List Value) : canonicalItems vs = vs.map canonical := by
  induction vs with
  | nil => rfl
  | cons v vs ih => rw [canonicalItems, ih, List.map_cons]

theorem canonicalFields_eq (fs : Fields) : canonicalFields fs = fs.map fun f => (f.1, f.2.canonical) := by
  induction fs with
  | nil => rfl
  | cons f fs ih => rw [canonicalFields, ih, List.map_cons]

mutual

/-- The fields of data in normal form need not be put into order. -/
theorem canonical_of_normal : ∀ {v : Value}, v.Normal → v.canonical = v
  | .null, _ => rfl
  | .bool _, _ => rfl
  | .num _, _ => rfl
  | .str _, _ => rfl
  | .arr items, h => by rw [canonical, canonicalItems_of_normal (allItems_iff.1 h)]
  | .obj fields, h => by
    obtain ⟨hordered, hfields⟩ := normal_obj.1 h
    rw [canonical, canonicalFields_of_normal hfields, Fields.ofList_of_ordered hordered]

/-- Normal items are their own canonical form. -/
theorem canonicalItems_of_normal : ∀ {vs : List Value}, (∀ v ∈ vs, v.Normal) → canonicalItems vs = vs
  | [], _ => rfl
  | v :: vs, h => by
    obtain ⟨hv, hvs⟩ := List.forall_mem_cons.1 h
    rw [canonicalItems, canonical_of_normal hv, canonicalItems_of_normal hvs]

/-- Fields with normal values are their own canonical form. -/
theorem canonicalFields_of_normal : ∀ {fs : Fields}, (∀ f ∈ fs, f.2.Normal) → canonicalFields fs = fs
  | [], _ => rfl
  | (k, v) :: fs, h => by
    obtain ⟨hv, hfs⟩ := List.forall_mem_cons.1 h
    rw [canonicalFields, canonical_of_normal hv, canonicalFields_of_normal hfs]

end

/-- **To put the fields of all records into order is a layout.** -/
theorem layout_canonical : Layout canonical where
  num _ := rfl
  normal _ h := canonical_of_normal h
  arr vs := by rw [canonical, canonicalItems_eq]
  obj fs h := by
    have hnames : Fields.names (fs.map fun f => (f.1, f.2.canonical)) = fs.names := by
      rw [Fields.names, List.map_map]
      rfl
    refine ⟨_, rfl, (Fields.ordered_ofList _).nodup, fun k => ?_⟩
    rw [canonicalFields_eq, Fields.get?_ofList (hnames ▸ h), Fields.get?_map]

end Value

end Arbiter
