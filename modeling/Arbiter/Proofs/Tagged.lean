import Arbiter.Proofs.Readers
/-!
# Conditions and actions read back

Conditions and actions are records that say of which type they are, and the type decides which other fields
there are.

1. **Conditions** have the fields of their test among their own.  The reader takes out the fields that it
   knows and the type, and what is left is for the test.  That these are just the fields that were written for
   the test is the crux (`Condition.get?_payload`): no test has a field of a name that a condition knows.
2. **Actions** have their type among their fields (`Action.back`).  A transform may have a value or none, and
   null stands for none.  The value that is read is never null, because no double becomes null on the way in
   (`value?_ne_null`); without that it would be lost when it is written.
-/

namespace Arbiter

open Document

/-! ## Conditions -/

/-- A field with any data gives data in normal form. -/
theorem normal_of_optional {named : Named} {k : String} {v : Value}
    (h : optional named k .null value? = some v) : v.Normal := by
  rw [Document.optional] at h
  split at h
  case h_1 d hd => exact normal_of_value? h
  case h_2 =>
    cases h
    trivial

/-- The tests that can be read. -/
def Test.Readable : Test → Prop
  | .equals v => v.Normal
  | .contains v => v.Normal
  | .regex _ => True
  | .llmEvaluate _ => True
  | .custom _ v => v.Normal

/-- A test that was read can be read. -/
theorem Test.readable_of_decode? {kind : TestKind} {d : Document} {t : Test}
    (h : Test.decode? kind d = some t) : t.Readable := by
  cases kind with
  | equals | contains =>
    obtain ⟨named, -, h⟩ := Option.bind_eq_some_iff.1 h
    obtain ⟨v, hv, h⟩ := Option.bind_eq_some_iff.1 h
    cases h
    exact normal_of_optional hv
  | regex =>
    obtain ⟨named, -, h⟩ := Option.bind_eq_some_iff.1 h
    obtain ⟨pattern, -, h⟩ := Option.bind_eq_some_iff.1 h
    cases h
    trivial
  | llmEvaluate =>
    obtain ⟨named, -, h⟩ := Option.bind_eq_some_iff.1 h
    obtain ⟨prompt, -, h⟩ := Option.bind_eq_some_iff.1 h
    cases h
    trivial
  | custom =>
    obtain ⟨named, -, h⟩ := Option.bind_eq_some_iff.1 h
    obtain ⟨handler, -, h⟩ := Option.bind_eq_some_iff.1 h
    obtain ⟨v, hv, h⟩ := Option.bind_eq_some_iff.1 h
    cases h
    exact normal_of_optional hv

/-- The fields of a condition. -/
def Condition.fields (c : Condition) : Fields :=
  [("field", .str c.field), ("type", .str c.test.kind.name)] ++ c.test.fields
    ++ optionalField "operator" (fun op => .str op.name) c.operator

theorem Test.names_fields (t : Test) : t.fields.names.Sublist ["handler", "value", "llmPrompt"] := by
  cases t with
  | equals _ | contains _ | regex _ => exact .cons _ (.cons_cons _ (List.nil_sublist _))
  | llmEvaluate prompt => exact .cons _ (.cons _ (List.Sublist.refl _))
  | custom handler v =>
    rw [Test.fields, Fields.names_append]
    exact (names_optionalField "handler" .str handler).append (.cons_cons _ (List.nil_sublist _))

/-- The names that a condition knows are not those of a field of its test. -/
theorem Test.get?_fields (t : Test) {k : String} (hk : k ∈ ["field", "type", "operator"]) :
    Fields.get? t.fields k = none := by
  rw [Fields.get?_eq_none_iff]
  intro hmem
  have hapart : ∀ l ∈ ["field", "type", "operator"], l ∉ ["handler", "value", "llmPrompt"] := by decide
  exact hapart k hk (t.names_fields.subset hmem)

/-- No field of a test has the name of one of a condition, and none is there twice. -/
theorem Condition.nodup_fields (c : Condition) : c.fields.names.Nodup := by
  have hall : c.fields.names.Sublist
      ((["field", "type"] ++ ["handler", "value", "llmPrompt"]) ++ ["operator"]) := by
    rw [Condition.fields, Fields.names_append, Fields.names_append]
    exact ((List.Sublist.refl _).append c.test.names_fields).append (names_optionalField _ _ _)
  exact List.Nodup.sublist hall (by decide)

/-- The fields that a condition knows are not those of its test. -/
theorem Condition.get?_fields (c : Condition) (k : String) : Fields.get? c.fields k =
    if k = "field" then some (.str c.field)
    else if k = "type" then some (.str c.test.kind.name)
    else if k = "operator" then c.operator.map fun op => .str op.name
    else Fields.get? c.test.fields k := by
  have hoperator : Fields.get? c.test.fields "operator" = none := c.test.get?_fields (by decide)
  rw [Condition.fields, Fields.get?_append, Fields.get?_append, get?_optionalField]
  simp only [Fields.get?]
  by_cases hfield : k = "field"
  · rw [if_pos hfield, if_pos hfield]
    rfl
  rw [if_neg hfield, if_neg hfield]
  by_cases htype : k = "type"
  · rw [if_pos htype, if_pos htype]
    rfl
  rw [if_neg htype, if_neg htype, Option.none_or]
  by_cases hop : k = "operator"
  · rw [if_pos hop, if_pos hop, hop, hoperator, Option.none_or]
  · rw [if_neg hop, if_neg hop, Option.or_none]

/-- The fields of a condition beside those it knows, settled. -/
theorem mapM_settle? (fs : Fields) :
    fs.named.mapM (fun f => (settle? f.2).map fun d => (Document.text f.1, d)) = some (ofFields fs) := by
  rw [Fields.ofFields_eq]
  induction fs with
  | nil => rfl
  | cons f fs ih =>
    have hnamed : Fields.named (f :: fs) = (f.1, ofValue f.2) :: Fields.named fs := rfl
    rw [hnamed, List.mapM_cons, settle?_ofValue, ih]
    rfl

/-- The fields of a record beside those that a condition knows. -/
def Condition.others (fs : Fields) : Fields := fs.filter fun f => !Condition.known.contains f.1

/-- Only names that a condition does not know are found among them. -/
theorem Condition.get?_others (fs : Fields) (k : String) :
    Fields.get? (Condition.others fs) k = if !Condition.known.contains k then Fields.get? fs k else none :=
  Fields.get?_filter fs (fun k => !Condition.known.contains k) k

/-- They are what a reader is left with when it has taken the known fields. -/
theorem Condition.filter_named (fs : Fields) :
    fs.named.filter (fun f => !Condition.known.contains f.1) = (Condition.others fs).named := by
  rw [Fields.named, List.filter_map]
  rfl

/-- What is left of a condition when the fields it knows and the type are taken out are the fields of its
test. -/
theorem Condition.get?_payload {layout : Value → Value} {c : Condition} {gs : Fields}
    (hget : ∀ k, Fields.get? gs k = (Fields.get? c.fields k).map layout) (k : String) :
    Fields.get? ((Condition.others gs).without "type") k = (Fields.get? c.test.fields k).map layout := by
  rw [Fields.get?_without, Condition.get?_others, hget, c.get?_fields]
  by_cases hknown : k ∈ ["field", "type", "operator"]
  · rw [c.test.get?_fields hknown, Option.map_none]
    simp only [List.mem_cons, List.not_mem_nil, or_false] at hknown
    rcases hknown with rfl | rfl | rfl <;> rfl
  · simp only [List.mem_cons, List.not_mem_nil, or_false, not_or] at hknown
    obtain ⟨hfield, htype, hoperator⟩ := hknown
    have hother : Condition.known.contains k = false := by
      rw [List.contains_eq_any_beq]
      simp [Condition.known, hfield, hoperator]
    rw [if_pos (bne_iff_ne.2 htype), hother, if_neg hfield, if_neg htype, if_neg hoperator]
    rfl

section Conditions

variable {layout : Value → Value} (hlayout : Value.Layout layout)
include hlayout

/-- A test is read back from its fields. -/
theorem Test.back {t : Test} (ht : t.Readable) {gs : Fields} (hgs : gs.names.Nodup)
    (hget : ∀ k, Fields.get? gs k = (Fields.get? t.fields k).map layout) :
    Test.decode? t.kind (ofValue (.obj gs)) = some t := by
  have hfields : ∀ known, settledFields? known [] (ofValue (.obj gs)) = some gs.named :=
    fun known => settledFields?_ofValue hgs known fun _ _ => rfl
  cases t with
  | equals v | contains v =>
    have hvalue : optional gs.named "value" .null value? = some v := optional_data hlayout hget ht rfl
    show (settledFields? ["value"] [] (ofValue (.obj gs))).bind _ = _
    rw [hfields, Option.bind_some, hvalue]
    rfl
  | regex pattern =>
    -- the other name of the pattern is not there
    have hnone : Fields.get? gs "regex" = none := by
      rw [hget]
      rfl
    have halias : settledFields? ["value"] [("regex", "value")] (ofValue (.obj gs)) = some gs.named := by
      refine settledFields?_ofValue hgs _ fun k hk => ?_
      have hne : k ≠ "regex" := by
        rintro rfl
        exact Fields.get?_eq_none_iff.1 hnone hk
      rw [List.lookup_cons, beq_eq_false_iff_ne.2 hne]
      rfl
    have hpattern : required gs.named "value" string? = some pattern := required_text hlayout hget rfl
    show (settledFields? ["value"] [("regex", "value")] (ofValue (.obj gs))).bind _ = _
    rw [halias, Option.bind_some, hpattern]
    rfl
  | llmEvaluate prompt =>
    have hprompt : required gs.named "llmPrompt" string? = some prompt := required_text hlayout hget rfl
    show (settledFields? ["llmPrompt"] [] (ofValue (.obj gs))).bind _ = _
    rw [hfields, Option.bind_some, hprompt]
    rfl
  | custom handler v =>
    have hhandler : maybe gs.named "handler" string? = some handler :=
      maybe_text hlayout hget (by simp [Test.fields])
    have hvalue : optional gs.named "value" .null value? = some v :=
      optional_data hlayout hget ht (by simp [Test.fields])
    show (settledFields? ["handler", "value"] [] (ofValue (.obj gs))).bind _ = _
    rw [hfields, Option.bind_some, hhandler, hvalue]
    rfl

/-- **A condition is read back.** -/
theorem Condition.back {c : Condition} (hc : c.test.Readable) :
    Condition.decode? (ofValue (layout c.toValue)) = some c := by
  obtain ⟨gs, hgs, hnodup, hget⟩ := hlayout.obj c.fields c.nodup_fields
  have htoValue : layout c.toValue = .obj gs := hgs
  have hothers : (Condition.others gs).names.Nodup := Fields.nodup_filter hnodup _
  have htype : Fields.get? (Condition.others gs) "type" = some (.str c.test.kind.name) := by
    rw [Condition.get?_others, hget, c.get?_fields]
    show some (layout (.str c.test.kind.name)) = _
    rw [hlayout.str]
  have htaken := takeKey?_ofFields hothers htype
  have hkind : TestKind.decode? (ofValue (.str c.test.kind.name)) = some c.test.kind := by
    cases c.test.kind <;> rfl
  have htest : Test.decode? c.test.kind (.record none (ofFields ((Condition.others gs).without "type")))
      = some c.test :=
    Test.back hlayout hc (Fields.nodup_filter hothers _) (Condition.get?_payload hget)
  have hfield : required gs.named "field" string? = some c.field :=
    required_text hlayout hget (c.get?_fields "field")
  have hoperator : maybe gs.named "operator" Operator.decode? = some c.operator :=
    (faithful_operator.laid fun op _ => hlayout.str op.name).maybe_laid hget (fun _ _ => trivial)
      (c.get?_fields "operator")
  have hentries : entries? (ofValue (.obj gs)) = some (ofFields gs) := rfl
  have honce : guard (distinct Condition.known gs.named) = some () :=
    (Option.guard_eq_some' ()).2 (Fields.distinct_named hnodup _)
  rw [htoValue, Condition.decode?, hentries]
  dsimp only [Option.bind_eq_bind, Option.bind_some]
  rw [Fields.mapM_names, Option.bind_some, honce, Option.bind_some, Condition.filter_named, mapM_settle?,
    Option.bind_some, hfield, Option.bind_some, htaken, Option.bind_some, hkind, Option.bind_some, htest,
    Option.bind_some, hoperator]
  rfl

/-- Conditions and their writer agree, in any layout. -/
theorem Condition.faithful : Faithful Condition.decode? (fun c => layout c.toValue)
    fun c => c.test.Readable where
  kind v c _ h := by
    unfold Condition.decode? at h
    obtain ⟨entries, -, h⟩ := Option.bind_eq_some_iff.1 h
    obtain ⟨named, -, h⟩ := Option.bind_eq_some_iff.1 h
    obtain ⟨_, -, h⟩ := Option.bind_eq_some_iff.1 h
    obtain ⟨others, -, h⟩ := Option.bind_eq_some_iff.1 h
    obtain ⟨field, -, h⟩ := Option.bind_eq_some_iff.1 h
    obtain ⟨⟨type, payload⟩, -, h⟩ := Option.bind_eq_some_iff.1 h
    obtain ⟨kind, -, h⟩ := Option.bind_eq_some_iff.1 h
    obtain ⟨test, htest, h⟩ := Option.bind_eq_some_iff.1 h
    obtain ⟨operator, -, h⟩ := Option.bind_eq_some_iff.1 h
    cases h
    exact Test.readable_of_decode? htest
  present c _ := hlayout.obj_ne_null c.nodup_fields
  back _ hc := Condition.back hlayout hc

end Conditions

/-! ## Actions -/

/-- The actions that can be read. -/
def Action.Readable : Action → Prop
  | .set _ v => v.Normal
  | .append _ v => v.Normal
  | .llmGenerate _ _ => True
  | .trigger _ _ => True
  | .transform _ _ v => ∀ w ∈ v, w.Normal ∧ w ≠ .null

/-- Only null is read as null. -/
theorem value?_ne_null {v w : Value} (hv : v.Finite) (hnull : v ≠ .null)
    (h : value? (ofValue v) = some w) : w ≠ .null := by
  cases v with
  | null => exact absurd rfl hnull
  | bool b =>
    cases h
    nofun
  | num n =>
    cases n with
    | int n =>
      cases h
      nofun
    | float x =>
      have hfinite : x.isFinite = true := hv
      have hread : some (if x.isFinite then Value.float x else .null) = some w := h
      rw [if_pos hfinite] at hread
      cases hread
      nofun
  | str s =>
    cases h
    nofun
  | arr vs =>
    obtain ⟨ws, -, rfl⟩ := Option.map_eq_some_iff.1 h
    nofun
  | obj fs =>
    obtain ⟨gs, -, rfl⟩ := Option.map_eq_some_iff.1 h
    nofun

/-- An action that was read from its fields can be read. -/
theorem Action.readable_of_decodeAs? {type : String} {v : Value} {a : Action} (hv : v.Finite)
    (h : Action.decodeAs? type (ofValue v) = some a) : a.Readable := by
  unfold Action.decodeAs? at h
  split at h
  case h_1 | h_2 =>
    obtain ⟨named, -, h⟩ := Option.bind_eq_some_iff.1 h
    obtain ⟨target, -, h⟩ := Option.bind_eq_some_iff.1 h
    obtain ⟨w, hw, h⟩ := Option.bind_eq_some_iff.1 h
    cases h
    exact normal_of_optional hw
  case h_3 =>
    obtain ⟨named, -, h⟩ := Option.bind_eq_some_iff.1 h
    obtain ⟨target, -, h⟩ := Option.bind_eq_some_iff.1 h
    obtain ⟨prompt, -, h⟩ := Option.bind_eq_some_iff.1 h
    cases h
    trivial
  case h_4 =>
    obtain ⟨named, -, h⟩ := Option.bind_eq_some_iff.1 h
    obtain ⟨function, -, h⟩ := Option.bind_eq_some_iff.1 h
    obtain ⟨target, -, h⟩ := Option.bind_eq_some_iff.1 h
    cases h
    trivial
  case h_5 =>
    obtain ⟨named, hnamed, h⟩ := Option.bind_eq_some_iff.1 h
    obtain ⟨target, -, h⟩ := Option.bind_eq_some_iff.1 h
    obtain ⟨function, -, h⟩ := Option.bind_eq_some_iff.1 h
    obtain ⟨w, hw, h⟩ := Option.bind_eq_some_iff.1 h
    cases h
    refine of_maybe ?_ (fromData_settledFields? hv hnamed) hw
    intro u a hu hnull ha
    exact ⟨normal_of_value? ha, value?_ne_null hu hnull ha⟩
  case h_6 => cases h

/-- An entry whose key is the name of the type. -/
def isTypeEntry (e : Document × Document) : Bool :=
  match settle? e.1 with
  | some (.text s) => s == "type"
  | _ => false

/-- The type is taken if there is one entry for it, and only one. -/
theorem Action.takeType?_eq (es : List (Document × Document)) : Action.decode?.takeType? es
    = match es.filter isTypeEntry with
      | [(_, d)] => (string? d).map fun s => (s, es.filter fun e => !isTypeEntry e)
      | _ => none := by
  have hmap (d : Document) (rest : List (Document × Document)) :
      ((string? d).bind fun s => some (s, rest)) = (string? d).map fun s => (s, rest) :=
    Option.map_eq_bind.symm
  simp only [← hmap]
  rfl

/-- The type of an action is taken out of its fields. -/
theorem Action.takeType?_ofFields (fs : Fields) : Action.decode?.takeType? (ofFields fs)
    = match fs.filter fun f => f.1 == "type" with
      | [(_, v)] => (string? (ofValue v)).map fun s => (s, ofFields (fs.without "type"))
      | _ => none := by
  have hmine : (ofFields fs).filter isTypeEntry
      = (fs.filter fun f => f.1 == "type").map fun f => (.text f.1, ofValue f.2) := by
    rw [Fields.ofFields_eq, List.filter_map]
    rfl
  have hothers : (ofFields fs).filter (fun e => !isTypeEntry e) = ofFields (fs.without "type") := by
    rw [Fields.ofFields_eq, Fields.ofFields_eq, List.filter_map]
    rfl
  rw [Action.takeType?_eq, hmine, hothers]
  generalize (fs.filter fun f => f.1 == "type") = mine
  rcases mine with _ | ⟨⟨_, v⟩, _ | ⟨_, _⟩⟩
  · rfl
  · rfl
  · rfl

theorem Action.readable_of_decode? {v : Value} {a : Action} (hv : v.Finite)
    (h : Action.decode? (ofValue v) = some a) : a.Readable := by
  cases v with
  | arr vs =>
    cases vs with
    | nil => cases h
    | cons type vs =>
      have hvs : (Value.arr vs).Finite :=
        Value.finite_arr.2 fun w hw => Value.finite_arr.1 hv w (List.mem_cons_of_mem _ hw)
      rw [ofValue, ofItems, Action.decode?] at h
      obtain ⟨_, -, h⟩ := Option.bind_eq_some_iff.1 h
      obtain ⟨name, -, h⟩ := Option.bind_eq_some_iff.1 h
      obtain ⟨d, hd, h⟩ := Option.bind_eq_some_iff.1 h
      have hsettled := settle?_ofValue (.arr vs)
      rw [ofValue] at hsettled
      rw [hsettled] at hd
      cases hd
      exact Action.readable_of_decodeAs? hvs h
  | obj fs =>
    rw [ofValue, Action.decode?] at h
    obtain ⟨_, -, h⟩ := Option.bind_eq_some_iff.1 h
    obtain ⟨⟨name, payload⟩, htaken, h⟩ := Option.bind_eq_some_iff.1 h
    obtain ⟨d, hd, h⟩ := Option.bind_eq_some_iff.1 h
    have hothers : (Value.obj (Fields.without fs "type")).Finite :=
      Value.finite_obj.2 fun f hf => Value.finite_obj.1 hv f (List.mem_filter.1 hf).1
    rw [Action.takeType?_ofFields] at htaken
    split at htaken
    case h_1 =>
      obtain ⟨s, -, heq⟩ := Option.map_eq_some_iff.1 htaken
      cases heq
      have hsettled := settle?_ofValue (.obj (Fields.without fs "type"))
      rw [ofValue] at hsettled
      rw [hsettled] at hd
      cases hd
      exact Action.readable_of_decodeAs? hothers h
    case h_2 => cases htaken
  | null => cases h
  | bool b => cases h
  | num n => cases n <;> cases h
  | str s => cases h

/-- No field of an action is there twice, and none has the name of the type. -/
theorem Action.nodup_fields (a : Action) : (Fields.names (("type", .str a.kindName) :: a.fields)).Nodup := by
  have hnames : Fields.names (("type", .str a.kindName) :: a.fields) = "type" :: a.fields.names := rfl
  rw [hnames]
  cases a with
  | set target v | append target v =>
    show ["type", "target", "value"].Nodup
    decide
  | llmGenerate target prompt =>
    show ["type", "target", "prompt"].Nodup
    decide
  | trigger function target =>
    have hall := ((names_optionalField "target" .str target).cons_cons "functionName").cons_cons "type"
    exact List.Nodup.sublist hall (by decide)
  | transform target function v =>
    have hall := (((names_optionalField "value" id v).cons_cons "functionName").cons_cons "target").cons_cons
      "type"
    exact List.Nodup.sublist hall (by decide)

section Actions

variable {layout : Value → Value} (hlayout : Value.Layout layout)
include hlayout

/-- An action is read back from its fields and its type. -/
theorem Action.decodeAs?_fields {a : Action} (ha : a.Readable) {gs : Fields} (hgs : gs.names.Nodup)
    (hget : ∀ k, Fields.get? gs k = (Fields.get? a.fields k).map layout) :
    Action.decodeAs? a.kindName (ofValue (.obj gs)) = some a := by
  have hfields : ∀ known, settledFields? known [] (ofValue (.obj gs)) = some gs.named :=
    fun known => settledFields?_ofValue hgs known fun _ _ => rfl
  have htext : ∀ {k s}, Fields.get? a.fields k = some (.str s) → required gs.named k string? = some s :=
    fun hk => required_text hlayout hget hk
  cases a with
  | set target v | append target v =>
    have hvalue : optional gs.named "value" .null value? = some v := optional_data hlayout hget ha rfl
    show (settledFields? ["target", "value"] [] (ofValue (.obj gs))).bind _ = _
    rw [hfields, Option.bind_some, htext (k := "target") rfl, hvalue]
    rfl
  | llmGenerate target prompt =>
    show (settledFields? ["target", "prompt"] [] (ofValue (.obj gs))).bind _ = _
    rw [hfields, Option.bind_some, htext (k := "target") rfl, htext (k := "prompt") rfl]
    rfl
  | trigger function target =>
    have htarget : maybe gs.named "target" string? = some target :=
      maybe_text hlayout hget (by simp [Action.fields])
    show (settledFields? ["functionName", "target"] [] (ofValue (.obj gs))).bind _ = _
    rw [hfields, Option.bind_some, htext (k := "functionName") rfl, htarget]
    rfl
  | transform target function v =>
    have hvalue : maybe gs.named "value" value? = some v :=
      maybe_data hlayout hget ha (by simp [Action.fields])
    show (settledFields? ["target", "functionName", "value"] [] (ofValue (.obj gs))).bind _ = _
    rw [hfields, Option.bind_some, htext (k := "target") rfl, htext (k := "functionName") rfl, hvalue]
    rfl

/-- **An action is read back**: its type is taken out of its fields, and says how to read the others. -/
theorem Action.back {a : Action} (ha : a.Readable) :
    Action.decode? (ofValue (layout a.toValue)) = some a := by
  obtain ⟨gs, hgs, hnodup, hget⟩ := hlayout.obj _ a.nodup_fields
  have htoValue : layout a.toValue = .obj gs := hgs
  have hnone : Fields.get? a.fields "type" = none :=
    Fields.get?_eq_none_iff.2 (List.nodup_cons.1 a.nodup_fields).1
  have htype : Fields.get? gs "type" = some (.str a.kindName) := by
    rw [hget]
    show some (layout (.str a.kindName)) = _
    rw [hlayout.str]
  have hothers : ∀ k, Fields.get? (gs.without "type") k = (Fields.get? a.fields k).map layout := by
    intro k
    rw [Fields.get?_without, hget, Fields.get?]
    by_cases heq : k = "type"
    · subst heq
      rw [hnone]
      rfl
    · rw [if_pos (bne_iff_ne.2 heq), if_neg heq]
  have htaken : Action.decode?.takeType? (ofFields gs)
      = some (a.kindName, ofFields (gs.without "type")) := by
    rw [Action.takeType?_ofFields, Fields.filter_eq_singleton hnodup htype]
    rfl
  have hsettled : settle? (.record none (ofFields (gs.without "type")))
      = some (.record none (ofFields (gs.without "type"))) := settle?_ofValue (.obj (gs.without "type"))
  have hread : Action.decodeAs? a.kindName (.record none (ofFields (gs.without "type"))) = some a :=
    Action.decodeAs?_fields hlayout ha (Fields.nodup_filter hnodup _) hothers
  rw [htoValue, ofValue, Action.decode?, htaken]
  show (settle? (.record none (ofFields (gs.without "type")))).bind (Action.decodeAs? a.kindName) = _
  rw [hsettled, Option.bind_some, hread]

/-- Actions and their writer agree, in any layout. -/
theorem Action.faithful : Faithful Action.decode? (fun a => layout a.toValue) Action.Readable where
  kind _ _ hv h := Action.readable_of_decode? hv h
  present a _ := hlayout.obj_ne_null a.nodup_fields
  back _ ha := Action.back hlayout ha

end Actions

end Arbiter
