import Arbiter.Proofs.Tagged
/-!
# Rule sets read back

A rule set that was read from data and written again is read as the same rule set, and so is a patch.

Reader and writer are compared type by type, up to the rule set: for each type there is the kind of things
that can be read at all (`Readable`), and the agreement of its reader with its writer on that kind
(`faithful`).  The fields of each record are written in one order and may be laid out in another, so all this
holds for any layout.

The main statement is `written_rules_are_read_back`.
-/

namespace Arbiter

open Document

/-! ## Rules -/

/-- The notes that can be read. -/
def Metadata.Readable (m : Metadata) : Prop := ∀ t ∈ m.updatedAt, t.Valid

/-- The rules that can be read. -/
structure Rule.Readable (r : Rule) : Prop where
  /-- The priority has sixty-four bits. -/
  priority : Numeral.fitsSigned r.priority = true
  /-- The conditions can be read. -/
  conditions : ∀ c ∈ r.conditions, c.test.Readable
  /-- The actions can be read. -/
  actions : ∀ a ∈ r.actions, a.Readable
  /-- The notes can be read. -/
  metadata : r.metadata.Readable

/-- The fields of the notes of a rule. -/
def Metadata.fields (m : Metadata) : Fields :=
  optionalField "signalWeight" .float m.signalWeight
    ++ optionalField "updatedAt" (fun t => .str t.text) m.updatedAt
    ++ optionalField "description" .str m.description
    ++ optionalField "tags" .strings m.tags

/-- No field of the notes is there twice. -/
theorem Metadata.nodup_fields (m : Metadata) : m.fields.names.Nodup := by
  have hall : m.fields.names.Sublist
      ((["signalWeight"] ++ ["updatedAt"]) ++ ["description"] ++ ["tags"]) := by
    rw [Metadata.fields, Fields.names_append, Fields.names_append, Fields.names_append]
    exact (((names_optionalField _ _ _).append (names_optionalField _ _ _)).append
      (names_optionalField _ _ _)).append (names_optionalField _ _ _)
  exact List.Nodup.sublist hall (by decide)

/-- Notes that are left out are empty. -/
theorem Metadata.eq_of_isEmpty {m : Metadata} (h : m.isEmpty = true) : m = {} := by
  obtain ⟨signalWeight, updatedAt, description, tags⟩ := m
  simp only [Metadata.isEmpty, Bool.and_eq_true, Option.isNone_iff_eq_none] at h
  obtain ⟨⟨⟨rfl, rfl⟩, rfl⟩, rfl⟩ := h
  rfl

/-- The fields of a rule. -/
def Rule.fields (r : Rule) : Fields :=
  [("id", .str r.id), ("priority", .int r.priority),
      ("conditions", .arr (r.conditions.map Condition.toValue)),
      ("actions", .arr (r.actions.map Action.toValue))]
    ++ (if r.metadata.isEmpty then [] else [("metadata", r.metadata.toValue)])

theorem Rule.nodup_fields (r : Rule) : r.fields.names.Nodup := by
  rw [Rule.fields, Fields.names_append]
  split
  · show (["id", "priority", "conditions", "actions"] ++ []).Nodup
    decide
  · show (["id", "priority", "conditions", "actions"] ++ ["metadata"]).Nodup
    decide

section Rules

variable {layout : Value → Value} (hlayout : Value.Layout layout)
include hlayout

/-- Texts are read back from any layout. -/
theorem faithful_strings : Faithful (list? string?) (fun xs => layout (.strings xs)) fun _ => True := by
  have hlist := Faithful.laidList hlayout (faithful_string.laid fun s _ => hlayout.str s)
  exact ⟨fun _ _ _ _ => trivial, fun xs _ => hlist.present xs fun _ _ => trivial,
    fun xs _ => hlist.back xs fun _ _ => trivial⟩

/-- Notes are read back. -/
theorem Metadata.faithful : Faithful Metadata.decode? (fun m => layout m.toValue) Metadata.Readable where
  kind v m hv h := by
    unfold Metadata.decode? at h
    obtain ⟨named, hnamed, h⟩ := Option.bind_eq_some_iff.1 h
    obtain ⟨signalWeight, -, h⟩ := Option.bind_eq_some_iff.1 h
    obtain ⟨updatedAt, hupdatedAt, h⟩ := Option.bind_eq_some_iff.1 h
    obtain ⟨description, -, h⟩ := Option.bind_eq_some_iff.1 h
    obtain ⟨tags, -, h⟩ := Option.bind_eq_some_iff.1 h
    cases h
    exact of_maybe (fun v t hv _ => faithful_timestamp.kind v t hv) (fromData_fields? hv hnamed) hupdatedAt
  present m _ := hlayout.obj_ne_null m.nodup_fields
  back m hm := by
    obtain ⟨gs, hgs, hnodup, hget⟩ := hlayout.obj m.fields m.nodup_fields
    have htoValue : layout m.toValue = .obj gs := hgs
    have hweight : maybe gs.named "signalWeight" float? = some m.signalWeight :=
      (faithful_float.laid fun x _ => hlayout.num _).maybe_laid hget (fun _ _ => trivial)
        (by simp [Metadata.fields])
    have hupdatedAt : maybe gs.named "updatedAt" Timestamp.decode? = some m.updatedAt :=
      (faithful_timestamp.laid fun t _ => hlayout.str _).maybe_laid hget hm
        (by simp [Metadata.fields])
    have hdescription : maybe gs.named "description" string? = some m.description :=
      maybe_text hlayout hget (by simp [Metadata.fields])
    have htags : maybe gs.named "tags" (list? string?) = some m.tags :=
      (faithful_strings hlayout).maybe_laid hget (fun _ _ => trivial)
        (by simp [Metadata.fields])
    rw [htoValue, Metadata.decode?, Fields.fields?_ofValue hnodup]
    dsimp only [Option.bind_eq_bind, Option.bind_some]
    rw [hweight, hupdatedAt, hdescription, htags]
    rfl

/-- **Rules are read back**, with all their conditions and actions. -/
theorem Rule.faithful : Faithful Rule.decode? (fun r => layout r.toValue) Rule.Readable where
  kind v r hv h := by
    unfold Rule.decode? at h
    obtain ⟨named, hnamed, h⟩ := Option.bind_eq_some_iff.1 h
    obtain ⟨id, -, h⟩ := Option.bind_eq_some_iff.1 h
    obtain ⟨priority, hpriority, h⟩ := Option.bind_eq_some_iff.1 h
    obtain ⟨conditions, hconditions, h⟩ := Option.bind_eq_some_iff.1 h
    obtain ⟨actions, hactions, h⟩ := Option.bind_eq_some_iff.1 h
    obtain ⟨metadata, hmetadata, h⟩ := Option.bind_eq_some_iff.1 h
    cases h
    have hdata := fromData_fields? hv hnamed
    exact
      { priority := of_optional faithful_signed.kind hdata rfl hpriority
        conditions := of_optional (Condition.faithful hlayout).list.kind hdata (List.forall_mem_nil _)
          hconditions
        actions := of_optional (Action.faithful hlayout).list.kind hdata (List.forall_mem_nil _) hactions
        metadata := of_optional (Metadata.faithful hlayout).kind hdata (by rintro t ⟨⟩) hmetadata }
  present r _ := hlayout.obj_ne_null r.nodup_fields
  back r hr := by
    obtain ⟨gs, hgs, hnodup, hget⟩ := hlayout.obj r.fields r.nodup_fields
    have htoValue : layout r.toValue = .obj gs := hgs
    have hid : required gs.named "id" string? = some r.id := required_text hlayout hget rfl
    have hpriority : optional gs.named "priority" 0 signed? = some r.priority :=
      (faithful_signed.laid fun n _ => hlayout.num _).optional_laid hget 0 hr.priority rfl
    have hconditions : optional gs.named "conditions" [] (list? Condition.decode?) = some r.conditions :=
      ((Condition.faithful hlayout).laidList hlayout).optional_laid hget [] hr.conditions rfl
    have hactions : optional gs.named "actions" [] (list? Action.decode?) = some r.actions :=
      ((Action.faithful hlayout).laidList hlayout).optional_laid hget [] hr.actions rfl
    have hmetadata : optional gs.named "metadata" {} Metadata.decode? = some r.metadata := by
      cases hempty : r.metadata.isEmpty with
      | true =>
        rw [Metadata.eq_of_isEmpty hempty]
        refine optional_missing hget _ _ ?_
        rw [Rule.fields, hempty]
        rfl
      | false =>
        refine (Metadata.faithful hlayout).optional_laid hget _ hr.metadata ?_
        rw [Rule.fields, hempty]
        rfl
    rw [htoValue, Rule.decode?, Fields.fields?_ofValue hnodup]
    dsimp only [Option.bind_eq_bind, Option.bind_some]
    rw [hid, hpriority, hconditions, hactions, hmetadata]
    rfl

end Rules

/-! ## Rule sets and patches -/

/-- The settings of scoring and learning that can be read. -/
structure Learning.Readable (c : Learning) : Prop where
  /-- The number of workers has sixty-four bits. -/
  workers : ∀ n ∈ c.workers, n ≤ Numeral.maxWord
  /-- The number of steps has sixty-four bits. -/
  trainingSteps : c.trainingSteps ≤ Numeral.maxWord

/-- The rule sets that can be read. -/
structure RuleSet.Readable (s : RuleSet) : Prop where
  /-- The rules can be read. -/
  rules : ∀ r ∈ s.rules, r.Readable
  /-- The data is in normal form. -/
  globalContext : ∀ c ∈ s.globalContext, (Value.obj c).Normal
  /-- The settings can be read. -/
  learning : ∀ c ∈ s.learning, c.Readable

/-- The patches that can be read. -/
structure Patch.Readable (p : Patch) : Prop where
  /-- The priority has sixty-four bits. -/
  priority : ∀ n ∈ p.priority, Numeral.fitsSigned n = true
  /-- The conditions can be read. -/
  conditions : ∀ cs ∈ p.conditions, ∀ c ∈ cs, c.test.Readable
  /-- The actions can be read. -/
  actions : ∀ as ∈ p.actions, ∀ a ∈ as, a.Readable

/-- The fields of the settings of scoring and learning. -/
def Learning.fields (c : Learning) : Fields :=
  optionalField "parallelismLevel" .nat c.workers
    ++ [("layerDepth", .nat c.trainingSteps), ("activationThreshold", .float c.leastRank),
      ("learningEnabled", .bool c.learns)]

theorem Learning.nodup_fields (c : Learning) : c.fields.names.Nodup := by
  have hall : c.fields.names.Sublist
      (["parallelismLevel"] ++ ["layerDepth", "activationThreshold", "learningEnabled"]) := by
    rw [Learning.fields, Fields.names_append]
    exact (names_optionalField _ _ _).append (List.Sublist.refl _)
  exact List.Nodup.sublist hall (by decide)

/-- The field of a conflict policy, unless it is the usual one. -/
def ConflictPolicy.field (p : ConflictPolicy) : Fields :=
  if p = .allowAll then [] else [("conflictPolicy", .str p.name)]

theorem ConflictPolicy.names_field (p : ConflictPolicy) : p.field.names.Sublist ["conflictPolicy"] := by
  rw [ConflictPolicy.field]
  split
  · exact List.nil_sublist _
  · exact List.Sublist.refl _

/-- It is found under its name, unless the policy is the usual one. -/
@[simp] theorem ConflictPolicy.get?_field (p : ConflictPolicy) (k : String) : Fields.get? p.field k
    = if k = "conflictPolicy" ∧ p ≠ .allowAll then some (.str p.name) else none := by
  rw [ConflictPolicy.field]
  by_cases husual : p = .allowAll <;> simp [husual]

/-- The fields of a rule set. -/
def RuleSet.fields (s : RuleSet) : Fields :=
  [("rules", .arr (s.rules.map Rule.toValue))]
    ++ optionalField "globalContext" .obj s.globalContext
    ++ optionalField "neuralConfig" Learning.toValue s.learning
    ++ s.conflictPolicy.field

theorem RuleSet.nodup_fields (s : RuleSet) : s.fields.names.Nodup := by
  have hall : s.fields.names.Sublist
      ((["rules"] ++ ["globalContext"]) ++ ["neuralConfig"] ++ ["conflictPolicy"]) := by
    rw [RuleSet.fields, Fields.names_append, Fields.names_append, Fields.names_append]
    exact (((List.Sublist.refl _).append (names_optionalField _ _ _)).append
      (names_optionalField _ _ _)).append s.conflictPolicy.names_field
  exact List.Nodup.sublist hall (by decide)

/-- The fields of a patch. -/
def Patch.fields (p : Patch) : Fields :=
  optionalField "priority" .int p.priority
    ++ optionalField "conditions" (fun cs => .arr (cs.map Condition.toValue)) p.conditions
    ++ optionalField "actions" (fun as => .arr (as.map Action.toValue)) p.actions
    ++ optionalField "signalWeight" .float p.signalWeight
    ++ optionalField "description" .str p.description
    ++ optionalField "tags" .strings p.tags

/-- All fields of a patch are known. -/
theorem Patch.names_fields (p : Patch) : p.fields.names.Sublist Patch.known := by
  rw [Patch.fields, Fields.names_append, Fields.names_append, Fields.names_append, Fields.names_append,
    Fields.names_append]
  exact (((((names_optionalField _ _ _).append (names_optionalField _ _ _)).append
    (names_optionalField _ _ _)).append (names_optionalField _ _ _)).append
    (names_optionalField _ _ _)).append (names_optionalField _ _ _)

theorem Patch.nodup_fields (p : Patch) : p.fields.names.Nodup :=
  List.Nodup.sublist p.names_fields (by decide)

section RuleSets

variable {layout : Value → Value} (hlayout : Value.Layout layout)
include hlayout

/-- The settings of scoring and learning are read back. -/
theorem Learning.faithful : Faithful Learning.decode? (fun c => layout c.toValue) Learning.Readable where
  kind v c hv h := by
    unfold Learning.decode? at h
    obtain ⟨named, hnamed, h⟩ := Option.bind_eq_some_iff.1 h
    obtain ⟨workers, hworkers, h⟩ := Option.bind_eq_some_iff.1 h
    obtain ⟨trainingSteps, htrainingSteps, h⟩ := Option.bind_eq_some_iff.1 h
    obtain ⟨leastRank, -, h⟩ := Option.bind_eq_some_iff.1 h
    obtain ⟨learns, -, h⟩ := Option.bind_eq_some_iff.1 h
    cases h
    have hdata := fromData_fields? hv hnamed
    exact
      { workers := of_maybe (fun v n hv _ => faithful_word.kind v n hv) hdata hworkers
        trainingSteps := of_optional faithful_word.kind hdata (by decide) htrainingSteps }
  present c _ := hlayout.obj_ne_null c.nodup_fields
  back c hc := by
    obtain ⟨gs, hgs, hnodup, hget⟩ := hlayout.obj c.fields c.nodup_fields
    have htoValue : layout c.toValue = .obj gs := hgs
    have hworkers : maybe gs.named "parallelismLevel" word? = some c.workers :=
      (faithful_word.laid fun n _ => hlayout.num _).maybe_laid hget hc.workers
        (by simp [Learning.fields])
    have hsteps : optional gs.named "layerDepth" 3 word? = some c.trainingSteps :=
      (faithful_word.laid fun n _ => hlayout.num _).optional_laid hget 3 hc.trainingSteps
        (by simp [Learning.fields])
    have hrank : optional gs.named "activationThreshold" 0.5 float? = some c.leastRank :=
      (faithful_float.laid fun x _ => hlayout.num _).optional_laid hget 0.5 trivial
        (by simp [Learning.fields])
    have hlearns : optional gs.named "learningEnabled" false bool? = some c.learns :=
      (faithful_bool.laid fun b _ => hlayout.bool b).optional_laid hget false trivial
        (by simp [Learning.fields])
    rw [htoValue, Learning.decode?, Fields.fields?_ofValue hnodup]
    dsimp only [Option.bind_eq_bind, Option.bind_some]
    rw [hworkers, hsteps, hrank, hlearns]
    rfl

/-- **Rule sets are read back.** -/
theorem RuleSet.faithful : Faithful RuleSet.decode? (fun s => layout s.toValue) RuleSet.Readable where
  kind v s hv h := by
    unfold RuleSet.decode? at h
    obtain ⟨named, hnamed, h⟩ := Option.bind_eq_some_iff.1 h
    obtain ⟨rules, hrules, h⟩ := Option.bind_eq_some_iff.1 h
    obtain ⟨globalContext, hglobalContext, h⟩ := Option.bind_eq_some_iff.1 h
    obtain ⟨learning, hlearning, h⟩ := Option.bind_eq_some_iff.1 h
    obtain ⟨conflictPolicy, -, h⟩ := Option.bind_eq_some_iff.1 h
    cases h
    have hdata := fromData_fields? hv hnamed
    exact
      { rules := of_optional (Rule.faithful hlayout).list.kind hdata (List.forall_mem_nil _) hrules
        globalContext := of_maybe (fun v c hv _ => faithful_context.kind v c hv) hdata hglobalContext
        learning := of_maybe (fun v c hv _ => (Learning.faithful hlayout).kind v c hv) hdata hlearning }
  present s _ := hlayout.obj_ne_null s.nodup_fields
  back s hs := by
    obtain ⟨gs, hgs, hnodup, hget⟩ := hlayout.obj s.fields s.nodup_fields
    have htoValue : layout s.toValue = .obj gs := hgs
    have hrules : optional gs.named "rules" [] (list? Rule.decode?) = some s.rules :=
      ((Rule.faithful hlayout).laidList hlayout).optional_laid hget [] hs.rules rfl
    have hcontext : maybe gs.named "globalContext" context? = some s.globalContext :=
      (faithful_context.laid fun c hc => hlayout.normal _ hc).maybe_laid hget hs.globalContext
        (by simp [RuleSet.fields])
    have hlearning : maybe gs.named "neuralConfig" Learning.decode? = some s.learning :=
      (Learning.faithful hlayout).maybe_laid hget hs.learning (by simp [RuleSet.fields])
    have hpolicy : optional gs.named "conflictPolicy" .allowAll ConflictPolicy.decode?
        = some s.conflictPolicy := by
      by_cases husual : s.conflictPolicy = .allowAll
      · rw [husual]
        exact optional_missing hget _ _ (by simp [RuleSet.fields, husual])
      · exact (faithful_policy.laid fun p _ => hlayout.str _).optional_laid hget _ trivial
          (by simp [RuleSet.fields, husual])
    rw [htoValue, RuleSet.decode?, Fields.fields?_ofValue hnodup]
    dsimp only [Option.bind_eq_bind, Option.bind_some]
    rw [hrules, hcontext, hlearning, hpolicy]
    rfl

/-- **Patches are read back.** -/
theorem Patch.faithful : Faithful Patch.decode? (fun p => layout p.toValue) Patch.Readable where
  kind v p hv h := by
    unfold Patch.decode? at h
    obtain ⟨named, hnamed, h⟩ := Option.bind_eq_some_iff.1 h
    obtain ⟨_, -, h⟩ := Option.bind_eq_some_iff.1 h
    obtain ⟨priority, hpriority, h⟩ := Option.bind_eq_some_iff.1 h
    obtain ⟨conditions, hconditions, h⟩ := Option.bind_eq_some_iff.1 h
    obtain ⟨actions, hactions, h⟩ := Option.bind_eq_some_iff.1 h
    obtain ⟨signalWeight, -, h⟩ := Option.bind_eq_some_iff.1 h
    obtain ⟨description, -, h⟩ := Option.bind_eq_some_iff.1 h
    obtain ⟨tags, -, h⟩ := Option.bind_eq_some_iff.1 h
    cases h
    have hdata := fromData_fields? hv hnamed
    exact
      { priority := of_maybe (fun v n hv _ => faithful_signed.kind v n hv) hdata hpriority
        conditions := of_maybe (fun v cs hv _ => (Condition.faithful hlayout).list.kind v cs hv) hdata
          hconditions
        actions := of_maybe (fun v as hv _ => (Action.faithful hlayout).list.kind v as hv) hdata hactions }
  present p _ := hlayout.obj_ne_null p.nodup_fields
  back p hp := by
    obtain ⟨gs, hgs, hnodup, hget⟩ := hlayout.obj p.fields p.nodup_fields
    have htoValue : layout p.toValue = .obj gs := hgs
    have hknown : onlyKnown Patch.known gs.named = true := by
      rw [onlyKnown, List.all_eq_true]
      intro f hf
      obtain ⟨g, hg, rfl⟩ := List.mem_map.1 hf
      have hname : Fields.get? p.fields g.1 ≠ none := by
        intro hnone
        have hgone : Fields.get? gs g.1 = none := by rw [hget, hnone, Option.map_none]
        exact Fields.get?_eq_none_iff.1 hgone (List.mem_map_of_mem hg)
      have hmem : g.1 ∈ p.fields.names := by
        by_contra hmissing
        exact hname (Fields.get?_eq_none_iff.2 hmissing)
      exact List.contains_iff_mem.2 (p.names_fields.subset hmem)
    have hpriority : maybe gs.named "priority" signed? = some p.priority :=
      (faithful_signed.laid fun n _ => hlayout.num _).maybe_laid hget hp.priority
        (by simp [Patch.fields])
    have hconditions : maybe gs.named "conditions" (list? Condition.decode?) = some p.conditions :=
      ((Condition.faithful hlayout).laidList hlayout).maybe_laid hget hp.conditions
        (by simp [Patch.fields])
    have hactions : maybe gs.named "actions" (list? Action.decode?) = some p.actions :=
      ((Action.faithful hlayout).laidList hlayout).maybe_laid hget hp.actions
        (by simp [Patch.fields])
    have hweight : maybe gs.named "signalWeight" float? = some p.signalWeight :=
      (faithful_float.laid fun x _ => hlayout.num _).maybe_laid hget (fun _ _ => trivial)
        (by simp [Patch.fields])
    have hdescription : maybe gs.named "description" string? = some p.description :=
      maybe_text hlayout hget (by simp [Patch.fields])
    have htags : maybe gs.named "tags" (list? string?) = some p.tags :=
      (faithful_strings hlayout).maybe_laid hget (fun _ _ => trivial)
        (by simp [Patch.fields])
    rw [htoValue, Patch.decode?, Fields.fields?_ofValue hnodup]
    dsimp only [Option.bind_eq_bind, Option.bind_some]
    rw [hknown, (Option.guard_eq_some' ()).2 rfl, Option.bind_some, hpriority, hconditions, hactions,
      hweight, hdescription, htags]
    rfl

end RuleSets

/-! ## The main statement -/

/-- **What was read and is written is read as the same.**  Data with finite doubles is read as a rule set, with
whatever keys it has beside the known ones, other names, nulls and fields that are left out.  The rule set, as
data again, is read as this rule set; so it is when the fields of all records are put into order.  The same
holds of patches. -/
theorem written_rules_are_read_back {v : Value} (hv : v.Finite) :
    (∀ s, RuleSet.decode? (ofValue v) = some s →
      RuleSet.decode? (ofValue s.toValue) = some s
      ∧ RuleSet.decode? (ofValue s.toValue.canonical) = some s)
    ∧ ∀ p, Patch.decode? (ofValue v) = some p →
      Patch.decode? (ofValue p.toValue) = some p
      ∧ Patch.decode? (ofValue p.toValue.canonical) = some p := by
  refine ⟨fun s hs => ?_, fun p hp => ?_⟩
  · have hreadable : s.Readable := (RuleSet.faithful Value.layout_id).kind v s hv hs
    exact ⟨(RuleSet.faithful Value.layout_id).back s hreadable,
      (RuleSet.faithful Value.layout_canonical).back s hreadable⟩
  · have hreadable : p.Readable := (Patch.faithful Value.layout_id).kind v p hv hp
    exact ⟨(Patch.faithful Value.layout_id).back p hreadable,
      (Patch.faithful Value.layout_canonical).back p hreadable⟩

/-- A document with another name for a field, an operator in small letters, nulls, an unknown key, notes and
settings. -/
def greetingDocument : Value := .obj [
  ("rules", .arr [.obj [
    ("id", .str "greet"),
    ("conditions", .arr [.obj [("field", .str "user.email"), ("type", .str "regex"), ("regex", .str "@"),
      ("operator", .str "or")]]),
    ("actions", .arr [.obj [("type", .str "transform"), ("target", .str "greeting"),
      ("functionName", .str "upper"), ("value", .null)]]),
    ("metadata", .obj [("tags", .arr [.str "mail"]), ("signalWeight", .float 0.25), ("updatedAt", .null),
      ("description", .str "greets")]),
    ("author", .str "nobody")]]),
  ("neuralConfig", .obj [("learningEnabled", .bool true), ("parallelismLevel", .nat 4)]),
  ("conflictPolicy", .str "priority_wins"),
  ("globalContext", .obj [("locale", .str "en"), ("brand", .null)])]

/-- The rule set of this document. -/
def greetingRules : RuleSet where
  rules := [{
    id := "greet"
    conditions := [{ field := "user.email", test := .regex "@", operator := some .or }]
    actions := [.transform "greeting" "upper" none]
    metadata := { signalWeight := some 0.25, description := some "greets", tags := some ["mail"] } }]
  globalContext := some [("brand", .null), ("locale", .str "en")]
  learning := some { workers := some 4, learns := true }
  conflictPolicy := .priorityWins

/-- A document of a change, which leaves the conditions as they are. -/
def greetingChange : Value := .obj [
  ("tags", .arr [.str "mail", .str "new"]), ("priority", .int (-3)), ("conditions", .null),
  ("actions", .arr [.obj [("target", .str "greeting"), ("type", .str "set")]]), ("signalWeight", .float 0.75)]

/-- The patch of this document. -/
def greetingPatch : Patch where
  priority := some (-3)
  actions := some [.set "greeting" .null]
  signalWeight := some 0.75
  tags := some ["mail", "new"]

/-- A rule set and a patch. -/
theorem written_rules_are_read_back_greeting :
    (greetingDocument.Finite
      ∧ RuleSet.decode? (ofValue greetingDocument) = some greetingRules
      ∧ RuleSet.decode? (ofValue greetingRules.toValue) = some greetingRules
      ∧ RuleSet.decode? (ofValue greetingRules.toValue.canonical) = some greetingRules)
    ∧ greetingChange.Finite
      ∧ Patch.decode? (ofValue greetingChange) = some greetingPatch
      ∧ Patch.decode? (ofValue greetingPatch.toValue) = some greetingPatch
      ∧ Patch.decode? (ofValue greetingPatch.toValue.canonical) = some greetingPatch := by
  have hquarter : (0.25 : Float).isFinite = true := by decide +kernel
  have hmost : (0.75 : Float).isFinite = true := by decide +kernel
  have hset : greetingDocument.Finite := by
    simp [greetingDocument, Value.Finite, Value.All, Value.AllItems, Value.AllFields, hquarter]
  have hchange : greetingChange.Finite := by
    simp [greetingChange, Value.Finite, Value.All, Value.AllItems, Value.AllFields, hmost]
  have hread : RuleSet.decode? (ofValue greetingDocument) = some greetingRules := rfl
  have hpatch : Patch.decode? (ofValue greetingChange) = some greetingPatch := rfl
  exact ⟨⟨hset, hread, (written_rules_are_read_back hset).1 greetingRules hread⟩,
    hchange, hpatch, (written_rules_are_read_back hchange).2 greetingPatch hpatch⟩

end Arbiter
