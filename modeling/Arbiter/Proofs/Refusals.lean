import Arbiter.Engine.Load
/-!
# Operations that fail change nothing

A rule set is looked at twice before it comes into force: validation goes through all of it, and the
rulebook looks for names that occur twice once more.  The engine is only safe because the second look
never finds anything that the first let pass: between the two stand the signal and the workers of the new
set.  `repeatedIds_eq_nil_iff` and `Validation.errors_idsFrom_eq_nil_iff` say what each of them asks of the
names, and `Engine.load_eq` puts the two together: a set is refused exactly if it is not valid.

The main statement is `failed_operations_change_nothing`.
-/

namespace Arbiter

/-! ## The names of a rule set, looked at twice -/

/-- The rulebook lets names pass exactly if they are all different, and none was seen before. -/
theorem repeatedIds_eq_nil_iff {seen ids : List String} :
    repeatedIds seen ids = [] ↔ ids.Nodup ∧ ∀ id ∈ ids, id ∉ seen := by
  induction ids generalizing seen with
  | nil => simp [repeatedIds]
  | cons id rest ih =>
    rw [repeatedIds, List.nodup_cons, List.forall_mem_cons]
    by_cases hseen : id ∈ seen
    · simp [hseen]
    · rw [if_neg (by simpa using hseen), ih]
      constructor
      · rintro ⟨hnodup, hrest⟩
        have hnew : id ∉ rest := fun hid => hrest id hid List.mem_cons_self
        exact ⟨⟨hnew, hnodup⟩, hseen, fun other h hin => hrest other h (List.mem_cons_of_mem _ hin)⟩
      · rintro ⟨⟨hnew, hnodup⟩, -, hrest⟩
        refine ⟨hnodup, fun other h hin => ?_⟩
        rcases List.mem_cons.1 hin with rfl | hin
        · exact hnew h
        · exact hrest other h hin

namespace Validation

@[simp] theorem errors_append (a b : Validation) : (a ++ b).errors = a.errors ++ b.errors := rfl

@[simp] theorem errors_none : none.errors = [] := rfl

@[simp] theorem errors_error (path message : String) :
    (error path message).errors = [⟨path, message⟩] := rfl

@[simp] theorem errors_warning (path message : String) (suggestion : Option String) :
    (warning path message suggestion).errors = [] := rfl

@[simp] theorem errors_orNone (p : Bool) (v : Validation) :
    (orNone p v).errors = if p then v.errors else [] := by
  cases p <;> rfl

/-- Validation lets names pass exactly if none is blank, they are all different, and none was seen
before. -/
theorem errors_idsFrom_eq_nil_iff {i : Nat} {seen ids : List String} :
    (idsFrom i seen ids).errors = []
      ↔ (∀ id ∈ ids, Text.isBlankText id = false) ∧ repeatedIds seen ids = [] := by
  induction ids generalizing i seen with
  | nil => simp [idsFrom, repeatedIds]
  | cons id rest ih =>
    rw [idsFrom, List.forall_mem_cons]
    by_cases hblank : Text.isBlankText id = true
    · simp [hblank]
    · have hfull : Text.isBlankText id = false := by simpa using hblank
      by_cases hseen : id ∈ seen
      · simp [hfull, hseen, repeatedIds]
      · simp [hfull, hseen, repeatedIds, ih]

/-- A validation approves exactly if it has no errors. -/
theorem isValid_iff {v : Validation} : v.isValid = true ↔ v.errors = [] := by
  rw [isValid, List.isEmpty_iff]

/-- The names of a valid rule set are all different. -/
theorem repeatedIds_of_isValid {set : RuleSet} {handlers : Option Handlers}
    (h : (ofRuleSet set handlers).isValid = true) : repeatedIds [] (set.rules.map (·.id)) = [] := by
  rw [isValid_iff, ofRuleSet, errors_append, errors_append, List.append_eq_nil_iff,
    List.append_eq_nil_iff] at h
  exact (errors_idsFrom_eq_nil_iff.1 h.1.1).2

end Validation

/-- **The rulebook refuses no set that is valid.** -/
theorem Rulebook.load_of_isValid (book : Rulebook) {set : RuleSet} {handlers : Option Handlers}
    (h : (Validation.ofRuleSet set handlers).isValid = true) : book.load set = .ok ⟨set⟩ := by
  rw [load, Validation.repeatedIds_of_isValid h]

namespace Engine

/-! ## What an operation comes to -/

variable (e : Engine)

/-- **A rule set is put into force if it is valid, and refused if not**; there is no third way. -/
theorem load_eq (set : RuleSet) :
    e.load set = if (Validation.ofRuleSet set (some e.handlers)).isValid then
        (.ok set.rules.length, (e.activate ⟨set⟩).emit
          (.rulesLoaded set.rules.length (set.rules.map (·.id)) set))
      else e.refuse (.load (Validation.ofRuleSet set (some e.handlers)).summary) := by
  rw [load]
  by_cases h : (Validation.ofRuleSet set (some e.handlers)).isValid = true
  · simp only [h, e.rulebook.load_of_isValid h]
    rfl
  · simp [h]

/-- A set is refused exactly if it is not valid, and the error sums up its validation. -/
theorem load_eq_error_iff {set : RuleSet} {err : Fault} :
    (e.load set).1 = .error err ↔ (Validation.ofRuleSet set (some e.handlers)).isValid = false
      ∧ err = .load (Validation.ofRuleSet set (some e.handlers)).summary := by
  rw [load_eq]
  by_cases h : (Validation.ofRuleSet set (some e.handlers)).isValid = true
  · simp [h]
  · simp [h, refuse, eq_comm]

/-- A refused set leaves the engine as it was, but for the event that reports the refusal. -/
theorem load_of_error {set : RuleSet} {err : Fault} (h : (e.load set).1 = .error err) :
    e.load set = e.refuse err := by
  obtain ⟨hinvalid, rfl⟩ := (e.load_eq_error_iff).1 h
  rw [load_eq, hinvalid]
  rfl

/-- So does a refused text, whether it cannot be read or its rules are not valid. -/
theorem loadText_of_error {text : String} {err : Fault} (h : (e.loadText text).1 = .error err) :
    e.loadText text = e.refuse err := by
  rw [loadText] at h ⊢
  cases hfile : RuleSet.ofFile text with
  | ok set =>
    rw [hfile] at h
    exact e.load_of_error h
  | error problem =>
    rw [hfile] at h
    obtain rfl : problem = err := Except.error.inj h
    rfl

/-- A text is refused if it holds no rule set, or one that is not valid. -/
theorem loadText_fails_iff {text : String} : (∃ err, (e.loadText text).1 = .error err)
    ↔ ∀ set, RuleSet.ofFile text = .ok set →
      (Validation.ofRuleSet set (some e.handlers)).isValid = false := by
  rw [loadText]
  cases RuleSet.ofFile text with
  | ok set =>
    constructor
    · rintro ⟨err, herr⟩ set' hset
      obtain rfl : set = set' := Except.ok.inj hset
      exact (e.load_eq_error_iff.1 herr).1
    · intro h
      exact ⟨_, e.load_eq_error_iff.2 ⟨h set rfl, rfl⟩⟩
  | error err =>
    constructor
    · rintro - set hset
      cases hset
    · intro
      exact ⟨err, rfl⟩

/-- A rule that is not in the book cannot be updated, and nothing happens. -/
theorem update_of_unknown {id : String} (patch : Patch) (now : Timestamp)
    (h : e.rulebook.find? id = none) :
    e.update id patch now = (.error (e.rulebook.notFound id), e) := by
  rw [update, Rulebook.update, h]

/-- An update that fails leaves the engine as it was, without an event. -/
theorem update_of_error {id : String} {patch : Patch} {now : Timestamp} {err : Fault}
    (herr : (e.update id patch now).1 = .error err) : e.update id patch now = (.error err, e) := by
  cases h : e.rulebook.find? id with
  | none =>
    rw [update_of_unknown e patch now h] at herr ⊢
    rw [Except.error.inj herr]
  | some r =>
    rw [update, Rulebook.update, h] at herr
    cases herr

/-- The engine after its subscribers were told that a load failed. -/
def warned (err : Fault) : Engine :=
  { e with events := e.events.emit (.error "load" err.message) }

end Engine

/-! ## The main statement -/

/-- **An operation of an engine that fails changes nothing.**  After a load that fails, of a rule set, a
text or a file, the subscribers were told once, and all else is as before; after an update that fails, all
is as before.  A set fails exactly if it is not valid, and so does one in which a name occurs twice; a text
fails exactly if it holds no valid set, as a blank one does; an update fails exactly if there is no rule of
that name. -/
theorem failed_operations_change_nothing (e : Engine) :
    ((∀ set err, (e.load set).1 = .error err → (e.load set).2 = e.warned err)
      ∧ (∀ text err, (e.loadText text).1 = .error err → (e.loadText text).2 = e.warned err)
      ∧ (∀ file err, (e.loadFile file).1 = .error err → (e.loadFile file).2 = e.warned err)
      ∧ ∀ id patch now err, (e.update id patch now).1 = .error err → (e.update id patch now).2 = e)
    ∧ ((∀ set, (∃ err, (e.load set).1 = .error err)
        ↔ (Validation.ofRuleSet set (some e.handlers)).isValid = false)
      ∧ (∀ set : RuleSet, ¬ (set.rules.map (·.id)).Nodup → ∃ err, (e.load set).1 = .error err))
    ∧ ((∀ text, (∃ err, (e.loadText text).1 = .error err)
        ↔ ∀ set, RuleSet.ofFile text = .ok set →
          (Validation.ofRuleSet set (some e.handlers)).isValid = false)
      ∧ ∀ text, Text.isBlankText text = true →
        (e.loadText text).1 = .error (.load "rule file is empty"))
    ∧ ∀ id patch now, (∃ err, (e.update id patch now).1 = .error err)
      ↔ ∀ r ∈ e.rulebook.active.rules, r.id ≠ id := by
  have hset : ∀ set err, (e.load set).1 = .error err → (e.load set).2 = e.warned err := by
    intro set err h
    rw [e.load_of_error h]
    rfl
  have htext : ∀ text err, (e.loadText text).1 = .error err → (e.loadText text).2 = e.warned err := by
    intro text err h
    rw [e.loadText_of_error h]
    rfl
  have hinvalid : ∀ set, (∃ err, (e.load set).1 = .error err)
      ↔ (Validation.ofRuleSet set (some e.handlers)).isValid = false := by
    intro set
    simp only [e.load_eq_error_iff, exists_and_left, exists_eq, and_true]
  refine ⟨⟨hset, htext, ?_, ?_⟩, ⟨hinvalid, ?_⟩, ⟨fun _ => e.loadText_fails_iff, ?_⟩, ?_⟩
  · intro file err h
    cases file with
    | ok text => exact htext text err h
    | error reason =>
      obtain rfl : .io reason = err := Except.error.inj h
      rfl
  · intro id patch now err h
    rw [e.update_of_error h]
  · -- a name that occurs twice is found by validation, before the rulebook would find it
    intro set hrepeated
    rw [hinvalid, ← Bool.not_eq_true]
    intro hvalid
    exact hrepeated (repeatedIds_eq_nil_iff.1 (Validation.repeatedIds_of_isValid hvalid)).1
  · intro text hblank
    rw [Engine.loadText, RuleSet.ofFile, if_pos hblank]
    rfl
  · intro id patch now
    have hfind : e.rulebook.find? id = none ↔ ∀ r ∈ e.rulebook.active.rules, r.id ≠ id := by
      simp [Rulebook.find?]
    rw [← hfind]
    constructor
    · rintro ⟨err, herr⟩
      cases h : e.rulebook.find? id with
      | none => rfl
      | some r =>
        rw [Engine.update, Rulebook.update, h] at herr
        cases herr
    · intro h
      rw [e.update_of_unknown patch now h]
      exact ⟨_, rfl⟩

/-- An engine with a subscriber and one rule. -/
def Engine.greeting : Engine :=
  ((Engine.ofSettings {}).subscribe.load { rules := [{ id := "greet" }] }).2

/-- A set with a rule given twice is refused, and so is an update of a rule that is not there. -/
theorem failed_operations_change_nothing_greeting :
    let twice : RuleSet := { rules := [{ id := "greet", priority := 3 }, { id := "greet" }] }
    let err : Fault := .load "rules[1].id: duplicate rule id 'greet'"
    let missing : Fault := .notFound "gret" (some "greet")
    let now : Timestamp := ⟨0, 0, 0⟩
    (Engine.greeting.load twice).1 = .error err
    ∧ (Engine.greeting.load twice).2 = Engine.greeting.warned err
    ∧ (Engine.greeting.update "gret" {} now).1 = .error missing
    ∧ (Engine.greeting.update "gret" {} now).2 = Engine.greeting := by
  intro twice err missing now
  obtain ⟨⟨hset, -, -, hupdate⟩, -, -, -⟩ := failed_operations_change_nothing Engine.greeting
  have hload : (Engine.greeting.load twice).1 = .error err := by rfl
  have hmissing : (Engine.greeting.update "gret" {} now).1 = .error missing := by rfl
  exact ⟨hload, hset twice err hload, hmissing, hupdate "gret" {} now missing hmissing⟩

end Arbiter
