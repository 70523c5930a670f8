import Arbiter.Proofs.Operations
import Arbiter.Proofs.Plans
import Mathlib.Tactic.MkIffOfInductiveProp
/-!
# The active rules stay legal

Validation stands before a load, and before nothing else: a patch comes into force unseen, and what the
optimizer computes too.  Still an engine should never hold a rule set that it would not load again.

1. **What is legal** is said here without validation (`RuleSet.Legal`), and `isValid_ofRuleSet_iff` says that
   validation finds just that, whatever handlers are registered: those it only warns about.
2. **Replacing a rule** of a legal set by one of the same name leaves it legal exactly if the new rule is
   (`RuleSet.Legal.replace_iff`), and a legal rule stays so under a patch exactly if the patch is legal
   (`Patch.legal_apply_iff`).  So the patches of the optimizer, which carry nothing but a priority and a
   weight in the interval, never do harm.
3. **An illegal patch does.**  Nothing keeps it out, so that the statement has to leave out updates with such
   patches, and `illegal_update_is_not_reloadable` shows one of them.

The main statement is `active_rules_stay_legal`.
-/

namespace Arbiter

/-! ## What is legal -/

/-- The name of the function an action calls. -/
def Action.function? : Action → Option String
  | .trigger function _ => some function
  | .transform _ function _ => some function
  | _ => none

/-- An action whose names are there. -/
@[mk_iff]
structure Action.Legal (a : Action) : Prop where
  /-- What it writes to, if it writes. -/
  target : ∀ target ∈ a.target?, Text.isBlankText target = false
  /-- What it calls, if it calls. -/
  function : ∀ function ∈ a.function?, Text.isBlankText function = false

/-- A condition whose field is there. -/
def Condition.Legal (c : Condition) : Prop := Text.isBlankText c.field = false

/-- A rule that can be loaded, apart from its name. -/
@[mk_iff]
structure Rule.Legal (r : Rule) : Prop where
  /-- The weight is in the interval, if there is one. -/
  weight : ∀ w ∈ r.signalWeight, Validation.inUnit w = true
  /-- The conditions. -/
  conditions : ∀ c ∈ r.conditions, c.Legal
  /-- The actions. -/
  actions : ∀ a ∈ r.actions, a.Legal

/-- Settings of scoring and learning that can be loaded. -/
@[mk_iff]
structure Learning.Legal (c : Learning) : Prop where
  /-- Somebody works. -/
  workers : c.workers ≠ some 0
  /-- The least rank is in the interval. -/
  leastRank : Validation.inUnit c.leastRank = true

/-- A rule set that can be loaded. -/
@[mk_iff]
structure RuleSet.Legal (s : RuleSet) : Prop where
  /-- Every rule has a name. -/
  named : ∀ id ∈ s.rules.map (·.id), Text.isBlankText id = false
  /-- The names are different. -/
  distinct : (s.rules.map (·.id)).Nodup
  /-- The settings of scoring and learning, if there are any. -/
  learning : ∀ c ∈ s.learning, c.Legal
  /-- The rules. -/
  rules : ∀ r ∈ s.rules, r.Legal

/-- A patch that leaves a legal rule legal. -/
@[mk_iff]
structure Patch.Legal (p : Patch) : Prop where
  /-- The weight, if the patch has one. -/
  weight : ∀ w ∈ p.signalWeight, Validation.inUnit w = true
  /-- The conditions, if the patch has some. -/
  conditions : ∀ conditions ∈ p.conditions, ∀ c ∈ conditions, c.Legal
  /-- The actions, if the patch has some. -/
  actions : ∀ actions ∈ p.actions, ∀ a ∈ actions, a.Legal

/-! ## What validation finds -/

namespace Validation

variable {handlers : Option Handlers} {path : String}

/-- Items have no errors if none of them has one, wherever they stand. -/
theorem errors_itemsFrom_eq_nil_iff (check : String → α → Validation) {Ok : α → Prop}
    (hcheck : ∀ path x, (check path x).errors = [] ↔ Ok x) {base : String} {i : Nat} {xs : List α} :
    (itemsFrom check base i xs).errors = [] ↔ ∀ x ∈ xs, Ok x := by
  induction xs generalizing i with
  | nil => simp [itemsFrom]
  | cons x rest ih =>
    rw [itemsFrom, errors_append, List.append_eq_nil_iff, hcheck, ih, List.forall_mem_cons]

/-- About a test there are only warnings. -/
theorem errors_test (t : Test) : (test handlers path t).errors = [] := by
  cases t with
  | equals | contains | llmEvaluate => rfl
  | regex pattern =>
    rw [test]
    split <;> rfl
  | custom handler value =>
    cases handler with
    | none => rfl
    | some name =>
      cases handlers with
      | none => rfl
      | some r => simp [test, unregistered]

/-- There is nothing wrong with a condition exactly if it is legal. -/
theorem errors_condition_eq_nil_iff {c : Condition} :
    (condition handlers path c).errors = [] ↔ c.Legal := by
  simp [condition, errors_test, Condition.Legal]

theorem errors_function_eq_nil_iff {name : String} :
    (function path name).errors = [] ↔ Text.isBlankText name = false := by
  simp [function]

/-- There is nothing wrong with an action exactly if it is legal. -/
theorem errors_action_eq_nil_iff {a : Action} : (action handlers path a).errors = [] ↔ a.Legal := by
  rw [Action.legal_iff]
  cases a with
  | set | append | llmGenerate => simp [action, Action.target?, Action.function?]
  | trigger name target =>
    simp [action, Action.target?, Action.function?, errors_function_eq_nil_iff]
  | transform target name value =>
    -- a blank name is an error; any other is looked up, and at most warned about
    by_cases hblank : Text.isBlankText name = true
    · simp [action, Action.target?, Action.function?, hblank, errors_function_eq_nil_iff]
    · cases handlers <;> simp [action, Action.target?, Action.function?, hblank, unregistered]

/-- There is nothing wrong with a rule exactly if it is legal. -/
theorem errors_rule_eq_nil_iff {r : Rule} : (rule handlers path r).errors = [] ↔ r.Legal := by
  rw [Rule.legal_iff, rule, errors_append, errors_append, List.append_eq_nil_iff, List.append_eq_nil_iff,
    errors_itemsFrom_eq_nil_iff (condition handlers) fun _ _ => errors_condition_eq_nil_iff,
    errors_itemsFrom_eq_nil_iff (action handlers) fun _ _ => errors_action_eq_nil_iff, and_assoc]
  apply and_congr_left'
  cases r.signalWeight <;> simp

theorem errors_learning_eq_nil_iff {c : Learning} : (learning c).errors = [] ↔ c.Legal := by
  simp [Learning.legal_iff, learning]

/-- **Validation lets pass exactly the legal rule sets**, whatever handlers are registered. -/
theorem isValid_ofRuleSet_iff {set : RuleSet} : (ofRuleSet set handlers).isValid = true ↔ set.Legal := by
  have hnew : ∀ id ∈ set.rules.map (·.id), id ∉ [] := fun _ _ => List.not_mem_nil
  rw [RuleSet.legal_iff, isValid_iff, ofRuleSet, errors_append, errors_append, List.append_eq_nil_iff,
    List.append_eq_nil_iff, errors_idsFrom_eq_nil_iff, repeatedIds_eq_nil_iff, and_iff_left hnew,
    errors_itemsFrom_eq_nil_iff (rule handlers) fun _ _ => errors_rule_eq_nil_iff, and_assoc, and_assoc]
  refine and_congr_right' (and_congr_right' (and_congr_left' ?_))
  cases set.learning <;> simp [errors_learning_eq_nil_iff]

end Validation

/-! ## Patches -/

/-- **A legal rule stays legal under a patch exactly if the patch is legal.** -/
theorem Patch.legal_apply_iff {p : Patch} {r : Rule} (hr : r.Legal) (now : Timestamp) :
    ((p.apply r).stamped now).Legal ↔ p.Legal := by
  have hold : ∀ w ∈ r.metadata.signalWeight, Validation.inUnit w = true := hr.weight
  have hweight : (∀ w ∈ ((p.apply r).stamped now).signalWeight, Validation.inUnit w = true)
      ↔ ∀ w ∈ p.signalWeight, Validation.inUnit w = true := by
    show (∀ w ∈ (p.signalWeight <|> r.metadata.signalWeight), _) ↔ _
    cases p.signalWeight with
    | none => simpa using hold
    | some w => rfl
  have hconditions : (∀ c ∈ ((p.apply r).stamped now).conditions, c.Legal)
      ↔ ∀ conditions ∈ p.conditions, ∀ c ∈ conditions, c.Legal := by
    show (∀ c ∈ p.conditions.getD r.conditions, _) ↔ _
    cases p.conditions with
    | none => simpa using hr.conditions
    | some cs => simp
  have hactions : (∀ a ∈ ((p.apply r).stamped now).actions, a.Legal)
      ↔ ∀ actions ∈ p.actions, ∀ a ∈ actions, a.Legal := by
    show (∀ a ∈ p.actions.getD r.actions, _) ↔ _
    cases p.actions with
    | none => simpa using hr.actions
    | some as => simp
  rw [Rule.legal_iff, Patch.legal_iff, hweight, hconditions, hactions]

/-- What a history suggests is legal. -/
theorem TrackRecord.legal_patch {history : List Verdict} (h : history.length ≤ Numeral.maxWord)
    {s : TrackRecord} (hs : s ∈ TrackRecord.ofHistory history) : s.patch.Legal where
  weight := by
    rintro w ⟨⟩
    exact inUnit_plannedWeight h hs
  conditions := by rintro cs ⟨⟩
  actions := by rintro as ⟨⟩

/-- **Replacing a rule of a legal set** by one of the same name leaves it legal exactly if the new rule is. -/
theorem RuleSet.Legal.replace_iff {set : RuleSet} (h : set.Legal) {id : String} {new : Rule}
    (hnew : new.id = id) (hid : id ∈ set.rules.map (·.id)) :
    RuleSet.Legal { set with rules := replaceRule id new set.rules } ↔ new.Legal := by
  have hnames := map_id_replaceRule hnew set.rules
  constructor
  · intro hreplaced
    exact hreplaced.rules new (mem_replaceRule_self new hid)
  · intro hlegal
    refine ⟨hnames.symm ▸ h.named, hnames.symm ▸ h.distinct, h.learning, fun r hr => ?_⟩
    rcases mem_of_mem_replaceRule hr with rfl | hold
    · exact hlegal
    · exact h.rules r hold

/-! ## Engines -/

namespace Engine

/-- An engine with legal rules, and with a history of so many results at most. -/
structure Legal (e : Engine) (n : Nat) : Prop where
  /-- The rules. -/
  rules : e.snapshot.Legal
  /-- The history. -/
  history : e.history.Within n

/-- A new engine has no rules and no history. -/
theorem legal_ofSettings (settings : Settings) (capabilities : Capabilities) (handlers : Handlers)
    (available : Nat) :
    (ofSettings settings capabilities handlers available).Legal (max settings.historyCapacity 1) where
  rules := ⟨by rintro id ⟨⟩, List.nodup_nil, by rintro c ⟨⟩, by rintro r ⟨⟩⟩
  history := Ring.within_ofCapacity _

variable {e : Engine}

/-- A patch of a rule leaves the rules legal exactly if it is legal. -/
theorem legal_patched_iff (h : e.snapshot.Legal) {id : String} {r : Rule} {patch : Patch}
    (hfind : e.rulebook.find? id = some r) (now : Timestamp) :
    (e.patched id ((patch.apply r).stamped now)).snapshot.Legal ↔ patch.Legal := by
  obtain ⟨hr, hid⟩ := Rulebook.find?_eq_some hfind
  have hmem : id ∈ e.snapshot.rules.map (·.id) := List.mem_map.2 ⟨r, hr, hid⟩
  have hname : ((patch.apply r).stamped now).id = id := hid
  exact (h.replace_iff hname hmem).trans (Patch.legal_apply_iff (h.rules r hr) now)

/-- No operation makes legal rules illegal, but for updates with illegal patches. -/
theorem preserved_legal {n : Nat} (hn : n ≤ Numeral.maxWord) :
    Preserved Patch.Legal fun e => e.Legal n where
  told := fun _ _ h => ⟨h.rules, h.history⟩
  activated := fun _ _ h hvalid => ⟨Validation.isValid_ofRuleSet_iff.1 hvalid, h.history⟩
  patched := fun _ _ _ _ now h hfind hpatch =>
    ⟨(legal_patched_iff h.rules hfind now).2 hpatch, h.history⟩
  planned := fun _ h _ hs => TrackRecord.legal_patch (Nat.le_trans h.history.length_le hn) hs
  passed := by
    rintro e context options h
    obtain ⟨timings, events, world, hafter⟩ := e.exists_evaluate context options
    rw [hafter]
    exact ⟨h.rules, h.history.extend _⟩

end Engine

/-! ## The main statement -/

/-- **The active rules can always be loaded again**, whatever was asked of the engine and whether it failed
or not, so long as the patches of all updates are legal.  Loading them again succeeds and leaves them as
they are.  The restriction is the least one there is: from such a state, an update of a rule leads to
rules that can be loaded again exactly if its patch is legal. -/
theorem active_rules_stay_legal (settings : Settings) (capabilities : Capabilities) (handlers : Handlers)
    (available : Nat) (ops : List Operation) (hcapacity : settings.historyCapacity ≤ Numeral.maxWord)
    (hops : ∀ op ∈ ops, op.Patches Patch.Legal) :
    let e := (Engine.ofSettings settings capabilities handlers available).after ops
    (∀ registered, (Validation.ofRuleSet e.snapshot registered).isValid = true)
    ∧ ((e.load e.snapshot).1 = .ok e.snapshot.rules.length ∧ (e.load e.snapshot).2.snapshot = e.snapshot)
    ∧ ∀ id r patch now registered, e.rulebook.find? id = some r →
      ((Validation.ofRuleSet (e.update id patch now).2.snapshot registered).isValid = true
        ↔ patch.Legal) := by
  intro e
  have hbound : max settings.historyCapacity 1 ≤ Numeral.maxWord := by
    rw [Numeral.maxWord] at hcapacity ⊢
    omega
  have h : e.Legal (max settings.historyCapacity 1) :=
    (Engine.preserved_legal hbound).after
      (Engine.legal_ofSettings settings capabilities handlers available) hops
  have hvalid : ∀ registered, (Validation.ofRuleSet e.snapshot registered).isValid = true :=
    fun registered => Validation.isValid_ofRuleSet_iff.2 h.rules
  refine ⟨hvalid, ?_, fun id r patch now registered hfind => ?_⟩
  · rw [e.load_eq, if_pos (hvalid _)]
    exact ⟨rfl, rfl⟩
  · rw [Validation.isValid_ofRuleSet_iff, e.update_of_known patch now hfind]
    exact Engine.legal_patched_iff h.rules hfind now

/-- A rule that is loaded, evaluated, given a condition and a weight, and optimized. -/
theorem active_rules_stay_legal_greet :
    let now : Timestamp := ⟨0, 0, 0⟩
    let greet : Rule := { id := "greet", actions := [.set "greeting" (.str "hello")] }
    let patch : Patch :=
      { signalWeight := some 0.25, conditions := some [{ field := "user.vip", test := .equals (.bool true) }] }
    let e := (Engine.ofSettings {}).after
      [.load { rules := [greet] }, .evaluate [] {}, .update "greet" patch now, .optimize now]
    patch.Legal ∧ (e.load e.snapshot).1 = .ok 1 ∧ (e.load e.snapshot).2.snapshot = e.snapshot := by
  intro now greet patch e
  have hpatch : patch.Legal := by
    refine ⟨?_, ?_, ?_⟩
    · rintro w ⟨⟩
      decide +kernel
    · rintro conditions ⟨⟩ c hc
      obtain rfl := List.mem_singleton.1 hc
      exact (by decide : Text.isBlankText "user.vip" = false)
    · rintro actions ⟨⟩
  have hops : ∀ op ∈ [.load { rules := [greet] }, .evaluate [] {}, .update "greet" patch now,
      .optimize now], Operation.Patches Patch.Legal op := by
    simp [Operation.Patches, hpatch]
  have hlength : e.snapshot.rules.length = 1 := by decide +kernel
  obtain ⟨-, ⟨hcount, hsame⟩, -⟩ := active_rules_stay_legal {} .alone .builtin 1 _ (by decide) hops
  exact ⟨hpatch, hcount.trans (congrArg Except.ok hlength), hsame⟩

/-- **An update with an illegal patch is not kept out**, and what it leaves cannot be loaded again. -/
theorem illegal_update_is_not_reloadable :
    let now : Timestamp := ⟨0, 0, 0⟩
    let e := (Engine.ofSettings {}).after
      [.load { rules := [{ id := "greet" }] }, .update "greet" { signalWeight := some 2.0 } now]
    (e.load e.snapshot).1
      = .error (.load "rules[0].metadata.signalWeight: must be in [0, 1], got 2") := by
  intro now e
  have hfound : Validation.ofRuleSet e.snapshot (some e.handlers)
      = .error "rules[0].metadata.signalWeight" "must be in [0, 1], got 2" := by
    decide +kernel
  rw [e.load_eq, hfound]
  rfl

end Arbiter
