import Arbiter.Proofs.Objections
import Arbiter.Proofs.Alignment
import Arbiter.Proofs.Turns
/-!
# What warnings foretell

Validation warns about patterns that are none and about handlers that are not there.  It looks at lists of
names; an evaluation looks handlers up, and may fail with anything a handler answers.  So the two can only be
compared in failures that are there before a handler is heard (`FailsUnheard`).

1. **Defects.**  `Test.defect?` and `Action.defect?` say what is wrong with a test or an action whatever the
   context, and depend on the names of the handlers alone.  A defect is what the evaluation fails with
   (`Condition.check_of_defect`, `Action.run_of_defect`), and all other failures are relayed from somebody
   who was asked (`Condition.defect_or_relays`, `Action.defect_or_relays`).
2. **Warnings** are about the defects, under paths that tell where they are (`RuleSet.warnsAt_condition_iff`,
   `RuleSet.warnsAt_transform_iff`).  They leave out blank names, which are objected to instead: that is why
   the rule set has to be valid.
3. **A pass** in which nothing is defective only records what was relayed.  Conditions and actions keep that
   one by one (`Fold.records_step`, `runActions_records`), and a pass is made of these.

The main statement is `warnings_foretell_failures`.
-/

namespace Arbiter

/-! ## Defects -/

/-- What a lookup fails with. -/
def refusal? : Except Fault α → Option Fault
  | .ok _ => none
  | .error e => some e

/-- What is wrong with a test, whatever it is asked about. -/
def Test.defect? (r : Handlers) : Test → Option Fault
  | .regex pattern =>
    match Pattern.compile pattern with
    | .ok _ => none
    | .error problem => some (.conditionFailure ("invalid regex '" ++ pattern ++ "': " ++ problem.message))
  | .custom name _ => refusal? (r.condition name)
  | _ => none

/-- What is wrong with an action, whatever the context. -/
def Action.defect? (r : Handlers) : Action → Option Fault
  | .transform _ name _ => refusal? (r.transform name)
  | _ => none

namespace Handlers

/-- What goes by a lookup fails exactly for the names that are not there. -/
theorem refusal?_of_lookup {table : List (String × α)} {name : String} {x : Except Fault α} {e : Fault}
    (hthere : ∀ handler, table.lookup name = some handler → x = .ok handler)
    (hmissing : table.lookup name = none → x = .error e) :
    refusal? x = if name ∈ sortNames (table.map (·.1)) then none else some e := by
  have hnames : name ∈ sortNames (table.map (·.1)) ↔ (table.lookup name).isSome = true := by
    rw [List.lookup_isSome_iff, sortNames, mem_sortBy, List.mem_map]
    simp only [beq_iff_eq, @eq_comm _ name]
  simp only [hnames]
  cases hlookup : table.lookup name with
  | none => rw [hmissing hlookup, refusal?, if_neg (by simp)]
  | some handler => rw [hthere handler hlookup, refusal?, if_pos (by simp)]

/-- A custom condition is refused exactly if nobody has registered its name. -/
theorem refusal?_condition (r : Handlers) (name : String) : refusal? (r.condition (some name))
    = if name ∈ r.conditionNames then none
      else some (.notImplemented ("no custom condition handler '" ++ name ++ "'")) :=
  refusal?_of_lookup (fun _ h => by simp [condition, h]) (fun h => by simp [condition, h])

theorem refusal?_transform (r : Handlers) (name : String) : refusal? (r.transform name)
    = if name ∈ r.transformNames then none
      else some (.notImplemented ("no transform handler '" ++ name ++ "'")) :=
  refusal?_of_lookup (fun _ h => by simp [transform, h]) (fun h => by simp [transform, h])

/-- Whether handlers are registered under the same names. -/
structure SameNames (r r' : Handlers) : Prop where
  /-- Custom conditions. -/
  conditions : r.conditionNames = r'.conditionNames
  /-- Transforms. -/
  transforms : r.transformNames = r'.transformNames

/-- Handlers under the names of others that have an answer to everything. -/
def answering (r : Handlers) : Handlers where
  conditions := r.conditions.map fun x => (x.1, fun _ _ _ => .ok true)
  transforms := r.transforms.map fun x => (x.1, fun _ _ _ => .ok none)

/-- They are registered under the names of the others. -/
theorem sameNames_answering (r : Handlers) : r.answering.SameNames r where
  conditions := by simp [conditionNames, answering, Function.comp_def]
  transforms := by simp [transformNames, answering, Function.comp_def]

/-- What is looked up where all names have one handler is that handler. -/
theorem eq_of_lookup_const {β : Type} {table : List (String × α)} {common handler : β} {name : String}
    (h : (table.map fun x => (x.1, common)).lookup name = some handler) : handler = common := by
  obtain ⟨x, -, hx⟩ := List.mem_map.1 (Table.mem_of_lookup h)
  exact (Prod.mk.inj hx).2.symm

/-- A condition that is found among them holds. -/
theorem condition_answering {r : Handlers} {name : String} {handler : ConditionHandler}
    (h : r.answering.condition (some name) = .ok handler) : handler = fun _ _ _ => .ok true := by
  cases hlookup : r.answering.conditions.lookup name with
  | none => simp [condition, hlookup] at h
  | some handler' =>
    obtain rfl : handler' = handler := by simpa [condition, hlookup] using h
    exact eq_of_lookup_const hlookup

theorem transform_answering {r : Handlers} {name : String} {handler : TransformHandler}
    (h : r.answering.transform name = .ok handler) : handler = fun _ _ _ => .ok none := by
  cases hlookup : r.answering.transforms.lookup name with
  | none => simp [transform, hlookup] at h
  | some handler' =>
    obtain rfl : handler' = handler := by simpa [transform, hlookup] using h
    exact eq_of_lookup_const hlookup

end Handlers

/-- Defects of a test depend on the names of handlers only. -/
theorem Test.defect?_congr {r r' : Handlers} (h : r.SameNames r') (t : Test) :
    t.defect? r = t.defect? r' := by
  cases t with
  | equals | contains | regex | llmEvaluate => rfl
  | custom name value =>
    cases name with
    | none => rfl
    | some name =>
      rw [defect?, defect?, Handlers.refusal?_condition, Handlers.refusal?_condition, h.conditions]

theorem Action.defect?_congr {r r' : Handlers} (h : r.SameNames r') (a : Action) :
    a.defect? r = a.defect? r' := by
  cases a with
  | set | append | llmGenerate | trigger => rfl
  | transform target name value =>
    rw [defect?, defect?, Handlers.refusal?_transform, Handlers.refusal?_transform, h.transforms]

/-! ## Defects and what is relayed -/

/-- The failures that a condition passes on from somebody who was asked. -/
inductive Condition.Relays (r : Handlers) (c : Condition) : Fault → Prop where
  /-- The call to the language model failed. -/
  | call {prompt : String} (htest : c.test = .llmEvaluate prompt) (e : CallFailure) :
      Relays r c (.externalCapability e)
  /-- The handler answered with it. -/
  | answer {name : String} {v : Value} {handler : ConditionHandler} {context : Context} {e : Fault}
      (htest : c.test = .custom (some name) v) (hhandler : r.condition (some name) = .ok handler)
      (hanswer : handler (Context.read? context c.field) v context = .error e) : Relays r c e

/-- The failures that an action passes on from somebody who was asked. -/
inductive Action.Relays (r : Handlers) (a : Action) : Fault → Prop where
  /-- The call to the language model failed. -/
  | call {target prompt : String} (haction : a = .llmGenerate target prompt) (e : CallFailure) :
      Relays r a (.externalCapability e)
  /-- The handler answered with it. -/
  | answer {target name : String} {v : Option Value} {handler : TransformHandler} {context : Context}
      {e : Fault} (haction : a = .transform target name v) (hhandler : r.transform name = .ok handler)
      (hanswer : handler (Context.read? context target) v context = .error e) : Relays r a e

section Failures

variable {env : Env} {e : Fault} {w v : World} {context : Context}

/-- A condition with a defect fails with it at once. -/
theorem Condition.check_of_defect {c : Condition} (h : c.test.defect? env.handlers = some e) :
    (c.check env context).runIn w = (.error e, w) := by
  rw [check]
  cases htest : c.test with
  | equals | contains | llmEvaluate => simp [htest, Test.defect?] at h
  | regex pattern =>
    rw [htest, Test.defect?] at h
    dsimp only
    cases hcompile : Pattern.compile pattern with
    | ok machine => simp [hcompile] at h
    | error problem =>
      rw [hcompile] at h
      obtain rfl := Option.some.inj h
      rfl
  | custom name value =>
    rw [htest, Test.defect?] at h
    dsimp only
    cases hlookup : env.handlers.condition name with
    | ok handler => simp [hlookup, refusal?] at h
    | error e' =>
      rw [hlookup] at h
      obtain rfl := Option.some.inj h
      rfl

/-- **All that a condition can fail with**: its defect, or what it relays. -/
theorem Condition.defect_or_relays {c : Condition} (h : (c.check env context).runIn w = (.error e, v)) :
    c.test.defect? env.handlers = some e ∨ c.Relays env.handlers e := by
  rw [check] at h
  cases htest : c.test with
  | equals value | contains value =>
    rw [htest] at h
    cases h
  | regex pattern =>
    left
    rw [htest] at h
    rw [Test.defect?]
    dsimp only at h
    cases hcompile : Pattern.compile pattern with
    | ok machine =>
      rw [hcompile] at h
      cases h
    | error problem =>
      rw [hcompile] at h
      obtain rfl := Except.error.inj (congrArg Prod.fst h)
      rfl
  | llmEvaluate prompt =>
    right
    rw [htest] at h
    dsimp only at h
    rw [Eval.runIn_ask] at h
    cases hwait : (env.budget.wait w.now (env.capabilities.evaluate prompt context)).1 with
    | ok answer =>
      rw [hwait] at h
      cases h
    | error failure =>
      rw [hwait] at h
      obtain rfl := Except.error.inj (congrArg Prod.fst h)
      exact .call htest failure
  | custom name value =>
    rw [htest] at h
    dsimp only at h
    cases hlookup : env.handlers.condition name with
    | error e' =>
      rw [hlookup] at h
      obtain rfl := Except.error.inj (congrArg Prod.fst h)
      exact Or.inl (by rw [Test.defect?, hlookup, refusal?])
    | ok handler =>
      cases name with
      | none => cases hlookup
      | some name =>
        rw [hlookup] at h
        exact Or.inr (.answer htest hlookup (congrArg Prod.fst h))

/-- An action with a defect fails with it at once. -/
theorem Action.run_of_defect {a : Action} (h : a.defect? env.handlers = some e) :
    (a.run env context).runIn w = (.error e, w) := by
  cases a with
  | set | append | llmGenerate | trigger => cases h
  | transform target name value =>
    rw [defect?] at h
    rw [run]
    cases hlookup : env.handlers.transform name with
    | ok handler => simp [hlookup, refusal?] at h
    | error e' =>
      rw [hlookup] at h
      obtain rfl := Option.some.inj h
      rfl

/-- **All that an action can fail with**: its defect, or what it relays. -/
theorem Action.defect_or_relays {a : Action} (h : (a.run env context).runIn w = (.error e, v)) :
    a.defect? env.handlers = some e ∨ a.Relays env.handlers e := by
  cases a with
  | set target value | append target value | trigger name target => cases h
  | llmGenerate target prompt =>
    right
    simp only [run, Eval.runIn_bind, Eval.runIn_ask] at h
    cases hwait : (env.budget.wait w.now (env.capabilities.generate prompt context)).1 with
    | ok text =>
      rw [hwait] at h
      cases h
    | error failure =>
      rw [hwait] at h
      obtain rfl := Except.error.inj (congrArg Prod.fst h)
      exact .call rfl failure
  | transform target name value =>
    simp only [run, Eval.runIn_bind, Eval.runIn_mk_pure] at h
    cases hlookup : env.handlers.transform name with
    | error e' =>
      rw [hlookup] at h
      obtain rfl := Except.error.inj (congrArg Prod.fst h)
      exact Or.inl (by rw [defect?, hlookup, refusal?])
    | ok handler =>
      rw [hlookup] at h
      dsimp only at h
      cases hanswer : handler (Context.read? context target) value context with
      | error e' =>
        rw [hanswer] at h
        obtain rfl := Except.error.inj (congrArg Prod.fst h)
        exact Or.inr (.answer rfl hlookup hanswer)
      | ok replacement =>
        rw [hanswer] at h
        cases replacement <;> cases h

end Failures

/-! ## Failures before a handler is heard -/

/-- Whether a step fails before any handler is heard: it does so with whatever handlers there may be under
the same names, whatever else there is outside, and without being noticed. -/
def FailsUnheard (r : Handlers) (step : Env → Eval α) (e : Fault) : Prop :=
  ∀ env, env.handlers.SameNames r → ∀ w, (step env).runIn w = (.error e, w)

/-- An outside that has an answer to everything but calls. -/
def Env.answering (r : Handlers) : Env where
  capabilities := .alone
  handlers := r.answering
  budget := { perCall := 0 }

/-- The defects of tests are of two kinds. -/
theorem Test.of_defect {r : Handlers} {t : Test} {e : Fault} (h : t.defect? r = some e) :
    (∃ m, e = .conditionFailure m) ∨ ∃ m, e = .notImplemented m := by
  cases t with
  | equals | contains | llmEvaluate => cases h
  | regex pattern =>
    rw [defect?] at h
    cases hcompile : Pattern.compile pattern with
    | ok machine => simp [hcompile] at h
    | error problem =>
      rw [hcompile] at h
      exact Or.inl ⟨_, (Option.some.inj h).symm⟩
  | custom name value =>
    cases name with
    | none => exact Or.inr ⟨_, (Option.some.inj h).symm⟩
    | some name =>
      rw [defect?, Handlers.refusal?_condition] at h
      split at h
      · cases h
      · exact Or.inr ⟨_, (Option.some.inj h).symm⟩

/-- The defects of actions are of one kind. -/
theorem Action.of_defect {r : Handlers} {a : Action} {e : Fault} (h : a.defect? r = some e) :
    ∃ m, e = .notImplemented m := by
  cases a with
  | set | append | llmGenerate | trigger => cases h
  | transform target name value =>
    rw [defect?, Handlers.refusal?_transform] at h
    split at h
    · cases h
    · exact ⟨_, (Option.some.inj h).symm⟩

/-- **A condition fails unheard exactly with its defect**, if it does not fail for good. -/
theorem Condition.failsUnheard_iff {r : Handlers} {c : Condition} {context : Context} {e : Fault}
    (hlocal : e.isLocal = true) :
    FailsUnheard r (c.check · context) e ↔ c.test.defect? r = some e := by
  constructor
  · intro h
    obtain hdefect | hrelays := defect_or_relays (h (.answering r) r.sameNames_answering {})
    · rwa [← Test.defect?_congr r.sameNames_answering]
    · cases hrelays with
      | call _ failure => cases hlocal
      | answer htest hhandler hanswer =>
        rw [Handlers.condition_answering hhandler] at hanswer
        cases hanswer
  · intro h env hnames w
    exact check_of_defect (by rw [Test.defect?_congr hnames, h])

/-- **An action is not implemented, unheard, exactly if that is its defect.** -/
theorem Action.failsUnheard_iff {r : Handlers} {a : Action} {context : Context} {m : String} :
    FailsUnheard r (a.run · context) (.notImplemented m) ↔ a.defect? r = some (.notImplemented m) := by
  constructor
  · intro h
    obtain hdefect | hrelays := defect_or_relays (h (.answering r) r.sameNames_answering {})
    · rwa [← defect?_congr r.sameNames_answering]
    · cases hrelays with
      | answer haction hhandler hanswer =>
        rw [Handlers.transform_answering hhandler] at hanswer
        cases hanswer
  · intro h env hnames w
    exact run_of_defect (by rw [defect?_congr hnames, h])

/-! ## Warnings -/

/-- How a path goes on to what is defective in a test. -/
def Fault.suffix : Fault → String
  | .conditionFailure _ => ".value"
  | _ => ".handler"

/-- How paths go on to the defects of a condition. -/
def Condition.doubts (r : Handlers) (c : Condition) : List String :=
  (c.test.defect? r).toList.map Fault.suffix

/-- How paths go on to the defects of an action. -/
def Action.doubts (r : Handlers) (a : Action) : List String :=
  (a.defect? r).toList.map fun _ => ".functionName"

/-- How paths go on to the defects of a rule. -/
def Rule.doubts (r : Handlers) (rule : Rule) : List String :=
  (rule.conditions.zipIdx.flatMap fun x => (x.1.doubts r).map (numbered ".conditions" x.2 ++ ·))
    ++ rule.actions.zipIdx.flatMap fun x => (x.1.doubts r).map (numbered ".actions" x.2 ++ ·)

theorem numbered_append (a b : String) (i : Nat) : numbered (a ++ b) i = a ++ numbered b i := by
  simp [numbered, String.append_assoc]

/-- Paths to items tell the items apart. -/
theorem mem_flatMap_numbered {xs : List α} {tails : α → List String} {base t : String} {i : Nat} :
    numbered base i ++ t ∈ (xs.zipIdx.flatMap fun x => (tails x.1).map (numbered base x.2 ++ ·))
      ↔ ∃ x, xs[i]? = some x ∧ t ∈ tails x := by
  constructor
  · intro h
    obtain ⟨⟨x, j⟩, hx, hpath⟩ := List.mem_flatMap.1 h
    obtain ⟨t', ht', heq⟩ := List.mem_map.1 hpath
    obtain ⟨rfl, rfl⟩ := numbered_append_inj heq
    exact ⟨x, List.mk_mem_zipIdx_iff_getElem?.1 hx, ht'⟩
  · rintro ⟨x, hx, ht⟩
    exact List.mem_flatMap.2 ⟨(x, i), List.mk_mem_zipIdx_iff_getElem?.2 hx, List.mem_map.2 ⟨t, ht, rfl⟩⟩

/-- Paths into one list are not paths into another whose name begins otherwise. -/
theorem not_mem_flatMap_numbered {xs : List α} {tails : α → List String} {base path : String}
    (h : path.toList[1]? ≠ base.toList[1]?) (hbase : 1 < base.toList.length) :
    path ∉ xs.zipIdx.flatMap fun x => (tails x.1).map (numbered base x.2 ++ ·) := by
  intro hmem
  obtain ⟨x, -, hpath⟩ := List.mem_flatMap.1 hmem
  obtain ⟨t, -, rfl⟩ := List.mem_map.1 hpath
  simp [numbered, List.getElem?_append_left hbase] at h

/-- Paths that go on to a condition are those of its defects. -/
theorem Rule.mem_doubts_condition {r : Handlers} {rule : Rule} {j : Nat} {t : String} :
    numbered ".conditions" j ++ t ∈ rule.doubts r
      ↔ ∃ c, rule.conditions[j]? = some c ∧ t ∈ c.doubts r := by
  rw [doubts, List.mem_append, mem_flatMap_numbered]
  refine or_iff_left (not_mem_flatMap_numbered ?_ (by decide))
  simp [numbered]

theorem Rule.mem_doubts_action {r : Handlers} {rule : Rule} {j : Nat} {t : String} :
    numbered ".actions" j ++ t ∈ rule.doubts r
      ↔ ∃ a, rule.actions[j]? = some a ∧ t ∈ a.doubts r := by
  rw [doubts, List.mem_append, mem_flatMap_numbered]
  refine or_iff_right (not_mem_flatMap_numbered ?_ (by decide))
  simp [numbered]

namespace Validation

/-- The places that are warned about. -/
def warned (v : Validation) : List String := v.warnings.map (·.path)

@[simp] theorem warned_append (a b : Validation) : (a ++ b).warned = a.warned ++ b.warned := List.map_append

@[simp] theorem warned_none : none.warned = [] := rfl

@[simp] theorem warned_error (path message : String) : (error path message).warned = [] := rfl

@[simp] theorem warned_warning (path message : String) (suggestion : Option String) :
    (warning path message suggestion).warned = [path] := rfl

@[simp] theorem warned_orNone (p : Bool) (v : Validation) :
    (orNone p v).warned = if p then v.warned else [] := by
  cases p <;> rfl

variable {r : Handlers} {path : String}

/-- A condition is warned about where it is defective. -/
theorem warned_condition (c : Condition) :
    (condition (some r) path c).warned = (c.doubts r).map (path ++ ·) := by
  have htest : (test (some r) path c.test).warned = (c.doubts r).map (path ++ ·) := by
    rw [Condition.doubts]
    cases c.test with
    | equals | contains | llmEvaluate => rfl
    | regex pattern =>
      rw [test, Test.defect?]
      cases Pattern.compile pattern <;> rfl
    | custom name value =>
      cases name with
      | none => rfl
      | some name =>
        rw [Test.defect?, Handlers.refusal?_condition, test]
        by_cases hname : name ∈ r.conditionNames
        · simp [hname]
        · simp [hname, unregistered, Fault.suffix]
  simp [condition, htest]

/-- So is a legal action. -/
theorem warned_action {a : Action} (h : a.Legal) :
    (action (some r) path a).warned = (a.doubts r).map (path ++ ·) := by
  cases a with
  | set | append | llmGenerate => simp [action, Action.doubts, Action.defect?]
  | trigger name target => simp [action, function, Action.doubts, Action.defect?]
  | transform target name value =>
    have hname : Text.isBlankText name = false := h.function name rfl
    simp only [action, hname, Action.doubts, Action.defect?, Handlers.refusal?_transform]
    by_cases hmem : name ∈ r.transformNames
    · simp [hmem]
    · simp [hmem, unregistered]

/-- In a list, each item is warned about at its own number. -/
theorem warned_itemsFrom {check : String → α → Validation} {tails : α → List String} {xs : List α}
    (hcheck : ∀ x ∈ xs, ∀ path, (check path x).warned = (tails x).map (path ++ ·)) (base : String) (i : Nat) :
    (itemsFrom check base i xs).warned
      = (xs.zipIdx i).flatMap fun x => (tails x.1).map (numbered base x.2 ++ ·) := by
  induction xs generalizing i with
  | nil => rfl
  | cons x rest ih =>
    obtain ⟨hx, hrest⟩ := List.forall_mem_cons.1 hcheck
    rw [itemsFrom, warned_append, ih hrest, hx, List.zipIdx_cons, List.flatMap_cons]
    rfl

/-- A legal rule is warned about where its conditions and actions are defective. -/
theorem warned_rule {rule : Rule} (h : rule.Legal) :
    (Validation.rule (some r) path rule).warned = (rule.doubts r).map (path ++ ·) := by
  have hconditions := warned_itemsFrom
    (fun c (_ : c ∈ rule.conditions) path => @warned_condition r path c) (path ++ ".conditions") 0
  have hactions := warned_itemsFrom
    (fun a (ha : a ∈ rule.actions) path => @warned_action r path a (h.actions a ha)) (path ++ ".actions") 0
  have hrule : ∀ v : Validation, v.warned = [] →
      (v ++ itemsFrom (condition (some r)) (path ++ ".conditions") 0 rule.conditions
        ++ itemsFrom (action (some r)) (path ++ ".actions") 0 rule.actions).warned
          = (rule.doubts r).map (path ++ ·) := by
    intro v hv
    rw [warned_append, warned_append, hconditions, hactions, hv, List.nil_append, Rule.doubts,
      List.map_append, List.map_flatMap, List.map_flatMap]
    simp only [numbered_append, List.map_map, Function.comp_def, String.append_assoc]
  -- about the weight there are only errors
  rw [Validation.rule]
  cases rule.signalWeight with
  | none => exact hrule none rfl
  | some w => exact hrule (orNone _ _) (by simp)

/-- Warnings about names are at the names of rules. -/
theorem mem_warned_idsFrom {i : Nat} {seen ids : List String} (h : path ∈ (idsFrom i seen ids).warned) :
    ∃ k, path = numbered "rules" k ++ ".id" := by
  induction ids generalizing i seen with
  | nil => cases h
  | cons id rest ih =>
    rw [idsFrom] at h
    split at h
    · exact ih (by simpa using h)
    · split at h
      · exact ih (by simpa using h)
      · rw [warned_append, List.mem_append] at h
        rcases h with h | h
        · refine ⟨i, ?_⟩
          have hpath : path = idPath i := by
            rw [warned_orNone] at h
            split at h
            · simpa using h
            · cases h
          rw [hpath, idPath, numbered]
          apply String.toList_inj.1
          simp
        · exact ih h

/-- Of the settings for learning there is one that may be warned about. -/
theorem mem_warned_learning {c : Learning} (h : path ∈ (learning c).warned) :
    path = "neuralConfig.layerDepth" := by
  simp only [learning, warned_append, warned_orNone, warned_error, ite_self, List.nil_append] at h
  split at h
  · simpa using h
  · cases h

/-- Warnings about a rule, apart from those about its name, are about its defects. -/
theorem mem_warned_ofRuleSet {set : RuleSet} (h : set.Legal) {i : Nat} {t : String} (ht : t ≠ ".id") :
    numbered "rules" i ++ t ∈ (ofRuleSet set (some r)).warned
      ↔ ∃ rule, set.rules[i]? = some rule ∧ t ∈ rule.doubts r := by
  have hrules := warned_itemsFrom
    (fun rule (hrule : rule ∈ set.rules) path => @warned_rule r path rule (h.rules rule hrule)) "rules" 0
  have hids : numbered "rules" i ++ t ∉ (idsFrom 0 [] (set.rules.map (·.id))).warned := by
    intro hmem
    obtain ⟨k, hk⟩ := mem_warned_idsFrom hmem
    exact ht (numbered_append_inj hk).2
  have hlearning : ∀ c, numbered "rules" i ++ t ∉ (learning c).warned := by
    intro c hmem
    have hfirst := congrArg (·.toList.head?) (mem_warned_learning hmem)
    simp [numbered] at hfirst
  rw [ofRuleSet, warned_append, warned_append, List.mem_append, List.mem_append, hrules, mem_flatMap_numbered]
  refine or_iff_right (not_or.2 ⟨hids, ?_⟩)
  cases set.learning with
  | none => exact List.not_mem_nil
  | some c => exact hlearning c

end Validation

/-- A place at which a rule can have a defect. -/
inductive Spot where
  /-- The pattern of a condition. -/
  | pattern (rule condition : Nat)
  /-- The handler of a condition. -/
  | handler (rule condition : Nat)
  /-- The handler of an action. -/
  | transform (rule action : Nat)
deriving DecidableEq, Repr

/-- How warnings name a place. -/
def Spot.path : Spot → String
  | .pattern i j => numbered (numbered "rules" i ++ ".conditions") j ++ ".value"
  | .handler i j => numbered (numbered "rules" i ++ ".conditions") j ++ ".handler"
  | .transform i j => numbered (numbered "rules" i ++ ".actions") j ++ ".functionName"

/-- Whether validation with given handlers warns about a place. -/
def RuleSet.WarnsAt (set : RuleSet) (r : Handlers) (s : Spot) : Prop :=
  ∃ w ∈ (Validation.ofRuleSet set (some r)).warnings, w.path = s.path

section Warnings

variable {set : RuleSet} {r : Handlers} {rule : Rule} {i j : Nat} (hlegal : set.Legal)
  (hrule : set.rules[i]? = some rule)
include hlegal hrule

/-- In a legal set, warnings about a condition are about its defects. -/
theorem RuleSet.mem_warned_condition {c : Condition} (hc : rule.conditions[j]? = some c) {t : String} :
    numbered (numbered "rules" i ++ ".conditions") j ++ t ∈ (Validation.ofRuleSet set (some r)).warned
      ↔ t ∈ c.doubts r := by
  have hname : numbered ".conditions" j ++ t ≠ ".id" := by
    intro h
    exact absurd (congrArg (·.toList[1]?) h) (by simp [numbered])
  rw [numbered_append, String.append_assoc, Validation.mem_warned_ofRuleSet hlegal hname]
  simp [hrule, Rule.mem_doubts_condition, hc]

theorem RuleSet.mem_warned_action {a : Action} (ha : rule.actions[j]? = some a) {t : String} :
    numbered (numbered "rules" i ++ ".actions") j ++ t ∈ (Validation.ofRuleSet set (some r)).warned
      ↔ t ∈ a.doubts r := by
  have hname : numbered ".actions" j ++ t ≠ ".id" := by
    intro h
    exact absurd (congrArg (·.toList[1]?) h) (by simp [numbered])
  rw [numbered_append, String.append_assoc, Validation.mem_warned_ofRuleSet hlegal hname]
  simp [hrule, Rule.mem_doubts_action, ha]

/-- The pattern of a condition is warned about exactly if it is defective, and its handler exactly if it is
not there. -/
theorem RuleSet.warnsAt_condition_iff {c : Condition} (hc : rule.conditions[j]? = some c) :
    (set.WarnsAt r (.pattern i j) ↔ ∃ m, c.test.defect? r = some (.conditionFailure m))
    ∧ (set.WarnsAt r (.handler i j) ↔ ∃ m, c.test.defect? r = some (.notImplemented m)) := by
  have hwarns : ∀ {s : Spot} {t : String}, s.path = numbered (numbered "rules" i ++ ".conditions") j ++ t →
      (set.WarnsAt r s ↔ t ∈ c.doubts r) := by
    intro s t hs
    rw [WarnsAt, ← List.mem_map, hs]
    exact mem_warned_condition hlegal hrule hc
  rw [hwarns (s := .pattern i j) rfl, hwarns (s := .handler i j) rfl, Condition.doubts]
  cases hdefect : c.test.defect? r with
  | none => simp
  | some e => obtain ⟨m, rfl⟩ | ⟨m, rfl⟩ := Test.of_defect hdefect <;> simp [Fault.suffix]

/-- The handler of a transform is warned about exactly if it is not there. -/
theorem RuleSet.warnsAt_transform_iff {a : Action} (ha : rule.actions[j]? = some a) :
    set.WarnsAt r (.transform i j) ↔ ∃ m, a.defect? r = some (.notImplemented m) := by
  rw [WarnsAt, ← List.mem_map]
  refine (mem_warned_action hlegal hrule ha).trans ?_
  rw [Action.doubts]
  cases hdefect : a.defect? r with
  | none => simp
  | some e =>
    obtain ⟨m, rfl⟩ := Action.of_defect hdefect
    simp

end Warnings

/-! ## A pass without defects -/

/-- The failures that a rule passes on from somebody who was asked. -/
def Rule.Relays (r : Handlers) (rule : Rule) (e : Fault) : Prop :=
  (∃ c ∈ rule.conditions, c.Relays r e) ∨ ∃ a ∈ rule.actions, a.Relays r e

/-- A rule without defects. -/
structure Rule.Sound (r : Handlers) (rule : Rule) : Prop where
  /-- Nothing is wrong with its tests. -/
  conditions : ∀ c ∈ rule.conditions, c.test.defect? r = none
  /-- Nothing is wrong with its actions. -/
  actions : ∀ a ∈ rule.actions, a.defect? r = none

/-- Where nothing is warned about, nothing is defective. -/
theorem RuleSet.Legal.sound_of_not_warned {set : RuleSet} (h : set.Legal) {r : Handlers}
    (hclean : ∀ s, ¬ set.WarnsAt r s) {rule : Rule} (hrule : rule ∈ set.rules) : rule.Sound r := by
  obtain ⟨i, hi⟩ := List.getElem?_of_mem hrule
  refine ⟨fun c hc => ?_, fun a ha => ?_⟩
  · obtain ⟨j, hj⟩ := List.getElem?_of_mem hc
    cases hdefect : c.test.defect? r with
    | none => rfl
    | some e =>
      obtain ⟨m, rfl⟩ | ⟨m, rfl⟩ := Test.of_defect hdefect
      · exact absurd ((warnsAt_condition_iff h hi hj).1.2 ⟨m, hdefect⟩) (hclean _)
      · exact absurd ((warnsAt_condition_iff h hi hj).2.2 ⟨m, hdefect⟩) (hclean _)
  · obtain ⟨j, hj⟩ := List.getElem?_of_mem ha
    cases hdefect : a.defect? r with
    | none => rfl
    | some e =>
      obtain ⟨m, rfl⟩ := Action.of_defect hdefect
      exact absurd ((warnsAt_transform_iff h hi hj).2 ⟨m, hdefect⟩) (hclean _)

/-- Whether a failure is the record of one that the rule relays. -/
def Rule.Records (r : Handlers) (rule : Rule) (f : Failure) : Prop := ∃ e, rule.Relays r e ∧ e.failure = f

/-- The failures that a row of conditions came to. -/
def Fold.recorded : Except Fault Fold → List Failure
  | .ok f => f.failures
  | .error e => [e.failure]

/-- If nothing is wrong with a rule, a check that fails relays the failure of another. -/
theorem Rule.Sound.records_of_check {env : Env} {rule : Rule} (h : rule.Sound env.handlers) {c : Condition}
    (hc : c ∈ rule.conditions) {context : Context} {w v : World} {e : Fault}
    (hrun : (c.check env context).runIn w = (.error e, v)) : rule.Records env.handlers e.failure := by
  obtain hdefect | hrelays := Condition.defect_or_relays hrun
  · rw [h.conditions c hc] at hdefect
    cases hdefect
  · exact ⟨e, Or.inl ⟨c, hc, hrelays⟩, rfl⟩

/-- So does an action that fails. -/
theorem Rule.Sound.records_of_run {env : Env} {rule : Rule} (h : rule.Sound env.handlers) {a : Action}
    (ha : a ∈ rule.actions) {context : Context} {w v : World} {e : Fault}
    (hrun : (a.run env context).runIn w = (.error e, v)) : rule.Records env.handlers e.failure := by
  obtain hdefect | hrelays := Action.defect_or_relays hrun
  · rw [h.actions a ha] at hdefect
    cases hdefect
  · exact ⟨e, Or.inr ⟨a, ha, hrelays⟩, rfl⟩

/-- A result has one of the failures that it was told to record. -/
theorem Verdict.error_foldl_record {fs : List Failure} {v : Verdict} {x : Failure}
    (h : (fs.foldl Verdict.record v).error = some x) : v.error = some x ∨ x ∈ fs := by
  induction fs generalizing v with
  | nil => exact Or.inl h
  | cons f rest ih =>
    rcases ih h with h | h
    · rw [record] at h
      cases hv : v.error with
      | some y => exact Or.inl (by simpa [hv] using h)
      | none => exact Or.inr (by simp_all)
    · exact Or.inr (List.mem_cons_of_mem f h)

/-- The result of a rule after its conditions has one of their failures. -/
theorem error_conditionResult {rule : Rule} {signal : Signal} {outcome : Except Fault Fold} {x : Failure}
    (h : (conditionResult rule signal outcome).error = some x) : x ∈ Fold.recorded outcome := by
  cases outcome with
  | error e => exact List.mem_singleton.2 (Option.some.inj h).symm
  | ok f =>
    rcases Verdict.error_foldl_record h with h | h
    · cases h
    · exact h

section Pass

variable {env : Env} {rule : Rule} (hsound : rule.Sound env.handlers) {context : Context}
include hsound

/-- Taking a condition adds at most a failure that the rule relays. -/
theorem Fold.records_step {f : Fold} {c : Condition} (hc : c ∈ rule.conditions)
    (hf : ∀ x ∈ f.failures, rule.Records env.handlers x) (w : World) :
    ∀ x ∈ recorded ((step env context f c).runIn w).1, rule.Records env.handlers x := by
  rw [step]
  by_cases hsettled : f.pending.settles f.matched = true
  · rw [if_pos hsettled]
    exact hf
  · rw [if_neg hsettled, Eval.runIn_tryCatch, Eval.runIn_bind]
    obtain ⟨⟨result, v⟩, hrun⟩ : ∃ x, (c.check env context).runIn w = x := ⟨_, rfl⟩
    rw [hrun]
    cases result with
    | ok holds => exact hf
    | error e =>
      have he : rule.Records env.handlers e.failure := hsound.records_of_check hc hrun
      dsimp only
      split
      · intro x hx
        rcases List.mem_append.1 hx with hx | hx
        · exact hf x hx
        · rw [List.mem_singleton.1 hx]
          exact he
      · intro x hx
        rw [List.mem_singleton.1 hx]
        exact he

/-- By induction this is so of all conditions that are taken. -/
theorem Fold.records_foldlM {conditions : List Condition}
    (hconditions : ∀ c ∈ conditions, c ∈ rule.conditions) {f : Fold}
    (hf : ∀ x ∈ f.failures, rule.Records env.handlers x) (w : World) :
    ∀ x ∈ recorded ((conditions.foldlM (step env context) f).runIn w).1, rule.Records env.handlers x := by
  induction conditions generalizing f w with
  | nil => exact hf
  | cons c rest ih =>
    obtain ⟨hc, hrest⟩ := List.forall_mem_cons.1 hconditions
    have hstep : ∀ x ∈ recorded ((step env context f c).runIn w).1, rule.Records env.handlers x :=
      records_step hsound hc hf w
    rw [List.foldlM_cons, Eval.runIn_bind]
    obtain ⟨⟨result, v⟩, hrun⟩ : ∃ x, (step env context f c).runIn w = x := ⟨_, rfl⟩
    rw [hrun] at hstep ⊢
    cases result with
    | ok g => exact ih hrest hstep v
    | error e => exact hstep

/-- Actions that are carried out add at most failures that the rule relays. -/
theorem runActions_records {before : Context} {actions : List Action}
    (hactions : ∀ a ∈ actions, a ∈ rule.actions) {p : Progress}
    (hp : ∀ x, p.result.error = some x → rule.Records env.handlers x) (w : World) :
    ∀ x, ((runActions env rule before actions p).run w).1.result.error = some x →
      rule.Records env.handlers x := by
  -- what a failing action adds to the failures before it
  have hrecord : ∀ {p : Progress} {e : Fault}, (∀ x, p.result.error = some x → rule.Records env.handlers x) →
      rule.Records env.handlers e.failure →
      ∀ x, (p.result.record e.failure).error = some x → rule.Records env.handlers x := by
    intro p e hp he x hx
    rcases @Verdict.error_foldl_record [e.failure] p.result x hx with hx | hx
    · exact hp x hx
    · rw [List.mem_singleton.1 hx]
      exact he
  induction actions generalizing p w with
  | nil => exact hp
  | cons a rest ih =>
    obtain ⟨ha, hrest⟩ := List.forall_mem_cons.1 hactions
    by_cases hsuppressed : p.isSuppressed rule.id a = true
    · rw [runActions, if_pos hsuppressed]
      exact ih (p := p.suppress a) hrest hp w
    · rw [runActions_cons (by simpa using hsuppressed)]
      obtain ⟨⟨result, v⟩, hrun⟩ : ∃ x, (a.run env p.context).runIn w = x := ⟨_, rfl⟩
      rw [hrun]
      cases result with
      | ok answer => exact ih (p := p.execute rule.id a answer.1 answer.2) hrest hp v
      | error e =>
        have he := hrecord hp (hsound.records_of_run ha hrun)
        cases e with
        | notImplemented m => exact ih hrest he v
        | _ => exact he

/-- **A rule without defects records nothing but what it relays.** -/
theorem judge_records (signal : Signal) (claims : Option Claims) (elapsed : Nat) (w : World) :
    ∀ x, ((judge env rule signal context claims elapsed).run w).1.result.error = some x →
      rule.Records env.handlers x := by
  have hconditions : ∀ x ∈ Fold.recorded (rule.conditionOutcome env context w).1,
      rule.Records env.handlers x :=
    Fold.records_foldlM hsound (fun _ hc => hc) (fun x hx => by cases hx) w
  have hstart : ∀ x, (Progress.start rule signal context claims
      (rule.conditionOutcome env context w).1).result.error = some x → rule.Records env.handlers x :=
    fun x hx => hconditions x (error_conditionResult hx)
  rw [judge_run]
  dsimp only
  split
  · exact runActions_records hsound (fun _ ha => ha) hstart _
  · exact hstart

end Pass

/-- In a pass, what is recorded for a rule without defects is what it relays. -/
theorem Engine.records_of_evaluate {e : Engine} (hsound : ∀ rule ∈ e.snapshot.rules, rule.Sound e.handlers)
    (context : Context) (options : PassOptions) {v : Verdict}
    (hv : v ∈ (e.evaluate context options).1.results) {f : Failure} (hf : v.error = some f) :
    ∃ rule ∈ e.snapshot.rules, rule.id = v.ruleId ∧ rule.Records e.handlers f := by
  have hresults : (e.evaluate context options).1.results
      = ((walk (e.env options) options.stopwatch (e.scored (e.startOfPass context options))
          (e.startOfPass context options) e.initialClaims).run
            ((e.enrich (e.budget options) context).run e.world).2).1.map (·.result) := rfl
  rw [hresults, ← map_after_turns, List.map_map] at hv
  obtain ⟨t, ht, rfl⟩ := List.mem_map.1 hv
  -- the rule that had this turn is one of the active ones
  have hmem : t.rule ∈ e.snapshot.rules := by
    have hrules := List.mem_map_of_mem (f := Turn.rule) ht
    rw [map_rule_turns, Engine.scored_eq_map, List.map_map] at hrules
    obtain ⟨rule, hrule, heq⟩ := List.mem_map.1 hrules
    exact e.rulebook.ranking_sorted.perm.mem_iff.1 (heq ▸ hrule)
  obtain ⟨rule, signal, c, cs, w, rfl⟩ := exists_turnOf_of_mem ht
  have hid := (judge_about (e.env options) rule signal c cs (options.stopwatch.rule rule.id) w).ruleId
  exact ⟨rule, hmem, hid.symm, judge_records (hsound rule hmem) signal cs _ w f hf⟩

/-! ## The main statement -/

/-- **Warnings foretell exactly the failures that are there beforehand.**  Let a rule set be valid.  The
pattern or the handler of a condition is warned about exactly if in every context the condition fails before
any handler is heard, and without the whole rule; it fails as one that cannot be decided if it is the pattern,
and as one that is not implemented if it is the handler.  A transform is warned about exactly if in every
context it is not implemented, and fails so before any handler is heard.  If there are no such warnings, then
every failure that a pass over these rules records is one that a rule was given: by a call to the language
model, or by a handler that was found and gave this answer. -/
theorem warnings_foretell_failures {set : RuleSet} {r : Handlers}
    (hvalid : (Validation.ofRuleSet set (some r)).isValid = true) :
    (∀ (i j : Nat) (rule : Rule) (c : Condition), set.rules[i]? = some rule → rule.conditions[j]? = some c →
      (set.WarnsAt r (.pattern i j) ∨ set.WarnsAt r (.handler i j)
        ↔ ∀ context, ∃ e, e.isLocal = true ∧ FailsUnheard r (c.check · context) e)
      ∧ (set.WarnsAt r (.pattern i j)
        ↔ ∀ context, ∃ m, FailsUnheard r (c.check · context) (.conditionFailure m))
      ∧ (set.WarnsAt r (.handler i j)
        ↔ ∀ context, ∃ m, FailsUnheard r (c.check · context) (.notImplemented m)))
    ∧ (∀ (i j : Nat) (rule : Rule) (a : Action), set.rules[i]? = some rule → rule.actions[j]? = some a →
      (set.WarnsAt r (.transform i j)
        ↔ ∀ context, ∃ m, FailsUnheard r (a.run · context) (.notImplemented m)))
    ∧ ((∀ s, ¬ set.WarnsAt r s) → ∀ (e : Engine) (context : Context) (options : PassOptions),
      e.snapshot = set → e.handlers = r →
      ∀ v ∈ (e.evaluate context options).1.results, ∀ f, v.error = some f →
        ∃ rule ∈ set.rules, rule.id = v.ruleId ∧ ∃ fault, rule.Relays r fault ∧ fault.failure = f) := by
  have hlegal : set.Legal := Validation.isValid_ofRuleSet_iff.1 hvalid
  refine ⟨?conditions, ?actions, ?passes⟩
  case conditions =>
    intro i j rule c hrule hc
    obtain ⟨hpattern, hhandler⟩ := RuleSet.warnsAt_condition_iff (r := r) hlegal hrule hc
    have hfails : ∀ {context e}, e.isLocal = true →
        (FailsUnheard r (c.check · context) e ↔ c.test.defect? r = some e) := Condition.failsUnheard_iff
    refine ⟨?either, ?pattern, ?handler⟩
    case either =>
      rw [hpattern, hhandler]
      constructor
      · rintro (⟨m, hm⟩ | ⟨m, hm⟩) context
        · exact ⟨_, rfl, (hfails rfl).2 hm⟩
        · exact ⟨_, rfl, (hfails rfl).2 hm⟩
      · intro h
        obtain ⟨e, hlocal, he⟩ := h []
        have hdefect := (hfails hlocal).1 he
        obtain ⟨m, rfl⟩ | ⟨m, rfl⟩ := Test.of_defect hdefect
        · exact Or.inl ⟨m, hdefect⟩
        · exact Or.inr ⟨m, hdefect⟩
    case pattern =>
      rw [hpattern]
      exact ⟨fun ⟨m, hm⟩ _ => ⟨m, (hfails rfl).2 hm⟩, fun h => (h []).imp fun m => (hfails rfl).1⟩
    case handler =>
      rw [hhandler]
      exact ⟨fun ⟨m, hm⟩ _ => ⟨m, (hfails rfl).2 hm⟩, fun h => (h []).imp fun m => (hfails rfl).1⟩
  case actions =>
    intro i j rule a hrule ha
    rw [RuleSet.warnsAt_transform_iff hlegal hrule ha]
    simp only [Action.failsUnheard_iff, forall_const]
  case passes =>
    rintro hclean e context options rfl rfl v hv f hf
    have hsound : ∀ rule ∈ e.snapshot.rules, rule.Sound e.handlers :=
      fun _ hrule => hlegal.sound_of_not_warned hclean hrule
    exact e.records_of_evaluate hsound context options hv hf

/-- Rules with a pattern, a transform that is always there, and what else they may have. -/
def screening (pattern : String) (actions : List Action) : RuleSet where
  rules := [{ id := "screen", conditions := [{ field := "text", test := .regex pattern }],
              actions := .transform "text" "identity" none :: actions }]

/-- A careless set, which is valid but fails as its warnings say, and a careful one without warnings. -/
theorem warnings_foretell_failures_screening :
    let careless := screening "(" [.transform "text" "upper" none]
    let careful := screening "a+" []
    (Validation.ofRuleSet careless (some .builtin)).isValid = true
    ∧ (∀ context, ∃ m, FailsUnheard .builtin
        (Condition.check · { field := "text", test := .regex "(" } context) (.conditionFailure m))
    ∧ (∀ context, ∃ m, FailsUnheard .builtin
        ((Action.transform "text" "upper" none).run · context) (.notImplemented m))
    ∧ (Validation.ofRuleSet careful (some .builtin)).isValid = true
    ∧ ∀ (e : Engine) (context : Context), e.snapshot = careful → e.handlers = .builtin →
      ∀ v ∈ (e.evaluate context).1.results, ∀ f, v.error = some f →
        ∃ rule ∈ careful.rules, ∃ fault, rule.Relays .builtin fault ∧ fault.failure = f := by
  intro careless careful
  have hcareless : (Validation.ofRuleSet careless (some .builtin)).isValid = true := by decide +kernel
  have hcareful : (Validation.ofRuleSet careful (some .builtin)).isValid = true := by decide +kernel
  have hpattern : careless.WarnsAt .builtin (.pattern 0 0) := by
    rw [RuleSet.WarnsAt]
    decide +kernel
  have htransform : careless.WarnsAt .builtin (.transform 0 1) := by
    rw [RuleSet.WarnsAt]
    decide +kernel
  have hclean : (Validation.ofRuleSet careful (some .builtin)).warnings = [] := by decide +kernel
  obtain ⟨hconditions, hactions, -⟩ := warnings_foretell_failures hcareless
  obtain ⟨-, -, hpasses⟩ := warnings_foretell_failures hcareful
  refine ⟨hcareless, ((hconditions 0 0 _ _ rfl rfl).2.1).1 hpattern, (hactions 0 1 _ _ rfl rfl).1 htransform,
    hcareful, fun e context hset hhandlers v hv f hf => ?_⟩
  have hnone : ∀ s, ¬ careful.WarnsAt .builtin s := by
    rintro s ⟨w, hw, -⟩
    rw [hclean] at hw
    cases hw
  obtain ⟨rule, hrule, -, hrelays⟩ := hpasses hnone e context {} hset hhandlers v hv f hf
  exact ⟨rule, hrule, hrelays⟩

end Arbiter
