import Arbiter.Proofs.Legality
import Mathlib.Data.List.Sigma
/-!
# Every breach is named once

Validation goes through a rule set part by part and writes down what it objects to.  What it ought to object
to is said here without going through anything: a rule set can break the rules of the format at certain
places (`Place`), and `RuleSet.BreaksAt` says when it does.

1. **The list of breaches** (`RuleSet.breaches`) has the places at which a rule set does so, each once
   (`RuleSet.mem_breaches_iff`, `RuleSet.nodup_breaches`).
2. **Validation follows the list** (`Validation.errors_ofRuleSet`), whatever handlers are registered: those
   are only warned about.  The names are the only part with a memory, and `Validation.errors_idsFrom` is about
   that: a blank name is not remembered, and need not be, for it is objected to wherever it comes again.
3. **The paths tell the places apart** (`Place.path_injective`).

The main statement is `every_breach_is_named_once`.
-/

namespace Arbiter

/-! ## Places -/

/-- A place at which a rule set can break a rule of the format. -/
inductive Place where
  /-- The name of a rule. -/
  | id (rule : Nat)
  /-- How many workers score. -/
  | workers
  /-- The least rank of a prediction. -/
  | leastRank
  /-- The weight of the learned confidence. -/
  | weight (rule : Nat)
  /-- The field of a condition. -/
  | field (rule condition : Nat)
  /-- What an action writes to. -/
  | target (rule action : Nat)
  /-- What an action calls. -/
  | function (rule action : Nat)
deriving DecidableEq, Repr

/-- An item of a list in a path. -/
def numbered (list : String) (i : Nat) : String := list ++ "[" ++ toString i ++ "]"

/-- How remarks name a place. -/
def Place.path : Place → String
  | .id i => Validation.idPath i
  | .workers => "neuralConfig.parallelismLevel"
  | .leastRank => "neuralConfig.activationThreshold"
  | .weight i => numbered "rules" i ++ ".metadata.signalWeight"
  | .field i j => numbered (numbered "rules" i ++ ".conditions") j ++ ".field"
  | .target i j => numbered (numbered "rules" i ++ ".actions") j ++ ".target"
  | .function i j => numbered (numbered "rules" i ++ ".actions") j ++ ".functionName"

namespace RuleSet

variable (set : RuleSet)

/-- Whether a rule set breaks a rule of the format at a place. -/
def BreaksAt : Place → Prop
  | .id i => ∃ r, set.rules[i]? = some r
      ∧ (Text.isBlankText r.id = true ∨ ∃ j q, j < i ∧ set.rules[j]? = some q ∧ q.id = r.id)
  | .workers => ∃ c, set.learning = some c ∧ c.workers = some 0
  | .leastRank => ∃ c, set.learning = some c ∧ ¬ (0.0 ≤ c.leastRank ∧ c.leastRank ≤ 1.0)
  | .weight i => ∃ r w, set.rules[i]? = some r ∧ r.signalWeight = some w ∧ ¬ (0.0 ≤ w ∧ w ≤ 1.0)
  | .field i j => ∃ r c, set.rules[i]? = some r ∧ r.conditions[j]? = some c
      ∧ Text.isBlankText c.field = true
  | .target i j => ∃ r a target, set.rules[i]? = some r ∧ r.actions[j]? = some a
      ∧ a.target? = some target ∧ Text.isBlankText target = true
  | .function i j => ∃ r a function, set.rules[i]? = some r ∧ r.actions[j]? = some a
      ∧ a.function? = some function ∧ Text.isBlankText function = true

/-- What is said about a rule set that breaks a rule of the format at a place. -/
def complaint : Place → String
  | .id i =>
    let id := ((set.rules[i]?).map (·.id)).getD ""
    if Text.isBlankText id then "rule id must not be empty" else "duplicate rule id '" ++ id ++ "'"
  | .workers => "must be at least 1"
  | .leastRank => Validation.unitMessage set.learningInForce.leastRank
  | .weight i => Validation.unitMessage (((set.rules[i]?).bind (·.signalWeight)).getD 0.0)
  | .field _ _ => "condition field must not be empty"
  | .target _ _ => "action target must not be empty"
  | .function _ _ => "functionName must not be empty"

/-- The objection to a rule set at a place. -/
def objection (p : Place) : Objection := ⟨p.path, set.complaint p⟩

end RuleSet

/-! ## The list of breaches -/

/-- One thing if something is the case. -/
def oneIf (p : Bool) (x : α) : List α := if p then [x] else []

@[simp] theorem mem_oneIf {p : Bool} {x y : α} : y ∈ oneIf p x ↔ p = true ∧ y = x := by
  cases p <;> simp [oneIf]

theorem map_oneIf (f : α → β) (p : Bool) (x : α) : (oneIf p x).map f = oneIf p (f x) := by
  cases p <;> rfl

/-- The breaches of rule number `i`, apart from its name. -/
def Rule.breaches (r : Rule) (i : Nat) : List Place :=
  oneIf (r.signalWeight.any (!Validation.inUnit ·)) (Place.weight i)
    ++ (r.conditions.zipIdx.flatMap fun x => oneIf (Text.isBlankText x.1.field) (Place.field i x.2))
    ++ r.actions.zipIdx.flatMap fun x =>
      oneIf (x.1.target?.any Text.isBlankText) (Place.target i x.2)
        ++ oneIf (x.1.function?.any Text.isBlankText) (Place.function i x.2)

/-- The breaches of the settings of scoring and learning. -/
def Learning.breaches (c : Learning) : List Place :=
  oneIf (c.workers == some 0) Place.workers ++ oneIf (!Validation.inUnit c.leastRank) Place.leastRank

/-- Whether the name of rule number `i` is blank, or that of a rule before it. -/
def RuleSet.breaksId (set : RuleSet) (x : Rule × Nat) : Bool :=
  Text.isBlankText x.1.id || (set.rules.take x.2).any (·.id == x.1.id)

/-- The breaches of a rule set. -/
def RuleSet.breaches (set : RuleSet) : List Place :=
  (set.rules.zipIdx.flatMap fun x => oneIf (set.breaksId x) (.id x.2))
    ++ set.learning.toList.flatMap Learning.breaches
    ++ set.rules.zipIdx.flatMap fun x => x.1.breaches x.2

/-- A name is objected to if it is blank or if a rule before has it. -/
theorem breaksId_iff {set : RuleSet} {r : Rule} {i : Nat} : set.breaksId (r, i) = true ↔
    Text.isBlankText r.id = true ∨ ∃ j q, j < i ∧ set.rules[j]? = some q ∧ q.id = r.id := by
  rw [RuleSet.breaksId, Bool.or_eq_true, List.any_eq_true]
  refine or_congr_right ⟨?_, ?_⟩
  · rintro ⟨q, hq, heq⟩
    obtain ⟨j, hj, rfl⟩ := List.mem_take_iff_getElem.1 hq
    have hlength : j < set.rules.length := by omega
    exact ⟨j, set.rules[j], by omega, List.getElem?_eq_getElem hlength, by simpa using heq⟩
  · rintro ⟨j, q, hj, hq, heq⟩
    obtain ⟨hlength, rfl⟩ := List.getElem?_eq_some_iff.1 hq
    exact ⟨set.rules[j], List.mem_take_iff_getElem.2 ⟨j, by omega, rfl⟩, by simpa using heq⟩

theorem not_inUnit_iff {x : Float} : Validation.inUnit x = false ↔ ¬ (0.0 ≤ x ∧ x ≤ 1.0) := by
  simp [Validation.inUnit]

/-- **The list has the places at which a rule set breaks a rule of the format.** -/
theorem RuleSet.mem_breaches_iff {set : RuleSet} {p : Place} : p ∈ set.breaches ↔ set.BreaksAt p := by
  have hrules : p ∈ (set.rules.zipIdx.flatMap fun x => x.1.breaches x.2)
      ↔ ∃ (r : Rule) (i : Nat), set.rules[i]? = some r ∧ p ∈ r.breaches i := by
    simp [List.mem_flatMap, List.mk_mem_zipIdx_iff_getElem?]
  have hids : p ∈ (set.rules.zipIdx.flatMap fun x => oneIf (set.breaksId x) (.id x.2))
      ↔ ∃ (r : Rule) (i : Nat), set.rules[i]? = some r ∧ set.breaksId (r, i) = true ∧ p = .id i := by
    simp [List.mem_flatMap, List.mk_mem_zipIdx_iff_getElem?]
  have hlearning : p ∈ set.learning.toList.flatMap Learning.breaches
      ↔ ∃ c, set.learning = some c ∧ p ∈ c.breaches := by
    simp [List.mem_flatMap]
  rw [breaches, List.mem_append, List.mem_append, hids, hlearning, hrules]
  cases p with
  | id i => simp [BreaksAt, breaksId_iff, Learning.breaches, Rule.breaches]
  | workers => simp [BreaksAt, Learning.breaches, Rule.breaches]
  | leastRank => simp [BreaksAt, Learning.breaches, Rule.breaches, not_inUnit_iff]
  | weight i => simp [BreaksAt, Learning.breaches, Rule.breaches, not_inUnit_iff, Option.any_eq_true]
  | field i j => simp [BreaksAt, Learning.breaches, Rule.breaches, List.mk_mem_zipIdx_iff_getElem?]
  | target i j =>
    simp [BreaksAt, Learning.breaches, Rule.breaches, List.mk_mem_zipIdx_iff_getElem?, Option.any_eq_true]
  | function i j =>
    simp [BreaksAt, Learning.breaches, Rule.breaches, List.mk_mem_zipIdx_iff_getElem?, Option.any_eq_true]

/-- What is listed under the number of each item is listed once. -/
theorem nodup_flatMap_zipIdx {xs : List α} {f : α × Nat → List β} (hnodup : ∀ x, (f x).Nodup)
    (hapart : ∀ x y p, p ∈ f x → p ∈ f y → x.2 = y.2) : (xs.zipIdx.flatMap f).Nodup := by
  refine List.nodup_flatMap.2 ⟨fun x _ => hnodup x, ?_⟩
  have hnumbers := List.pairwise_map.1 (List.nodup_zipIdx_map_snd xs)
  exact hnumbers.imp fun hne p hp hq => hne (hapart _ _ p hp hq)

theorem nodup_oneIf (p : Bool) (x : α) : (oneIf p x).Nodup := by
  cases p <;> simp [oneIf]

/-- A rule does not break the format twice at one place. -/
theorem Rule.nodup_breaches (r : Rule) (i : Nat) : (r.breaches i).Nodup := by
  have hconditions : (r.conditions.zipIdx.flatMap fun x =>
      oneIf (Text.isBlankText x.1.field) (Place.field i x.2)).Nodup := by
    refine nodup_flatMap_zipIdx (fun x => nodup_oneIf _ _) ?_
    intro x y p hx hy
    simp_all
  have hactions : (r.actions.zipIdx.flatMap fun x =>
      oneIf (x.1.target?.any Text.isBlankText) (Place.target i x.2)
        ++ oneIf (x.1.function?.any Text.isBlankText) (Place.function i x.2)).Nodup := by
    refine nodup_flatMap_zipIdx (fun x => ?_) ?_
    · refine List.nodup_append.2 ⟨nodup_oneIf _ _, nodup_oneIf _ _, ?_⟩
      intro p hp q hq
      simp_all
    · intro x y p hx hy
      simp only [List.mem_append, mem_oneIf] at hx hy
      rcases hx with ⟨-, rfl⟩ | ⟨-, rfl⟩ <;> simpa using hy.imp And.right And.right
  refine List.nodup_append.2 ⟨List.nodup_append.2 ⟨nodup_oneIf _ _, hconditions, ?_⟩, hactions, ?_⟩
  · intro p hp q hq
    simp only [List.mem_flatMap, mem_oneIf] at hp hq
    obtain ⟨-, rfl⟩ := hp
    obtain ⟨x, -, -, rfl⟩ := hq
    simp
  · intro p hp q hq
    simp only [List.mem_append, List.mem_flatMap, mem_oneIf] at hp hq
    obtain ⟨x, -, ⟨-, rfl⟩ | ⟨-, rfl⟩⟩ := hq <;> rcases hp with ⟨-, rfl⟩ | ⟨y, -, -, rfl⟩ <;> simp

/-- The number of the rule a place is in. -/
def Place.rule? : Place → Option Nat
  | .id i | .weight i | .field i _ | .target i _ | .function i _ => some i
  | .workers | .leastRank => none

/-- The breaches of a rule are at places in that rule. -/
theorem Rule.rule?_of_mem_breaches {r : Rule} {i : Nat} {p : Place} (h : p ∈ r.breaches i) :
    p.rule? = some i := by
  simp only [breaches, List.mem_append, List.mem_flatMap, mem_oneIf] at h
  rcases h with (⟨-, rfl⟩ | ⟨x, -, -, rfl⟩) | ⟨x, -, ⟨-, rfl⟩ | ⟨-, rfl⟩⟩ <;> rfl

/-- **Each place is listed once.** -/
theorem RuleSet.nodup_breaches (set : RuleSet) : set.breaches.Nodup := by
  have hids : (set.rules.zipIdx.flatMap fun x => oneIf (set.breaksId x) (Place.id x.2)).Nodup := by
    refine nodup_flatMap_zipIdx (fun x => nodup_oneIf _ _) ?_
    intro x y p hx hy
    simp_all
  have hlearning : (set.learning.toList.flatMap Learning.breaches).Nodup := by
    cases set.learning with
    | none => simp
    | some c => simp [Learning.breaches, List.nodup_append, nodup_oneIf]
  have hrules : (set.rules.zipIdx.flatMap fun x => x.1.breaches x.2).Nodup :=
    nodup_flatMap_zipIdx (fun x => x.1.nodup_breaches x.2) fun x y p hx hy =>
      Option.some_inj.1 ((Rule.rule?_of_mem_breaches hx).symm.trans (Rule.rule?_of_mem_breaches hy))
  refine List.nodup_append.2 ⟨List.nodup_append.2 ⟨hids, hlearning, ?_⟩, hrules, ?_⟩
  · intro p hp q hq
    simp only [List.mem_flatMap, Learning.breaches, List.mem_append, mem_oneIf] at hp hq
    obtain ⟨x, -, -, rfl⟩ := hp
    obtain ⟨c, -, ⟨-, rfl⟩ | ⟨-, rfl⟩⟩ := hq <;> simp
  · rintro p hp q hq rfl
    obtain ⟨x, -, hx⟩ := List.mem_flatMap.1 hq
    cases p <;> simp_all [Rule.breaches, Learning.breaches]

/-! ## Validation follows the list -/

namespace Validation

variable {handlers : Option Handlers} {path : String}

/-- An error that is made under a condition is one thing if that is the case. -/
theorem errors_orNone_error (p : Bool) (path message : String) :
    (orNone p (error path message)).errors = oneIf p ⟨path, message⟩ := by
  cases p <;> rfl

/-- The errors of items are those of each, at the place with its number. -/
theorem errors_itemsFrom (check : String → α → Validation) (base : String) (i : Nat) (xs : List α) :
    (itemsFrom check base i xs).errors
      = (xs.zipIdx i).flatMap fun x => (check (numbered base x.2) x.1).errors := by
  induction xs generalizing i with
  | nil => rfl
  | cons x rest ih => rw [itemsFrom, errors_append, ih, List.zipIdx_cons, List.flatMap_cons]; rfl

/-- All that can be wrong with a condition is a blank field. -/
theorem errors_condition (c : Condition) : (condition handlers path c).errors
    = oneIf (Text.isBlankText c.field) ⟨path ++ ".field", "condition field must not be empty"⟩ := by
  rw [condition, errors_append, errors_orNone_error, errors_test, List.append_nil]

/-- All that can be wrong with an action is a blank target or a blank function. -/
theorem errors_action (a : Action) : (action handlers path a).errors
    = oneIf (a.target?.any Text.isBlankText) ⟨path ++ ".target", "action target must not be empty"⟩
      ++ oneIf (a.function?.any Text.isBlankText)
        ⟨path ++ ".functionName", "functionName must not be empty"⟩ := by
  cases a with
  | set | append | llmGenerate =>
    simp only [action, errors_append, errors_orNone_error]
    rfl
  | trigger name target =>
    simp only [action, function, errors_append, errors_orNone_error]
    rfl
  | transform target name value =>
    simp only [action, function, errors_append, errors_orNone_error]
    congr 1
    by_cases hblank : Text.isBlankText name = true
    · simp only [hblank, if_true, errors_orNone_error, Action.function?, Option.any_some]
    · -- a name that is there is looked up, and at most warned about
      cases handlers <;> simp [Action.function?, hblank, oneIf, unregistered]

/-- The errors of a rule are about its weight, its conditions and its actions, in this order. -/
theorem errors_rule (r : Rule) : (rule handlers path r).errors
    = oneIf (r.signalWeight.any (!inUnit ·))
        ⟨path ++ ".metadata.signalWeight", unitMessage (r.signalWeight.getD 0.0)⟩
      ++ (r.conditions.zipIdx.flatMap fun x => oneIf (Text.isBlankText x.1.field)
        ⟨numbered (path ++ ".conditions") x.2 ++ ".field", "condition field must not be empty"⟩)
      ++ r.actions.zipIdx.flatMap fun x =>
        oneIf (x.1.target?.any Text.isBlankText)
            ⟨numbered (path ++ ".actions") x.2 ++ ".target", "action target must not be empty"⟩
          ++ oneIf (x.1.function?.any Text.isBlankText)
            ⟨numbered (path ++ ".actions") x.2 ++ ".functionName", "functionName must not be empty"⟩ := by
  rw [rule, errors_append, errors_append, errors_itemsFrom, errors_itemsFrom]
  simp only [errors_condition, errors_action]
  congr 2
  cases r.signalWeight with
  | none => rfl
  | some w => exact errors_orNone_error _ _ _

/-- The errors of the names from number `i` on: a name is objected to if it is blank, was seen, or is that
of one before it. -/
theorem errors_idsFrom (i : Nat) (seen ids : List String) :
    (idsFrom i seen ids).errors = (ids.zipIdx i).flatMap fun x =>
      oneIf (Text.isBlankText x.1 || (seen.contains x.1 || (ids.take (x.2 - i)).contains x.1))
        ⟨idPath x.2, if Text.isBlankText x.1 then "rule id must not be empty"
          else "duplicate rule id '" ++ x.1 ++ "'"⟩ := by
  induction ids generalizing i seen with
  | nil => rfl
  | cons id rest ih =>
    -- a later name is seen after the first one if it was seen before or is the first one
    have hlater : ∀ seen', (∀ other, Text.isBlankText other = false →
          (seen'.contains other = (seen.contains other || other == id))) →
        (idsFrom (i + 1) seen' rest).errors = (rest.zipIdx (i + 1)).flatMap fun x =>
          oneIf (Text.isBlankText x.1 || (seen.contains x.1 || ((id :: rest).take (x.2 - i)).contains x.1))
            ⟨idPath x.2, if Text.isBlankText x.1 then "rule id must not be empty"
              else "duplicate rule id '" ++ x.1 ++ "'"⟩ := by
      intro seen' hseen'
      rw [ih]
      refine List.flatMap_congr fun x hx => ?_
      have hi : x.2 - i = x.2 - (i + 1) + 1 := by
        have := List.le_snd_of_mem_zipIdx hx
        omega
      rw [hi, List.take_succ_cons, List.contains_cons]
      by_cases hblank : Text.isBlankText x.1 = true
      · rw [hblank, Bool.true_or, Bool.true_or]
      · rw [hseen' x.1 (by simpa using hblank), Bool.or_assoc]
    rw [idsFrom, List.zipIdx_cons, List.flatMap_cons]
    by_cases hblank : Text.isBlankText id = true
    · have hsame : ∀ other, Text.isBlankText other = false →
          seen.contains other = (seen.contains other || other == id) := by
        intro other hother
        have hne : other ≠ id := by
          rintro rfl
          rw [hblank] at hother
          cases hother
        rw [beq_eq_false_iff_ne.2 hne, Bool.or_false]
      rw [if_pos hblank, errors_append, hlater seen hsame]
      simp [hblank, oneIf]
    · by_cases hseen : seen.contains id = true
      · have hsame : ∀ other, Text.isBlankText other = false →
            seen.contains other = (seen.contains other || other == id) := by
          intro other _
          by_cases hother : other = id
          · rw [hother, hseen, Bool.true_or]
          · rw [beq_eq_false_iff_ne.2 hother, Bool.or_false]
        rw [if_neg hblank, if_pos hseen, errors_append, hlater seen hsame]
        simp_all [oneIf]
      · have hmore : ∀ other, Text.isBlankText other = false →
            (id :: seen).contains other = (seen.contains other || other == id) := by
          intro other _
          rw [List.contains_cons, Bool.or_comm]
        rw [if_neg hblank, if_neg hseen, errors_append, hlater (id :: seen) hmore]
        simp_all [oneIf]

/-- The remarks about the names are the objections to them. -/
theorem errors_ids (set : RuleSet) : (idsFrom 0 [] (set.rules.map (·.id))).errors
    = (set.rules.zipIdx.flatMap fun x => oneIf (set.breaksId x) (.id x.2)).map set.objection := by
  rw [errors_idsFrom, List.zipIdx_map, List.flatMap_map, List.map_flatMap]
  refine List.flatMap_congr fun x hx => ?_
  have hrule : set.rules[x.2]? = some x.1 := List.mem_zipIdx_iff_getElem?.1 hx
  have hbefore : ((set.rules.map (·.id)).take x.2).contains x.1.id
      = (set.rules.take x.2).any (·.id == x.1.id) := by
    rw [List.contains_eq_any_beq, ← List.map_take, List.any_map]
    simp only [Function.comp_def, Bool.beq_comm]
  rw [map_oneIf, RuleSet.objection, RuleSet.complaint, hrule, RuleSet.breaksId, ← hbefore]
  rfl

/-- The remarks about the settings of scoring and learning are the objections to them. -/
theorem errors_learning {set : RuleSet} {c : Learning} (hset : set.learning = some c) :
    (learning c).errors = c.breaches.map set.objection := by
  simp only [learning, errors_append, errors_orNone_error, Learning.breaches, List.map_append, map_oneIf]
  simp [RuleSet.objection, RuleSet.complaint, RuleSet.learningInForce, hset, Place.path]

/-- The remarks about the rules are the objections to them. -/
theorem errors_rules (set : RuleSet) : (itemsFrom (rule handlers) "rules" 0 set.rules).errors
    = (set.rules.zipIdx.flatMap fun x => x.1.breaches x.2).map set.objection := by
  rw [errors_itemsFrom, List.map_flatMap]
  refine List.flatMap_congr fun x hx => ?_
  have hrule : set.rules[x.2]? = some x.1 := List.mem_zipIdx_iff_getElem?.1 hx
  have hweight : set.objection (.weight x.2) = ⟨numbered "rules" x.2 ++ ".metadata.signalWeight",
      unitMessage (x.1.signalWeight.getD 0.0)⟩ := by
    rw [RuleSet.objection, RuleSet.complaint, hrule]
    rfl
  simp only [errors_rule, Rule.breaches, List.map_append, List.map_flatMap, map_oneIf, hweight]
  rfl

/-- **The errors are the objections at the places of the list**, whatever handlers are registered. -/
theorem errors_ofRuleSet (set : RuleSet) :
    (ofRuleSet set handlers).errors = set.breaches.map set.objection := by
  rw [RuleSet.breaches, List.map_append, List.map_append, ← errors_ids, ← @errors_rules handlers set,
    ofRuleSet, errors_append, errors_append]
  cases hset : set.learning with
  | none => rfl
  | some c =>
    rw [Option.toList_some, List.flatMap_singleton, ← errors_learning hset]

end Validation

/-! ## The paths tell the places apart -/

/-- What is before the first of some mark, and what is behind it. -/
theorem append_cons_inj {xs ys us vs : List α} {a : α} (hxs : a ∉ xs) (hys : a ∉ ys)
    (h : xs ++ a :: us = ys ++ a :: vs) : xs = ys ∧ us = vs := by
  induction xs generalizing ys with
  | nil =>
    cases ys with
    | nil => exact ⟨rfl, (List.cons.inj h).2⟩
    | cons y ys =>
      obtain ⟨rfl, -⟩ := List.cons.inj h
      exact absurd List.mem_cons_self hys
  | cons x xs ih =>
    cases ys with
    | nil =>
      obtain ⟨rfl, -⟩ := List.cons.inj h
      exact absurd List.mem_cons_self hxs
    | cons y ys =>
      rw [List.mem_cons, not_or] at hxs hys
      obtain ⟨rfl, hrest⟩ := List.cons.inj h
      obtain ⟨rfl, rfl⟩ := ih hxs.2 hys.2 hrest
      exact ⟨rfl, rfl⟩

/-- An item of a list is told by its number, and what follows it in a path by the path. -/
theorem numbered_append_inj {list rest rest' : String} {i i' : Nat}
    (h : numbered list i ++ rest = numbered list i' ++ rest') : i = i' ∧ rest = rest' := by
  have hdigits : ∀ n : Nat, ']' ∉ Nat.toDigits 10 n := by
    intro n hn
    exact absurd (Nat.isDigit_of_mem_toDigits (by decide) (by decide) hn) (by decide)
  have hletters : Nat.toDigits 10 i ++ ']' :: rest.toList = Nat.toDigits 10 i' ++ ']' :: rest'.toList := by
    simpa [numbered] using congrArg String.toList h
  obtain ⟨hnumber, hrest⟩ := append_cons_inj (hdigits i) (hdigits i') hletters
  have hvalue := congrArg (Nat.ofDigitChars 10 · 0) hnumber
  exact ⟨by simpa using hvalue, String.toList_inj.1 hrest⟩

namespace Place

/-- The part of a path inside a rule. -/
def tail : Place → String
  | .id _ => ".id"
  | .weight _ => ".metadata.signalWeight"
  | .field _ j => numbered ".conditions" j ++ ".field"
  | .target _ j => numbered ".actions" j ++ ".target"
  | .function _ j => numbered ".actions" j ++ ".functionName"
  | p => p.path

/-- The path of a place in a rule goes through the rule. -/
theorem path_eq {p : Place} {i : Nat} (h : p.rule? = some i) : p.path = numbered "rules" i ++ p.tail := by
  apply String.toList_inj.1
  cases p <;> cases h <;> simp [path, tail, numbered, Validation.idPath]

/-- The second letter and the last one of the part of a path inside a rule. -/
def letters : Place → Char × Char
  | .id _ => ('i', 'd')
  | .workers => ('e', 'l')
  | .leastRank => ('e', 'd')
  | .weight _ => ('m', 't')
  | .field _ _ => ('c', 'd')
  | .target _ _ => ('a', 't')
  | .function _ _ => ('a', 'e')

/-- They are there, as every such part is long enough. -/
theorem letters_tail (p : Place) :
    p.tail.toList[1]? = some p.letters.1 ∧ p.tail.toList.getLast? = some p.letters.2 := by
  cases p <;> simp [tail, path, letters, numbered, List.getLast?_cons, List.getLast?_append]

/-- Two places in one rule are told apart by these letters and by the numbers of items. -/
theorem tail_injective {p q : Place} (hrule : p.rule? = q.rule?) (h : p.tail = q.tail) : p = q := by
  -- the letters tell what is at the place, and the numbers which it is
  obtain ⟨hsecond, hlast⟩ := p.letters_tail
  have hletters : p.letters = q.letters := by
    rw [h, q.letters_tail.1] at hsecond
    rw [h, q.letters_tail.2] at hlast
    exact Prod.ext (Option.some.inj hsecond).symm (Option.some.inj hlast).symm
  clear hsecond hlast
  cases p <;> cases q <;> cases hletters
  case workers.workers | leastRank.leastRank => rfl
  case id.id | weight.weight =>
    cases hrule
    rfl
  case field.field | target.target | function.function =>
    cases hrule
    obtain ⟨rfl, -⟩ := numbered_append_inj h
    rfl

/-- **No two places have the same path.** -/
theorem path_injective : Function.Injective path := by
  intro p q h
  -- paths into rules and paths into the settings have different first letters
  have hrules : ∀ (p : Place) i, p.rule? = some i → p.path.toList.head? = some 'r' := by
    intro p i hp
    rw [path_eq hp]
    simp [numbered]
  have hsettings : ∀ p : Place, p.rule? = none → p.path.toList.head? = some 'n' ∧ p.path = p.tail := by
    intro p hp
    cases p with
    | workers | leastRank => simp [path, tail]
    | _ => cases hp
  have hfirst : p.path.toList.head? = q.path.toList.head? := by rw [h]
  cases hp : p.rule? with
  | none =>
    obtain ⟨hn, hptail⟩ := hsettings p hp
    cases hq : q.rule? with
    | none => exact tail_injective (hp.trans hq.symm) (hptail.symm.trans (h.trans (hsettings q hq).2))
    | some j =>
      rw [hn, hrules q j hq] at hfirst
      simp at hfirst
  | some i =>
    cases hq : q.rule? with
    | none =>
      rw [hrules p i hp, (hsettings q hq).1] at hfirst
      simp at hfirst
    | some j =>
      rw [path_eq hp, path_eq hq] at h
      obtain ⟨rfl, htail⟩ := numbered_append_inj h
      exact tail_injective (hp.trans hq.symm) htail

end Place

/-! ## The main statement -/

/-- **Validation objects exactly to what breaks the rules of the format.**  A rule set is valid exactly if
its names are there and all different, its settings of scoring and learning have a worker and a least rank
in the interval, every weight is in the interval, and every field of a condition, every target an action
writes to and every function it calls is there.  The errors are one for every place at which this is broken,
under the path of that place, and no two places have the same path.  What handlers are registered does not
matter for this, and the rulebook takes over every rule set that is valid. -/
theorem every_breach_is_named_once (set : RuleSet) :
    (∀ handlers, (Validation.ofRuleSet set handlers).isValid = true ↔ set.Legal)
    ∧ (∃ breaches : List Place, breaches.Nodup ∧ (∀ p, p ∈ breaches ↔ set.BreaksAt p)
      ∧ ∀ handlers, (Validation.ofRuleSet set handlers).errors = breaches.map set.objection)
    ∧ Function.Injective Place.path
    ∧ ∀ handlers book, (Validation.ofRuleSet set handlers).isValid = true →
        Rulebook.load book set = .ok ⟨set⟩ := by
  refine ⟨fun handlers => Validation.isValid_ofRuleSet_iff, ?breaches, Place.path_injective, ?load⟩
  case breaches =>
    exact ⟨set.breaches, set.nodup_breaches, fun p => RuleSet.mem_breaches_iff,
      fun handlers => Validation.errors_ofRuleSet set⟩
  case load =>
    intro handlers book hvalid
    exact book.load_of_isValid hvalid

-- a name that comes twice, one that is not there, and an action that lacks all it needs
example : ({ rules := [{ id := "a" }, { id := " " },
      { id := "a", actions := [.transform "" " " none] }] } : RuleSet).breaches
    = [.id 1, .id 2, .target 2 0, .function 2 0] := by decide

end Arbiter
