import Arbiter.Fault
import Arbiter.Rule.Basic
import Arbiter.Sort
/-!
# The active rules

The rulebook holds the rule set in force.  A set is taken over as a whole or not at all, and a patch
changes one rule.
-/

namespace Arbiter

/-- The rule set in force; no two of its rules have the same name. -/
structure Rulebook where
  /-- The rule set. -/
  active : RuleSet := {}

/-- The names that occur before, in the order of their later occurrences. -/
def repeatedIds (seen : List String) : List String → List String
  | [] => []
  | id :: ids => if seen.contains id then id :: repeatedIds seen ids else repeatedIds (id :: seen) ids

/-- Replaces the rule of a given name. -/
def replaceRule (id : String) (new : Rule) : List Rule → List Rule
  | [] => []
  | r :: rs => if r.id = id then new :: rs else r :: replaceRule id new rs

/-- A rule of the same name takes the place of another. -/
theorem map_id_replaceRule {id : String} {new : Rule} (hnew : new.id = id) (rules : List Rule) :
    (replaceRule id new rules).map (·.id) = rules.map (·.id) := by
  induction rules with
  | nil => rfl
  | cons r rest ih =>
    rw [replaceRule]
    by_cases hr : r.id = id
    · rw [if_pos hr, List.map_cons, List.map_cons, hnew, hr]
    · rw [if_neg hr, List.map_cons, List.map_cons, ih]

/-- Replacing a rule brings in no other. -/
theorem mem_of_mem_replaceRule {id : String} {new r : Rule} {rules : List Rule}
    (h : r ∈ replaceRule id new rules) : r = new ∨ r ∈ rules := by
  induction rules with
  | nil => cases h
  | cons first rest ih =>
    rw [replaceRule] at h
    split at h
    · rcases List.mem_cons.1 h with rfl | hrest
      · exact Or.inl rfl
      · exact Or.inr (List.mem_cons_of_mem _ hrest)
    · rcases List.mem_cons.1 h with rfl | hrest
      · exact Or.inr List.mem_cons_self
      · exact (ih hrest).imp_right (List.mem_cons_of_mem _)

/-- The new rule is there, if there was one to replace. -/
theorem mem_replaceRule_self {id : String} {rules : List Rule} (new : Rule)
    (hid : id ∈ rules.map (·.id)) : new ∈ replaceRule id new rules := by
  induction rules with
  | nil => cases hid
  | cons first rest ih =>
    rw [replaceRule]
    split
    · exact List.mem_cons_self
    · next hne =>
      rcases List.mem_cons.1 hid with rfl | hrest
      · exact absurd rfl hne
      · exact List.mem_cons_of_mem _ (ih hrest)

namespace Rulebook

/-- Takes over a rule set, unless a name occurs twice. -/
def load (_ : Rulebook) (set : RuleSet) : Except Fault Rulebook :=
  match repeatedIds [] (set.rules.map (·.id)) with
  | [] => .ok ⟨set⟩
  | ids => .error (.load ("duplicate rule ids: " ++ Text.joinWith ", " ids))

/-- The rule of a given name, if there is one. -/
def find? (s : Rulebook) (id : String) : Option Rule := s.active.rules.find? (·.id == id)

/-- The error that there is no rule of that name, with the one that was perhaps meant. -/
def notFound (s : Rulebook) (id : String) : Fault :=
  .notFound id (Text.suggest? id (s.active.rules.map (·.id)))

/-- The rule of a given name. -/
def get (s : Rulebook) (id : String) : Except Fault Rule :=
  match s.find? id with
  | some r => .ok r
  | none => .error (s.notFound id)

/-- Whether there is a rule of that name. -/
def contains (s : Rulebook) (id : String) : Bool := (s.find? id).isSome

/-- Patches a rule at a given moment; the answer has the rule and the rulebook after it. -/
def update (s : Rulebook) (id : String) (patch : Patch) (now : Timestamp) :
    Except Fault (Rule × Rulebook) :=
  match s.find? id with
  | none => .error (s.notFound id)
  | some r =>
    let new := (patch.apply r).stamped now
    .ok (new, ⟨{ s.active with rules := replaceRule id new s.active.rules }⟩)

/-- The rules by descending priority; of equal ones the one declared first. -/
def sorted (s : Rulebook) : List Rule :=
  sortBy (fun a b => b.priority ≤ a.priority) s.active.rules

/-- The rule set in force. -/
def snapshot (s : Rulebook) : RuleSet := s.active

/-- The data that goes into every evaluation. -/
def globalContext (s : Rulebook) : Context := s.active.globalContext.getD []

/-- The settings of scoring and learning. -/
def learningInForce (s : Rulebook) : Learning := s.active.learningInForce

/-- What happens when two rules write to the same place. -/
def conflictPolicy (s : Rulebook) : ConflictPolicy := s.active.conflictPolicy

/-- A rule that is found is there, and has the name. -/
theorem find?_eq_some {book : Rulebook} {id : String} {r : Rule} (h : book.find? id = some r) :
    r ∈ book.active.rules ∧ r.id = id := by
  have hfound := List.find?_some h
  exact ⟨List.mem_of_find?_eq_some h, by simpa using hfound⟩

end Rulebook

end Arbiter
