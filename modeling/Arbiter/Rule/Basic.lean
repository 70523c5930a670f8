import Arbiter.Rule.Action
import Arbiter.Rule.Condition
import Arbiter.Time.Timestamp
/-!
# Rules and rule sets

A rule is a row of conditions and a row of actions with a name and a priority.  A rule set is what
one rule file holds.  A patch changes some fields of one rule, never its name.
-/

namespace Arbiter

/-- What is noted about a rule beside its conditions and actions. -/
structure Metadata where
  /-- How much the learned confidence counts against the plain match, from nothing to one. -/
  signalWeight : Option Float := none
  /-- When the rule was last changed. -/
  updatedAt : Option Timestamp := none
  /-- What the rule is for. -/
  description : Option String := none
  /-- Labels. -/
  tags : Option (List String) := none
deriving BEq

/-- Whether nothing is noted. -/
def Metadata.isEmpty (m : Metadata) : Bool :=
  m.signalWeight.isNone && m.updatedAt.isNone && m.description.isNone && m.tags.isNone

/-- A named rule. -/
structure Rule where
  /-- The name of the rule. -/
  id : String
  /-- Rules of higher priority come first. -/
  priority : Int := 0
  /-- When the rule matches. -/
  conditions : List Condition := []
  /-- What it does then. -/
  actions : List Action := []
  /-- What else is noted. -/
  metadata : Metadata := {}
deriving BEq

namespace Rule

/-- The weight of the learned confidence, if the rule has one. -/
def signalWeight (r : Rule) : Option Float := r.metadata.signalWeight

/-- A rule with one more condition at the end. -/
def withCondition (r : Rule) (c : Condition) : Rule := { r with conditions := r.conditions ++ [c] }

/-- A rule with one more action at the end. -/
def withAction (r : Rule) (a : Action) : Rule := { r with actions := r.actions ++ [a] }

/-- A rule with a weight for the learned confidence. -/
def withSignalWeight (r : Rule) (w : Float) : Rule :=
  { r with metadata := { r.metadata with signalWeight := some w } }

/-- A rule that was changed at a given moment. -/
def stamped (r : Rule) (now : Timestamp) : Rule :=
  { r with metadata := { r.metadata with updatedAt := some now } }

end Rule

/-- Settings of scoring and learning. -/
structure Learning where
  /-- How many workers score; what the engine is set up with if nothing is said. -/
  workers : Option Nat := none
  /-- How many steps one training takes. -/
  trainingSteps : Nat := 3
  /-- The least rank a predicted rule must have. -/
  leastRank : Float := 0.5
  /-- Whether the model learns. -/
  learns : Bool := false
deriving BEq

/-- What happens when two rules write to the same place. -/
inductive ConflictPolicy where
  /-- Both write, and the later write stays. -/
  | allowAll
  /-- The rule of higher priority writes, and the other is kept from it. -/
  | priorityWins
deriving DecidableEq, Repr

/-- What a rule file holds. -/
structure RuleSet where
  /-- The rules, in the order they were declared. -/
  rules : List Rule := []
  /-- Data that goes into every evaluation. -/
  globalContext : Option Context := none
  /-- Settings of scoring and learning. -/
  learning : Option Learning := none
  /-- What happens when two rules write to the same place. -/
  conflictPolicy : ConflictPolicy := .allowAll
deriving BEq

/-- The settings of scoring and learning that are in force. -/
def RuleSet.learningInForce (s : RuleSet) : Learning := s.learning.getD {}

/-- A partial change of a rule. -/
structure Patch where
  /-- The new priority. -/
  priority : Option Int := none
  /-- The new conditions. -/
  conditions : Option (List Condition) := none
  /-- The new actions. -/
  actions : Option (List Action) := none
  /-- The new weight of the learned confidence. -/
  signalWeight : Option Float := none
  /-- The new description. -/
  description : Option String := none
  /-- The new labels. -/
  tags : Option (List String) := none
deriving BEq

namespace Patch

/-- Whether a patch changes nothing. -/
def isEmpty (p : Patch) : Bool := p == {}

/-- A rule with the fields of a patch that are there.  The time of the change is not noted. -/
def apply (p : Patch) (r : Rule) : Rule where
  id := r.id
  priority := p.priority.getD r.priority
  conditions := p.conditions.getD r.conditions
  actions := p.actions.getD r.actions
  metadata :=
    { r.metadata with
      signalWeight := p.signalWeight <|> r.metadata.signalWeight
      description := p.description <|> r.metadata.description
      tags := p.tags <|> r.metadata.tags }

end Patch

end Arbiter
