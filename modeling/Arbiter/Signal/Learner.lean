import Arbiter.Signal.Features
import Arbiter.Table
/-!
# Learning how relevant a rule is

A learner has one layer of weights.  Every rule it is trained on moves them a little towards the
priority of the rule.  It also keeps the features of the rules it was trained on, and how often each
rule has matched.
-/

namespace Arbiter

/-- What was learned. -/
structure Learner where
  /-- The weight of each feature. -/
  weights : List Float
  /-- What is added to the weighted features. -/
  bias : Float := 0.0
  /-- How many steps one training takes. -/
  trainingSteps : Nat
  /-- Whether training has any effect. -/
  learns : Bool
  /-- The features of the rules it was trained on, in the order of their first training. -/
  patterns : Table (List Float) := []
  /-- How often each rule has matched. -/
  usage : Table Nat := []

namespace Learner

/-- How far one step moves. -/
def stepSize : Float := 0.1

/-- A learner that has learned nothing. -/
def ofSettings (c : Learning) : Learner where
  weights := List.replicate Signal.featureCount 0.0
  trainingSteps := c.trainingSteps
  learns := c.learns

/-- The curve from nothing to one. -/
def sigmoid (z : Float) : Float := 1.0 / (1.0 + Float.exp (-z))

/-- What each feature contributes. -/
def contributions (m : Learner) (pattern : List Float) : List Float :=
  (pattern.zip m.weights).map fun p => p.1 * p.2

/-- The relevance of features. -/
def relevance (m : Learner) (pattern : List Float) : Float :=
  sigmoid (Signal.sum (m.contributions pattern) + m.bias)

/-- The signal of a rule in a context: fields that are missing take off up to half of it. -/
def score (m : Learner) (r : Rule) (context : Context) : Signal :=
  let pattern := Signal.featuresOfRule r
  let coverage := Signal.coverage r context
  { confidence := clampFloat 0.0 1.0 (m.relevance pattern * (0.5 + 0.5 * coverage))
    activation := m.contributions pattern }

/-- One step towards a target. -/
def trainStep (pattern : List Float) (target : Float) (m : Learner) : Learner :=
  let y := m.relevance pattern
  let delta := (target - y) * y * (1.0 - y)
  { m with
    weights := (m.weights.zip pattern).map fun p => p.1 + stepSize * delta * p.2
    bias := m.bias + stepSize * delta }

/-- Several steps towards a target. -/
def trainSteps (pattern : List Float) (target : Float) : Nat → Learner → Learner
  | 0, m => m
  | n + 1, m => trainSteps pattern target n (m.trainStep pattern target)

/-- Trains on a rule; without effect if it does not learn. -/
def train (m : Learner) (r : Rule) (targetPriority : Float) : Learner :=
  if m.learns then
    let pattern := Signal.featuresOfRule r
    let target := clampFloat 0.0 1.0 (targetPriority / 100.0)
    let m := trainSteps pattern target m.trainingSteps m
    { m with patterns := m.patterns.set r.id pattern }
  else m

/-- Trains on a rule with its own priority. -/
def trainOn (m : Learner) (r : Rule) : Learner := m.train r (Float.ofInt r.priority)

/-- How often a rule has matched. -/
def usageOf (m : Learner) (id : String) : Nat := (m.usage.lookup id).getD 0

/-- Counts one more match of a rule. -/
def countMatch (m : Learner) (id : String) : Learner :=
  { m with usage := m.usage.set id (m.usageOf id + 1) }

end Learner

end Arbiter
