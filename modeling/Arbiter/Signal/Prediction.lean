import Arbiter.Decimal.Shortest
import Arbiter.Signal.Learner
import Arbiter.Sort
/-!
# Predicting rules

The rules whose features are most like those of the last pass, and that have matched most often, are
likely to be used next.
-/

namespace Arbiter

/-- A number that orders doubles: all of them, with minus zero before zero. -/
def Decimal.orderKey (x : Float) : Int :=
  let bits := x.toBits.toNat
  if bits < Nat.pow 2 63 then bits else -((bits - Nat.pow 2 63 : Nat) : Int) - 1

/-- A rule that is likely to be used next. -/
structure Prediction where
  /-- The rule. -/
  ruleId : String
  /-- How much it is like the last pass. -/
  similarity : Float
  /-- How often it has matched. -/
  usage : Nat
  /-- What it is ranked by. -/
  rank : Float

namespace Prediction

/-- A prediction as data. -/
def toValue (p : Prediction) : Value :=
  .obj [("ruleId", .str p.ruleId), ("similarity", .float p.similarity), ("usage", .nat p.usage),
    ("rank", .float p.rank)]

end Prediction

/-- How many rules are predicted at most. -/
def predictionLimit : Nat := 5

/-- The prediction for a rule the learner was trained on, given the features of the last pass and
the highest usage of all rules. -/
def Learner.rate (m : Learner) (current : List Float) (highest : Nat) (id : String)
    (pattern : List Float) : Prediction :=
  let similarity := Signal.cosine current pattern
  let usage := m.usageOf id
  let share := if highest = 0 then 0.0 else Float.ofNat usage / Float.ofNat highest
  { ruleId := id, similarity, usage, rank := similarity * 0.7 + share * 0.3 }

/-- The predictions ranked above a threshold, best first; of equal ones the rule that was trained
first. -/
def predict (m : Learner) (context : Context) (results : List Verdict)
    (threshold : Float) : List Prediction :=
  let current := Signal.featuresOfPass context results
  let highest := (m.usage.map (·.2)).foldl max 0
  let rated := (m.patterns.map fun (id, p) => m.rate current highest id p).filter (·.rank > threshold)
  let before (a b : Prediction) : Bool := Decimal.orderKey b.rank ≤ Decimal.orderKey a.rank
  (sortBy before rated).take predictionLimit

end Arbiter
