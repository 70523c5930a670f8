import Arbiter.Table
import Arbiter.Tuning.Plan
import Arbiter.Verdict.Basic
/-!
# Optimizing rules from history

A rule that matches often and takes little time gets a high priority; the learned confidence counts
the more, the less often the rule matches.
-/

namespace Arbiter

/-- What the history says about a rule. -/
structure TrackRecord where
  /-- The rule. -/
  ruleId : String
  /-- How often it was evaluated. -/
  evaluations : Nat
  /-- How often it matched. -/
  matched : Nat
  /-- The share of evaluations that matched. -/
  successRate : Float
  /-- How long it took on average, in nanoseconds. -/
  averageProcessingTime : Nat
  /-- How many evaluations fit into a second, up to a bound. -/
  efficiency : Float

/-- A change that was made to a rule. -/
structure Adjustment where
  /-- The rule. -/
  ruleId : String
  /-- Its priority before. -/
  oldPriority : Int
  /-- Its priority now. -/
  newPriority : Int
  /-- Its weight for the learned confidence. -/
  signalWeight : Float
  /-- What the change was made from. -/
  stats : TrackRecord

/-- What is added up for a rule: evaluations, matches and nanoseconds. -/
structure Tally where
  /-- How often it was evaluated. -/
  evaluations : Nat := 0
  /-- How often it matched. -/
  matched : Nat := 0
  /-- How long it took in all. -/
  total : Nat := 0

namespace Tally

/-- Adds a result. -/
def add (t : Tally) (r : Verdict) : Tally where
  evaluations := t.evaluations + 1
  matched := if r.matched then t.matched + 1 else t.matched
  total := t.total + r.processingTime

/-- The tallies of all rules in a history. -/
def ofHistory (history : List Verdict) : Table Tally :=
  history.foldl (fun t r => t.set r.ruleId (((t.lookup r.ruleId).getD {}).add r)) []

/-- What a tally says about a rule. -/
def stats (id : String) (t : Tally) : TrackRecord :=
  let average := min (t.total / t.evaluations) Numeral.maxWord
  { ruleId := id
    evaluations := t.evaluations
    matched := t.matched
    successRate := Plan.successRate t.matched t.evaluations
    averageProcessingTime := average
    efficiency := Plan.efficiency average }

end Tally

namespace TrackRecord

/-- What the history says, one row a rule, in the order in which the rules first occur. -/
def ofHistory (history : List Verdict) : List TrackRecord :=
  (Tally.ofHistory history).map fun (id, t) => t.stats id

/-- The priority a rule should have. -/
def plannedPriority (s : TrackRecord) : Int := Plan.priority s.successRate s.efficiency

/-- The weight for the learned confidence that a rule should have. -/
def plannedWeight (s : TrackRecord) : Float := Plan.weight s.successRate s.efficiency

/-- The patch that puts the plan into force. -/
def patch (s : TrackRecord) : Patch :=
  { priority := some s.plannedPriority, signalWeight := some s.plannedWeight }

/-- A row as data. -/
def toValue (s : TrackRecord) : Value :=
  .obj [("ruleId", .str s.ruleId), ("evaluations", .nat s.evaluations),
    ("matches", .nat s.matched), ("successRate", .float s.successRate),
    ("averageProcessingTime", .float (Duration.toMillis s.averageProcessingTime)),
    ("efficiency", .float s.efficiency)]

end TrackRecord

/-- A change as data. -/
def Adjustment.toValue (o : Adjustment) : Value :=
  .obj [("ruleId", .str o.ruleId), ("oldPriority", .int o.oldPriority),
    ("newPriority", .int o.newPriority), ("signalWeight", .float o.signalWeight),
    ("stats", o.stats.toValue)]

end Arbiter
