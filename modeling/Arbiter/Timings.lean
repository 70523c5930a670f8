import Arbiter.Ring
import Arbiter.Sort
import Arbiter.Table
import Arbiter.Time.Duration
import Arbiter.Value.Basic
/-!
# Timings

For every stage of the work the engine counts how often it ran and how often it failed, keeps the
mean of how long it took, and the latest times for their percentiles.  All times are in nanoseconds.
-/

namespace Arbiter

/-- What is kept of a stage. -/
structure StageLog where
  /-- How often it ran. -/
  invocations : Nat := 0
  /-- How often it did not fail. -/
  successes : Nat := 0
  /-- How often it failed. -/
  failures : Nat := 0
  /-- The mean of how long it took. -/
  average : Nat := 0
  /-- The latest times. -/
  recent : Ring Nat

/-- What is shown of a stage. -/
structure StageSummary where
  /-- How often it ran. -/
  invocations : Nat
  /-- How often it did not fail. -/
  successes : Nat
  /-- How often it failed. -/
  failures : Nat
  /-- The mean of how long it took. -/
  averageLatency : Nat
  /-- The time that ninety-five of a hundred did not exceed. -/
  p95Latency : Nat
  /-- The time that ninety-nine of a hundred did not exceed. -/
  p99Latency : Nat
deriving DecidableEq, Repr

/-- The mean after one more time: it moves by the difference over the number of times, in doubles,
and the fraction is dropped. -/
def nextAverage (average count latency : Nat) : Nat :=
  if count = 1 then latency
  else
    let previous := Float.ofNat average
    Decimal.toWord Decimal.truncate
      (previous + (Float.ofNat latency - previous) / Float.ofNat count)

/-- The entry of a sorted list that so many of a hundred do not exceed. -/
def percentile (sorted : List Nat) (p : Nat) : Nat :=
  let rank := (p * sorted.length + 99) / 100
  sorted.getD (max 1 (min rank sorted.length) - 1) 0

namespace StageLog

/-- A stage that never ran. -/
def ofWindow (window : Nat) : StageLog := { recent := .ofCapacity window }

/-- Records one run. -/
def record (s : StageLog) (success : Bool) (latency : Nat) : StageLog where
  invocations := s.invocations + 1
  successes := if success then s.successes + 1 else s.successes
  failures := if success then s.failures else s.failures + 1
  average := nextAverage s.average (s.invocations + 1) latency
  recent := s.recent.push latency

/-- What is shown of a stage. -/
def summary (s : StageLog) : StageSummary :=
  let sorted := sortBy (fun a b => a ≤ b) s.recent.items
  { invocations := s.invocations
    successes := s.successes
    failures := s.failures
    averageLatency := s.average
    p95Latency := percentile sorted 95
    p99Latency := percentile sorted 99 }

end StageLog

/-- A summary as data. -/
def StageSummary.toValue (m : StageSummary) : Value :=
  .obj [("invocations", .nat m.invocations), ("successes", .nat m.successes),
    ("failures", .nat m.failures), ("averageLatency", .float (Duration.toMillis m.averageLatency)),
    ("p95Latency", .float (Duration.toMillis m.p95Latency)),
    ("p99Latency", .float (Duration.toMillis m.p99Latency))]

/-- The stage of a whole pass. -/
def stageOfPass : String := "evaluate"

/-- The stage of a rule. -/
def stageOfRule (ruleId : String) : String := "rule:" ++ ruleId

/-- The logs of all stages. -/
structure Timings where
  /-- How many of the latest times are kept for each stage. -/
  window : Nat
  /-- The stages that ran. -/
  stages : Table StageLog := []

namespace Timings

/-- Records one run of a stage. -/
def record (m : Timings) (stage : String) (success : Bool) (latency : Nat) : Timings :=
  let before := (m.stages.lookup stage).getD (.ofWindow m.window)
  { m with stages := m.stages.set stage (before.record success latency) }

/-- What is shown of a stage that ran. -/
def stage? (m : Timings) (name : String) : Option StageSummary :=
  (m.stages.lookup name).map StageLog.summary

/-- What is shown of all stages, in the order of their names. -/
def snapshot (m : Timings) : List (String × StageSummary) :=
  sortBy (fun a b => a.1 ≤ b.1) (m.stages.map fun (name, s) => (name, s.summary))

/-- Forgets all stages. -/
def reset (m : Timings) : Timings := { m with stages := [] }

end Timings

end Arbiter
