import Arbiter.Verdict.Basic
import Arbiter.Verdict.Judge
import Arbiter.Value.Path
/-!
# Features of rules and contexts

Rules and passes are described by eight numbers between nothing and one, so that they can be
compared.  For a rule these are its priority, how many conditions and actions it has, and the share
of each kind of condition; for a pass the size of the context, the share of rules that matched, how
long they took, their average score, and zeros.
-/

namespace Arbiter.Signal

/-- How many features there are. -/
def featureCount : Nat := 3 + TestKind.all.length

/-- A number in parts of a scale, from nothing to one. -/
def unit (x scale : Float) : Float := clampFloat 0.0 1.0 (x / scale)

/-- Adds a share to the entry of a kind. -/
def addShare (shares : List Float) (share : Float) (k : TestKind) : List Float :=
  shares.modify k.index (· + share)

/-- The share of each kind of condition, added up condition by condition. -/
def kindShares (conditions : List Condition) : List Float :=
  let none := List.replicate TestKind.all.length 0.0
  let share := 1.0 / Float.ofNat conditions.length
  conditions.foldl (fun shares c => addShare shares share c.test.kind) none

/-- The features of a rule. -/
def featuresOfRule (r : Rule) : List Float :=
  [unit (Float.ofInt r.priority) 100.0, unit (Float.ofNat r.conditions.length) 10.0,
    unit (Float.ofNat r.actions.length) 10.0] ++ kindShares r.conditions

/-- Adds doubles from left to right. -/
def sum (xs : List Float) : Float := xs.foldl (· + ·) 0.0

/-- The features of a pass. -/
def featuresOfPass (context : Context) (results : List Verdict) : List Float :=
  let keys := unit (Float.ofNat context.length) 100.0
  if results.isEmpty then keys :: List.replicate (featureCount - 1) 0.0
  else
    let n := Float.ofNat results.length
    let matched := Float.ofNat (results.filter (·.matched)).length
    let millis := sum (results.map fun r => Duration.toSeconds r.processingTime * 1000.0)
    let score := sum (results.map (·.score))
    [keys, matched / n, unit (millis / n) 1000.0, clampFloat 0.0 1.0 (score / n)]
      ++ List.replicate (featureCount - 4) 0.0

/-- The share of the conditions whose field is there; all of none. -/
def coverage (r : Rule) (context : Context) : Float :=
  if r.conditions.isEmpty then 1.0
  else
    let present := r.conditions.filter fun c => (Context.read? context c.field).isSome
    Float.ofNat present.length / Float.ofNat r.conditions.length

/-- How much two rows of numbers point the same way, from minus one to one.  Rows of different
lengths, and rows without a length that can be divided by, have nothing in common. -/
def cosine (a b : List Float) : Float :=
  if a.length != b.length || a.isEmpty then 0.0
  else
    let pairs := a.zip b
    let dot := sum (pairs.map fun p => p.1 * p.2)
    let lengths := (sum (pairs.map fun p => p.1 * p.1)).sqrt * (sum (pairs.map fun p => p.2 * p.2)).sqrt
    if !lengths.isFinite || lengths < 2.220446049250313e-16 then 0.0
    else
      let ratio := dot / lengths
      if ratio.isFinite then clampFloat (-1.0) 1.0 ratio else 0.0

end Arbiter.Signal
