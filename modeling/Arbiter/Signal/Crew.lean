import Arbiter.Signal.Learner
/-!
# Scoring in shares

The rules to be scored are dealt out to workers in shares of one size, the last perhaps smaller.
The scores come back in the order of the rules.
-/

namespace Arbiter

/-- A number of workers. -/
structure Crew where
  /-- How many there are; at least one. -/
  workers : Nat
deriving DecidableEq, Repr

namespace Crew

/-- A crew of at least one worker. -/
def ofSize (workers : Nat) : Crew := ⟨max workers 1⟩

/-- The size of a share. -/
def shareSize (count workers : Nat) : Nat :=
  let workers := max workers 1
  (count + workers - 1) / workers

/-- The shares of so many items: from which place to which. -/
def shares (count workers : Nat) : List (Nat × Nat) :=
  if count = 0 then []
  else
    let size := shareSize count workers
    (List.range ((count + size - 1) / size)).map fun i => (i * size, min (i * size + size) count)

/-- The scores of rules, share by share. -/
def score (p : Crew) (m : Learner) (rules : List Rule) (context : Context) : List Signal :=
  (shares rules.length p.workers).flatMap fun (start, stop) =>
    ((rules.drop start).take (stop - start)).map fun r => m.score r context

/-- A short text that shows the number of workers. -/
def describe (p : Crew) : String := "WorkerPool \x7b workers: " ++ toString p.workers ++ " \x7d"

end Crew

example : Crew.shares 10 4 = [(0, 3), (3, 6), (6, 9), (9, 10)] := by decide
example : Crew.shares 4 0 = [(0, 4)] := by decide

end Arbiter
