import Arbiter.Capabilities
import Arbiter.Handlers
/-!
# Calls under a budget

Evaluation runs on a clock of its own.  Work takes no time on it; only waiting for replies does.  A
call may wait for as long as a single call may, and not beyond the deadline of the pass; a reply that
would take longer fails, and the clock stands at the end of the allowance.
-/

namespace Arbiter

/-- What an observer of an evaluation gets to see. -/
inductive Trace where
  /-- A question was put to the language model. -/
  | evaluate (prompt : String)
  /-- A text was asked for. -/
  | generate (prompt : String)
  /-- A rule was announced. -/
  | precompile (ruleId : String)
  /-- The result of a stage was reported. -/
  | metric (stage : String) (success : Bool)
deriving DecidableEq, Repr

/-- The state of the world around an evaluation. -/
structure World where
  /-- The time on the clock, in nanoseconds. -/
  now : Nat := 0
  /-- What was to be seen so far, latest first. -/
  traces : List Trace := []

/-- How long calls may wait. -/
structure Budget where
  /-- How long a single call may wait, in nanoseconds. -/
  perCall : Nat
  /-- When the pass has to be over. -/
  deadline : Option Nat := none

/-- A step of an evaluation that may fail. -/
abbrev Eval := ExceptT Fault (StateM World)

namespace Budget

/-- How long a call that starts now may wait. -/
def allowance (b : Budget) (now : Nat) : Nat :=
  match b.deadline with
  | none => b.perCall
  | some d => min b.perCall (d - now)

/-- Whether the deadline has come. -/
def isOver (b : Budget) (now : Nat) : Bool := b.deadline.any (· ≤ now)

/-- What becomes of a reply that is waited for from `now` on, and the time after it. -/
def wait (b : Budget) (now : Nat) (r : Reply α) : Except CallFailure α × Nat :=
  match r.delay with
  | none => (r.outcome, now)
  | some d =>
    let a := b.allowance now
    if d ≤ a then (r.outcome, now + d) else (.error (.timeout a), now + a)

/-- Waits for a reply; the clock moves on. -/
def call (b : Budget) (r : Reply α) : StateM World (Except CallFailure α) := fun w =>
  let (result, now) := b.wait w.now r
  (result, { w with now })

/-- Notes what an observer gets to see. -/
def note (t : Trace) : StateM World Unit := modify fun w => { w with traces := t :: w.traces }

/-- Makes a call that an observer gets to see; a failure is one of the evaluation. -/
def ask (b : Budget) (t : Trace) (r : Reply α) : Eval α := do
  note t
  match ← b.call r with
  | .ok a => return a
  | .error e => throw (.externalCapability e)

/-- Waiting never goes beyond the allowance. -/
theorem wait_le (b : Budget) (now : Nat) (r : Reply α) :
    (b.wait now r).2 ≤ now + b.allowance now := by
  unfold wait
  split
  · exact Nat.le_add_right _ _
  · simp only
    split
    · next h => exact Nat.add_le_add_left h now
    · exact Nat.le_refl _

end Budget

/-- What an evaluation needs from outside. -/
structure Env where
  /-- The outside capabilities. -/
  capabilities : Capabilities
  /-- The registered handlers. -/
  handlers : Handlers
  /-- How long calls may wait. -/
  budget : Budget

end Arbiter
