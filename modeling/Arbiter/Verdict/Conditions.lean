import Arbiter.Verdict.Call
import Arbiter.Pattern.Compile
import Arbiter.Value.Equal
import Arbiter.Value.Path
import Arbiter.Value.Print
/-!
# Evaluating conditions

Conditions are joined from left to right by the operators behind them, without precedence.  A
condition is not looked at when the operator before it already decides.  One that cannot be decided
counts as not met; any other failure ends the evaluation of the rule.
-/

namespace Arbiter

/-- Whether a list has an item that equals a value. -/
def Value.hasItem (field needle : Value) : Bool :=
  match field with
  | .arr items => items.any fun item => item.equal needle
  | _ => false

/-- Whether a list has an equal item, or the text of a value occurs in the text of another. -/
def Value.hasWithin (field needle : Value) : Bool :=
  field.hasItem needle || Text.occursIn needle.plainText.toList field.plainText.toList

namespace Condition

/-- Whether a condition holds. -/
def check (env : Env) (c : Condition) (context : Context) : Eval Bool :=
  let field := Context.read? context c.field
  match c.test with
  | .equals v => return (field.getD .null).equal v
  | .contains v => return (field.getD .null).hasWithin v
  | .regex pattern =>
    match Pattern.compile pattern with
    | .ok machine => return machine.matches (field.getD .null).plainText
    | .error problem =>
      throw (.conditionFailure ("invalid regex '" ++ pattern ++ "': " ++ problem.message))
  | .llmEvaluate prompt =>
    env.budget.ask (.evaluate prompt) (env.capabilities.evaluate prompt context)
  | .custom handler v => do
    let handler ← ExceptT.mk (pure (env.handlers.condition handler))
    ExceptT.mk (pure (handler field v context))

end Condition

/-- What a row of conditions has come to. -/
structure Fold where
  /-- Whether the conditions so far hold. -/
  matched : Bool := true
  /-- How the next condition is joined. -/
  pending : Operator := .and
  /-- The conditions that could not be decided. -/
  failures : List Failure := []
  /-- How many conditions were not looked at. -/
  skipped : Nat := 0

namespace Fold

/-- Takes a condition that is not looked at. -/
def skip (f : Fold) (c : Condition) : Fold :=
  { f with pending := c.operator.getD .and, skipped := f.skipped + 1 }

/-- Takes a condition that holds or does not hold. -/
def join (f : Fold) (c : Condition) (holds : Bool) : Fold :=
  { f with matched := f.pending.apply f.matched holds, pending := c.operator.getD .and }

/-- Takes a condition that cannot be decided. -/
def fail (f : Fold) (c : Condition) (e : Fault) : Fold :=
  { f.join c false with failures := f.failures ++ [e.failure] }

/-- Takes one condition. -/
def step (env : Env) (context : Context) (f : Fold) (c : Condition) : Eval Fold :=
  if f.pending.settles f.matched then return f.skip c
  else
    try pure (f.join c (← c.check env context))
    catch e => if e.isLocal then pure (f.fail c e) else throw e

/-- Takes a row of conditions. -/
def run (env : Env) (context : Context) (conditions : List Condition) : Eval Fold :=
  conditions.foldlM (step env context) {}

end Fold

end Arbiter
