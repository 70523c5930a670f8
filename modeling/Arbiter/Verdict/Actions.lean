import Arbiter.Verdict.Call
import Arbiter.Value.Path
/-!
# Carrying out actions

An action either writes one value at its target, raises an event, or changes nothing.  Which rule may
write where is not decided here.
-/

namespace Arbiter

/-- What an action did. -/
inductive Effect where
  /-- It wrote at a path. -/
  | wrote (target : String)
  /-- It raised an event. -/
  | triggered (function : String)
  /-- It ran and changed nothing. -/
  | unchanged
deriving DecidableEq, Repr

/-- The items of a field that a value is added to: those of a list, none of null or nothing, and
anything else alone. -/
def Value.asItems : Option Value → List Value
  | none => []
  | some .null => []
  | some (.arr items) => items
  | some v => [v]

/-- Carries out an action; the answer has the context after it. -/
def Action.run (env : Env) (a : Action) (context : Context) : Eval (Effect × Context) :=
  match a with
  | .set target v => return (.wrote target, Context.write context target v)
  | .append target v =>
    let items := Value.asItems (Context.read? context target)
    return (.wrote target, Context.write context target (.arr (items ++ [v])))
  | .llmGenerate target prompt => do
    let text ← env.budget.ask (.generate prompt) (env.capabilities.generate prompt context)
    return (.wrote target, Context.write context target (.str text))
  | .trigger function _ => return (.triggered function, context)
  | .transform target function v => do
    let handler ← ExceptT.mk (pure (env.handlers.transform function))
    match ← ExceptT.mk (pure (handler (Context.read? context target) v context)) with
    | some replacement => return (.wrote target, Context.write context target replacement)
    | none => return (.unchanged, context)

end Arbiter
