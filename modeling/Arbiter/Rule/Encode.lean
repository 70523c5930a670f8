import Arbiter.Rule.Basic
/-!
# Rules as data

The form rules take in files and answers.  Fields come in a fixed order; those that are empty or
have their usual value are left out where the form says so.
-/

namespace Arbiter

/-- A field that is left out when there is nothing in it. -/
def optionalField (name : String) (encode : α → Value) : Option α → Fields
  | some a => [(name, encode a)]
  | none => []

/-- Several texts as data. -/
def Value.strings (xs : List String) : Value := .arr (xs.map .str)

/-- The name of an operator. -/
def Operator.name : Operator → String
  | .and => "AND"
  | .or => "OR"

/-- The fields of a test, beside its type. -/
def Test.fields : Test → Fields
  | .equals v => [("value", v)]
  | .contains v => [("value", v)]
  | .regex p => [("value", .str p)]
  | .llmEvaluate p => [("llmPrompt", .str p)]
  | .custom h v => optionalField "handler" .str h ++ [("value", v)]

/-- A condition as data. -/
def Condition.toValue (c : Condition) : Value :=
  .obj ([("field", .str c.field), ("type", .str c.test.kind.name)] ++ c.test.fields
    ++ optionalField "operator" (fun op => .str op.name) c.operator)

/-- The fields of an action, beside its type. -/
def Action.fields : Action → Fields
  | .set target v => [("target", .str target), ("value", v)]
  | .append target v => [("target", .str target), ("value", v)]
  | .llmGenerate target prompt => [("target", .str target), ("prompt", .str prompt)]
  | .trigger function target =>
    ("functionName", .str function) :: optionalField "target" .str target
  | .transform target function v =>
    [("target", .str target), ("functionName", .str function)] ++ optionalField "value" id v

/-- An action as data. -/
def Action.toValue (a : Action) : Value := .obj (("type", .str a.kindName) :: a.fields)

/-- The notes of a rule as data. -/
def Metadata.toValue (m : Metadata) : Value :=
  .obj (optionalField "signalWeight" .float m.signalWeight
    ++ optionalField "updatedAt" (fun t => .str t.text) m.updatedAt
    ++ optionalField "description" .str m.description
    ++ optionalField "tags" .strings m.tags)

/-- A rule as data. -/
def Rule.toValue (r : Rule) : Value :=
  .obj ([("id", .str r.id), ("priority", .int r.priority),
      ("conditions", .arr (r.conditions.map Condition.toValue)),
      ("actions", .arr (r.actions.map Action.toValue))]
    ++ (if r.metadata.isEmpty then [] else [("metadata", r.metadata.toValue)]))

/-- The settings of scoring and learning as data. -/
def Learning.toValue (c : Learning) : Value :=
  .obj (optionalField "parallelismLevel" .nat c.workers
    ++ [("layerDepth", .nat c.trainingSteps), ("activationThreshold", .float c.leastRank),
      ("learningEnabled", .bool c.learns)])

/-- The name of a conflict policy. -/
def ConflictPolicy.name : ConflictPolicy → String
  | .allowAll => "allow_all"
  | .priorityWins => "priority_wins"

/-- A rule set as data. -/
def RuleSet.toValue (s : RuleSet) : Value :=
  .obj ([("rules", .arr (s.rules.map Rule.toValue))]
    ++ optionalField "globalContext" .obj s.globalContext
    ++ optionalField "neuralConfig" Learning.toValue s.learning
    ++ (if s.conflictPolicy = .allowAll then []
        else [("conflictPolicy", .str s.conflictPolicy.name)]))

/-- A patch as data. -/
def Patch.toValue (p : Patch) : Value :=
  .obj (optionalField "priority" .int p.priority
    ++ optionalField "conditions" (fun cs => .arr (cs.map Condition.toValue)) p.conditions
    ++ optionalField "actions" (fun as => .arr (as.map Action.toValue)) p.actions
    ++ optionalField "signalWeight" .float p.signalWeight
    ++ optionalField "description" .str p.description
    ++ optionalField "tags" .strings p.tags)

end Arbiter
