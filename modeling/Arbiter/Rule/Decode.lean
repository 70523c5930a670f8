import Arbiter.Document.Typed
import Arbiter.Rule.Basic
/-!
# Rules from documents

How each part of a rule file is read.  Unknown fields are skipped, except in patches.  A document
that lacks a required field, or has a field of the wrong type, is refused as a whole.
-/

namespace Arbiter

open Document

/-! ## Tagged records -/

/-- The names of the fields a record was read with: texts name a field, numbers count the known
ones, and anything else is refused. -/
def fieldName? (known : List String) : Document → Option String
  | .text s => some s
  | .int n => if 0 ≤ n then some ((known[n.toNat]?).getD "") else none
  | _ => none

/-- The fields of a settled record or list, with its known names not repeated.  Other names that
stand for one of the known ones come with it in `aliases`. -/
def settledFields? (known : List String) (aliases : List (String × String)) (d : Document) :
    Option Named :=
  match d with
  | .list _ true items => if items.length ≤ known.length then some (known.zip items) else none
  | .record _ entries => do
    let named ← entries.mapM fun e => (fieldName? known e.1).map fun k =>
      ((aliases.lookup k).getD k, e.2)
    if distinct known named then some named else none
  | _ => none

/-- Takes the one entry of a given key out of a record; `none` if it is missing or repeated. -/
def takeKey? (key : String) (entries : List (Document × Document)) :
    Option (Document × List (Document × Document)) :=
  let isKey (e : Document × Document) : Bool := string? e.1 == some key
  match entries.filter isKey with
  | [(_, d)] => some (d, entries.filter fun e => !isKey e)
  | _ => none

/-! ## Conditions -/

/-- The names of operators. -/
def Operator.names : List (String × Operator) :=
  [("AND", .and), ("and", .and), ("OR", .or), ("or", .or)]

/-- Reads an operator. -/
def Operator.decode? : Document → Option Operator := oneOf? Operator.names

/-- The kind of test a type names; a number counts the kinds. -/
def TestKind.decode? : Document → Option TestKind
  | .text s => TestKind.all.find? (·.name == s)
  | .int n => if 0 ≤ n then TestKind.all[n.toNat]? else none
  | _ => none

/-- Reads the fields of a test of a given kind. -/
def Test.decode? (kind : TestKind) (d : Document) : Option Test :=
  match kind with
  | .equals => do
    let f ← settledFields? ["value"] [] d
    return .equals (← optional f "value" .null value?)
  | .contains => do
    let f ← settledFields? ["value"] [] d
    return .contains (← optional f "value" .null value?)
  | .regex => do
    let f ← settledFields? ["value"] [("regex", "value")] d
    return .regex (← required f "value" string?)
  | .llmEvaluate => do
    let f ← settledFields? ["llmPrompt"] [] d
    return .llmEvaluate (← required f "llmPrompt" string?)
  | .custom => do
    let f ← settledFields? ["handler", "value"] [] d
    return .custom (← maybe f "handler" string?) (← optional f "value" .null value?)

/-- The fields a condition has beside those of its test. -/
def Condition.known : List String := ["field", "operator"]

/-- Reads a condition: a record with the fields of its test among its own. -/
def Condition.decode? (d : Document) : Option Condition := do
  let named ← (← entries? d).mapM fun e => (string? e.1).map fun k => (k, e.2)
  guard (distinct Condition.known named)
  let others ← (named.filter fun f => !Condition.known.contains f.1).mapM fun f =>
    (settle? f.2).map fun d => (Document.text f.1, d)
  let field ← required named "field" string?
  let (type, payload) ← takeKey? "type" others
  let test ← Test.decode? (← TestKind.decode? type) (.record none payload)
  let operator ← maybe named "operator" Operator.decode?
  return { field, test, operator }

/-! ## Actions -/

/-- Reads the fields of an action of a given type. -/
def Action.decodeAs? (type : String) (d : Document) : Option Action :=
  match type with
  | "set" => do
    let f ← settledFields? ["target", "value"] [] d
    return .set (← required f "target" string?) (← optional f "value" .null value?)
  | "append" => do
    let f ← settledFields? ["target", "value"] [] d
    return .append (← required f "target" string?) (← optional f "value" .null value?)
  | "llm_generate" => do
    let f ← settledFields? ["target", "prompt"] [] d
    return .llmGenerate (← required f "target" string?) (← required f "prompt" string?)
  | "trigger" => do
    let f ← settledFields? ["functionName", "target"] [] d
    return .trigger (← required f "functionName" string?) (← maybe f "target" string?)
  | "transform" => do
    let f ← settledFields? ["target", "functionName", "value"] [] d
    return .transform (← required f "target" string?) (← required f "functionName" string?)
      (← maybe f "value" value?)
  | _ => none

/-- Reads an action: a record with its type among its fields, or a list that starts with it. -/
def Action.decode? : Document → Option Action
  | .record tag entries => do
    guard !Scalar.localTag tag
    let (type, payload) ← takeType? entries
    Action.decodeAs? type (← settle? (.record none payload))
  | .list tag _ (type :: items) => do
    guard !Scalar.localTag tag
    Action.decodeAs? (← string? type) (← settle? (.list none true items))
  | _ => none
where
  /-- Finds the type among the entries; the key has to be a text when it is resolved. -/
  takeType? (entries : List (Document × Document)) :
      Option (String × List (Document × Document)) := do
    let isType (e : Document × Document) : Bool :=
      match settle? e.1 with
      | some (.text s) => s == "type"
      | _ => false
    match entries.filter isType with
    | [(_, d)] => return (← string? d, entries.filter fun e => !isType e)
    | _ => none

/-! ## Rules -/

/-- Reads a moment. -/
def Timestamp.decode? (d : Document) : Option Timestamp := do Timestamp.read? (← string? d)

/-- Reads the notes of a rule. -/
def Metadata.decode? (d : Document) : Option Metadata := do
  let f ← fields? ["signalWeight", "updatedAt", "description", "tags"] d
  return {
    signalWeight := ← maybe f "signalWeight" float?
    updatedAt := ← maybe f "updatedAt" Timestamp.decode?
    description := ← maybe f "description" string?
    tags := ← maybe f "tags" (list? string?) }

/-- Reads a rule. -/
def Rule.decode? (d : Document) : Option Rule := do
  let f ← fields? ["id", "priority", "conditions", "actions", "metadata"] d
  return {
    id := ← required f "id" string?
    priority := ← optional f "priority" 0 signed?
    conditions := ← optional f "conditions" [] (list? Condition.decode?)
    actions := ← optional f "actions" [] (list? Action.decode?)
    metadata := ← optional f "metadata" {} Metadata.decode? }

/-- Reads the settings of scoring and learning. -/
def Learning.decode? (d : Document) : Option Learning := do
  let f ← fields? ["parallelismLevel", "layerDepth", "activationThreshold", "learningEnabled"] d
  return {
    workers := ← maybe f "parallelismLevel" word?
    trainingSteps := ← optional f "layerDepth" 3 word?
    leastRank := ← optional f "activationThreshold" 0.5 float?
    learns := ← optional f "learningEnabled" false bool? }

/-- Reads a conflict policy. -/
def ConflictPolicy.decode? : Document → Option ConflictPolicy :=
  oneOf? [("allow_all", .allowAll), ("priority_wins", .priorityWins)]

/-- Reads a rule set. -/
def RuleSet.decode? (d : Document) : Option RuleSet := do
  let f ← fields? ["rules", "globalContext", "neuralConfig", "conflictPolicy"] d
  return {
    rules := ← optional f "rules" [] (list? Rule.decode?)
    globalContext := ← maybe f "globalContext" context?
    learning := ← maybe f "neuralConfig" Learning.decode?
    conflictPolicy := ← optional f "conflictPolicy" .allowAll ConflictPolicy.decode? }

/-- The fields of a patch. -/
def Patch.known : List String :=
  ["priority", "conditions", "actions", "signalWeight", "description", "tags"]

/-- Reads a patch; fields it does not know are refused. -/
def Patch.decode? (d : Document) : Option Patch := do
  let f ← fields? Patch.known d
  guard (onlyKnown Patch.known f)
  return {
    priority := ← maybe f "priority" signed?
    conditions := ← maybe f "conditions" (list? Condition.decode?)
    actions := ← maybe f "actions" (list? Action.decode?)
    signalWeight := ← maybe f "signalWeight" float?
    description := ← maybe f "description" string?
    tags := ← maybe f "tags" (list? string?) }

end Arbiter
