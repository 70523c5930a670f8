import Arbiter.Decimal.Layout
import Arbiter.Pattern.Compile
import Arbiter.Handlers
import Arbiter.Text.Blank
import Arbiter.Yaml.Load
import Arbiter.Rule.Decode
/-!
# Validating rule sets

Errors keep a rule set from being loaded; warnings only say what will probably not work.  Every
remark names the place it is about.  What depends on registered handlers is only looked at when they
are given.
-/

namespace Arbiter

/-- An error in a rule set. -/
structure Objection where
  /-- The place in the rule set. -/
  path : String
  /-- What is wrong. -/
  message : String
deriving DecidableEq, Repr

/-- A warning about a rule set. -/
structure Advice where
  /-- The place in the rule set. -/
  path : String
  /-- What will not work. -/
  message : String
  /-- The name that was probably meant. -/
  suggestion : Option String := none
deriving DecidableEq, Repr

/-- What validation found. -/
structure Validation where
  /-- The errors. -/
  errors : List Objection := []
  /-- The warnings. -/
  warnings : List Advice := []
deriving DecidableEq, Repr

/-- A warning in one line. -/
def Advice.text (w : Advice) : String :=
  w.path ++ ": " ++ w.message ++ Text.didYouMean w.suggestion

namespace Validation

/-- Whether nothing keeps the rule set from being loaded. -/
def isValid (v : Validation) : Bool := v.errors.isEmpty

/-- All errors in one line. -/
def summary (v : Validation) : String :=
  Text.joinWith "; " (v.errors.map fun e => e.path ++ ": " ++ e.message)

/-- What two validations found. -/
def append (a b : Validation) : Validation := ⟨a.errors ++ b.errors, a.warnings ++ b.warnings⟩

instance : Append Validation := ⟨append⟩

/-- Nothing was found. -/
def none : Validation := {}

/-- One error. -/
def error (path message : String) : Validation := { errors := [⟨path, message⟩] }

/-- One warning. -/
def warning (path message : String) (suggestion : Option String := .none) : Validation :=
  { warnings := [⟨path, message, suggestion⟩] }

/-- What several validations found, in order. -/
def concat (vs : List Validation) : Validation := vs.foldr append none

/-- A remark if something is the case. -/
def orNone (p : Bool) (v : Validation) : Validation := if p then v else none

/-! ## Names -/

/-- The place of the name of a rule. -/
def idPath (i : Nat) : String := "rules[" ++ toString i ++ "].id"

/-- The names of rules from number `i` on, after others: each is there, is new, and should be in
one style. -/
def idsFrom (i : Nat) (seen : List String) : List String → Validation
  | [] => none
  | id :: ids =>
    if Text.isBlankText id then
      error (idPath i) "rule id must not be empty" ++ idsFrom (i + 1) seen ids
    else if seen.contains id then
      error (idPath i) ("duplicate rule id '" ++ id ++ "'") ++ idsFrom (i + 1) seen ids
    else
      orNone (!Text.isKebab id) (warning (idPath i) ("rule id '" ++ id ++ "' is not kebab-case"))
        ++ idsFrom (i + 1) (id :: seen) ids

/-! ## Settings -/

/-- Whether a double is between nothing and one. -/
def inUnit (x : Float) : Bool := 0.0 ≤ x && x ≤ 1.0

/-- The remark about a double that is not between nothing and one. -/
def unitMessage (x : Float) : String := "must be in [0, 1], got " ++ Decimal.plain.text x

/-- The settings of scoring and learning. -/
def learning (c : Learning) : Validation :=
  orNone (c.workers == some 0)
      (error "neuralConfig.parallelismLevel" "must be at least 1")
    ++ orNone (!inUnit c.leastRank)
      (error "neuralConfig.activationThreshold" (unitMessage c.leastRank))
    ++ orNone (c.trainingSteps == 0 && c.learns)
      (warning "neuralConfig.layerDepth"
        "learning is enabled but layerDepth is 0; training has no effect")

/-! ## Rules -/

/-- The remark about a handler that is not registered. -/
def unregistered (path what name : String) (known : List String) : Validation :=
  warning path ("no " ++ what ++ " handler '" ++ name ++ "' is registered") (Text.suggest? name known)

/-- The test of a condition. -/
def test (handlers : Option Handlers) (path : String) : Test → Validation
  | .regex pattern =>
    match Pattern.compile pattern with
    | .ok _ => none
    | .error problem =>
      warning (path ++ ".value") ("invalid regex, condition will never match: " ++ problem.message)
  | .custom handler _ =>
    match handler, handlers with
    | .none, _ =>
      warning (path ++ ".handler") "custom condition without a handler is not implemented"
    | some name, some r =>
      orNone (!r.conditionNames.contains name)
        (unregistered (path ++ ".handler") "custom condition" name r.conditionNames)
    | some _, .none => none
  | _ => none

/-- A condition. -/
def condition (handlers : Option Handlers) (path : String) (c : Condition) : Validation :=
  orNone (Text.isBlankText c.field) (error (path ++ ".field") "condition field must not be empty")
    ++ test handlers path c.test

/-- The name of a function. -/
def function (path name : String) : Validation :=
  orNone (Text.isBlankText name) (error (path ++ ".functionName") "functionName must not be empty")

/-- An action. -/
def action (handlers : Option Handlers) (path : String) (a : Action) : Validation :=
  orNone (a.target?.any Text.isBlankText) (error (path ++ ".target") "action target must not be empty")
    ++ match a with
      | .trigger name _ => function path name
      | .transform _ name _ =>
        if Text.isBlankText name then function path name
        else match handlers with
          | some r =>
            orNone (!r.transformNames.contains name)
              (unregistered (path ++ ".functionName") "transform" name r.transformNames)
          | .none => none
      | _ => none

/-- Items from number `i` on, each with its place. -/
def itemsFrom (check : String → α → Validation) (base : String) (i : Nat) : List α → Validation
  | [] => none
  | x :: xs => check (base ++ "[" ++ toString i ++ "]") x ++ itemsFrom check base (i + 1) xs

/-- A rule. -/
def rule (handlers : Option Handlers) (path : String) (r : Rule) : Validation :=
  (match r.signalWeight with
    | some w => orNone (!inUnit w) (error (path ++ ".metadata.signalWeight") (unitMessage w))
    | .none => none)
    ++ itemsFrom (condition handlers) (path ++ ".conditions") 0 r.conditions
    ++ itemsFrom (action handlers) (path ++ ".actions") 0 r.actions

/-- A rule set. -/
def ofRuleSet (set : RuleSet) (handlers : Option Handlers) : Validation :=
  idsFrom 0 [] (set.rules.map (·.id))
    ++ (match set.learning with
      | some c => learning c
      | .none => none)
    ++ itemsFrom (rule handlers) "rules" 0 set.rules

end Validation

/-! ## Texts -/

/-- Reads a rule set from a text. -/
def RuleSet.ofYaml (text : String) : Except Fault RuleSet :=
  match (Yaml.read? text).bind RuleSet.decode? with
  | some set => .ok set
  | none => .error .parse

/-- Reads a rule set from a rule file, which may not be blank. -/
def RuleSet.ofFile (text : String) : Except Fault RuleSet :=
  if Text.isBlankText text then .error (.load "rule file is empty") else RuleSet.ofYaml text

/-- Validates a text. -/
def Validation.ofYaml (text : String) (handlers : Option Handlers) : Validation :=
  match RuleSet.ofYaml text with
  | .ok set => .ofRuleSet set handlers
  | .error e => .error "" e.message

namespace Validation

/-- What was found, as data. -/
def toValue (v : Validation) : Value :=
  let warning (w : Advice) : Value :=
    .obj ([("path", .str w.path), ("message", .str w.message)]
      ++ (match w.suggestion with
        | some s => [("suggestion", .str s)]
        | .none => []))
  .obj [("valid", .bool v.isValid),
    ("errors", .arr (v.errors.map fun e => .obj [("path", .str e.path), ("message", .str e.message)])),
    ("warnings", .arr (v.warnings.map warning))]

end Validation

end Arbiter
