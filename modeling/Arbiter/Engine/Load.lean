import Arbiter.Engine.Basic
import Arbiter.Validation
import Arbiter.Value.Print
import Arbiter.Yaml.Write
/-!
# Loading and changing rules

A rule set comes into force as a whole or not at all: one that is refused leaves the engine as it
was, apart from the error its subscribers are told of.  With the rules the learned signal, the
workers and the prediction are made anew.  A change of one rule trains the signal on it again.
-/

namespace Arbiter

/-- The text of a rule set in a rule file. -/
def RuleSet.toYaml (set : RuleSet) : String :=
  match set.toValue with
  | .obj fields => Yaml.write fields
  | _ => ""

/-- The text of a rule set as indented data. -/
def RuleSet.toJson (set : RuleSet) : String := Json.pretty set.toValue

/-- The learned signal for a rule set: trained on its rules in order, if it learns. -/
def Learner.ofRuleSet (set : RuleSet) : Learner :=
  set.rules.foldl trainOn (.ofSettings set.learningInForce)

/-- The moments at which rules are changed, by their names.  Every change takes the time anew, and of a row of
changes no two are about one rule. -/
abbrev Stamps := String → Timestamp

/-- All changes at one moment. -/
instance : Coe Timestamp Stamps := ⟨fun now _ => now⟩

namespace Engine

/-- How many workers score a rule set. -/
def workersFor (e : Engine) (set : RuleSet) : Nat :=
  set.learningInForce.workers.getD (e.settings.workersOn e.available)

/-- Refuses a rule set; the subscribers are told. -/
def refuse (e : Engine) (err : Fault) : Except Fault α × Engine :=
  (.error err, e.emit (.error "load" err.message))

/-- Puts a stored rule set into force, with a fresh signal and no prediction. -/
def activate (e : Engine) (rulebook : Rulebook) : Engine :=
  { e with
    rulebook := rulebook
    crew := .ofSize (e.workersFor rulebook.active)
    learner := .ofRuleSet rulebook.active
    latestPrediction := [] }

/-- Validates a rule set and puts it into force; the answer is the number of its rules. -/
def load (e : Engine) (set : RuleSet) : Except Fault Nat × Engine :=
  let validation := Validation.ofRuleSet set (some e.handlers)
  if !validation.isValid then e.refuse (.load validation.summary)
  else
    match e.rulebook.load set with
    | .error err => e.refuse err
    | .ok rulebook =>
      let count := set.rules.length
      (.ok count, (e.activate rulebook).emit (.rulesLoaded count (set.rules.map (·.id)) set))

/-- Loads a rule set from the text of a rule file. -/
def loadText (e : Engine) (text : String) : Except Fault Nat × Engine :=
  match RuleSet.ofFile text with
  | .ok set => e.load set
  | .error err => e.refuse err

/-- Loads a rule set from a rule file: its text, or why it cannot be read. -/
def loadFile (e : Engine) (file : Except String String) : Except Fault Nat × Engine :=
  match file with
  | .ok text => e.loadText text
  | .error reason => e.refuse (.io reason)

/-- Patches a rule at a given moment and trains the signal on it; the answer is the rule after
it. -/
def update (e : Engine) (id : String) (patch : Patch) (now : Timestamp) :
    Except Fault Rule × Engine :=
  match e.rulebook.update id patch now with
  | .error err => (.error err, e)
  | .ok (rule, rulebook) =>
    let changed := { e with rulebook, learner := e.learner.trainOn rule }
    (.ok rule, changed.emit (.ruleUpdated id patch rule))

/-- Changes one rule as its history suggests, if it is still there. -/
def optimizeRule (now : Timestamp) (e : Engine) (stats : TrackRecord) :
    Option Adjustment × Engine :=
  match e.rulebook.find? stats.ruleId with
  | none => (none, e)
  | some before =>
    match e.update stats.ruleId stats.patch now with
    | (.error _, e) => (none, e)
    | (.ok _, e) =>
      let change : Adjustment :=
        { ruleId := stats.ruleId
          oldPriority := before.priority
          newPriority := stats.plannedPriority
          signalWeight := stats.plannedWeight
          stats := stats }
      (some change, e)

/-- Changes rules as their histories suggest, one after the other, each at its own moment. -/
def optimizeEach (stamps : Stamps) (e : Engine) : List TrackRecord → List Adjustment × Engine
  | [] => ([], e)
  | s :: rest =>
    let (change, e) := optimizeRule (stamps s.ruleId) e s
    let (changes, e) := optimizeEach stamps e rest
    (change.toList ++ changes, e)

/-- Changes all rules that have a history; the answer lists the changes. -/
def optimize (e : Engine) (stamps : Stamps) : List Adjustment × Engine :=
  let (changes, e) := optimizeEach stamps e (TrackRecord.ofHistory e.history.items)
  (changes, e.emit (.rulesOptimized changes))

/-- The active rule set as the text of a rule file. -/
def toYaml (e : Engine) : String := e.snapshot.toYaml

/-- The active rule set as indented data. -/
def toJson (e : Engine) : String := e.snapshot.toJson

end Engine

end Arbiter
