import Arbiter.Document.Typed
import Arbiter.Rule.Encode
import Arbiter.Text.Case
import Arbiter.Time.Duration
/-!
# Settings of the engine

Settings come from the environment.  With a profile, the name of every variable is first looked up
with the name of the profile before it.  A variable that is empty counts as missing, and one that
cannot be read as the usual value.
-/

namespace Arbiter

/-- The settings of the engine. -/
structure Settings where
  /-- The profile; empty for the usual one. -/
  profile : String := ""
  /-- How many results are kept. -/
  historyCapacity : Nat := 10000
  /-- How many times are kept for each stage. -/
  metricsWindow : Nat := 1024
  /-- How many workers score, unless the rule file says so; zero for as many as there are. -/
  workers : Nat := 0
  /-- How long a single call may take, in milliseconds. -/
  callLimitMs : Nat := 30000
  /-- How long a whole pass may take, in milliseconds; zero for any time. -/
  passLimitMs : Nat := 0
  /-- How many events a subscriber can be behind. -/
  eventCapacity : Nat := 256
  /-- The rule file that is loaded at the start. -/
  rulesFile : Option String := none
deriving DecidableEq, Repr

/-- The environment: names with their values, latest first. -/
abbrev Environment := List (String × String)

namespace Settings

/-- A variable that is not empty. -/
def lookupVar (env : Environment) (name : String) : Option String :=
  (env.lookup name).filter (!·.isEmpty)

/-- A variable of a profile, or else of no profile. -/
def profiled (env : Environment) (profile name : String) : Option String :=
  (if profile.isEmpty then none else lookupVar env (profile ++ "_" ++ name)) <|> lookupVar env name

/-- A number from a variable of a profile. -/
def number (env : Environment) (profile name : String) (usual : Nat) : Nat :=
  ((profiled env profile name).bind fun v => Numeral.word? 10 v.toList).getD usual

/-- The settings of a profile. -/
def ofProfile (env : Environment) (profile : String) : Settings :=
  let p := Text.upper profile
  let usual : Settings := {}
  { profile := p
    historyCapacity := max 1 (number env p "RULEWEAVE_HISTORY_CAPACITY" usual.historyCapacity)
    metricsWindow := max 1 (number env p "RULEWEAVE_METRICS_WINDOW" usual.metricsWindow)
    workers := number env p "RULEWEAVE_DEFAULT_PARALLELISM" usual.workers
    callLimitMs := number env p "RULEWEAVE_EXTERNAL_TIMEOUT_MS" usual.callLimitMs
    passLimitMs := number env p "RULEWEAVE_EVALUATION_TIMEOUT_MS" usual.passLimitMs
    eventCapacity := max 1 (number env p "RULEWEAVE_EVENT_CAPACITY" usual.eventCapacity)
    rulesFile := profiled env p "RULEWEAVE_RULES_FILE" }

/-- The settings of the profile the environment names. -/
def ofEnvironment (env : Environment) : Settings :=
  ofProfile env (Text.upper ((env.lookup "RULEWEAVE_PROFILE").getD ""))

/-- The name of the profile for messages. -/
def profileName (c : Settings) : String := if c.profile.isEmpty then "default" else c.profile

/-- How many workers score, when so many are there. -/
def workersOn (c : Settings) (available : Nat) : Nat :=
  if c.workers = 0 then available else c.workers

/-- How long a single call may take, in nanoseconds. -/
def callLimit (c : Settings) : Nat := Duration.ofMillis c.callLimitMs

/-- How long a whole pass may take, in nanoseconds. -/
def passLimit (c : Settings) : Option Nat :=
  if c.passLimitMs = 0 then none else some (Duration.ofMillis c.passLimitMs)

/-- The settings in a few lines. -/
def summary (c : Settings) (available : Nat) : List String :=
  let limit := match c.passLimit with
    | some ns => toString (ns / Duration.millisecond) ++ "ms"
    | none => "none"
  ["Config loaded (profile: " ++ c.profileName ++ "):",
    "  history:     capacity=" ++ toString c.historyCapacity,
    "  metrics:     window=" ++ toString c.metricsWindow,
    "  workers:     default=" ++ toString (c.workersOn available),
    "  timeouts:    external=" ++ toString c.callLimitMs ++ "ms, evaluation=" ++ limit,
    "  rules:       file=" ++ c.rulesFile.getD "(none)"]

/-- The settings as data. -/
def toValue (c : Settings) : Value :=
  .obj [("profile", .str c.profile), ("history_capacity", .nat c.historyCapacity),
    ("metrics_window", .nat c.metricsWindow), ("default_parallelism", .nat c.workers),
    ("external_timeout_ms", .nat c.callLimitMs),
    ("evaluation_timeout_ms", .nat c.passLimitMs),
    ("event_capacity", .nat c.eventCapacity),
    ("rules_file", (c.rulesFile.map Value.str).getD .null)]

open Document in
/-- Reads settings over others: fields that are missing stay as they are. -/
def override? (c : Settings) (d : Document) : Option Settings := do
  let f ← fields? [] d
  return {
    profile := ← optional f "profile" c.profile string?
    historyCapacity := ← optional f "history_capacity" c.historyCapacity word?
    metricsWindow := ← optional f "metrics_window" c.metricsWindow word?
    workers := ← optional f "default_parallelism" c.workers word?
    callLimitMs := ← optional f "external_timeout_ms" c.callLimitMs word?
    passLimitMs := ← optional f "evaluation_timeout_ms" c.passLimitMs word?
    eventCapacity := ← optional f "event_capacity" c.eventCapacity word?
    rulesFile := ← optional f "rules_file" c.rulesFile (option? string?) }

end Settings

end Arbiter
