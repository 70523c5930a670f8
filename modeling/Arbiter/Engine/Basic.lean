import Arbiter.Bus
import Arbiter.Settings
import Arbiter.Engine.Event
import Arbiter.Verdict.Call
import Arbiter.Timings
import Arbiter.Signal.Prediction
import Arbiter.Signal.Crew
import Arbiter.Rulebook
/-!
# The engine

The engine holds the active rules together with all that grows out of using them: the learned signal,
the history of results, the timings, and the queues of its subscribers.  Every operation takes an
engine and gives the engine after it.
-/

namespace Arbiter

/-- An engine. -/
structure Engine where
  /-- The settings. -/
  settings : Settings
  /-- The outside capabilities. -/
  capabilities : Capabilities
  /-- The registered handlers. -/
  handlers : Handlers
  /-- How many workers the machine has. -/
  available : Nat
  /-- The active rules. -/
  rulebook : Rulebook := {}
  /-- The learned signal. -/
  learner : Learner := .ofSettings {}
  /-- The workers that score. -/
  crew : Crew
  /-- The latest results. -/
  history : Ring Verdict
  /-- How long things took. -/
  timings : Timings
  /-- The subscribers. -/
  events : Bus Event
  /-- What the latest pass predicted. -/
  latestPrediction : List Prediction := []
  /-- How many passes there were. -/
  passes : Nat := 0
  /-- The clock, and what was to be seen of the calls. -/
  world : World := {}

namespace Engine

/-- A new engine without rules. -/
def ofSettings (settings : Settings) (capabilities : Capabilities := .alone)
    (handlers : Handlers := .builtin) (available : Nat := 1) : Engine where
  settings := settings
  capabilities := capabilities
  handlers := handlers
  available := available
  crew := .ofSize (settings.workersOn available)
  history := .ofCapacity settings.historyCapacity
  timings := { window := settings.metricsWindow }
  events := .ofCapacity settings.eventCapacity

/-- Adds a subscriber. -/
def subscribe (e : Engine) : Engine := { e with events := e.events.subscribe }

/-- Tells the subscribers of an event. -/
def emit (e : Engine) (event : Event) : Engine := { e with events := e.events.emit event }

/-- Tells the subscribers of several events, one after the other. -/
def emitAll (e : Engine) (events : List Event) : Engine :=
  { e with events := e.events.emitAll events }

/-- The rule of a given name. -/
def rule (e : Engine) (id : String) : Except Fault Rule := e.rulebook.get id

/-- The active rules in the order of evaluation. -/
def rules (e : Engine) : List Rule := e.rulebook.sorted

/-- The active rule set. -/
def snapshot (e : Engine) : RuleSet := e.rulebook.snapshot

/-- How many workers score. -/
def workers (e : Engine) : Nat := e.crew.workers

/-- The rules that are likely to be used after a given pass. -/
def predictions (e : Engine) (context : Context) (results : List Verdict) :
    List Prediction :=
  predict e.learner context results e.rulebook.learningInForce.leastRank

/-- A short text that shows the size of the engine. -/
def describe (e : Engine) : String :=
  "RuleEngine \x7b rules: " ++ toString e.rulebook.active.rules.length ++ ", workers: "
    ++ toString e.workers ++ ", history: " ++ toString e.history.size ++ ", registry: "
    ++ e.handlers.describe ++ " \x7d"

end Engine

end Arbiter
