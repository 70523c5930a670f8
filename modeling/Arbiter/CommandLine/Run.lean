import Arbiter.CommandLine.Arguments
import Arbiter.Engine.Pass
import Arbiter.Engine.Load
import Arbiter.EnvFile
import Arbiter.Value.Canonical
import Arbiter.Value.Read
/-!
# A run of the command line

A run loads a rule file, evaluates it once against a context, and writes what came of it; or it only
validates the rule file.  It sees the world through a few functions, so that what it does can be said
without a world.
-/

namespace Arbiter.CommandLine

/-- What a run sees of the world. -/
structure Host (m : Type → Type) where
  /-- Reads a file: its text, or why it cannot be read. -/
  fileText : String → m (Except String String)
  /-- Reads the standard input. -/
  readInput : m (Except String String)
  /-- Reads the environment file, if there is one. -/
  envFile : m (Option String)
  /-- How many workers the machine has. -/
  workers : Nat
  /-- The name of the pass in the output. -/
  evaluationName : String

/-- What a run leaves behind. -/
structure Outcome where
  /-- The exit code. -/
  code : Nat
  /-- What it wrote. -/
  output : String := ""
  /-- What it complained about. -/
  complaint : String := ""
deriving DecidableEq, Repr

/-! ## Texts -/

/-- What the program is for and how it is called. -/
def helpText : String :=
  Text.joinWith "\n"
    ["Evaluate a rule file against a JSON context",
      "",
      "Usage: rules-eval [OPTIONS]",
      "",
      "Options:",
      "  -r, --rules <RULES>            Rule file (YAML or JSON). Defaults to RULEWEAVE_RULES_FILE",
      "  -c, --context <CONTEXT>        JSON context file. Reads stdin when omitted or \"-\"",
      "      --timeout-ms <TIMEOUT_MS>  Deadline for the whole pass in milliseconds [env: "
        ++ timeoutVariable ++ "=]",
      "      --optimize                 Run the history optimizer after evaluating",
      "      --metrics                  Include per-stage metrics in the output",
      "      --validate                 Only validate the rule file and print errors and warnings",
      "      --pretty                   Pretty-print the JSON output [env: " ++ prettyVariable
        ++ "=]",
      "  -h, --help                     Print help",
      "  -V, --version                  Print version",
      ""]

/-- The name of the program and its version. -/
def versionText : String := "rules-eval 0.1.0\n"

/-- What a run leaves behind whose arguments end early. -/
def Stop.outcome : Stop → Outcome
  | .help => { code := 0, output := helpText }
  | .version => { code := 0, output := versionText }
  | .misuse message =>
    { code := 2
      complaint := "error: " ++ message
        ++ "\n\nUsage: rules-eval [OPTIONS]\n\nFor more information, try '--help'.\n" }

/-- A run that fails, perhaps with a reason. -/
def Outcome.failure (message : String) (reason : Option String := none) : Outcome where
  code := 1
  complaint := "Error: " ++ message ++ "\n"
    ++ (match reason with
      | some r => "\nCaused by:\n    " ++ r ++ "\n"
      | none => "")

/-- A run that writes a value. -/
def Outcome.writing (v : Value) (pretty : Bool) (code : Nat := 0) : Outcome where
  code := code
  output := (if pretty then Json.pretty v.canonical else Json.compact v.canonical) ++ "\n"

/-! ## Steps -/

/-- The context in a text; a blank one holds the empty context. -/
def contextOfText (text : String) : Except Outcome Context :=
  if Text.isBlankText text then .ok []
  else match Json.read? text with
    | none => .error (.failure "context is not valid JSON")
    | some (.obj fields) => .ok fields
    | some other => .error (.failure ("context must be a JSON object, got " ++ Json.compact other))

/-- Where the context is read from: a file, or the standard input. -/
def contextFile? (o : Options) : Option String := o.context.filter (· != "-")

/-- Reads the context. -/
def readContext [Monad m] (host : Host m) (o : Options) : m (Except Outcome Context) := do
  match contextFile? o with
  | some path =>
    match ← host.fileText path with
    | .ok text => return contextOfText text
    | .error reason => return .error (.failure ("failed to read context file " ++ path) (some reason))
  | none =>
    match ← host.readInput with
    | .ok text => return contextOfText text
    | .error reason => return .error (.failure "failed to read context from stdin" (some reason))

/-- What is written after a pass.  The changes to the rules are shown and then forgotten, so the
moment they are stamped with does not matter. -/
def report (host : Host m) (o : Options) (evaluation : Pass) (engine : Engine) : Value :=
  let (changes, engine) := if o.has .optimize then engine.optimize Timestamp.epoch else ([], engine)
  let passFields := match evaluation.toValue (.str host.evaluationName) with
    | .obj fields => fields
    | _ => []
  .obj (passFields
    ++ (if o.has .optimize then [("optimizations", .arr (changes.map Adjustment.toValue))] else [])
    ++ (if o.has .metrics then
        [("metrics", .obj (engine.timings.snapshot.map fun (name, m) => (name, m.toValue)))]
      else []))

/-- Validates a rule file. -/
def validateFile [Monad m] (host : Host m) (o : Options) (path : String) : m Outcome := do
  match ← host.fileText path with
  | .error reason => return .failure ("failed to read " ++ path) (some reason)
  | .ok text =>
    let found := Validation.ofYaml text none
    return .writing found.toValue (o.has .pretty) (if found.isValid then 0 else 1)

/-- Evaluates a rule file. -/
def evaluateFile [Monad m] (host : Host m) (o : Options) (settings : Settings) (path : String) :
    m Outcome := do
  let engine := Engine.ofSettings settings .alone .builtin host.workers
  match engine.loadFile (← host.fileText path) with
  | (.error err, _) => return .failure ("failed to load " ++ path) (some err.message)
  | (.ok _, engine) =>
    match ← readContext host o with
    | .error outcome => return outcome
    | .ok context =>
      let (evaluation, engine) :=
        engine.evaluate context { timeout := o.timeoutMs.map Duration.ofMillis }
      return .writing (report host o evaluation engine) (o.has .pretty)

/-- Runs the command line. -/
def run [Monad m] (host : Host m) (env : Environment) (args : List String) : m Outcome := do
  let env := match ← host.envFile with
    | some text => EnvFile.load env text
    | none => env
  match Options.ofArguments env args with
  | .error stop => return stop.outcome
  | .ok o =>
    let settings := Settings.ofEnvironment env
    match o.rules <|> settings.rulesFile with
    | none => return .failure "no rule file given (use --rules or RULEWEAVE_RULES_FILE)"
    | some path => if o.has .validate then validateFile host o path else evaluateFile host o settings path

end Arbiter.CommandLine
