import Arbiter.Settings
import Arbiter.Text.Split
/-!
# Arguments of the command line

Arguments are read from left to right, and the first one that is wrong, or that asks for help, ends
the reading.  Two of the options can also be set in the environment.
-/

namespace Arbiter.CommandLine

/-- An option with a value. -/
inductive Setting where
  /-- The rule file. -/
  | rules
  /-- The file with the context. -/
  | context
  /-- How long the pass may take. -/
  | timeout
deriving DecidableEq, Repr

/-- An option without a value. -/
inductive Switch where
  /-- Change the rules as their history suggests. -/
  | optimize
  /-- Show the metrics. -/
  | metrics
  /-- Only validate the rule file. -/
  | validate
  /-- Write on several lines. -/
  | pretty
deriving DecidableEq, Repr

/-- Why the reading of arguments ends early. -/
inductive Stop where
  /-- Help is asked for. -/
  | help
  /-- The version is asked for. -/
  | version
  /-- An argument is wrong. -/
  | misuse (message : String)
deriving DecidableEq, Repr

/-- What the arguments ask for. -/
structure Options where
  /-- The rule file. -/
  rules : Option String := none
  /-- The file with the context. -/
  context : Option String := none
  /-- How long the pass may take, in milliseconds. -/
  timeoutMs : Option Nat := none
  /-- The options without a value that were given. -/
  switches : List Switch := []
deriving DecidableEq, Repr

/-- Whether a switch was given. -/
def Options.has (o : Options) (s : Switch) : Bool := o.switches.contains s

/-- What an argument is by itself. -/
inductive Argument where
  /-- An option with a value, which may be attached. -/
  | setting (s : Setting) (attached : Option String)
  /-- An option without a value. -/
  | switch (s : Switch)
  /-- The mark behind which there are no options. -/
  | endOfOptions
  /-- Something that ends the reading. -/
  | stop (s : Stop)
deriving DecidableEq, Repr

/-! ## Names -/

/-- The name of an option with a value as it stands in messages. -/
def Setting.shown : Setting → String
  | .rules => "--rules <RULES>"
  | .context => "--context <CONTEXT>"
  | .timeout => "--timeout-ms <TIMEOUT_MS>"

/-- The options with a long name. -/
def longNames : List (String × Argument) :=
  [("rules", .setting .rules none), ("context", .setting .context none),
    ("timeout-ms", .setting .timeout none), ("optimize", .switch .optimize),
    ("metrics", .switch .metrics), ("validate", .switch .validate), ("pretty", .switch .pretty),
    ("help", .stop .help), ("version", .stop .version)]

/-- The long name of a switch. -/
def Switch.shown (s : Switch) : String :=
  "--" ++ ((longNames.find? fun n => n.2 == .switch s).map (·.1)).getD ""

/-- The variable that sets the time a pass may take. -/
def timeoutVariable : String := "RULES_EVAL_TIMEOUT_MS"

/-- The variable that asks for several lines. -/
def prettyVariable : String := "RULES_EVAL_PRETTY"

/-! ## Messages -/

/-- An argument is not known. -/
def unexpected (arg : String) : Stop := .misuse ("unexpected argument '" ++ arg ++ "' found")

/-- A value is missing. -/
def missing (s : Setting) : Stop :=
  .misuse ("a value is required for '" ++ s.shown ++ "' but none was supplied")

/-- An option is there twice. -/
def repeated (name : String) : Stop :=
  .misuse ("the argument '" ++ name ++ "' cannot be used multiple times")

/-- A value cannot be read. -/
def invalid (value name : String) : Stop :=
  .misuse ("invalid value '" ++ value ++ "' for '" ++ name ++ "'")

/-! ## Reading -/

/-- What a long option is. -/
def longArgument (arg : String) (cs : List Char) : Argument :=
  let attached := match cs.dropWhile (· != '=') with
    | '=' :: value => some (String.ofList value)
    | _ => none
  match longNames.lookup (String.ofList (cs.takeWhile (· != '='))), attached with
  | some (.setting s _), value => .setting s value
  | some known, none => known
  | some _, some value =>
    .stop (.misuse ("unexpected value '" ++ value ++ "' for '" ++ arg ++ "' found"))
  | none, _ => .stop (unexpected arg)

/-- The value behind a short option, perhaps after an equals sign. -/
def attachedValue : List Char → Option String
  | [] => none
  | '=' :: value => some (String.ofList value)
  | value => some (String.ofList value)

/-- What a short option is, with the characters behind it. -/
def shortArgument (arg : String) (c : Char) (behind : List Char) : Argument :=
  if c = 'r' then .setting .rules (attachedValue behind)
  else if c = 'c' then .setting .context (attachedValue behind)
  else if c = 'h' then .stop .help
  else if c = 'V' then .stop .version
  else .stop (unexpected arg)

/-- What an argument is. -/
def Argument.ofText (arg : String) : Argument :=
  match arg.toList with
  | ['-', '-'] => .endOfOptions
  | '-' :: '-' :: cs => longArgument arg cs
  | '-' :: c :: cs => shortArgument arg c cs
  | _ => .stop (unexpected arg)

/-- Whether an argument cannot be the value of the one before it. -/
def looksLikeOption (arg : String) : Bool :=
  match arg.toList with
  | '-' :: _ :: _ => true
  | _ => false

/-- A time in milliseconds. -/
def readTimeout (text : String) : Except Stop Nat :=
  match Numeral.word? 10 text.toList with
  | some n => .ok n
  | none => .error (invalid text (Setting.shown .timeout))

/-- Notes the value of an option. -/
def Options.set (o : Options) (s : Setting) (value : String) : Except Stop Options :=
  match s with
  | .rules =>
    if o.rules.isSome then .error (repeated s.shown)
    else if value.isEmpty then .error (missing s) else .ok { o with rules := some value }
  | .context =>
    if o.context.isSome then .error (repeated s.shown)
    else if value.isEmpty then .error (missing s) else .ok { o with context := some value }
  | .timeout =>
    if o.timeoutMs.isSome then .error (repeated s.shown)
    else (readTimeout value).map fun n => { o with timeoutMs := some n }

/-- Notes a switch. -/
def Options.turnOn (o : Options) (s : Switch) : Except Stop Options :=
  if o.has s then .error (repeated s.shown) else .ok { o with switches := o.switches ++ [s] }

/-- Reads arguments. -/
def Options.read (o : Options) : List String → Except Stop Options
  | [] => .ok o
  | arg :: rest =>
    match Argument.ofText arg, rest with
    | .stop s, _ => .error s
    | .endOfOptions, [] => .ok o
    | .endOfOptions, word :: _ => .error (unexpected word)
    | .switch s, rest => (o.turnOn s).bind fun o => o.read rest
    | .setting s (some value), rest => (o.set s value).bind fun o => o.read rest
    | .setting s none, [] => .error (missing s)
    | .setting s none, value :: rest =>
      if looksLikeOption value then .error (missing s)
      else (o.set s value).bind fun o => o.read rest

/-! ## Environment -/

/-- Takes the time a pass may take from the environment, unless it was given. -/
def Options.timeoutFrom (env : Environment) (o : Options) : Except Stop Options :=
  match o.timeoutMs, env.lookup timeoutVariable with
  | none, some text => (readTimeout text).map fun n => { o with timeoutMs := some n }
  | _, _ => .ok o

/-- Takes from the environment whether to write on several lines, unless that was given. -/
def Options.prettyFrom (env : Environment) (o : Options) : Except Stop Options :=
  if o.has .pretty then .ok o
  else match env.lookup prettyVariable with
    | none => .ok o
    | some text =>
      if text = "true" then o.turnOn .pretty
      else if text = "false" then .ok o
      else .error (invalid text (Switch.shown .pretty))

/-- What arguments and environment ask for. -/
def Options.ofArguments (env : Environment) (args : List String) : Except Stop Options :=
  (Options.read {} args).bind fun o =>
    (o.timeoutFrom env).bind fun o => o.prettyFrom env

example : (Options.ofArguments [] ["-r", "a.yml", "--pretty"]).toOption =
    some { rules := some "a.yml", switches := [.pretty] } := by decide +kernel
example : (Options.ofArguments [] ["--rules", "--help"]).toOption = none := by decide +kernel

end Arbiter.CommandLine
