import Arbiter.Settings
import Arbiter.Pattern.Chars
import Arbiter.Text.Blank
/-!
# Environment files

A file of lines `NAME=value` that adds variables to the environment; those that are there already
stay as they are.  Values may stand in quotes, go on over several lines inside them, and use earlier
variables by `$NAME`.  The first line that is not well-formed ends the reading, and the lines before
it count.
-/

namespace Arbiter.EnvFile

/-! ## Lines -/

/-- The lines of a text, each with its line break. -/
def physicalLines : List Char → List (List Char)
  | [] => []
  | c :: cs =>
    if c = '\n' then [c] :: physicalLines cs
    else match physicalLines cs with
      | [] => [[c]]
      | line :: rest => (c :: line) :: rest

/-- Where a line stands with respect to quotes. -/
inductive Standing where
  /-- Outside quotes. -/
  | plain
  /-- Behind a blank outside quotes. -/
  | blank
  /-- Behind a backslash outside quotes. -/
  | escape
  /-- Inside double quotes. -/
  | double
  /-- Behind a backslash inside double quotes. -/
  | doubleEscape
  /-- Inside single quotes. -/
  | single
  /-- Behind a backslash inside single quotes. -/
  | singleEscape
deriving DecidableEq, Repr

/-- Where a line stands after a character that begins nothing. -/
def Standing.start (c : Char) : Standing :=
  if c = '\\' then .escape else if c = '"' then .double else if c = '\'' then .single else .plain

/-- Where a line stands after one more character. -/
def Standing.next (s : Standing) (c : Char) : Standing :=
  match s with
  | .blank => .start c
  | .escape => .plain
  | .plain => if Text.isBlank c && c != '\n' && c != '\r' then .blank else .start c
  | .double => if c = '\\' then .doubleEscape else if c = '"' then .plain else .double
  | .doubleEscape => .double
  | .single => if c = '\\' then .singleEscape else if c = '\'' then .plain else .single
  | .singleEscape => .single

/-- What a line has before a comment, or else where it stands at its end. -/
def scanLine (s : Standing) : List Char → List Char ⊕ Standing
  | [] => .inr s
  | c :: cs =>
    if s = .blank ∧ c = '#' then .inl []
    else match scanLine (s.next c) cs with
      | .inl kept => .inl (c :: kept)
      | .inr t => .inr t

/-- A line without its line break. -/
def dropLineEnd (line : List Char) : List Char :=
  match line.reverse with
  | '\n' :: '\r' :: rest => rest.reverse
  | '\n' :: rest => rest.reverse
  | _ => line

/-- The lines of a file, where quotes join several of them; nothing for one that never ends. -/
def joinedLines (before : List Char) (s : Standing) : List (List Char) → List (Option (List Char))
  | [] => if s = .plain then [] else [none]
  | line :: rest =>
    let all := before ++ line
    if (all.dropWhile Text.isBlank).head? == some '#' then some [] :: joinedLines [] .plain rest
    else
      match scanLine s line with
      | .inl kept => some (before ++ kept) :: joinedLines [] .plain rest
      | .inr .plain => some (dropLineEnd all) :: joinedLines [] .plain rest
      | .inr t => joinedLines all t rest

/-! ## Values -/

/-- What the next character of a value means. -/
inductive Reading where
  /-- It stands for itself, if it is not special. -/
  | plain
  /-- It was announced by a backslash. -/
  | escaped
  /-- It may go on a variable's name. -/
  | name (soFar : List Char)
  /-- It goes on a variable's name in braces. -/
  | braced (soFar : List Char)
  /-- The value is over; only blanks and a comment may follow. -/
  | ended
  /-- It belongs to a comment. -/
  | comment
deriving DecidableEq, Repr

/-- The value read so far. -/
structure Partial where
  /-- What it says. -/
  text : List Char := []
  /-- The quote that is open. -/
  quote : Option Char := none
  /-- What the next character means. -/
  reading : Reading := .plain

/-- The value of a variable; nothing for one that is not there. -/
def valueOf (env : Environment) (name : List Char) : List Char :=
  ((env.lookup (String.ofList name)).getD "").toList

/-- The letters and digits a variable's name may have in a value. -/
def isNameChar (c : Char) : Bool :=
  Text.inRuns (Pattern.alphabeticRuns ++ Text.categories ["Nd", "Nl", "No"]) c.toNat

/-- What a character says behind a backslash. -/
def escapedChar? (c : Char) : Option Char :=
  if c = 'n' then some '\n'
  else if c = '\\' ∨ c = '\'' ∨ c = '"' ∨ c = '$' ∨ c = ' ' then some c
  else none

namespace Partial

/-- The value with one more character. -/
def push (p : Partial) (c : Char) : Partial := { p with text := p.text ++ [c], reading := .plain }

/-- The value with that of a variable at its end. -/
def substitute (env : Environment) (p : Partial) (name : List Char) : Partial :=
  { p with text := p.text ++ valueOf env name, reading := .plain }

/-- Reads a character outside single quotes that stands for itself, if it is not special. -/
def plainStep (p : Partial) (c : Char) : Partial :=
  if c = '$' then { p with reading := .name [] }
  else if c = '\\' then { p with reading := .escaped }
  else if p.quote = some '"' then if c = '"' then { p with quote := none } else p.push c
  else if c = '\'' ∨ c = '"' then { p with quote := some c }
  else if c = ' ' ∨ c = '\t' then { p with reading := .ended }
  else p.push c

/-- Reads one character of a value. -/
def step (env : Environment) (p : Partial) (c : Char) : Option Partial :=
  match p.reading with
  | .comment => some p
  | .ended =>
    if c = ' ' ∨ c = '\t' then some p
    else if c = '#' then some { p with reading := .comment }
    else none
  | .escaped => (escapedChar? c).map p.push
  | .name soFar =>
    if c = '{' ∧ soFar = [] then some { p with reading := .braced [] }
    else if isNameChar c then some { p with reading := .name (soFar ++ [c]) }
    else
      let p := p.substitute env soFar
      some (if c = '$' then { p with reading := .name [] } else p.push c)
  | .braced soFar =>
    some (if c = '}' then p.substitute env soFar else { p with reading := .braced (soFar ++ [c]) })
  | .plain =>
    if p.quote = some '\'' then some (if c = '\'' then { p with quote := none } else p.push c)
    else some (p.plainStep c)

/-- A value that is over, if nothing is left open. -/
def finish? (env : Environment) (p : Partial) : Option String :=
  match p.quote, p.reading with
  | some _, _ => none
  | none, .braced _ => none
  | none, .name soFar => some (String.ofList (p.substitute env soFar).text)
  | none, _ => some (String.ofList p.text)

end Partial

/-- Reads the value of a line. -/
def value? (env : Environment) (cs : List Char) : Option String :=
  (cs.foldlM (Partial.step env) {}).bind (Partial.finish? env)

/-! ## Entries -/

/-- What a line has to say. -/
inductive Entry where
  /-- Nothing. -/
  | blank
  /-- The value of a variable. -/
  | entry (name value : String)
  /-- The line is not well-formed. -/
  | malformed
deriving DecidableEq, Repr

/-- The first character of a name. -/
def isKeyStart (c : Char) : Bool := c.isAlpha || c == '_'

/-- The further characters of a name. -/
def isKeyChar (c : Char) : Bool := c.isAlphanum || c == '_' || c == '.'

/-- A text without white space in front. -/
def skipBlanks (cs : List Char) : List Char := cs.dropWhile Text.isBlank

/-- A name and what follows it after white space. -/
def key? (cs : List Char) : Option (List Char × List Char) :=
  match cs with
  | c :: _ => if isKeyStart c then some (cs.takeWhile isKeyChar, skipBlanks (cs.dropWhile isKeyChar))
      else none
  | [] => none

/-- A name with the value behind an equals sign.  The word `export` may go before, unless it is the
name itself. -/
def assignment? (cs : List Char) : Option (List Char × List Char) := do
  match ← key? cs with
  | (key, '=' :: rest) => return (key, skipBlanks rest)
  | (key, rest) =>
    guard (key = "export".toList)
    match ← key? rest with
    | (key, '=' :: rest) => return (key, skipBlanks rest)
    | _ => none

/-- Reads a line. -/
def Entry.ofLine (env : Environment) (line : List Char) : Entry :=
  let cs := skipBlanks (Text.trimEnd (String.ofList line)).toList
  if cs.isEmpty || cs.head? == some '#' then .blank
  else
    match assignment? cs with
    | none => .malformed
    | some (key, rest) =>
      let value := if rest.isEmpty || rest.head? == some '#' then some "" else value? env rest
      match value with
      | some v => .entry (String.ofList key) v
      | none => .malformed

/-- Adds a variable that is not there. -/
def addNew (env : Environment) (name value : String) : Environment :=
  if (env.lookup name).isSome then env else (name, value) :: env

/-- Adds the variables of lines, up to the first that is not well-formed. -/
def loadLines (env : Environment) : List (Option (List Char)) → Environment
  | [] => env
  | none :: _ => env
  | some line :: rest =>
    match Entry.ofLine env line with
    | .blank => loadLines env rest
    | .entry name value => loadLines (addNew env name value) rest
    | .malformed => env

/-- Adds the variables of a file to the environment. -/
def load (env : Environment) (text : String) : Environment :=
  let cs := match text.toList with
    | '\uFEFF' :: cs => cs
    | cs => cs
  loadLines env (joinedLines [] .plain (physicalLines cs))

example : load [("A", "0")] "A=1\nexport B='x' # note\n" = [("B", "x"), ("A", "0")] := by
  decide +kernel
example : load [] "A=1\nB = oops here\nC=4\n" = [("A", "1")] := by
  decide +kernel

end Arbiter.EnvFile
