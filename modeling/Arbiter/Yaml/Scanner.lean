import Arbiter.Yaml.Names
import Arbiter.Yaml.Quoted
/-!
# Scanning a YAML text

A scanner takes tokens off a text one at a time.  Block collections have no brackets of their own:
the scanner keeps a stack of indentations, opens a collection where a deeper one starts and closes
it where a shallower one does.  A key may be recognized only when the colon after it is met, so the
scanner remembers where a key may have started, and puts its token in there afterwards.
-/

namespace Arbiter.Yaml

/-- A place where a key may have started. -/
structure KeyStart where
  /-- Whether nothing but a key can stand there. -/
  required : Bool
  /-- How many tokens came before. -/
  place : Nat
  /-- The character it starts at. -/
  index : Nat
  /-- The line it is on. -/
  line : Nat
  /-- The column it starts at. -/
  column : Nat

/-- The state of a scanner. -/
structure Scanner where
  /-- Where it stands. -/
  cursor : Cursor
  /-- The tokens so far, last first. -/
  tokens : List Token := []
  /-- How many tokens there are. -/
  count : Nat := 0
  /-- The indentation of the innermost block collection; minus one outside of all. -/
  indent : Int := -1
  /-- The indentations around it. -/
  outer : List Int := []
  /-- The key that may have started on each level of flow collections, innermost first. -/
  keys : List (Option KeyStart) := [none]
  /-- Whether a key may start here. -/
  keyAllowed : Bool := true
  /-- How many flow collections are open. -/
  flow : Nat := 0

namespace Scanner

/-- Adds a token at the end. -/
def push (s : Scanner) (t : Token) : Scanner :=
  { s with tokens := t :: s.tokens, count := s.count + 1 }

/-- Adds a token after the first `place` ones. -/
def insertAt (s : Scanner) (place : Nat) (t : Token) : Scanner :=
  let later := s.count - place
  { s with
    tokens := s.tokens.take later ++ t :: s.tokens.drop later
    count := s.count + 1 }

/-- Whether a flow collection is open. -/
def inFlow (s : Scanner) : Bool := s.flow != 0

/-! ## Keys -/

/-- Whether a key that may have started somewhere can no longer be one: keys are on one line and at
most 1024 characters long. -/
def isStale (c : Cursor) (k : KeyStart) : Bool := k.line < c.line || k.index + 1024 < c.index

/-- Forgets keys that can no longer be ones; `none` if one of them had to be. -/
def dropStale? (c : Cursor) : List (Option KeyStart) → Option (List (Option KeyStart))
  | [] => some []
  | none :: ks => (dropStale? c ks).map (none :: ·)
  | some k :: ks =>
    if isStale c k then (if k.required then none else (dropStale? c ks).map (none :: ·))
    else (dropStale? c ks).map (some k :: ·)

/-- Gives up on the key that may have started on this level; `none` if it had to be one. -/
def dropKey? (s : Scanner) : Option Scanner :=
  match s.keys with
  | some k :: ks => if k.required then none else some { s with keys := none :: ks }
  | _ => some s

/-- Notes that a key may start here. -/
def saveKey? (s : Scanner) : Option Scanner :=
  if s.keyAllowed then do
    let s ← s.dropKey?
    let start : KeyStart :=
      { required := !s.inFlow && s.indent == s.cursor.column
        place := s.count
        index := s.cursor.index
        line := s.cursor.line
        column := s.cursor.column }
    return { s with keys := some start :: s.keys.tail }
  else some s

/-! ## Indentation -/

/-- Opens a block collection if its column is deeper than the innermost one. -/
def openBlock (s : Scanner) (column : Nat) (place : Option Nat) (t : Token) : Scanner :=
  if !s.inFlow && s.indent < column then
    let s := { s with indent := column, outer := s.indent :: s.outer }
    match place with
    | some n => s.insertAt n t
    | none => s.push t
  else s

/-- Closes block collections deeper than a column, one for each indentation on the stack at most. -/
def closeBlocks (column : Int) : List Int → Scanner → Scanner
  | [], s => s
  | i :: is, s =>
    if !s.inFlow && column < s.indent then
      closeBlocks column is ({ s with indent := i, outer := is }.push .blockEnd)
    else s

/-- Closes block collections deeper than a column. -/
def unroll (s : Scanner) (column : Int) : Scanner := closeBlocks column s.outer s

/-! ## Tokens -/

/-- Passes blanks, comments and line breaks up to the next token.  A tab is passed only where no
key may start. -/
def skipToToken : Nat → Scanner → Scanner
  | 0, s => s
  | fuel + 1, s =>
    let c := if s.cursor.index = 0 ∧ s.cursor.peek = some (Char.ofNat 0xFEFF) then s.cursor.skip 1
      else s.cursor
    let tabs := s.inFlow || !s.keyAllowed
    let c := c.skipWhile fun x => x == ' ' || (tabs && x == '\t')
    let c := if c.sees '#' then c.skipWhile (fun x => !isBreak x) else c
    if c.peek.any isBreak then
      skipToToken fuel
        { s with cursor := c.skipLine, keyAllowed := s.keyAllowed || !s.inFlow }
    else { s with cursor := c }

/-- Passes `n` characters and adds a token. -/
def take (s : Scanner) (n : Nat) (t : Token) : Scanner :=
  { s with cursor := s.cursor.skip n }.push t

/-- A directive or a mark between documents: all block collections end. -/
def outermost? (s : Scanner) : Option Scanner := do
  let s ← (s.unroll (-1)).dropKey?
  return { s with keyAllowed := false }

/-- An opening bracket or brace. -/
def openFlow? (s : Scanner) (t : Token) : Option Scanner := do
  let s ← s.saveKey?
  return { s with keys := none :: s.keys, flow := s.flow + 1, keyAllowed := true }.take 1 t

/-- A closing bracket or brace. -/
def closeFlow? (s : Scanner) (t : Token) : Option Scanner := do
  let s ← s.dropKey?
  let s := if s.inFlow then { s with keys := s.keys.tail, flow := s.flow - 1 } else s
  return { s with keyAllowed := false }.take 1 t

/-- A comma in a flow collection. -/
def flowEntry? (s : Scanner) : Option Scanner := do
  let s ← s.dropKey?
  return { s with keyAllowed := true }.take 1 .flowEntry

/-- The dash before an item of a block list. -/
def blockEntry? (s : Scanner) : Option Scanner := do
  guard (s.inFlow || s.keyAllowed)
  let s ← (s.openBlock s.cursor.column none .blockListStart).dropKey?
  return { s with keyAllowed := true }.take 1 .blockEntry

/-- The question mark before a key. -/
def keyMark? (s : Scanner) : Option Scanner := do
  guard (s.inFlow || s.keyAllowed)
  let s ← (s.openBlock s.cursor.column none .blockRecordStart).dropKey?
  return { s with keyAllowed := !s.inFlow }.take 1 .key

/-- The colon before a value: what may have been a key before it is one. -/
def valueMark? (s : Scanner) : Option Scanner :=
  match s.keys with
  | some k :: ks =>
    let s := (s.insertAt k.place .key).openBlock k.column (some k.place) .blockRecordStart
    some ({ s with keys := none :: ks, keyAllowed := false }.take 1 .value)
  | _ =>
    if s.inFlow || s.keyAllowed then
      let s := s.openBlock s.cursor.column none .blockRecordStart
      some ({ s with keyAllowed := !s.inFlow }.take 1 .value)
    else none

/-- A token that a key may start with, read by a reader of its own. -/
def word? (s : Scanner) (read : Cursor → Option (Token × Cursor)) : Option Scanner := do
  let s ← s.saveKey?
  let (t, c) ← read s.cursor
  return { s with cursor := c, keyAllowed := false }.push t

/-- A plain scalar. -/
def plain? (s : Scanner) : Option Scanner := do
  let s ← s.saveKey?
  let (text, broken, c) ← plainScalar? s.inFlow s.indent s.cursor
  return { s with cursor := c, keyAllowed := broken }.push (.scalar text .plain)

/-- A block scalar. -/
def block? (s : Scanner) (literal : Bool) : Option Scanner := do
  let s ← s.dropKey?
  let (text, c) ← blockScalar? literal s.indent s.cursor
  return { s with cursor := c, keyAllowed := true }.push
    (.scalar text (if literal then .literal else .quoted))

/-- Whether a plain scalar may start with a character, given the one after it. -/
def startsPlain (flow : Bool) (c : Char) (next : Option Char) : Bool :=
  !(isBlank c || isBreak c || "-?:,[]\x7b\x7d#&*!|>'\"%@`".toList.contains c)
    || (c == '-' && !next.any isBlank)
    || (!flow && (c == '?' || c == ':') && !endsWord next)

/-- Takes the token that starts with a character. -/
def token? (s : Scanner) (c : Char) : Option Scanner :=
  let next := s.cursor.peekAt 1
  let loose := s.inFlow || endsWord next
  if s.cursor.column = 0 ∧ c = '%' then do
    let s ← s.outermost?
    let (t, c) ← directive? s.cursor
    return { s with cursor := c }.push t
  else if s.cursor.atMark '-' then s.outermost?.map fun s => s.take 3 .documentStart
  else if s.cursor.atMark '.' then s.outermost?.map fun s => s.take 3 .documentEnd
  else if c = '[' then s.openFlow? .flowListStart
  else if c = '{' then s.openFlow? .flowRecordStart
  else if c = ']' then s.closeFlow? .flowListEnd
  else if c = '}' then s.closeFlow? .flowRecordEnd
  else if c = ',' then s.flowEntry?
  else if c = '-' && endsWord next then s.blockEntry?
  else if c = '?' && loose then s.keyMark?
  else if c = ':' && loose then s.valueMark?
  else if c = '*' then
    s.word? fun c => (anchorName? (c.skip 1)).map fun (n, c) => (.reference n, c)
  else if c = '&' then
    s.word? fun c => (anchorName? (c.skip 1)).map fun (n, c) => (.anchor n, c)
  else if c = '!' then s.word? (tag? s.inFlow)
  else if c = '|' && !s.inFlow then s.block? true
  else if c = '>' && !s.inFlow then s.block? false
  else if c = '\'' then
    s.word? fun c => (quotedScalar? true c).map fun (t, c) => (.scalar t .quoted, c)
  else if c = '"' then
    s.word? fun c => (quotedScalar? false c).map fun (t, c) => (.scalar t .quoted, c)
  else if startsPlain s.inFlow c next then s.plain?
  else none

/-- The end of the text: all block collections end. -/
def finish? (s : Scanner) : Option (List Token) :=
  let c := s.cursor
  let c := if c.column = 0 then c else { c with column := 0, line := c.line + 1 }
  (dropKey? ({ s with cursor := c }.unroll (-1))).map fun (s : Scanner) => s.tokens.reverse

/-- Takes tokens to the end of the text. -/
def run? : Nat → Scanner → Option (List Token)
  | 0, _ => none
  | fuel + 1, s => do
    let s := s.skipToToken (s.cursor.rest.length + 1)
    let s := { s with keys := ← dropStale? s.cursor s.keys }
    let s := s.unroll s.cursor.column
    match s.cursor.peek with
    | none => s.finish?
    | some c => run? fuel (← s.token? c)

end Scanner

/-- The tokens of a text. -/
def tokens? (text : String) : Option (List Token) :=
  let cs := text.toList
  if cs.all isAllowed then Scanner.run? (cs.length + 2) { cursor := .ofText cs } else none

end Arbiter.Yaml
