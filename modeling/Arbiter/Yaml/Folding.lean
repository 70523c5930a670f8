import Arbiter.Yaml.Cursor
/-!
# Scalars over several lines

Plain and quoted scalars are words with gaps between them.  A gap within a line stands for itself; a
gap with line breaks stands for a blank, or for the breaks after the first one if there are any.
-/

namespace Arbiter.Yaml

/-- The gap between two words of a scalar. -/
structure Gap where
  /-- The blanks of a gap within a line. -/
  blanks : List Char := []
  /-- Whether there was a line break. -/
  broken : Bool := false
  /-- The first line break. -/
  first : List Char := []
  /-- The line breaks after it. -/
  more : List Char := []

namespace Gap

/-- What a gap stands for. -/
def text (g : Gap) : List Char :=
  if g.broken then
    if g.first == ['\n'] then (if g.more.isEmpty then [' '] else g.more) else g.first ++ g.more
  else g.blanks

/-- A gap with one more line break. -/
def addBreak (g : Gap) (line : List Char) : Gap :=
  if g.broken then { g with more := g.more ++ line } else ⟨[], true, line, []⟩

/-- Passes blanks and line breaks.  With `indent`, a tab to the left of it is refused. -/
def scan (indent : Option Nat) : Nat → Gap → Cursor → Option (Gap × Cursor)
  | 0, g, c => some (g, c)
  | fuel + 1, g, c =>
    match c.peek with
    | none => some (g, c)
    | some x =>
      if isBlank x then
        if g.broken && x == '\t' && indent.any (c.column < ·) then none
        else
          let g := if g.broken then g else { g with blanks := g.blanks ++ [x] }
          scan indent fuel g (c.skip 1)
      else if isBreak x then scan indent fuel (g.addBreak c.lineBreak) c.skipLine
      else some (g, c)

end Gap

/-! ## Plain scalars -/

/-- Whether a colon inside a flow collection is followed by what may not follow it there. -/
def strayColon (c : Char) (next : Option Char) : Bool :=
  c == ':' && next.any fun x => ",?[]\x7b\x7d".toList.contains x

/-- Whether a plain scalar ends before a character. -/
def endsPlain (flow : Bool) (c : Char) (next : Option Char) : Bool :=
  (c == ':' && endsWord next) || (flow && ",[]\x7b\x7d".toList.contains c)

/-- A word of a plain scalar and what follows it. -/
def plainWord? (flow : Bool) : List Char → Option (List Char)
  | [] => some []
  | c :: cs =>
    if isBlank c || isBreak c then some []
    else if flow && strayColon c cs.head? then none
    else if endsPlain flow c cs.head? then some []
    else (plainWord? flow cs).map (c :: ·)

/-- Collects the words of a plain scalar; `done` is what was collected, last first, and the gap is
what lies behind it.  The answer says whether a line break comes after the scalar. -/
def plainWords? (flow : Bool) (indent : Nat) :
    Nat → List Char → Gap → Cursor → Option (List Char × Bool × Cursor)
  | 0, done, g, c => some (done, g.broken, c)
  | fuel + 1, done, g, c =>
    if c.atAnyMark || c.sees '#' then some (done, g.broken, c)
    else do
      let word ← plainWord? flow c.rest
      let (done, g) := if word.isEmpty then (done, g) else (word.reverse ++ (g.text.reverse ++ done), {})
      let c := c.skip word.length
      if !(c.peek.any fun x => isBlank x || isBreak x) then some (done, g.broken, c)
      else
        let (g, c) ← g.scan (some indent) (c.rest.length) c
        if !flow && c.column < indent then some (done, g.broken, c)
        else plainWords? flow indent fuel done g c

/-- A plain scalar, for a collection with the given indentation. -/
def plainScalar? (flow : Bool) (indent : Int) (c : Cursor) : Option (String × Bool × Cursor) :=
  (plainWords? flow (indent + 1).toNat (c.rest.length + 1) [] {} c).map fun (done, broken, c) =>
    (String.ofList done.reverse, broken, c)

/-! ## Quoted scalars -/

/-- The character that a one-letter escape stands for. -/
def escape? (c : Char) : Option Char :=
  match c with
  | '0' => some (Char.ofNat 0)
  | 'a' => some (Char.ofNat 7)
  | 'b' => some (Char.ofNat 8)
  | 't' => some '\t'
  | '\t' => some '\t'
  | 'n' => some '\n'
  | 'v' => some (Char.ofNat 11)
  | 'f' => some (Char.ofNat 12)
  | 'r' => some '\r'
  | 'e' => some (Char.ofNat 27)
  | ' ' => some ' '
  | '"' => some '"'
  | '/' => some '/'
  | '\\' => some '\\'
  | 'N' => some (Char.ofNat 0x85)
  | '_' => some (Char.ofNat 0xA0)
  | 'L' => some (Char.ofNat 0x2028)
  | 'P' => some (Char.ofNat 0x2029)
  | _ => none

/-- How many digits the escape of a character code has. -/
def codeLength? (c : Char) : Option Nat :=
  match c with
  | 'x' => some 2
  | 'u' => some 4
  | 'U' => some 8
  | _ => none

end Arbiter.Yaml
