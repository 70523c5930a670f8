/-!
# A place in a YAML text

A cursor is the rest of a text together with where that rest starts: the number of characters
before it, the line and the column.  The character classes that YAML is defined by are here too.
-/

namespace Arbiter.Yaml

/-- A place in a text. -/
structure Cursor where
  /-- What comes next. -/
  rest : List Char
  /-- How many characters came before. -/
  index : Nat
  /-- How many lines came before. -/
  line : Nat
  /-- How many characters came before on this line. -/
  column : Nat

/-- A line break. -/
def isBreak (c : Char) : Bool :=
  c == '\n' || c == '\r' || c.toNat == 0x85 || c.toNat == 0x2028 || c.toNat == 0x2029

/-- A blank or a tab. -/
def isBlank (c : Char) : Bool := c == ' ' || c == '\t'

/-- A character that names are made of. -/
def isWord (c : Char) : Bool := c.isAlphanum || c == '-' || c == '_'

/-- A blank, a line break or the end of the text. -/
def endsWord : Option Char → Bool
  | some c => isBlank c || isBreak c
  | none => true

/-- A line break or the end of the text. -/
def endsLine : Option Char → Bool
  | some c => isBreak c
  | none => true

/-- Whether a character may stand in a YAML text at all. -/
def isAllowed (c : Char) : Bool :=
  let n := c.toNat
  n == 9 || n == 10 || n == 13 || (0x20 ≤ n && n ≤ 0x7E) || n == 0x85
    || (0xA0 ≤ n && n ≤ 0xD7FF) || (0xE000 ≤ n && n ≤ 0xFFFD) || 0x10000 ≤ n

namespace Cursor

/-- The start of a text. -/
def ofText (text : List Char) : Cursor := ⟨text, 0, 0, 0⟩

/-- The next character. -/
def peek (c : Cursor) : Option Char := c.rest.head?

/-- The character `n` places further. -/
def peekAt (c : Cursor) (n : Nat) : Option Char := c.rest[n]?

/-- Whether a given character comes next. -/
def sees (c : Cursor) (x : Char) : Bool := c.peek == some x

/-- Passes characters that are not line breaks. -/
def skip (c : Cursor) (n : Nat) : Cursor :=
  ⟨c.rest.drop n, c.index + n, c.line, c.column + n⟩

/-- Passes characters of one class, which holds no line breaks. -/
def skipWhile (c : Cursor) (p : Char → Bool) : Cursor :=
  c.skip (c.rest.takeWhile p).length

/-- Passes a line break, if there is one. -/
def skipLine (c : Cursor) : Cursor :=
  match c.rest with
  | '\r' :: '\n' :: rest => ⟨rest, c.index + 2, c.line + 1, 0⟩
  | x :: rest => if isBreak x then ⟨rest, c.index + 1, c.line + 1, 0⟩ else c
  | [] => c

/-- What the line break that comes next stands for in a scalar: the two separators of the character
set stay, every other break is a line feed. -/
def lineBreak (c : Cursor) : List Char :=
  match c.rest with
  | x :: _ =>
    if x.toNat = 0x2028 ∨ x.toNat = 0x2029 then [x] else if isBreak x then ['\n'] else []
  | [] => []

/-- Whether the mark between documents stands here: three equal characters at the start of a line,
and nothing directly behind them. -/
def atMark (c : Cursor) (x : Char) : Bool :=
  c.column == 0 && c.peekAt 0 == some x && c.peekAt 1 == some x && c.peekAt 2 == some x
    && endsWord (c.peekAt 3)

/-- Whether one of the two marks between documents stands here. -/
def atAnyMark (c : Cursor) : Bool := c.atMark '-' || c.atMark '.'

end Cursor

end Arbiter.Yaml
