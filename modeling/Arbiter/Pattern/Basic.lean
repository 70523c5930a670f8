import Arbiter.Pattern.Chars
/-!
# Patterns

Regular expressions as trees.  Only whether a text matches is of interest, so groups, their names
and the order in which alternatives are tried leave no trace.
-/

namespace Arbiter

/-- A place in a text, told by the characters on both sides. -/
inductive Pattern.Look where
  /-- The start of the text. -/
  | textStart
  /-- The end of the text. -/
  | textEnd
  /-- The start of a line; with `crlf`, two characters together may end a line. -/
  | lineStart (crlf : Bool)
  /-- The end of a line. -/
  | lineEnd (crlf : Bool)
  /-- The start or the end of a word. -/
  | wordEdge (unicode : Bool)
  /-- Neither the start nor the end of a word. -/
  | noWordEdge (unicode : Bool)
  /-- The start of a word. -/
  | wordStart (unicode : Bool)
  /-- The end of a word. -/
  | wordEnd (unicode : Bool)
  /-- Not after a character of a word. -/
  | halfStart (unicode : Bool)
  /-- Not before a character of a word. -/
  | halfEnd (unicode : Bool)
deriving DecidableEq, Repr

/-- Whether a place is between given characters. -/
def Pattern.Look.holds (l : Pattern.Look) (before after : Option Char) : Bool :=
  let word (unicode : Bool) (c : Option Char) : Bool := c.any (Pattern.isWordChar unicode)
  match l with
  | .textStart => before.isNone
  | .textEnd => after.isNone
  | .lineStart false => before.isNone || before == some '\n'
  | .lineStart true =>
    before.isNone || before == some '\n' || (before == some '\r' && after != some '\n')
  | .lineEnd false => after.isNone || after == some '\n'
  | .lineEnd true =>
    after.isNone || after == some '\r' || (after == some '\n' && before != some '\r')
  | .wordEdge u => word u before != word u after
  | .noWordEdge u => word u before == word u after
  | .wordStart u => !word u before && word u after
  | .wordEnd u => word u before && !word u after
  | .halfStart u => !word u before
  | .halfEnd u => !word u after

/-- A regular expression. -/
inductive Pattern where
  /-- The empty text. -/
  | empty
  /-- One character of a set. -/
  | chars (c : Pattern.Chars)
  /-- The empty text at some place. -/
  | look (l : Pattern.Look)
  /-- One after the other. -/
  | seq (a b : Pattern)
  /-- One or the other. -/
  | alt (a b : Pattern)
  /-- Several times, with or without an upper bound. -/
  | repeated (p : Pattern) (least : Nat) (most : Option Nat)

namespace Pattern

/-- Several patterns one after the other. -/
def seqAll : List Pattern → Pattern
  | [] => .empty
  | [p] => p
  | p :: ps => .seq p (seqAll ps)

/-- One of several patterns. -/
def altAll : List Pattern → Pattern
  | [] => .empty
  | [p] => p
  | p :: ps => .alt p (altAll ps)

/-- A number that grows with the space a compiled pattern takes. -/
def weight : Pattern → Nat
  | .empty => 0
  | .chars c => c.weight
  | .look _ => 32
  | .seq a b => weight a + weight b
  | .alt a b => 40 + weight a + weight b
  | .repeated p least none => 40 + (max least 1) * (32 + weight p)
  | .repeated p least (some most) => max least most * (32 + weight p) + 40 * (most - least)

/-- The most a compiled pattern may weigh. -/
def weightLimit : Nat := 10485760

end Pattern

end Arbiter
