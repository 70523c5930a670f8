import Arbiter.Document.Scalar
import Arbiter.Yaml.Cursor
/-!
# How a text is written in YAML

A text is written without quotes if it reads back as that text, as a literal block if it has line
feeds, and in single or double quotes where these do not do.
-/

namespace Arbiter.Yaml

/-- Whether a character may be written as it is. -/
def isPrintable (c : Char) : Bool :=
  let n := c.toNat
  n == 0x0A || (0x20 ≤ n && n ≤ 0x7E) || (0xA0 ≤ n && n ≤ 0xFFFD && n != 0xFEFF) || 0x10000 ≤ n

/-- The characters a text without quotes may not start with. -/
def isIndicator (c : Char) : Bool := "#,[]\x7b\x7d&*!|>'\"%@`".toList.contains c

/-- Whether a text that goes on after some character has something in it that ends a scalar without
quotes: a colon before a gap, or a number sign after one. -/
def interrupted (afterGap : Bool) : List Char → Bool
  | [] => false
  | c :: cs =>
    (c == ':' && endsWord cs.head?) || (c == '#' && afterGap) || interrupted (endsWord (some c)) cs

/-- Whether the start of a text, or something in it, looks like the structure of a document. -/
def looksStructural : List Char → Bool
  | [] => false
  | c :: cs =>
    "---".toList.isPrefixOf (c :: cs) || "...".toList.isPrefixOf (c :: cs) || isIndicator c
      || ((c == '?' || c == ':' || c == '-') && endsWord cs.head?)
      || interrupted (endsWord (some c)) cs

/-- Whether a character of one kind is followed at once by one of another kind. -/
def followed (p q : Char → Bool) : List Char → Bool
  | a :: b :: cs => (p a && q b) || followed p q (b :: cs)
  | _ => false

/-- Whether a character is a blank; tabs do not count here. -/
def isSpace (c : Char) : Bool := c == ' '

/-- Whether a text has a character that has to be written as an escape. -/
def hasSpecial (cs : List Char) : Bool := cs.any (!isPrintable ·) || followed isSpace isBreak cs

/-- Whether a text may be written without quotes. -/
def plainAllowed (cs : List Char) : Bool :=
  !(cs.any isBreak || hasSpecial cs || looksStructural cs
    || cs.head?.any isSpace || cs.getLast?.any isSpace)

/-- Whether a text may be written in single quotes. -/
def singleAllowed (cs : List Char) : Bool := !(hasSpecial cs || followed isBreak isSpace cs)

/-- Whether a text may be written as a block. -/
def blockAllowed (cs : List Char) : Bool :=
  !(cs.isEmpty || hasSpecial cs || cs.getLast?.any isSpace)

/-- Whether a text without quotes would be read as something else. -/
def readsOtherwise (s : String) : Bool :=
  match Scalar.resolve? s with
  | some (.text _) => Scalar.paddedDigits s.toList
  | _ => true

/-- The ways to write a text. -/
inductive Form where
  /-- Without quotes. -/
  | plain
  /-- In single quotes. -/
  | single
  /-- In double quotes. -/
  | double
  /-- As a literal block. -/
  | literal
deriving DecidableEq, Repr

/-- How a text is written. -/
def formOf (s : String) : Form :=
  let cs := s.toList
  let quoted := if singleAllowed cs then Form.single else .double
  if cs.contains '\n' then (if blockAllowed cs then .literal else .double)
  else if readsOtherwise s then quoted
  else if plainAllowed cs then .plain
  else quoted

/-! ## The forms -/

/-- An escape inside double quotes. -/
def escapeOf (c : Char) : List Char :=
  let n := c.toNat
  let named : List (Nat × Char) :=
    [(0, '0'), (7, 'a'), (8, 'b'), (9, 't'), (10, 'n'), (11, 'v'), (12, 'f'), (13, 'r'), (27, 'e'),
      (0x22, '"'), (0x5C, '\\'), (0x85, 'N'), (0xA0, '_'), (0x2028, 'L'), (0x2029, 'P')]
  let code (mark : Char) (width : Nat) : List Char :=
    mark :: (Numeral.hex width n).toList.map Char.toUpper
  '\\' :: match named.lookup n with
    | some mark => [mark]
    | none => if n ≤ 0xFF then code 'x' 2 else if n ≤ 0xFFFF then code 'u' 4 else code 'U' 8

/-- A text in double quotes. -/
def doubleQuoted (cs : List Char) : List Char :=
  let one (c : Char) : List Char :=
    if !isPrintable c || isBreak c || c == '"' || c == '\\' then escapeOf c else [c]
  '"' :: cs.flatMap one ++ ['"']

/-- The indentation of a line. -/
def margin (indent : Nat) : List Char := List.replicate indent ' '

/-- The characters of a text with every line indented; empty lines get no indentation. -/
def indented (indent : Nat) (atStart : Bool) (write : Char → List Char) : List Char → List Char
  | [] => []
  | c :: cs =>
    if isBreak c then c :: indented indent true write cs
    else (if atStart then margin indent else []) ++ write c ++ indented indent false write cs

/-- A text in single quotes; lines after the first are indented, and so is the closing quote. -/
def singleQuoted (indent : Nat) (cs : List Char) : List Char :=
  let one (c : Char) : List Char := if c = '\'' then ['\'', '\''] else [c]
  let last := if cs.getLast?.any isBreak then margin indent else []
  '\'' :: indented indent false one cs ++ last ++ ['\'']

/-- The mark of a literal block: with the indentation if the text starts with a gap, and with a sign
unless the text ends with exactly one line break after something else. -/
def literalMark (cs : List Char) : List Char :=
  let hint := if cs.head?.any fun c => isSpace c || isBreak c then ['2'] else []
  let sign := match cs.reverse with
    | a :: b :: _ => if !isBreak a then ['-'] else if isBreak b then ['+'] else []
    | [a] => if isBreak a then ['+'] else ['-']
    | [] => ['-']
  '|' :: hint ++ sign

/-- A literal block without the line break that ends its last line. -/
def literalBlock (indent : Nat) (cs : List Char) : List Char :=
  let body := indented indent true (fun c => [c]) cs
  let body := if cs.getLast? == some '\n' then body.dropLast else body
  literalMark cs ++ '\n' :: body

/-- A text in its form; `indent` is the indentation of lines after the first. -/
def writeText (indent : Nat) (s : String) : List Char :=
  match formOf s with
  | .plain => s.toList
  | .single => singleQuoted indent s.toList
  | .double => doubleQuoted s.toList
  | .literal => literalBlock indent s.toList

/-- Whether a text can be written as a key on the line of its value. -/
def isSimpleKey (s : String) : Bool := !s.toList.any isBreak && s.utf8ByteSize ≤ 128

example : String.ofList (writeText 2 "a\n b") = "|-\n  a\n   b" := by decide +kernel
example : formOf "12:30" = .plain := by decide +kernel
example : formOf "007" = .single := by decide +kernel

end Arbiter.Yaml
