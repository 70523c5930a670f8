import Arbiter.Pattern.Basic
import Arbiter.Pattern.Properties
/-!
# Reading patterns

Patterns are read from left to right with the open groups on a stack.  Flags hold from where they
are set to the end of the group, so every part of a pattern is made with the flags in force.
-/

namespace Arbiter.Pattern

open Text

/-- The flags that change what a pattern matches. -/
structure Flags where
  /-- Letters match in either case. -/
  caseless : Bool := false
  /-- The marks for start and end of the text hold at lines too. -/
  lines : Bool := false
  /-- The dot matches line feeds. -/
  dotAll : Bool := false
  /-- Classes are those of the whole character set. -/
  unicode : Bool := true
  /-- Two characters together may end a line. -/
  crlf : Bool := false
  /-- Blanks and comments in the pattern are passed over. -/
  spaced : Bool := false

/-- How deep groups, repetitions and brackets may nest. -/
def nestLimit : Nat := 250

/-- A part of a pattern. -/
structure Piece where
  /-- What it matches. -/
  pattern : Pattern
  /-- How deep it is nested. -/
  depth : Nat := 0
  /-- Whether there is something in it that can be repeated; flags alone cannot. -/
  solid : Bool := true

/-- The group that is being read: the pieces of the current branch, last first, and the branches
before it. -/
structure Group where
  /-- The pieces of the current branch, last first. -/
  pieces : List Piece := []
  /-- The branches before it, last first. -/
  branches : List Piece := []

/-- A part that stands for several parts. -/
def joinPieces (join : List Pattern → Pattern) (ps : List Piece) : Piece :=
  match ps with
  | [p] => { p with solid := true }
  | ps =>
    { pattern := join (ps.map (·.pattern))
      depth := if ps.isEmpty then 0 else (ps.map (·.depth)).foldl max 0 + 1 }

/-- The piece of the current branch. -/
def Group.branch (g : Group) : Piece := joinPieces seqAll g.pieces.reverse

/-- The piece of a whole group. -/
def Group.whole (g : Group) : Piece := joinPieces altAll (g.branches.reverse ++ [g.branch])

/-- A reader of patterns. -/
structure Parser where
  /-- What is still to be read. -/
  rest : List Char
  /-- The flags in force. -/
  flags : Flags := {}
  /-- The group being read. -/
  group : Group := {}
  /-- The groups around it, with the flags to go back to. -/
  stack : List (Group × Flags) := []
  /-- The names of groups. -/
  names : List (List Char) := []

/-! ## Small parts -/

/-- Passes blanks and comments. -/
def skipSpaced (inComment : Bool) : List Char → List Char
  | [] => []
  | c :: cs =>
    if inComment then skipSpaced (c != '\n') cs
    else if isBlank c then skipSpaced false cs
    else if c = '#' then skipSpaced true cs
    else c :: cs

/-- Passes blanks and comments where they do not count. -/
def space (f : Flags) (cs : List Char) : List Char := if f.spaced then skipSpaced false cs else cs

/-- A number, with blanks around it. -/
def decimal? (f : Flags) (cs : List Char) : Option (Nat × List Char) :=
  go [] (cs.dropWhile isBlank)
where
  /-- Collects the digits, last first. -/
  go (digits : List Char) : List Char → Option (Nat × List Char)
    | [] => finish digits []
    | c :: cs => if c.isDigit then go (c :: digits) cs
      else if f.spaced && (isBlank c || c = '#') then
        let rest := skipSpaced false (c :: cs)
        if rest.head?.any Char.isDigit then goOn digits rest rest.length
        else finish digits rest
      else finish digits (c :: cs)
  /-- Collects further digits that come after blanks or comments. -/
  goOn (digits : List Char) (cs : List Char) : Nat → Option (Nat × List Char)
    | 0 => finish digits cs
    | fuel + 1 =>
      match cs with
      | c :: rest => if c.isDigit then goOn (c :: digits) (skipSpaced false rest) fuel
        else finish digits cs
      | [] => finish digits []
  /-- The number of the digits. -/
  finish (digits : List Char) (rest : List Char) : Option (Nat × List Char) := do
    let n ← Numeral.digits? 10 digits.reverse
    if n < Nat.pow 2 32 then some (n, rest.dropWhile isBlank) else none

/-- What an escape, or a character of a class, stands for. -/
inductive Prim where
  /-- A character. -/
  | char (c : Char)
  /-- A byte beyond the first 128, where classes are those of bytes. -/
  | byte (n : Nat)
  /-- A class. -/
  | cls (c : Chars)
  /-- A place. -/
  | place (l : Look)

/-- Characters with a meaning of their own in patterns. -/
def isMeta (c : Char) : Bool := "\\.+*?()|[]\x7b\x7d^$#&-~".toList.contains c

/-- Characters that stand for themselves after a backslash. -/
def isEscapable (c : Char) : Bool :=
  isMeta c || (c.toNat < 128 && !c.isAlphanum && c != '<' && c != '>')

/-- The character of a code. -/
def charOfCode? (n : Nat) : Option Char :=
  if n < 0xD800 ∨ (0xDFFF < n ∧ n ≤ 0x10FFFF) then some (Char.ofNat n) else none

/-- Collects up to `n` hexadecimal digits. -/
def hexDigits? (f : Flags) : Nat → List Char → Option (List Char × List Char)
  | 0, cs => some ([], cs)
  | n + 1, c :: cs =>
    if (Numeral.digit? 16 c).isSome then
      (hexDigits? f n (space f cs)).map fun (ds, rest) => (c :: ds, rest)
    else none
  | _, [] => none

/-- Collects hexadecimal digits up to a closing brace. -/
def hexBraced? (f : Flags) : Nat → List Char → Option (List Char × List Char)
  | 0, _ => none
  | fuel + 1, cs =>
    match cs with
    | [] => none
    | c :: rest =>
      if c = '}' then some ([], rest)
      else if (Numeral.digit? 16 c).isSome then
        (hexBraced? f fuel (space f rest)).map fun (ds, rest) => (c :: ds, rest)
      else none

/-- The character of an escape by its code; a code of two digits is a byte where classes are those
of bytes. -/
def hexEscape? (f : Flags) (digits : Nat) (cs : List Char) : Option (Prim × List Char) := do
  let cs := space f cs
  let (ds, rest) ← match cs with
    | '{' :: rest => hexBraced? f (rest.length + 1) (space f rest)
    | cs => hexDigits? f digits cs
  let n ← Numeral.digits? 16 ds
  let c ← charOfCode? n
  if !f.unicode && digits == 2 && 127 < n && n < 256 then return (.byte n, rest)
  else return (.char c, rest)

/-- Collects the text of a property up to a closing brace. -/
def propertyBraced? (f : Flags) : Nat → List Char → Option (List Char × List Char)
  | 0, _ => none
  | fuel + 1, cs =>
    match cs with
    | [] => none
    | c :: rest =>
      if c = '}' then some ([], rest)
      else (propertyBraced? f fuel (space f rest)).map fun (name, rest) => (c :: name, rest)

/-- A set with the letters in either case, if the flags say so. -/
def foldIf (f : Flags) (c : Chars) : Chars :=
  if f.caseless then (if f.unicode then .folded c else .foldedAscii c) else c

/-- The class of a property, negated or not. -/
def property? (f : Flags) (negated : Bool) (cs : List Char) : Option (Prim × List Char) := do
  guard f.unicode
  let (found, rest) ← match space f cs with
    | '{' :: rest =>
      (propertyBraced? f (rest.length + 1) (space f rest)).map fun (name, rest) =>
        (propertyText name, rest)
    | '\\' :: _ => none
    | c :: rest => some (categoryClass (plainName [c]), rest)
    | [] => none
  let found := foldIf f (← found)
  return (.cls (if negated then .compl found else found), rest)

/-- A class of an escape letter; one beyond the first 128 codes is refused where classes are those
of bytes. -/
def letterPrim? (f : Flags) (c : Char) : Option Prim := do
  let cls ← letterClass f.unicode c
  if c.isUpper then (if f.unicode then some (.cls (.compl cls)) else none) else return .cls cls

/-- The place that a name in braces after the escape for the edge of a word says. -/
def wordPlace? (f : Flags) (name : List Char) : Option Look :=
  if name = "start".toList then some (.wordStart f.unicode)
  else if name = "end".toList then some (.wordEnd f.unicode)
  else if name = "start-half".toList then some (.halfStart f.unicode)
  else if name = "end-half".toList then some (.halfEnd f.unicode)
  else none

/-- Collects the name of a place up to a closing brace. -/
def placeName? (f : Flags) : Nat → List Char → Option (List Char × List Char)
  | 0, _ => none
  | fuel + 1, cs =>
    match cs with
    | [] => none
    | c :: rest =>
      if c = '}' then some ([], rest)
      else if c.isAlpha || c == '-' then
        (placeName? f fuel (space f rest)).map fun (name, rest) => (c :: name, rest)
      else none

/-- The edge of a word, perhaps with a name in braces; braces that hold no name are left for a
repetition. -/
def wordEdge? (f : Flags) (cs : List Char) : Option (Prim × List Char) :=
  match cs with
  | '{' :: rest =>
    match space f rest with
    | [] => none
    | c :: name =>
      if c.isAlpha || c == '-' then do
        let (text, rest) ← placeName? f (name.length + 2) (c :: name)
        return (.place (← wordPlace? f text), rest)
      else some (.place (.wordEdge f.unicode), cs)
  | cs => some (.place (.wordEdge f.unicode), cs)

/-- What stands after a backslash. -/
def escape? (f : Flags) : List Char → Option (Prim × List Char)
  | [] => none
  | c :: cs =>
    match c with
    | 'x' => hexEscape? f 2 cs
    | 'u' => hexEscape? f 4 cs
    | 'U' => hexEscape? f 8 cs
    | 'p' => property? f false cs
    | 'P' => property? f true cs
    | 'a' => some (.char (Char.ofNat 7), cs)
    | 'f' => some (.char (Char.ofNat 12), cs)
    | 't' => some (.char '\t', cs)
    | 'n' => some (.char '\n', cs)
    | 'r' => some (.char '\r', cs)
    | 'v' => some (.char (Char.ofNat 11), cs)
    | 'A' => some (.place .textStart, cs)
    | 'z' => some (.place .textEnd, cs)
    | 'b' => wordEdge? f cs
    | 'B' => some (.place (.noWordEdge f.unicode), cs)
    | '<' => some (.place (.wordStart f.unicode), cs)
    | '>' => some (.place (.wordEnd f.unicode), cs)
    | c =>
      if isEscapable c then some (.char c, cs) else (letterPrim? f c).map fun p => (p, cs)

/-! ## Classes in brackets -/

/-- How the parts of a class in brackets are combined. -/
inductive SetOperator where
  /-- Both. -/
  | both
  /-- The first without the second. -/
  | without
  /-- One of them but not both. -/
  | either

/-- Combines two sets. -/
def SetOperator.apply : SetOperator → Chars → Chars → Chars
  | .both, a, b => .inter a b
  | .without, a, b => .diff a b
  | .either, a, b => .union (.diff a b) (.diff b a)

/-- An open bracket, or an operator with what stands before it. -/
inductive SetFrame where
  /-- An open bracket: what the class around it has so far, and whether it is negated. -/
  | bracket (outer : List Chars) (negated : Bool)
  /-- An operator with its first operand. -/
  | operator (op : SetOperator) (left : Chars)

/-- The set of several members. -/
def setOf (members : List Chars) : Chars := .unionAll members.reverse

/-- Completes the operator on top of the stack, if there is one. -/
def closeOperator (f : Flags) (right : Chars) : List SetFrame → Chars × List SetFrame
  | .operator op left :: stack => (op.apply (foldIf f left) (foldIf f right), stack)
  | stack => (right, stack)

/-- The opening of a class: the negation, and hyphens and a bracket that stand for themselves. -/
def openSet? (f : Flags) (cs : List Char) : Option (Bool × List Chars × List Char) := do
  let cs := space f cs
  let (negated, cs) := match cs with
    | '^' :: rest => (true, space f rest)
    | cs => (false, cs)
  let (members, cs) := hyphens cs.length [] cs
  match members, cs with
  | _, [] => none
  | [], ']' :: rest =>
    let rest := space f rest
    if rest.isEmpty then none else some (negated, [.one ']'.toNat], rest)
  | members, cs => some (negated, members, cs)
where
  /-- Hyphens at the start. -/
  hyphens : Nat → List Chars → List Char → List Chars × List Char
    | 0, ms, cs => (ms, cs)
    | fuel + 1, ms, cs =>
      match cs with
      | '-' :: rest => hyphens fuel (.one '-'.toNat :: ms) (space f rest)
      | cs => (ms, cs)

/-- A class by its name in colons, after its bracket. -/
def colonClass? (f : Flags) (cs : List Char) : Option (Chars × List Char) := do
  let cs ← match cs with
    | ':' :: rest => some rest
    | _ => none
  let (negated, cs) := match cs with
    | '^' :: rest => (true, rest)
    | cs => (false, cs)
  let name := cs.takeWhile (· != ':')
  let cls ← namedClass (String.ofList name)
  let rest ← match cs.drop name.length with
    | ':' :: ']' :: rest => some rest
    | _ => none
  let cls := foldIf f cls
  return (if negated then .compl cls else cls, rest)

/-- A member of a class: a character, or what stands after a backslash. -/
def member? (f : Flags) : List Char → Option (Prim × List Char)
  | '\\' :: cs => escape? f cs
  | c :: cs => some (.char c, cs)
  | [] => none

/-- The code of a member that is a single character; only the first 128 where classes are those of
bytes. -/
def code? (f : Flags) : Prim → Option Nat
  | .char c => if f.unicode || c.toNat < 128 then some c.toNat else none
  | .byte n => some n
  | _ => none

/-- A member of a class or a range between two of them. -/
def memberOrRange? (f : Flags) (cs : List Char) : Option (Chars × List Char) := do
  let (first, rest) ← member? f cs
  let rest := space f rest
  let single : Option (Chars × List Char) :=
    match first with
    | .cls c => some (c, rest)
    | .place _ => none
    | p => (code? f p).map fun n => (.one n, rest)
  match rest with
  | [] => none
  | '-' :: more =>
    match space f more with
    | [] => none
    | ']' :: _ => single
    | '-' :: _ => single
    | more => do
      let (second, rest) ← member? f more
      let low ← code? f first
      let high ← code? f second
      if low ≤ high then some (.range low high, rest) else none
  | _ => single

/-- Completes an open class: the members, folded and negated as the flags and the bracket say. -/
def closeSet (f : Flags) (negated : Bool) (set : Chars) : Chars :=
  let set := foldIf f set
  if negated then .compl set else set

/-- Reads a class from inside its outermost bracket.  `members` are those of the innermost open
bracket, last first. -/
def set? (f : Flags) :
    Nat → List SetFrame → List Chars → List Char → Option (Chars × List Char)
  | 0, _, _, _ => none
  | fuel + 1, stack, members, cs =>
    match space f cs with
    | [] => none
    | '[' :: rest =>
      match (if stack.isEmpty then none else colonClass? f rest) with
      | some (cls, rest) => set? f fuel stack (cls :: members) rest
      | none =>
        match openSet? f rest with
        | some (negated, inner, rest) =>
          if stack.length < nestLimit then
            set? f fuel (.bracket members negated :: stack) inner rest
          else none
        | none => none
    | ']' :: rest =>
      match closeOperator f (setOf members) stack with
      | (set, .bracket outer negated :: stack) =>
        let set := closeSet f negated set
        if stack.isEmpty then some (set, rest) else set? f fuel stack (set :: outer) rest
      | _ => none
    | '&' :: '&' :: rest =>
      let (left, stack) := closeOperator f (setOf members) stack
      set? f fuel (.operator .both left :: stack) [] rest
    | '-' :: '-' :: rest =>
      let (left, stack) := closeOperator f (setOf members) stack
      set? f fuel (.operator .without left :: stack) [] rest
    | '~' :: '~' :: rest =>
      let (left, stack) := closeOperator f (setOf members) stack
      set? f fuel (.operator .either left :: stack) [] rest
    | cs =>
      match memberOrRange? f cs with
      | some (cls, rest) => set? f fuel stack (cls :: members) rest
      | none => none

/-- A class in brackets, from its opening bracket. -/
def bracketed? (f : Flags) (cs : List Char) : Option (Chars × List Char) := do
  let (set, rest) ← set? f (cs.length + 1) [] [] cs
  if f.unicode || set.isAscii then some (set, rest) else none

/-! ## Groups -/

/-- Sets or clears the flag of a letter. -/
def Flags.setLetter? (f : Flags) (on : Bool) (c : Char) : Option Flags :=
  match c with
  | 'i' => some { f with caseless := on }
  | 'm' => some { f with lines := on }
  | 's' => some { f with dotAll := on }
  | 'u' => some { f with unicode := on }
  | 'R' => some { f with crlf := on }
  | 'x' => some { f with spaced := on }
  | 'U' => some f
  | _ => none

/-- Reads flags up to a colon or a closing parenthesis.  No flag is repeated, there is at most one
hyphen, and a flag comes after it. -/
def flags? (f : Flags) (used : List Char) (on : Bool) : List Char → Option (Flags × Bool × Char × List Char)
  | [] => none
  | c :: cs =>
    if c = ':' ∨ c = ')' then
      if used.head? = some '-' then none else some (f, used.isEmpty, c, cs)
    else if used.contains c then none
    else if c = '-' then flags? f (c :: used) false cs
    else match f.setLetter? on c with
      | some f => flags? f (c :: used) on cs
      | none => none

/-- Whether a character may be in the name of a group. -/
def isNameChar (first : Bool) (c : Char) : Bool :=
  c == '_' || inRuns alphabeticRuns c.toNat
    || (!first && (c == '.' || c == '[' || c == ']' || inRuns (categories ["Nd", "Nl", "No"]) c.toNat))

/-- The name of a group up to its closing angle. -/
def groupName? (cs : List Char) : Option (List Char × List Char) :=
  let name := cs.takeWhile (· != '>')
  match name with
  | [] => none
  | c :: more =>
    if isNameChar true c && more.all (isNameChar false) then
      match cs.drop name.length with
      | '>' :: rest => some (name, rest)
      | _ => none
    else none

/-- Opens a group. -/
def Parser.open (p : Parser) (flags : Flags) (rest : List Char) : Parser :=
  { p with rest, flags, group := {}, stack := (p.group, p.flags) :: p.stack }

/-- Opens a group with a name. -/
def Parser.openNamed? (p : Parser) (cs : List Char) : Option Parser := do
  let (name, rest) ← groupName? cs
  if p.names.contains name then none
  else some ({ p with names := name :: p.names }.open p.flags rest)

/-- What stands after an opening parenthesis: a group, or flags for the rest of the group around. -/
def Parser.parenthesis? (p : Parser) (cs : List Char) : Option Parser :=
  match space p.flags cs with
  | '?' :: 'P' :: '<' :: rest => p.openNamed? rest
  | '?' :: '<' :: '=' :: _ => none
  | '?' :: '<' :: '!' :: _ => none
  | '?' :: '<' :: rest => p.openNamed? rest
  | '?' :: rest => do
    let (flags, noFlags, close, rest) ← flags? p.flags [] true rest
    if close = ':' then some (p.open flags rest)
    else if noFlags then none
    else
      let marker : Piece := { pattern := .empty, solid := false }
      some { p with rest, flags, group := { p.group with pieces := marker :: p.group.pieces } }
  | rest => some (p.open p.flags rest)

/-- Closes the innermost group. -/
def Parser.close? (p : Parser) (rest : List Char) : Option Parser :=
  match p.stack with
  | [] => none
  | (outer, flags) :: stack =>
    let inner := p.group.whole
    if inner.depth < nestLimit then
      let piece : Piece := { pattern := inner.pattern, depth := inner.depth + 1 }
      some { p with rest, flags, stack, group := { outer with pieces := piece :: outer.pieces } }
    else none

/-! ## The whole -/

/-- Adds a part without depth. -/
def Parser.push (p : Parser) (pattern : Pattern) (rest : List Char) : Parser :=
  { p with rest, group := { p.group with pieces := { pattern } :: p.group.pieces } }

/-- A character that stands for itself. -/
def literal (f : Flags) (c : Char) : Pattern :=
  if f.caseless then
    if f.unicode then .chars (.unionAll ((caseVariants c.toNat).map .one))
    else .chars (.unionAll ((asciiVariants c.toNat).map .one))
  else .chars (.one c.toNat)

/-- The pattern of the dot; bytes beyond the first 128 are never matched alone. -/
def dot? (f : Flags) : Option Pattern :=
  if !f.unicode then none
  else if f.dotAll then some (.chars (.range 0 0x10FFFF))
  else if f.crlf then some (.chars (.compl (.union (.one 10) (.one 13))))
  else some (.chars (.compl (.one 10)))

/-- The pattern of what an escape stands for. -/
def Prim.pattern? (f : Flags) : Prim → Option Pattern
  | .char c => some (literal f c)
  | .byte _ => none
  | .cls c => some (.chars c)
  | .place l => some (.look l)

/-- Repeats the last piece. -/
def Parser.repeat? (p : Parser) (least : Nat) (most : Option Nat) (rest : List Char) :
    Option Parser :=
  match p.group.pieces with
  | [] => none
  | piece :: pieces =>
    if piece.solid && piece.depth < nestLimit then
      let rest := match rest with
        | '?' :: rest => rest
        | rest => rest
      let piece : Piece := { pattern := .repeated piece.pattern least most, depth := piece.depth + 1 }
      some { p with rest, group := { p.group with pieces := piece :: pieces } }
    else none

/-- A repetition with its bounds in braces. -/
def Parser.counted? (p : Parser) (cs : List Char) : Option Parser := do
  let f := p.flags
  let (least, rest) ← decimal? f (space f cs)
  let (most, rest) ← match rest with
    | ',' :: rest =>
      match space f rest with
      | '}' :: rest => some (none, '}' :: rest)
      | rest => (decimal? f rest).map fun (n, rest) => (some n, rest)
    | rest => some (some least, rest)
  match rest with
  | '}' :: rest => if most.all (least ≤ ·) then p.repeat? least most (space f rest) else none
  | _ => none

/-- Reads one part; `none` if it is wrong. -/
def Parser.step? (p : Parser) (c : Char) (cs : List Char) : Option Parser :=
  let f := p.flags
  match c with
  | '(' => p.parenthesis? cs
  | ')' => p.close? cs
  | '|' =>
    some { p with rest := cs, group := ⟨[], p.group.branch :: p.group.branches⟩ }
  | '[' => do
    let (set, rest) ← bracketed? f (c :: cs)
    return { p with rest, group := { p.group with
      pieces := { pattern := .chars set, depth := 1 } :: p.group.pieces } }
  | '?' => p.repeat? 0 (some 1) cs
  | '*' => p.repeat? 0 none cs
  | '+' => p.repeat? 1 none cs
  | '{' => p.counted? cs
  | '\\' => do
    let (prim, rest) ← escape? f cs
    return p.push (← prim.pattern? f) rest
  | '.' => do return p.push (← dot? f) cs
  | '^' => some (p.push (.look (if f.lines then .lineStart f.crlf else .textStart)) cs)
  | '$' => some (p.push (.look (if f.lines then .lineEnd f.crlf else .textEnd)) cs)
  | c => some (p.push (literal f c) cs)

/-- Reads to the end. -/
def Parser.run? : Nat → Parser → Option Pattern
  | 0, _ => none
  | fuel + 1, p =>
    match space p.flags p.rest with
    | [] => if p.stack.isEmpty && p.group.whole.depth ≤ nestLimit then some p.group.whole.pattern else none
    | c :: cs => (p.step? c cs).bind (Parser.run? fuel)

/-- The pattern of a text, if the text is one. -/
def parse? (text : String) : Option Pattern :=
  let cs := text.toList
  Parser.run? (cs.length + 1) { rest := cs }

end Arbiter.Pattern
