import Arbiter.Text.Numeral
import Arbiter.Yaml.Folding
/-!
# Quoted scalars and block scalars

Readers for the scalars whose end does not depend on what surrounds them: those in single or double
quotes, and the literal and folded blocks, whose lines are held together by their indentation.
-/

namespace Arbiter.Yaml

/-! ## Quoted scalars -/

/-- The character of a code, if there is one. -/
def charOf? (n : Nat) : Option Char :=
  if n < 0xD800 ∨ (0xDFFF < n ∧ n ≤ 0x10FFFF) then some (Char.ofNat n) else none

/-- The number that exactly `n` hexadecimal digits stand for. -/
def hex? (n : Nat) (cs : List Char) : Option Nat :=
  if n ≤ cs.length then Numeral.digits? 16 (cs.take n) else none

/-- Collects the characters of a quoted scalar up to a blank, a line break or the closing quote.
The answer says whether an escaped line break ended it. -/
def quotedWord? (single : Bool) : Nat → List Char → Cursor → Option (List Char × Bool × Cursor)
  | 0, done, c => some (done, false, c)
  | fuel + 1, done, c =>
    match c.rest with
    | [] => some (done, false, c)
    | x :: next =>
      if isBlank x || isBreak x then some (done, false, c)
      else if single then
        if x = '\'' then
          if next.head? = some '\'' then quotedWord? single fuel ('\'' :: done) (c.skip 2)
          else some (done, false, c)
        else quotedWord? single fuel (x :: done) (c.skip 1)
      else if x = '"' then some (done, false, c)
      else if x = '\\' then
        match next with
        | [] => none
        | y :: digits =>
          if isBreak y then some (done, true, (c.skip 1).skipLine)
          else match escape? y with
            | some z => quotedWord? single fuel (z :: done) (c.skip 2)
            | none => do
              let n ← codeLength? y
              let z ← charOf? (← hex? n digits)
              quotedWord? single fuel (z :: done) (c.skip (2 + n))
      else quotedWord? single fuel (x :: done) (c.skip 1)

/-- Collects the words of a quoted scalar up to the closing quote. -/
def quotedWords? (single : Bool) : Nat → List Char → Cursor → Option (List Char × Cursor)
  | 0, _, _ => none
  | fuel + 1, done, c =>
    if c.atAnyMark || c.rest.isEmpty then none
    else do
      let (done, escaped, c) ← quotedWord? single (c.rest.length + 1) done c
      if c.sees (if single then '\'' else '"') then some (done, c.skip 1)
      else
        let (g, c) ← Gap.scan none c.rest.length { broken := escaped } c
        quotedWords? single fuel (g.text.reverse ++ done) c

/-- A quoted scalar, from its opening quote. -/
def quotedScalar? (single : Bool) (c : Cursor) : Option (String × Cursor) :=
  (quotedWords? single (c.rest.length + 1) [] (c.skip 1)).map fun (done, c) =>
    (String.ofList done.reverse, c)

/-! ## Block scalars -/

/-- What becomes of the line breaks at the end of a block scalar. -/
inductive Chomping where
  /-- All are dropped. -/
  | strip
  /-- The first is kept. -/
  | clip
  /-- All are kept. -/
  | keep
deriving DecidableEq

/-- The sign that says what becomes of line breaks at the end. -/
def chomping? (c : Char) : Option Chomping :=
  if c = '+' then some .keep else if c = '-' then some .strip else none

/-- The indentation a digit says; `none` for anything but a digit, and for zero the digit is
refused by the caller. -/
def indentation? (c : Char) : Option Nat :=
  if c.isDigit then some (c.toNat - 48) else none

/-- The header of a block scalar after its mark: the indentation, zero if it is not said, and what
becomes of the line breaks at the end, in either order. -/
def blockHeader? (c : Cursor) : Option (Nat × Chomping × Cursor) :=
  match c.peek.bind chomping?, c.peek.bind indentation? with
  | some ch, _ =>
    match (c.peekAt 1).bind indentation? with
    | some 0 => none
    | some n => some (n, ch, c.skip 2)
    | none => some (0, ch, c.skip 1)
  | none, some 0 => none
  | none, some n =>
    match (c.peekAt 1).bind chomping? with
    | some ch => some (n, ch, c.skip 2)
    | none => some (n, .clip, c.skip 1)
  | none, none => some (0, .clip, c)

/-- Passes indentation and empty lines.  An indentation of zero is not known yet; the answer has the
widest one met. -/
def blockBreaks? (indent : Nat) :
    Nat → Nat → List Char → Cursor → Option (Nat × List Char × Cursor)
  | 0, widest, breaks, c => some (widest, breaks, c)
  | fuel + 1, widest, breaks, c =>
    let blanks := (c.rest.takeWhile (· == ' ')).length
    let c := c.skip (if indent = 0 then blanks else min blanks (indent - c.column))
    let widest := max widest c.column
    if (indent = 0 || c.column < indent) && c.sees '\t' then none
    else if c.peek.any isBreak then
      blockBreaks? indent fuel widest (breaks ++ c.lineBreak) c.skipLine
    else some (widest, breaks, c)

/-- The lines of a block scalar.  `first` and `more` are the line breaks that came before, and
`blankBefore` says whether the line before started with a blank. -/
def blockLines? (literal : Bool) (indent : Nat) : Nat → List Char → List Char → List Char → Bool →
    Cursor → Option (List Char × List Char × List Char × Cursor)
  | 0, done, first, more, _, c => some (done, first, more, c)
  | fuel + 1, done, first, more, blankBefore, c =>
    if c.column = indent ∧ !c.rest.isEmpty then
      let blank := c.peek.any isBlank
      let joint :=
        if !literal && first == ['\n'] && !blankBefore && !blank then
          (if more.isEmpty then [' '] else [])
        else first
      let line := c.rest.takeWhile fun x => !isBreak x
      let done := line.reverse ++ (more.reverse ++ (joint.reverse ++ done))
      let c := c.skip line.length
      match blockBreaks? indent (c.rest.length + 1) 0 [] c.skipLine with
      | none => none
      | some (_, breaks, c') =>
        blockLines? literal indent fuel done c.lineBreak breaks blank c'
    else some (done, first, more, c)

/-- A block scalar from its mark, inside a collection with the given indentation. -/
def blockScalar? (literal : Bool) (parent : Int) (c : Cursor) : Option (String × Cursor) := do
  let (increment, chomping, c) ← blockHeader? (c.skip 1)
  let c := c.skipWhile isBlank
  let c := if c.sees '#' then c.skipWhile (fun x => !isBreak x) else c
  guard (endsLine c.peek)
  let c := c.skipLine
  let outer := max parent 0
  let known := if increment = 0 then 0 else outer.toNat + increment
  let (widest, breaks, c) ← blockBreaks? known (c.rest.length + 1) 0 [] c
  let indent := if known = 0 then max (max widest (parent + 1).toNat) 1 else known
  let (done, first, more, c) ←
    blockLines? literal indent (c.rest.length + 1) [] [] breaks false c
  let done := if chomping = .strip then done else first.reverse ++ done
  let done := if chomping = .keep then more.reverse ++ done else done
  return (String.ofList done.reverse, c)

end Arbiter.Yaml
