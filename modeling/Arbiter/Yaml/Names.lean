import Arbiter.Text.Numeral
import Arbiter.Yaml.Cursor
import Arbiter.Yaml.Token
/-!
# Anchors, tags and directives

What follows the marks that name a part of a document or say what type it has, and the lines before a
document that give tags their short forms.  Each reader gives the rest of the text.
-/

namespace Arbiter.Yaml

/-- The name of an anchor or of a reference, after its mark. -/
def anchorName? (c : Cursor) : Option (String × Cursor) :=
  let name := c.rest.takeWhile isWord
  let after := c.skip name.length
  if name.isEmpty then none
  else if endsWord after.peek || after.peek.any ("?:,]\x7d%@`".toList.contains ·) then
    some (String.ofList name, after)
  else none

/-! ## Tags -/

/-- The characters of a tag beside letters, digits, dashes and underscores. -/
def isTagMark (verbatim : Bool) (c : Char) : Bool :=
  ";/?:@&=+$.!~*'()".toList.contains c || (verbatim && ",[]".toList.contains c)

/-- How many bytes a character has whose code starts with the given one. -/
def byteWidth (b : Nat) : Nat :=
  if b < 0x80 then 1
  else if 0xC0 ≤ b ∧ b < 0xE0 then 2
  else if 0xE0 ≤ b ∧ b < 0xF0 then 3
  else if 0xF0 ≤ b ∧ b < 0xF8 then 4
  else 0

/-- A byte written as a percent sign and two digits. -/
def byte? : List Char → Option (Nat × List Char)
  | '%' :: a :: b :: rest => (Numeral.digits? 16 [a, b]).map fun n => (n, rest)
  | _ => none

/-- Further bytes of one character, added to what its first bytes say. -/
def moreBytes? : Nat → Nat → List Char → Option (Nat × List Char)
  | 0, n, cs => some (n, cs)
  | k + 1, n, cs => do
    let (b, rest) ← byte? cs
    if 0x80 ≤ b ∧ b < 0xC0 then moreBytes? k (n * 64 + (b - 0x80)) rest else none

/-- A character written as bytes. -/
def escapedChar? (cs : List Char) : Option (Char × List Char) := do
  let (b, rest) ← byte? cs
  let width := byteWidth b
  let lead := if width = 1 then b else if width = 2 then b - 0xC0 else if width = 3 then b - 0xE0 else b - 0xF0
  if width = 0 then none
  else
    let (n, rest) ← moreBytes? (width - 1) lead rest
    if n < 0xD800 ∨ (0xDFFF < n ∧ n ≤ 0x10FFFF) then some (Char.ofNat n, rest) else none

/-- The characters of a tag and what follows them. -/
def tagText? (verbatim : Bool) : Nat → List Char → Option (List Char × List Char)
  | 0, cs => some ([], cs)
  | fuel + 1, cs =>
    match cs with
    | [] => some ([], [])
    | c :: rest =>
      if isWord c || isTagMark verbatim c then
        (tagText? verbatim fuel rest).map fun (text, rest) => (c :: text, rest)
      else if c = '%' then do
        let (x, rest) ← escapedChar? cs
        let (text, rest) ← tagText? verbatim fuel rest
        return (x :: text, rest)
      else some ([], cs)

/-- The characters of a tag, at least one, passed on one line. -/
def tagUri? (verbatim : Bool) (c : Cursor) : Option (List Char × Cursor) := do
  let (text, rest) ← tagText? verbatim c.rest.length c.rest
  return (text, c.skip (c.rest.length - rest.length))

/-- The handle of a tag: an exclamation mark, perhaps a name and another one. -/
def tagHandle? (c : Cursor) : Option (List Char × Cursor) :=
  if c.sees '!' then
    let name := (c.skip 1).rest.takeWhile isWord
    let after := c.skip (1 + name.length)
    if after.sees '!' then some ('!' :: name ++ ['!'], after.skip 1)
    else some ('!' :: name, after)
  else none

/-- A tag, from its exclamation mark. -/
def tag? (flow : Bool) (c : Cursor) : Option (Token × Cursor) := do
  let (handle, suffix, c) ← parts?
  if endsWord c.peek || (flow && c.sees ',') then
    some (.tag (String.ofList handle) (String.ofList suffix), c)
  else none
where
  /-- The handle and the rest of a tag. -/
  parts? : Option (List Char × List Char × Cursor) := do
    if c.peekAt 1 = some '<' then
      let (uri, c) ← tagUri? true (c.skip 2)
      if !uri.isEmpty && c.sees '>' then some ([], uri, c.skip 1) else none
    else
      let (handle, c) ← tagHandle? c
      if handle.length ≥ 2 && handle.getLast? == some '!' then
        let (uri, c) ← tagUri? false c
        if uri.isEmpty then none else some (handle, uri, c)
      else
        let (uri, c) ← tagUri? false c
        let suffix := handle.tail ++ uri
        if suffix.isEmpty then some ([], ['!'], c) else some (['!'], suffix, c)

/-! ## Directives -/

/-- A number of a version: one to nine digits. -/
def versionNumber? (c : Cursor) : Option (Nat × Cursor) :=
  let ds := c.rest.takeWhile Char.isDigit
  if ds.length ≤ 9 then (Numeral.digits? 10 ds).map fun n => (n, c.skip ds.length) else none

/-- The content of a version directive. -/
def versionDirective? (c : Cursor) : Option (Token × Cursor) := do
  let (major, c) ← versionNumber? (c.skipWhile isBlank)
  guard (c.sees '.')
  let (minor, c) ← versionNumber? (c.skip 1)
  return (.version major minor, c)

/-- The content of a tag directive. -/
def tagDirective? (c : Cursor) : Option (Token × Cursor) := do
  let (handle, c) ← tagHandle? (c.skipWhile isBlank)
  guard (handle.length == 1 || handle.getLast? == some '!')
  guard (c.peek.any isBlank)
  let (lead, c) ← tagUri? true (c.skipWhile isBlank)
  guard (!lead.isEmpty && endsWord c.peek)
  return (.tagAlias (String.ofList handle) (String.ofList lead), c)

/-- A directive, from its percent sign to the end of its line. -/
def directive? (c : Cursor) : Option (Token × Cursor) := do
  let name := (c.skip 1).rest.takeWhile isWord
  let c := c.skip (1 + name.length)
  guard (endsWord c.peek)
  let (token, c) ←
    if name = ['Y', 'A', 'M', 'L'] then versionDirective? c
    else if name = ['T', 'A', 'G'] then tagDirective? c
    else none
  let c := c.skipWhile isBlank
  let c := if c.sees '#' then c.skipWhile (fun x => !isBreak x) else c
  guard (endsLine c.peek)
  return (token, c.skipLine)

end Arbiter.Yaml
