import Arbiter.Decimal.Reading
import Arbiter.Value.Basic
/-!
# JSON tokens

A machine that takes a text one character at a time.  Every character is taken exactly once: one
that ends a number or a word is looked at again as the start of what follows, within the same step.
-/

namespace Arbiter.Json

/-- A token. -/
inductive Token where
  /-- An opening bracket. -/
  | openList
  /-- A closing bracket. -/
  | closeList
  /-- An opening brace. -/
  | openRecord
  /-- A closing brace. -/
  | closeRecord
  /-- A comma. -/
  | comma
  /-- A colon. -/
  | colon
  /-- A quoted text. -/
  | text (s : String)
  /-- A number, a truth value or null. -/
  | atom (v : Value)

/-- Where the machine stands; collected characters are held last first. -/
inductive Scan where
  /-- Between tokens. -/
  | idle
  /-- Inside quotes. -/
  | quoted (acc : List Char)
  /-- After a backslash inside quotes. -/
  | escaped (acc : List Char)
  /-- Inside a four-digit escape with `left` digits to come; `high` is the first half of a pair. -/
  | digits (acc : List Char) (high : Option Nat) (n : Nat) (left : Nat)
  /-- After the first half of a pair, before the backslash of the second. -/
  | paired (acc : List Char) (high : Nat)
  /-- After the backslash of the second half. -/
  | pairedMark (acc : List Char) (high : Nat)
  /-- Inside a number. -/
  | number (acc : List Char)
  /-- Inside a word. -/
  | word (acc : List Char)

/-- The whole part of a number: a zero alone, or digits that do not start with one. -/
def wholePart? (cs : List Char) : Option (List Nat × List Char) :=
  match Decimal.spanDigits cs with
  | ([], _) => none
  | (0 :: _ :: _, _) => none
  | found => some found

/-- The part after a point: at least one digit. -/
def fractionPart? : List Char → Option (List Nat × List Char)
  | '.' :: cs =>
    match Decimal.spanDigits cs with
    | ([], _) => none
    | found => some found
  | cs => some ([], cs)

/-- The number that stands for whole digits without point or exponent.  What does not fit in
sixty-four bits is a double, and so is a zero with a minus sign. -/
def wholeNumber (negative : Bool) (ds : List Nat) : Option Number :=
  let n : Int := Decimal.ofDigits ds
  if negative then
    if n ≠ 0 ∧ Numeral.fitsSigned (-n) then some (.int (-n))
    else (Decimal.scaled? (Decimal.Significand.whole ⟨0, 0⟩ ds) 0).map fun x => .float (-x)
  else if n ≤ Numeral.maxWord then some (.int n)
  else (Decimal.scaled? (Decimal.Significand.whole ⟨0, 0⟩ ds) 0).map .float

/-- The number a text stands for. -/
def number? (cs : List Char) : Option Number := do
  let (negative, cs) := match cs with
    | '-' :: cs => (true, cs)
    | cs => (false, cs)
  let (whole, rest) ← wholePart? cs
  if rest.isEmpty then wholeNumber negative whole
  else
    let (part, rest) ← fractionPart? rest
    let e ← Decimal.exponentPart? rest
    let s := ((Decimal.Significand.whole ⟨0, 0⟩ whole).fraction part)
    let x ← Decimal.scaled? s e
    return .float (if negative then -x else x)

/-- The value a word stands for. -/
def word? (s : List Char) : Option Value :=
  if s = ['n', 'u', 'l', 'l'] then some .null
  else if s = ['t', 'r', 'u', 'e'] then some (.bool true)
  else if s = ['f', 'a', 'l', 's', 'e'] then some (.bool false)
  else none

/-- The tokens a collected number or word makes, when something else follows. -/
def Scan.flush? : Scan → Option (List Token)
  | .idle => some []
  | .number acc => (number? acc.reverse).map fun n => [.atom (.num n)]
  | .word acc => (word? acc.reverse).map fun v => [.atom v]
  | _ => none

/-- Blanks between tokens. -/
def isSpace (c : Char) : Bool := c == ' ' || c == '\n' || c == '\r' || c == '\t'

/-- The characters numbers are made of. -/
def inNumber (c : Char) : Bool :=
  c.isDigit || c == '-' || c == '+' || c == '.' || c == 'e' || c == 'E'

/-- A character between tokens. -/
def start? (c : Char) : Option (Scan × List Token) :=
  if isSpace c then some (.idle, [])
  else if c = '[' then some (.idle, [.openList])
  else if c = ']' then some (.idle, [.closeList])
  else if c = '{' then some (.idle, [.openRecord])
  else if c = '}' then some (.idle, [.closeRecord])
  else if c = ',' then some (.idle, [.comma])
  else if c = ':' then some (.idle, [.colon])
  else if c = '"' then some (.quoted [], [])
  else if c = '-' || c.isDigit then some (.number [c], [])
  else if c.isAlpha then some (.word [c], [])
  else none

/-- The character a one-letter escape stands for. -/
def escape? (c : Char) : Option Char :=
  if c = '"' ∨ c = '\\' ∨ c = '/' then some c
  else if c = 'b' then some (Char.ofNat 8)
  else if c = 'f' then some (Char.ofNat 12)
  else if c = 'n' then some '\n'
  else if c = 'r' then some '\r'
  else if c = 't' then some '\t'
  else none

/-- Where a four-digit escape of value `n` leads. -/
def endDigits? (acc : List Char) (high : Option Nat) (n : Nat) : Option Scan :=
  match high with
  | none =>
    if 0xD800 ≤ n ∧ n < 0xDC00 then some (.paired acc n)
    else if 0xDC00 ≤ n ∧ n < 0xE000 then none
    else some (.quoted (Char.ofNat n :: acc))
  | some h =>
    if 0xDC00 ≤ n ∧ n < 0xE000 then
      some (.quoted (Char.ofNat (0x10000 + (h - 0xD800) * 0x400 + (n - 0xDC00)) :: acc))
    else none

/-- Takes one character. -/
def Scan.step? (s : Scan) (c : Char) : Option (Scan × List Token) :=
  match s with
  | .idle => start? c
  | .quoted acc =>
    if c = '"' then some (.idle, [.text (String.ofList acc.reverse)])
    else if c = '\\' then some (.escaped acc, [])
    else if c.toNat < 32 then none
    else some (.quoted (c :: acc), [])
  | .escaped acc =>
    if c = 'u' then some (.digits acc none 0 4, [])
    else (escape? c).map fun d => (.quoted (d :: acc), [])
  | .digits acc high n left => do
    let d ← Numeral.digit? 16 c
    let n := n * 16 + d
    if left ≤ 1 then (endDigits? acc high n).map fun s => (s, [])
    else return (.digits acc high n (left - 1), [])
  | .paired acc high => if c = '\\' then some (.pairedMark acc high, []) else none
  | .pairedMark acc high => if c = 'u' then some (.digits acc (some high) 0 4, []) else none
  | .number acc =>
    if inNumber c then some (.number (c :: acc), [])
    else do
      let before ← (Scan.number acc).flush?
      let (s, after) ← start? c
      return (s, before ++ after)
  | .word acc =>
    if c.isAlpha then some (.word (c :: acc), [])
    else do
      let before ← (Scan.word acc).flush?
      let (s, after) ← start? c
      return (s, before ++ after)

end Arbiter.Json
