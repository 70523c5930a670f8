import Arbiter.Decimal.Reading
import Arbiter.Document.Basic
/-!
# Scalars and their types

What a scalar without quotes stands for.  The same text may be asked for as a number of a given
kind, or be resolved to whatever it looks like.
-/

namespace Arbiter.Scalar

/-- The tag of truth values. -/
def boolTag : String := "tag:yaml.org,2002:bool"

/-- The tag of whole numbers. -/
def intTag : String := "tag:yaml.org,2002:int"

/-- The tag of doubles. -/
def floatTag : String := "tag:yaml.org,2002:float"

/-- The tag of null. -/
def nullTag : String := "tag:yaml.org,2002:null"

/-- The words for null. -/
def isNull (s : String) : Bool := s == "null" || s == "Null" || s == "NULL" || s == "~"

/-- The words for truth values. -/
def bool? (s : String) : Option Bool :=
  if s == "true" || s == "True" || s == "TRUE" then some true
  else if s == "false" || s == "False" || s == "FALSE" then some false
  else none

/-- Drops a text from the front of another. -/
def after? (start s : List Char) : Option (List Char) :=
  if start.isPrefixOf s then some (s.drop start.length) else none

/-- Whether a text starts with a sign. -/
def signFirst (s : List Char) : Bool :=
  match s with
  | c :: _ => c == '+' || c == '-'
  | [] => false

/-- Several digits of which the first is a zero, perhaps after a sign: such a text is no number. -/
def paddedDigits (s : List Char) : Bool :=
  let ds := match s with
    | '-' :: rest => rest
    | '+' :: rest => rest
    | rest => rest
  match ds with
  | '0' :: rest => !rest.isEmpty && rest.all Char.isDigit
  | _ => false

/-- The marks of bases other than ten. -/
def bases : List (List Char × Nat) := [(['0', 'x'], 16), (['0', 'o'], 8), (['0', 'b'], 2)]

/-- What follows the mark of the base a text starts with. -/
def based? (s : List Char) : Option (Nat × List Char) :=
  bases.findSome? fun b => (after? b.1 s).map fun rest => (b.2, rest)

/-- A text without the plus sign it may start with. -/
def dropPlus (s : List Char) : List Char :=
  match s with
  | '+' :: rest => rest
  | rest => rest

/-- A natural number: decimal, or in another base after its mark, perhaps after a plus sign. -/
def natural? (s : List Char) : Option Nat :=
  let body := dropPlus s
  match based? body with
  | some (base, rest) => Numeral.digits? base rest
  | none => if signFirst body || paddedDigits s then none else Numeral.digits? 10 body

/-- A number below zero, or zero after a minus sign, with the mark of its base after the sign. -/
def negative? : List Char → Option Int
  | '-' :: rest =>
    match based? rest with
    | some (base, digits) => (Numeral.digits? base digits).map fun n => -(n : Int)
    | none => if paddedDigits rest then none else (Numeral.digits? 10 rest).map fun n => -(n : Int)
  | _ => none

/-- A whole number with or without a sign. -/
def integer? (s : List Char) : Option Int :=
  match s with
  | '-' :: _ => negative? s
  | _ => (natural? s).map Int.ofNat

/-- A double: a decimal that stays finite, or one of the words for infinity and for what is not a
number. -/
def float? (s : List Char) : Option Float :=
  let body := dropPlus s
  if body.length < s.length && signFirst body then none
  else
    let text := String.ofList s
    let size := String.ofList body
    if size == ".inf" || size == ".Inf" || size == ".INF" then some (1.0 / 0.0)
    else if text == "-.inf" || text == "-.Inf" || text == "-.INF" then some (-1.0 / 0.0)
    else if text == ".nan" || text == ".NaN" || text == ".NAN" then some (0.0 / 0.0)
    else (Decimal.float? body).filter Float.isFinite

/-- The most a whole number may be before it is read as a double. -/
def wideLimit : Nat := Nat.pow 2 128

/-- The value a text without quotes and tag looks like.  Whole numbers between sixty-four and a
hundred and twenty-eight bits stand for nothing, and larger ones are doubles. -/
def resolve? (text : String) : Option Document :=
  let s := text.toList
  if text.isEmpty || isNull text then some .null
  else match bool? text with
    | some b => some (.bool b)
    | none =>
      match (natural? s).filter (· < wideLimit) with
      | some n => if n ≤ Numeral.maxWord then some (.int n) else none
      | none =>
        match (negative? s).filter (-(Nat.pow 2 127 : Int) ≤ ·) with
        | some n => if Numeral.fitsSigned n then some (.int n) else none
        | none =>
          if paddedDigits s then some (.text text)
          else match float? s with
            | some x => some (.float x)
            | none => some (.text text)

/-- Whether a scalar may be read as the type a tag names: it has no quotes, or is a literal block
with that tag. -/
def allows (tag : String) (s : Scalar) : Bool :=
  s.style == .plain || (s.style == .literal && s.tag == some tag)

/-- Whether a tag is a local one. -/
def localTag (tag : Option String) : Bool :=
  match tag with
  | some t => t.toList.head? == some '!'
  | none => false

/-- A whole number of sixty-four bits, under its tag. -/
def taggedInt? (text : String) : Option Document :=
  let s := text.toList
  match (natural? s).filter (· ≤ Numeral.maxWord) with
  | some n => some (.int n)
  | none => ((negative? s).filter Numeral.fitsSigned).map .int

/-- The value a scalar stands for when nothing in particular is asked for. -/
def settle? (s : Scalar) : Option Document :=
  match s.tag with
  | none => if s.style == .plain then resolve? s.text else some (.text s.text)
  | some tag =>
    if localTag s.tag then none
    else if tag == boolTag then (bool? s.text).map .bool
    else if tag == intTag then taggedInt? s.text
    else if tag == floatTag then (float? s.text.toList).map .float
    else if tag == nullTag then (if isNull s.text then some .null else none)
    else some (.text s.text)

/-- Whether a scalar is an empty one without quotes. -/
def isEmpty (s : Scalar) : Bool := s.style == .plain && s.text.isEmpty

end Arbiter.Scalar
