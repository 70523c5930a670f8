import Arbiter.Decimal.Layout
import Arbiter.Text.Numeral
import Arbiter.Value.Basic
/-!
# Writing values as JSON

A compact form without blanks and a pretty one with two blanks a level.  Fields are written in the
order they are stored in.
-/

namespace Arbiter

/-- How a double is written in JSON; JSON has no text for what is not finite. -/
def Decimal.json : Decimal.Layout where
  plainFrom := -5
  plainBelow := 16
  pointZero := true
  plusInExponent := true
  tie := .toEven
  nan := "null"
  infinity := "null"

namespace Json

/-- The text of a double. -/
def float (x : Float) : String :=
  if x.isFinite then Decimal.json.text x else "null"

/-- The text of a number. -/
def number : Number → String
  | .int n => toString n
  | .float x => float x

/-- A character inside a quoted text. -/
def escape (c : Char) : List Char :=
  if c = '"' then ['\\', '"']
  else if c = '\\' then ['\\', '\\']
  else if c = '\n' then ['\\', 'n']
  else if c = '\r' then ['\\', 'r']
  else if c = '\t' then ['\\', 't']
  else if c.toNat = 8 then ['\\', 'b']
  else if c.toNat = 12 then ['\\', 'f']
  else if c.toNat < 32 then '\\' :: 'u' :: (Numeral.hex 4 c.toNat).toList
  else [c]

/-- A quoted text. -/
def quote (s : String) : String :=
  String.ofList ('"' :: s.toList.flatMap escape ++ ['"'])

mutual

/-- The compact text of a value. -/
def compact : Value → String
  | .null => "null"
  | .bool b => if b then "true" else "false"
  | .num n => number n
  | .str s => quote s
  | .arr items => "[" ++ compactItems items ++ "]"
  | .obj fields => "\x7b" ++ compactFields fields ++ "\x7d"

/-- The items of a list with commas between. -/
def compactItems : List Value → String
  | [] => ""
  | [v] => compact v
  | v :: vs => compact v ++ "," ++ compactItems vs

/-- The fields of a record with commas between. -/
def compactFields : List (String × Value) → String
  | [] => ""
  | [(k, v)] => quote k ++ ":" ++ compact v
  | (k, v) :: fs => quote k ++ ":" ++ compact v ++ "," ++ compactFields fs

end

/-- A line break and the blanks of a level. -/
def newline (level : Nat) : String :=
  String.ofList ('\n' :: List.replicate (2 * level) ' ')

mutual

/-- The pretty text of a value that starts on a line of the given level. -/
def prettyAt (level : Nat) : Value → String
  | .arr [] => "[]"
  | .obj [] => "\x7b\x7d"
  | .arr items => "[" ++ prettyItems (level + 1) items ++ newline level ++ "]"
  | .obj fields => "\x7b" ++ prettyFields (level + 1) fields ++ newline level ++ "\x7d"
  | .null => "null"
  | .bool b => if b then "true" else "false"
  | .num n => number n
  | .str s => quote s

/-- The items of a list, each on lines of its own. -/
def prettyItems (level : Nat) : List Value → String
  | [] => ""
  | [v] => newline level ++ prettyAt level v
  | v :: vs => newline level ++ prettyAt level v ++ "," ++ prettyItems level vs

/-- The fields of a record, each on lines of its own. -/
def prettyFields (level : Nat) : List (String × Value) → String
  | [] => ""
  | [(k, v)] => newline level ++ quote k ++ ": " ++ prettyAt level v
  | (k, v) :: fs =>
    newline level ++ quote k ++ ": " ++ prettyAt level v ++ "," ++ prettyFields level fs

end

/-- The pretty text of a value. -/
def pretty (v : Value) : String := prettyAt 0 v

end Json

/-- A value as plain text: a text as it is, null as nothing, and the rest as compact JSON. -/
def Value.plainText : Value → String
  | .str s => s
  | .null => ""
  | v => Json.compact v

end Arbiter
