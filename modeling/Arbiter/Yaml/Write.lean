import Arbiter.Decimal.Layout
import Arbiter.Yaml.Style
/-!
# Writing YAML

Data in block style: two blanks a level, lists under a key at the indentation of the key, and the
first line of a record inside a list on the line of the dash.
-/

namespace Arbiter.Yaml

/-- How a double is written. -/
def floatLayout : Decimal.Layout where
  plainFrom := -5
  plainBelow := 16
  pointZero := true
  plusInExponent := false
  tie := .toEven
  nan := ".nan"
  infinity := ".inf"

/-- A leaf; lists and records here are the empty ones. -/
def leaf (indent : Nat) : Value → List Char
  | .null => "null".toList
  | .bool b => if b then "true".toList else "false".toList
  | .num (.int n) => (toString n).toList
  | .num (.float x) => (floatLayout.text x).toList
  | .str s => writeText indent s
  | .arr _ => ['[', ']']
  | .obj _ => ['{', '}']

/-- A new line at an indentation. -/
def newLine (indent : Nat) : List Char := '\n' :: margin indent

mutual

/-- The items of a list, each with its dash at the given indentation. -/
def writeItems (indent : Nat) : List Value → List Char
  | [] => []
  | [v] => '-' :: ' ' :: writeInline indent v
  | v :: vs => '-' :: ' ' :: writeInline indent v ++ newLine indent ++ writeItems indent vs

/-- A value that starts on the line of the dash or mark before it, which has the given
indentation. -/
def writeInline (indent : Nat) : Value → List Char
  | .arr (v :: vs) => writeItems (indent + 2) (v :: vs)
  | .obj (f :: fs) => writeFields (indent + 2) (f :: fs)
  | v => leaf (indent + 2) v

/-- A value after the colon of a key with the given indentation. -/
def writeBeside (indent : Nat) : Value → List Char
  | .arr (v :: vs) => newLine indent ++ writeItems indent (v :: vs)
  | .obj (f :: fs) => newLine (indent + 2) ++ writeFields (indent + 2) (f :: fs)
  | v => ' ' :: leaf (indent + 2) v

/-- One entry of a record. -/
def writeField (indent : Nat) : String × Value → List Char
  | (k, v) =>
    if isSimpleKey k then writeText (indent + 2) k ++ ':' :: writeBeside indent v
    else
      '?' :: ' ' :: writeText (indent + 2) k ++ newLine indent ++ ':' :: ' ' :: writeInline indent v

/-- The entries of a record, each with its key at the given indentation. -/
def writeFields (indent : Nat) : List (String × Value) → List Char
  | [] => []
  | [f] => writeField indent f
  | f :: fs => writeField indent f ++ newLine indent ++ writeFields indent fs

end

/-- The YAML text of a record. -/
def write (fields : Fields) : String :=
  String.ofList (if fields.isEmpty then ['{', '}', '\n'] else writeFields 0 fields ++ ['\n'])

end Arbiter.Yaml
