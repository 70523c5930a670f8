import Arbiter.Text.CaseTables
import Arbiter.Text.Categories
import Arbiter.Text.Properties
import Arbiter.Text.Runs
/-!
# Upper and lower case

Whole texts in upper or lower case, by the rules of the character set: some characters become
several, and the Greek sigma has a form of its own at the end of a word.
-/

namespace Arbiter.Text

/-- The runs of a general category. -/
def category (name : String) : List Run :=
  match categoryTexts.lookup name with
  | some text => Run.ofText text
  | none => []

/-- The runs of several general categories. -/
def categories (names : List String) : List Run := names.flatMap category

/-- The lowercase counterparts. -/
def lowerShifts : List Shift := Shift.ofText lowerText

/-- The uppercase counterparts. -/
def upperShifts : List Shift := Shift.ofText upperText

/-- Lowercase characters. -/
def lowercaseRuns : List Run := category "Ll" ++ Run.ofText otherLowercase

/-- Uppercase characters. -/
def uppercaseRuns : List Run := category "Lu" ++ Run.ofText otherUppercase

/-- Characters with case. -/
def casedRuns : List Run := lowercaseRuns ++ uppercaseRuns ++ category "Lt"

/-- Characters that are passed over in finding cased neighbours. -/
def caseIgnorableRuns : List Run :=
  categories ["Mn", "Me", "Cf", "Lm", "Sk"] ++ Run.ofText otherCaseIgnorable

/-- Whether a code is in one of the runs. -/
def inRuns (runs : List Run) (n : Nat) : Bool := runs.any (·.has n)

/-- Whether the next character that counts is one with case. -/
def meetsCased : List Char → Bool
  | [] => false
  | c :: cs =>
    if inRuns caseIgnorableRuns c.toNat then meetsCased cs else inRuns casedRuns c.toNat

/-- The lowercase form of a character between what stands before it, last first, and after it. -/
def lowerChar (before : List Char) (c : Char) (after : List Char) : List Char :=
  let n := c.toNat
  if n < 128 then [c.toLower]
  else if n = 0x3A3 then
    [if meetsCased before && !meetsCased after then Char.ofNat 0x3C2 else Char.ofNat 0x3C3]
  else if n = 0x130 then ['i', Char.ofNat 0x307]
  else match Shift.find? lowerShifts n with
    | some m => [Char.ofNat m]
    | none => [c]

/-- The lowercase form of characters that stand after others, given last first. -/
def lowerFrom (before : List Char) : List Char → List Char
  | [] => []
  | c :: cs => lowerChar before c cs ++ lowerFrom (c :: before) cs

/-- A text in lower case. -/
def lower (s : String) : String := String.ofList (lowerFrom [] s.toList)

/-- The uppercase form of a character. -/
def upperChar (c : Char) : List Char :=
  let n := c.toNat
  if n < 128 then [c.toUpper]
  else match upperSpecial.lookup n with
    | some ms => ms.map Char.ofNat
    | none =>
      match Shift.find? upperShifts n with
      | some m => [Char.ofNat m]
      | none => [c]

/-- A text in upper case. -/
def upper (s : String) : String := String.ofList (s.toList.flatMap upperChar)

/-- A text with its letters of the Latin alphabet in upper case. -/
def upperAscii (s : String) : String := String.ofList (s.toList.map Char.toUpper)

end Arbiter.Text
