import Arbiter.Pattern.Breaks
import Arbiter.Text.Ages
/-!
# Properties of characters by name

Patterns name classes of characters by properties: by the name of a general category, of a script,
or of a property that characters have or do not have, and by a property and one of its values.
Case, blanks, hyphens and underscores do not matter in these names.
-/

namespace Arbiter.Pattern

open Text

/-- A name without what does not matter in it. -/
def plainName (cs : List Char) : String :=
  let cs := (cs.map Char.toLower).filter fun c => c.toNat < 128 && c != ' ' && c != '_' && c != '-'
  match cs with
  | 'i' :: 's' :: rest => if rest = ['c'] then "isc" else String.ofList rest
  | cs => String.ofList cs

/-- The general categories with their long names, and groups of them. -/
def categoryNames : List (List String × List String) := [
  (["lu", "uppercaseletter"], ["Lu"]), (["ll", "lowercaseletter"], ["Ll"]),
  (["lt", "titlecaseletter"], ["Lt"]), (["lm", "modifierletter"], ["Lm"]),
  (["lo", "otherletter"], ["Lo"]), (["mn", "nonspacingmark"], ["Mn"]),
  (["mc", "spacingmark"], ["Mc"]), (["me", "enclosingmark"], ["Me"]),
  (["nd", "decimalnumber", "digit"], ["Nd"]), (["nl", "letternumber"], ["Nl"]),
  (["no", "othernumber"], ["No"]), (["pc", "connectorpunctuation"], ["Pc"]),
  (["pd", "dashpunctuation"], ["Pd"]), (["ps", "openpunctuation"], ["Ps"]),
  (["pe", "closepunctuation"], ["Pe"]), (["pi", "initialpunctuation"], ["Pi"]),
  (["pf", "finalpunctuation"], ["Pf"]), (["po", "otherpunctuation"], ["Po"]),
  (["sm", "mathsymbol"], ["Sm"]), (["sc", "currencysymbol"], ["Sc"]),
  (["sk", "modifiersymbol"], ["Sk"]), (["so", "othersymbol"], ["So"]),
  (["zs", "spaceseparator"], ["Zs"]), (["zl", "lineseparator"], ["Zl"]),
  (["zp", "paragraphseparator"], ["Zp"]), (["cc", "control", "cntrl"], ["Cc"]),
  (["cf", "format"], ["Cf"]), (["co", "privateuse"], ["Co"]), (["cn", "unassigned"], ["Cn"]),
  (["lc", "casedletter"], ["Lu", "Ll", "Lt"]),
  (["l", "letter"], ["Lu", "Ll", "Lt", "Lm", "Lo"]),
  (["m", "mark", "combiningmark"], ["Mn", "Mc", "Me"]),
  (["n", "number"], ["Nd", "Nl", "No"]),
  (["p", "punctuation", "punct"], ["Pc", "Pd", "Ps", "Pe", "Pi", "Pf", "Po"]),
  (["s", "symbol"], ["Sm", "Sc", "Sk", "So"]), (["z", "separator"], ["Zs", "Zl", "Zp"]),
  (["c", "other"], ["Cc", "Cf", "Co", "Cn"])]

/-! ## Categories and scripts -/

/-- A general category or a group of them. -/
def categoryClass (name : String) : Option Chars :=
  if name == "any" then some (.range 0 0x10FFFF)
  else if name == "ascii" then some (.range 0 127)
  else if name == "assigned" then some (.compl (.runs (category "Cn")))
  else (categoryNames.find? (·.1.contains name)).map fun e => .runs (categories e.2)

/-- A script, by its code or its name; two of them had other codes before. -/
def script? (name : String) : Option (String × String × String) :=
  let name := if name == "qaac" then "copt" else if name == "qaai" then "zinh" else name
  scriptTexts.find? fun s => plainName s.1.toList == name || plainName s.2.1.toList == name

/-- The characters of a script. -/
def scriptClass (name : String) : Option Chars := (script? name).map fun s => .runs (Run.ofText s.2.2)

/-- The characters that are used in a script.  Of those that are not of any one script, the ones
that are used in some are left to these. -/
def scriptExtensionClass (name : String) : Option Chars :=
  (script? name).map fun s =>
    let own : Chars := .runs (Run.ofText s.2.2)
    if s.1 == "Zyyy" || s.1 == "Zinh" then
      .diff own (.runs (scriptExtensionTexts.flatMap fun e => Run.ofText e.2))
    else .union own (.runs (Run.ofText ((scriptExtensionTexts.lookup s.1).getD "")))

/-! ## Properties -/

/-- Characters that names may start with. -/
def nameStart : Chars :=
  .diff (.union (.runs (letterRuns ++ category "Nl")) (.runs [⟨0x1885, 2, 1⟩, ⟨0x2118, 1, 1⟩,
    ⟨0x212E, 1, 1⟩, ⟨0x309B, 2, 1⟩])) (.one 0x2E2F)

/-- Characters that names may go on with. -/
def nameContinue : Chars :=
  .union nameStart (.runs (categories ["Mn", "Mc", "Nd", "Pc"] ++ [⟨0xB7, 1, 1⟩, ⟨0x387, 1, 1⟩,
    ⟨0x1369, 9, 1⟩, ⟨0x19DA, 1, 1⟩, ⟨0x200C, 2, 1⟩, ⟨0x30FB, 1, 1⟩, ⟨0xFF65, 1, 1⟩]))

/-- Characters that names may go on with but that fall apart into others that may not. -/
def unstableContinue : Chars :=
  .runs [⟨0x37A, 1, 1⟩, ⟨0x309B, 2, 1⟩, ⟨0xFC5E, 6, 1⟩, ⟨0xFDFA, 2, 1⟩, ⟨0xFE70, 8, 2⟩]

/-- The same for the start of names. -/
def unstableStart : Chars :=
  .union unstableContinue (.runs [⟨0xE33, 1, 1⟩, ⟨0xEB3, 1, 1⟩, ⟨0xFF9E, 2, 1⟩])

/-- A property that characters have or do not have. -/
def propertyClass (name : String) : Option Chars :=
  match name with
  | "alphabetic" | "alpha" => some (.runs alphabeticRuns)
  | "lowercase" | "lower" => some (.runs lowercaseRuns)
  | "uppercase" | "upper" => some (.runs uppercaseRuns)
  | "whitespace" | "wspace" | "space" => some (.runs spaceRuns)
  | "cased" => some (.runs casedRuns)
  | "caseignorable" | "ci" => some (.runs caseIgnorableRuns)
  | "math" => some (.runs (category "Sm" ++ Run.ofText otherMath))
  | "asciihexdigit" | "ahex" => some (.unionAll [.range 48 57, .range 65 70, .range 97 102])
  | "hexdigit" | "hex" =>
    some (.unionAll [.range 48 57, .range 65 70, .range 97 102, .range 0xFF10 0xFF19,
      .range 0xFF21 0xFF26, .range 0xFF41 0xFF46])
  | "joincontrol" | "joinc" => some (.runs joinerRuns)
  | "emoji" => some (.runs (Run.ofText emojiRuns))
  | "emojipresentation" | "epres" => some (.runs (Run.ofText emojiPresentationRuns))
  | "extendedpictographic" | "extpict" => some (.runs (Run.ofText pictographicRuns))
  | "dash" => some (.runs (Run.ofText dashRuns))
  | "ideographic" | "ideo" => some (.runs (Run.ofText ideographicRuns))
  | "diacritic" | "dia" => some (.runs (Run.ofText diacriticRuns))
  | "quotationmark" | "qmark" => some (.runs (Run.ofText quotationRuns))
  | "patternsyntax" | "patsyn" => some (.runs (Run.ofText patternSyntaxRuns))
  | "patternwhitespace" | "patws" =>
    some (.unionAll [.range 9 13, .one 32, .one 0x85, .range 0x200E 0x200F, .range 0x2028 0x2029])
  | "idstart" | "ids" => some nameStart
  | "idcontinue" | "idc" => some nameContinue
  | "xidstart" | "xids" => some (.diff nameStart unstableStart)
  | "xidcontinue" | "xidc" => some (.diff nameContinue unstableContinue)
  | "graphemebase" | "grbase" => some graphemeBase
  | "graphemeextend" | "grext" => some graphemeExtend
  | "changeswhencasemapped" | "cwcm" => some (.unionAll [listed "cwl", listed "cwt", listed "cwu"])
  | _ => listedChars name

/-- The class of a name that stands alone.  Three short names of properties are taken for what else
they mean. -/
def aloneClass (name : String) : Option Chars :=
  let property := if name == "cf" || name == "sc" || name == "lc" then Option.none else propertyClass name
  property <|> categoryClass name <|> scriptClass name

/-- The characters that were there in some edition of the character set, by its number. -/
def ageClass (value : String) : Option Chars :=
  let named (edition : String) : Bool :=
    edition == value || String.ofList ('v' :: edition.toList.filter (· != '.')) == value
  (ageTexts.findIdx? (named ·.1)).map fun i =>
    .runs ((ageTexts.take (i + 1)).flatMap fun a => Run.ofText a.2)

/-- The class of a value of a property. -/
def valueClass (property value : String) : Option Chars :=
  match property with
  | "generalcategory" | "gc" => categoryClass value
  | "script" | "sc" => scriptClass value
  | "scriptextensions" | "scx" => scriptExtensionClass value
  | "age" => ageClass value
  | "graphemeclusterbreak" | "gcb" => graphemeClass value
  | "wordbreak" | "wb" => wordClass value
  | "sentencebreak" | "sb" => sentenceClass value
  | _ => Option.none

/-- Splits a text at the first place where one of several marks stands. -/
def splitMark (mark : List Char) : List Char → Option (List Char × List Char)
  | [] => Option.none
  | c :: cs =>
    if mark.isPrefixOf (c :: cs) then some ([], (c :: cs).drop mark.length)
    else (splitMark mark cs).map fun (a, b) => (c :: a, b)

/-- The class that the text between braces names. -/
def propertyText (cs : List Char) : Option Chars :=
  match splitMark ['!', '='] cs with
  | some (p, v) => (valueClass (plainName p) (plainName v)).map .compl
  | Option.none =>
    match splitMark [':'] cs <|> splitMark ['='] cs with
    | some (p, v) => valueClass (plainName p) (plainName v)
    | Option.none => aloneClass (plainName cs)

example : (propertyText "Grapheme_Cluster_Break = LV".toList).map (·.has 0xAC1C) = some true := by
  decide +kernel
example : (propertyText "wb!=dq".toList).map (·.has 0x22) = some false := by decide +kernel

end Arbiter.Pattern
