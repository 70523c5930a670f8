import Arbiter.Pattern.Chars
import Arbiter.Text.Scripts
/-!
# Classes of the places where texts are cut

By default a text is cut into graphemes, words and sentences by rules that speak of classes of
characters.  What is in each of these classes is said here by general categories, scripts and other
properties, and by exceptions.
-/

namespace Arbiter.Pattern

open Text

/-! ## What the classes are made of -/

/-- Single characters. -/
def codes (ns : List Nat) : Chars := .runs (ns.map fun n => ⟨n, 1, 1⟩)

/-- The characters of some general categories. -/
def categoryChars (names : List String) : Chars := .runs (categories names)

/-- The characters of some scripts, by their codes. -/
def scriptChars (scripts : List String) : Chars :=
  .runs ((scriptTexts.filter fun s => scripts.contains s.1).flatMap fun s => Run.ofText s.2.2)

/-- The characters that are listed for a property, by one of its names. -/
def listedChars (name : String) : Option Chars :=
  (propertyTexts.find? (·.1.contains name)).map fun p => .runs (Run.ofText p.2)

/-- The same, for a name that is known to be one. -/
def listed (name : String) : Chars := (listedChars name).getD .none

/-- Characters that extend the grapheme before them. -/
def graphemeExtend : Chars :=
  .union (categoryChars ["Mn", "Me"]) (.runs (Run.ofText otherGraphemeExtend))

/-- Characters that a grapheme may consist of. -/
def graphemeBase : Chars :=
  .compl (.union (categoryChars ["Cc", "Cf", "Co", "Cn", "Zl", "Zp"]) graphemeExtend)

/-- The joiner that is not to be seen. -/
def joiner : Chars := .one 0x200D

/-- Marks before a number, but for the one of abbreviations. -/
def numberMarks : Chars := .diff (listed "pcm") (.one 0x70F)

/-! ## Graphemes -/

/-- Characters that go with the one after them. -/
def graphemePrepend : Chars :=
  .unionAll [listed "pcm", .range 0x111C2 0x111C3, .range 0x11A84 0x11A89,
    codes [0xD4E, 0x113D1, 0x1193F, 0x11941, 0x11D46, 0x11F02]]

/-- Characters that extend a grapheme in every way. -/
def graphemeExtended : Chars := .diff (.union graphemeExtend (listed "emod")) joiner

/-- Marks with a place of their own that are graphemes by themselves. -/
def standingMarks : Chars :=
  .unionAll [.range 0x102B 0x102C, .range 0x1062 0x1064, .range 0x1067 0x106D, .range 0x1087 0x108C,
    .range 0x109A 0x109C, .range 0x1A63 0x1A64, .range 0x11720 0x11721,
    codes [0x1038, 0x1083, 0x108F, 0x1A61, 0xAA7B, 0xAA7D]]

/-- Syllables of two letters. -/
def openSyllables : Chars := .runs [⟨0xAC00, 399, 28⟩]

/-- A class of the rules for graphemes. -/
def graphemeClass (name : String) : Option Chars :=
  match name with
  | "cr" => some (.one 13)
  | "lf" => some (.one 10)
  | "control" | "cn" =>
    some (.diff (.union (categoryChars ["Zl", "Zp", "Cc", "Cf"])
        (.inter (categoryChars ["Cn"]) (listed "di")))
      (.unionAll [codes [10, 13, 0x200C, 0x200D], listed "pcm", graphemeExtend]))
  | "extend" | "ex" => some graphemeExtended
  | "zwj" => some joiner
  | "regionalindicator" | "ri" => some (listed "ri")
  | "prepend" | "pp" => some graphemePrepend
  | "spacingmark" | "sm" =>
    some (.diff (.union (categoryChars ["Mc"]) (codes [0xE33, 0xEB3]))
      (.union graphemeExtended standingMarks))
  | "l" => some (.union (.range 0x1100 0x115F) (.range 0xA960 0xA97C))
  | "v" =>
    some (.unionAll [.range 0x1160 0x11A7, .range 0xD7B0 0xD7C6, .one 0x16D63,
      .range 0x16D67 0x16D6A])
  | "t" => some (.union (.range 0x11A8 0x11FF) (.range 0xD7CB 0xD7FB))
  | "lv" => some openSyllables
  | "lvt" => some (.diff (.range 0xAC00 0xD7A3) openSyllables)
  | _ => Option.none

/-! ## Words -/

/-- Numerals, with the signs before them and between their digits. -/
def numerals : Chars := .unionAll [categoryChars ["Nd"], numberMarks, codes [0x66B, 0x66C, 0x19DA]]

/-- Characters that go with the word before them. -/
def wordExtend : Chars :=
  .diff (.unionAll [graphemeExtend, categoryChars ["Mc"], listed "emod"]) joiner

/-- Characters of the longer Japanese syllabary, and signs that are used with it. -/
def wordKatakana : Chars :=
  .unionAll [scriptChars ["Kana"], .range 0x3031 0x3035, .range 0x309B 0x309C,
    codes [0x30A0, 0x30FC, 0xFF70]]

/-- Hebrew letters. -/
def wordHebrew : Chars := .inter (scriptChars ["Hebr"]) (categoryChars ["Lo"])

/-- Signs that count as letters of words. -/
def wordSigns : Chars :=
  .unionAll [.range 0x2C2 0x2C5, .range 0x2D2 0x2D7, .range 0x2DE 0x2DF, .range 0x2E5 0x2EB,
    .range 0x2EF 0x2FF, .range 0x55A 0x55C, .range 0xA708 0xA716, .range 0xA720 0xA721,
    .range 0xA789 0xA78A, codes [0xB8, 0x2ED, 0x55E, 0x58A, 0x5F3, 0x70F, 0xAB5B]]

/-- Scripts whose words are found with a dictionary. -/
def dictionaryScripts : List String :=
  ["Thai", "Laoo", "Mymr", "Khmr", "Tale", "Talu", "Lana", "Tavt", "Ahom"]

/-- Letters of words. -/
def wordLetters : Chars :=
  .diff (.union (.runs alphabeticRuns) wordSigns)
    (.unionAll [.runs (Run.ofText ideographicRuns), scriptChars ("Hira" :: dictionaryScripts),
      wordKatakana, wordExtend, wordHebrew])

/-- A class of the rules for words. -/
def wordClass (name : String) : Option Chars :=
  match name with
  | "cr" => some (.one 13)
  | "lf" => some (.one 10)
  | "newline" | "nl" => some (codes [0xB, 0xC, 0x85, 0x2028, 0x2029])
  | "extend" => some wordExtend
  | "zwj" => some joiner
  | "regionalindicator" | "ri" => some (listed "ri")
  | "format" | "fo" =>
    some (.diff (categoryChars ["Cf"])
      (.unionAll [codes [0x200B, 0x200C, 0x200D], graphemePrepend, wordExtend]))
  | "katakana" | "ka" => some wordKatakana
  | "hebrewletter" | "hl" => some wordHebrew
  | "aletter" | "le" => some wordLetters
  | "singlequote" | "sq" => some (.one 0x27)
  | "doublequote" | "dq" => some (.one 0x22)
  | "midnumlet" | "mb" => some (codes [0x2E, 0x2018, 0x2019, 0x2024, 0xFE52, 0xFF07, 0xFF0E])
  | "midletter" | "ml" =>
    some (codes [0x3A, 0xB7, 0x387, 0x55F, 0x5F4, 0x2027, 0xFE13, 0xFE55, 0xFF1A])
  | "midnum" | "mn" =>
    some (codes [0x2C, 0x3B, 0x37E, 0x589, 0x60C, 0x60D, 0x66C, 0x7F8, 0x2044, 0xFE50, 0xFE54,
      0xFF0C, 0xFF1B])
  | "numeric" | "nu" => some (.diff numerals (.one 0x66C))
  | "extendnumlet" | "ex" => some (.union (categoryChars ["Pc"]) (.one 0x202F))
  | "wsegspace" => some (.diff (categoryChars ["Zs"]) (codes [0xA0, 0x2007, 0x202F]))
  | _ => Option.none

/-! ## Sentences -/

/-- Characters that go with the sentence part before them. -/
def sentenceExtend : Chars := .unionAll [graphemeExtend, joiner, categoryChars ["Mc"]]

/-- Small letters. -/
def sentenceLower : Chars :=
  .diff (.runs lowercaseRuns)
    (.unionAll [graphemeExtend, .range 0x10D0 0x10FA, .range 0x10FD 0x10FF])

/-- Capital letters. -/
def sentenceUpper : Chars :=
  .diff (.union (categoryChars ["Lt"]) (.runs uppercaseRuns))
    (.union (.range 0x1C90 0x1CBA) (.range 0x1CBD 0x1CBF))

/-- Full stops. -/
def fullStops : Chars := codes [0x2E, 0x2024, 0xFE52, 0xFF0E]

/-- Brackets and quotation marks. -/
def closing : Chars :=
  .unionAll [categoryChars ["Ps", "Pe", "Pi", "Pf"], .range 0x275B 0x2760, .range 0x2E00 0x2E01,
    .range 0x2E06 0x2E08, .range 0x1F676 0x1F678, codes [0x22, 0x27, 0x2E0B]]

/-- A class of the rules for sentences. -/
def sentenceClass (name : String) : Option Chars :=
  match name with
  | "cr" => some (.one 13)
  | "lf" => some (.one 10)
  | "extend" | "ex" => some sentenceExtend
  | "sep" | "se" => some (codes [0x85, 0x2028, 0x2029])
  | "format" | "fo" =>
    some (.diff (categoryChars ["Cf"]) (.unionAll [codes [0x200C, 0x200D], numberMarks, sentenceExtend]))
  | "sp" => some (.diff (.runs spaceRuns) (codes [10, 13, 0x85, 0x2028, 0x2029]))
  | "lower" | "lo" => some sentenceLower
  | "upper" | "up" => some sentenceUpper
  | "oletter" | "le" =>
    some (.diff (.union (.runs alphabeticRuns) (.one 0x5F3))
      (.unionAll [sentenceLower, sentenceUpper, sentenceExtend]))
  | "numeric" | "nu" => some numerals
  | "aterm" | "at" => some fullStops
  | "scontinue" | "sc" =>
    some (codes [0x2C, 0x2D, 0x3A, 0x3B, 0x37E, 0x55D, 0x60C, 0x60D, 0x7F8, 0x1802, 0x1808, 0x2013,
      0x2014, 0x3001, 0xFE10, 0xFE11, 0xFE13, 0xFE14, 0xFE31, 0xFE32, 0xFE50, 0xFE51, 0xFE54,
      0xFE55, 0xFE58, 0xFE63, 0xFF0C, 0xFF0D, 0xFF1A, 0xFF1B, 0xFF64])
  | "sterm" | "st" => some (.diff (listed "sterm") fullStops)
  | "close" | "cl" => some closing
  | _ => Option.none

end Arbiter.Pattern
