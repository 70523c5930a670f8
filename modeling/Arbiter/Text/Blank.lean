import Arbiter.Text.Split
/-!
# Blanks

The characters that count as white space, and texts that have nothing else.
-/

namespace Arbiter.Text

/-- The characters with the white-space property. -/
def isBlank (c : Char) : Bool :=
  let n := c.toNat
  (9 ≤ n && n ≤ 13) || n == 0x20 || n == 0x85 || n == 0xA0 || n == 0x1680
    || (0x2000 ≤ n && n ≤ 0x200A) || n == 0x2028 || n == 0x2029 || n == 0x202F
    || n == 0x205F || n == 0x3000

/-- A text without white space at its end. -/
def trimEnd (s : String) : String :=
  String.ofList ((s.toList.reverse.dropWhile isBlank).reverse)

/-- Whether a text has nothing but white space. -/
def isBlankText (s : String) : Bool := s.toList.all isBlank

example : isBlankText " \t" = true := by decide
example : isBlankText "" = true := by decide

end Arbiter.Text
