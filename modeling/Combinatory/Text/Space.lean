import Combinatory.Number.Power

/-!
# White space

The characters with the Unicode White_Space property, and trimming them from both ends of a
text.
-/

namespace Combinatory.Unicode

/-- Whether a character is white space. -/
def isSpace (c : Char) : Bool :=
  let n := c.toNat
  (9 ≤ n ∧ n ≤ 13) ∨ n = 32 ∨ n = 0x85 ∨ n = 0xA0 ∨ n = 0x1680 ∨ (0x2000 ≤ n ∧ n ≤ 0x200A) ∨
    n = 0x2028 ∨ n = 0x2029 ∨ n = 0x202F ∨ n = 0x205F ∨ n = 0x3000

/-- A text without the white space at its ends. -/
def trimSpace (s : String) : String :=
  String.ofList ((s.toList.dropWhile isSpace).reverse.dropWhile isSpace).reverse

/-- A text with its ASCII capitals lowered. -/
def lowerAscii (s : String) : String := s.map Char.toLower

end Combinatory.Unicode
