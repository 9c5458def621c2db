import Combinatory.Text.Utf8
import Combinatory.Text.Category

/-!
# Double-quoted string literals

A byte string between double quotes: printable characters stand for themselves, the quote and
the backslash are escaped, and other characters and stray bytes become escapes.
-/

namespace Combinatory.Quoted

/-- Lower-case hexadecimal digits of `n`, padded with zeros to `width`. -/
def hex (width n : Nat) : String :=
  String.ofList ((List.range width).reverse.map fun i => Nat.digitChar (n / 16 ^ i % 16))

/-- The escape of one character that is not printed as itself. -/
def escapeChar (c : Char) : String :=
  match c with
  | '\x07' => "\\a" | '\x08' => "\\b" | '\x0c' => "\\f" | '\n' => "\\n"
  | '\r' => "\\r" | '\t' => "\\t" | '\x0b' => "\\v"
  | _ =>
    if c.toNat < 0x20 ∨ c.toNat = 0x7F then "\\x" ++ hex 2 c.toNat
    else if c.toNat < 0x10000 then "\\u" ++ hex 4 c.toNat
    else "\\U" ++ hex 8 c.toNat

/-- How one glyph is written inside the quotes. -/
def glyph : Glyph → String
  | .stray b => "\\x" ++ hex 2 b.toNat
  | .scalar c =>
    if c = '"' then "\\\""
    else if c = '\\' then "\\\\"
    else if Unicode.isPrintable c then String.singleton c
    else escapeChar c

/-- The quoted form of a byte string. -/
def quote (bs : List UInt8) : String :=
  "\"" ++ String.join ((Glyph.decode bs).map glyph) ++ "\""

end Combinatory.Quoted
