import Combinatory.Text.Utf8
import Combinatory.Text.Quoted

/-!
# Indented JSON text

Two spaces of indentation per level and one member per line. Strings escape what JSON requires
and also `<`, `>`, `&` and the line separators; bytes that are not UTF-8 become `�`.
-/

namespace Combinatory

/-- A JSON value to write. Strings are byte strings. -/
inductive JsonText where
  | str (bs : List UInt8)
  | num (n : Int)
  | arr (items : List JsonText)
  | obj (fields : List (String × JsonText))
  deriving Inhabited

namespace JsonText

/-- How one glyph is written inside a string. -/
def escapeGlyph : Glyph → String
  | .stray _ => "\\ufffd"
  | .scalar c =>
    match c with
    | '"' => "\\\""
    | '\\' => "\\\\"
    | '\x08' => "\\b"
    | '\x0c' => "\\f"
    | '\n' => "\\n"
    | '\r' => "\\r"
    | '\t' => "\\t"
    | '<' | '>' | '&' | '\u2028' | '\u2029' => "\\u" ++ Quoted.hex 4 c.toNat
    | _ => if c.toNat < 0x20 then "\\u" ++ Quoted.hex 4 c.toNat else String.singleton c

/-- A string literal. -/
def quote (bs : List UInt8) : String :=
  "\"" ++ String.join ((Glyph.decode bs).map escapeGlyph) ++ "\""

mutual

/-- The text of a value at indentation `indent`. -/
def render (indent : String) : JsonText → String
  | .str bs => quote bs
  | .num n => toString n
  | .arr [] => "[]"
  | .arr (v :: vs) =>
    "[\n" ++ renderItems (indent ++ "  ") (v :: vs) ++ "\n" ++ indent ++ "]"
  | .obj [] => "\x7b\x7d"
  | .obj (f :: fs) =>
    "\x7b\n" ++ renderFields (indent ++ "  ") (f :: fs) ++ "\n" ++ indent ++ "\x7d"

/-- The elements of an array, one per line at indentation `indent`. -/
def renderItems (indent : String) : List JsonText → String
  | [] => ""
  | [v] => indent ++ render indent v
  | v :: vs => indent ++ render indent v ++ ",\n" ++ renderItems indent vs

/-- The members of an object, one per line at indentation `indent`. -/
def renderFields (indent : String) : List (String × JsonText) → String
  | [] => ""
  | [(k, v)] => indent ++ quote k.toUTF8.toList ++ ": " ++ render indent v
  | (k, v) :: fs =>
    indent ++ quote k.toUTF8.toList ++ ": " ++ render indent v ++ ",\n" ++ renderFields indent fs

end

/-- A value written at the top level, with its final line feed. -/
def document (v : JsonText) : String := render "" v ++ "\n"

end JsonText

end Combinatory
