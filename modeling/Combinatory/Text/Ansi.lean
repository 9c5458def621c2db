import Combinatory.Number.Power

/-!
# Terminal colours

A style is a list of SGR attributes. Styled text is the escape that sets them, the text, and an
escape that undoes each attribute in turn: bold and faint are undone by `22`, anything else by
the full reset `0`. An unstyled printer leaves text as it is.
-/

namespace Combinatory.Ansi

/-- SGR attributes used by the printers. -/
def bold : Nat := 1
def faint : Nat := 2
def red : Nat := 31
def green : Nat := 32
def yellow : Nat := 33
def blue : Nat := 34
def magenta : Nat := 35
def cyan : Nat := 36

/-- The attribute that undoes `a`. -/
def undo (a : Nat) : Nat := if a = bold ∨ a = faint then 22 else 0

/-- The escape setting a list of attributes. -/
def escape (attrs : List Nat) : String :=
  "\x1b[" ++ ";".intercalate (attrs.map toString) ++ "m"

/-- Text in a style when `on`, plain otherwise. -/
def paint (on : Bool) (attrs : List Nat) (s : String) : String :=
  if on then escape attrs ++ s ++ escape (attrs.map undo) else s

end Combinatory.Ansi
