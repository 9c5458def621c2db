import Combinatory.Text.Width

/-!
# Width of text on a terminal

Text is read through a DEC-style escape parser, so escape sequences take no cell. A grapheme
cluster takes the width of its first character, or the width an emoji variation selector sets.
-/

namespace Combinatory.Terminal

/-- The states of the escape parser. -/
inductive EscState
  | ground | escape | escapeIntermediate
  | csiEntry | csiParam | csiIntermediate
  | dcsEntry | dcsParam | dcsIntermediate | dcsString
  | sosString | pmString | apcString | oscString
  deriving DecidableEq, Inhabited

/-- A C0 control that a state keeps to itself: all but CAN, SUB and ESC. -/
def isC0 (b : Nat) : Bool := b < 0x20 && b != 0x18 && b != 0x1A && b != 0x1B

/-- Whether `b` lies in `lo ..= hi`. -/
def within (b lo hi : Nat) : Bool := lo ≤ b && b ≤ hi

/-- What a state does with a byte when it has its own rule for it. -/
def ownRule : EscState → Nat → Option EscState
  | .ground, b => if isC0 b || within b 0x20 0x7F then some .ground else none
  | .escape, b =>
    if isC0 b || b == 0x7F then some .escape
    else if within b 0x20 0x2F then some .escapeIntermediate
    else if b == 0x50 then some .dcsEntry
    else if b == 0x58 then some .sosString
    else if b == 0x5B then some .csiEntry
    else if b == 0x5D then some .oscString
    else if b == 0x5E then some .pmString
    else if b == 0x5F then some .apcString
    else if within b 0x30 0x7E then some .ground
    else none
  | .escapeIntermediate, b =>
    if isC0 b || b == 0x7F || within b 0x20 0x2F then some .escapeIntermediate
    else if within b 0x30 0x7E then some .ground
    else none
  | .csiEntry, b =>
    if isC0 b || b == 0x7F then some .csiEntry
    else if within b 0x20 0x2F then some .csiIntermediate
    else if within b 0x30 0x3F then some .csiParam
    else if within b 0x40 0x7E then some .ground
    else none
  | .csiParam, b =>
    if isC0 b || b == 0x7F || within b 0x30 0x3B then some .csiParam
    else if within b 0x20 0x2F then some .csiIntermediate
    else if within b 0x3C 0x7E then some .ground
    else none
  | .csiIntermediate, b =>
    if isC0 b || b == 0x7F || within b 0x20 0x2F then some .csiIntermediate
    else if within b 0x30 0x7E then some .ground
    else none
  | .dcsEntry, b =>
    if within b 0x08 0x0D || b == 0x1B then some .dcsString
    else if isC0 b || b == 0x7F then some .dcsEntry
    else if within b 0x20 0x2F then some .dcsIntermediate
    else if within b 0x30 0x3F then some .dcsParam
    else if within b 0x40 0x7E then some .dcsString
    else none
  | .dcsParam, b =>
    if isC0 b || b == 0x7F || within b 0x30 0x3F then some .dcsParam
    else if within b 0x20 0x2F then some .dcsIntermediate
    else if within b 0x40 0x7E then some .dcsString
    else none
  | .dcsIntermediate, b =>
    if isC0 b || b == 0x7F || within b 0x20 0x2F then some .dcsIntermediate
    else if within b 0x30 0x7E then some .dcsString
    else none
  | .dcsString, b =>
    if b == 0x1B then some .escape
    else if b == 0x9C || b == 0x18 || b == 0x1A then some .ground
    else some .dcsString
  | .oscString, b =>
    if b == 0x1B then some .escape
    else if b == 0x07 || b == 0x9C || b == 0x18 || b == 0x1A then some .ground
    else some .oscString
  | s, b =>
    if b == 0x1B then some .escape
    else if b == 0x9C || b == 0x18 || b == 0x1A then some .ground
    else if b < 0x80 then some s
    else none

/-- The state after a byte, or none when the byte starts a multi-byte character. -/
def step (s : EscState) (b : Nat) : Option EscState :=
  match ownRule s b with
  | some t => some t
  | none =>
    if b == 0x1B then some .escape
    else if b == 0x90 then some .dcsEntry
    else if b == 0x98 then some .sosString
    else if b == 0x9B then some .csiEntry
    else if b == 0x9D then some .oscString
    else if b == 0x9E then some .pmString
    else if b == 0x9F then some .apcString
    else if within b 0xC2 0xF4 then none
    else some .ground

/-- Whether a byte read in a state takes a cell. -/
def prints (s : EscState) (b : Nat) : Bool := s == .ground && within b 0x20 0x7F

/-- The cells one character of break class `k` takes. -/
def charWidth (c k : Nat) : Nat :=
  if k ∈ [1, 2, 3, 4, 5] then 0
  else if k = 6 then 2
  else if k = 14 then (if Unicode.emojiPresentation.contains c then 2 else 1)
  else if c = 0x2E3A then 3
  else if c = 0x2E3B then 4
  else if Unicode.wide.contains c then 2
  else 1

/-- The break class of a code point. -/
def classOf (c : Nat) : Nat := Unicode.classOfCode c

/-- The text presentation selector. -/
def textSelector : Nat := 0xFE0E

/-- The emoji presentation selector. -/
def emojiSelector : Nat := 0xFE0F

/-- The cells a grapheme cluster of the code points `cs` takes. -/
def clusterWidth : List Nat → Nat
  | [] => 0
  | c :: rest =>
    let k := classOf c
    rest.foldl (fun w d =>
      if k = 14 then (if d = textSelector then 1 else if d = emojiSelector then 2 else w)
      else if k = 6 ∨ k = 9 then w
      else w + charWidth d (classOf d)) (charWidth c k)

/-- The code points of bytes, a stray byte read as the replacement character. -/
def codePoints (bs : List UInt8) : List Nat :=
  (Glyph.decode bs).map fun g => g.toChar.toNat

/-- The cells of bytes read from state `s`, added to `acc`; at most `fuel` steps. -/
def widthAux : Nat → EscState → List UInt8 → Nat → Nat
  | 0, _, _, acc => acc
  | _, _, [], acc => acc
  | fuel + 1, s, b :: rest, acc =>
    match step s b.toNat with
    | some t => widthAux fuel t rest (if prints s b.toNat then acc + 1 else acc)
    | none =>
      let bs := b :: rest
      let n := max (Unicode.firstCluster bs) 1
      widthAux fuel .ground (bs.drop n) (acc + clusterWidth (codePoints (bs.take n)))

/-- The cells a byte string takes on a terminal. -/
def byteWidth (bs : List UInt8) : Nat := widthAux bs.length .ground bs 0

/-- The cells a text takes on a terminal. -/
def width (s : String) : Nat := byteWidth s.toUTF8.toList

end Combinatory.Terminal
