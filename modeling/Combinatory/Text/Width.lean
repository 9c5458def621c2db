import Combinatory.Text.WidthData
import Combinatory.Text.GraphemeData
import Combinatory.Text.Utf8

/-!
# Display width of text in terminal cells

A character takes no cell (a control, format character or combining mark), two (wide or
fullwidth) or one. A grapheme cluster takes the width of its first character that takes any.
-/

namespace Combinatory.Unicode

/-- The number of cells one character takes. -/
def cellWidth (c : Char) : Nat :=
  let n := c.toNat
  if n < 0x20 then 0
  else if (0x7F ≤ n ∧ n ≤ 0x9F) ∨ n = 0xAD then 0
  else if n < 0x300 then 1
  else if invisible.contains n ∨ combining.contains n then 0
  else if wide.contains n then 2
  else 1

/-- The cluster break class of a character (see `breakClasses`). -/
def breakClass (c : Char) : Nat := (breakClasses.find? c.toNat).getD 0

/-- Whether `b` continues a multi-byte sequence. -/
def isContinuation (b : UInt8) : Bool := 0x80 ≤ b && b < 0xC0

/-- The break class of the code point `n`; code points that are not characters have none. -/
def classOfCode (n : Nat) : Nat :=
  if n ≥ 0xD800 ∧ n ≤ 0xDFFF ∨ n > 0x10FFFF then 0 else breakClass (Char.ofNat n)

/-- The break class and length of the unit at the start of a byte list, as the segmenter reads
bytes: a well-formed sequence, the bytes before one that does not continue it, or a stray byte;
a sequence cut short by the end of the input has length zero. -/
def unitAt : List UInt8 → Nat × Nat
  | [] => (0, 0)
  | c0 :: rest =>
    let c := c0.toNat
    let low (b : UInt8) : Nat := b.toNat % 64
    if c < 0x80 then (breakClass (Char.ofNat c), 1)
    else if c < 0xC2 then (0, 1)
    else if c < 0xE0 then
      match rest with
      | [] => (0, 0)
      | c1 :: _ => if !isContinuation c1 then (0, 1) else (classOfCode ((c % 32) * 64 + low c1), 2)
    else if c < 0xF0 then
      match rest with
      | [] | [_] => (0, 0)
      | c1 :: c2 :: _ =>
        if !isContinuation c1 then (0, 1)
        else if !isContinuation c2 then (0, 2)
        else
          let n := (c % 16) * 4096 + low c1 * 64 + low c2
          (if n < 0x800 then 0 else classOfCode n, 3)
    else if c < 0xF8 then
      match rest with
      | [] | [_] | [_, _] => (0, 0)
      | c1 :: c2 :: c3 :: _ =>
        if !isContinuation c1 then (0, 1)
        else if !isContinuation c2 then (0, 2)
        else if !isContinuation c3 then (0, 3)
        else
          let n := (c % 8) * 262144 + low c1 * 4096 + low c2 * 64 + low c3
          (if n < 0x10000 then 0 else classOfCode n, 4)
    else (0, 1)

/-- Whether a class is one of `cs`. -/
def classIn (k : Nat) (cs : List Nat) : Bool := cs.contains k

/-- Extends the cluster that has taken `pos` bytes of `bs`, the last unit being of class
`last`, the last class other than extend before it `prev`, the one before that `prevPrev`,
and `flags` the pairs of regional indicators joined so far; the length of the cluster. -/
def clusterEnd (bs : List UInt8) : Nat → Nat → Nat → Nat → Nat → Nat → Nat
  | 0, pos, _, _, _, _ => pos
  | fuel + 1, pos, last, prev, prevPrev, flags =>
    if pos ≥ bs.length then pos
    else
      let (prevPrev, prev) := if last = 4 then (prevPrev, prev) else (prev, last)
      let (cur, w) := unitAt (bs.drop pos)
      let next := clusterEnd bs fuel (pos + w) cur prev prevPrev
      if w = 0 then bs.length
      else if cur = 0 ∧ last = 0 then pos
      else if cur = 2 ∧ last = 1 then next flags
      else if classIn cur [1, 2, 3] ∨ classIn last [1, 2, 3] then pos
      else if classIn cur [9, 10, 12, 13] ∧ last = 9 then next flags
      else if classIn cur [10, 11] ∧ classIn last [12, 10] then next flags
      else if cur = 11 ∧ classIn last [13, 11] then next flags
      else if classIn cur [4, 5, 8] then next flags
      else if last = 7 then next flags
      else if cur = 14 ∧ last = 5 ∧ prevPrev = 14 then next flags
      else if cur = 6 ∧ last = 6 ∧ flags % 2 = 0 then next (flags + 1)
      else pos

/-- The length of the first grapheme cluster of a non-empty byte list. -/
def firstCluster (bs : List UInt8) : Nat :=
  let (cur, w) := unitAt bs
  if w = 0 then bs.length else clusterEnd bs bs.length w cur 0 0 0

/-- Splits bytes into grapheme clusters, at most `fuel` of them. -/
def clustersOf : Nat → List UInt8 → List (List UInt8)
  | 0, _ => []
  | _, [] => []
  | fuel + 1, bs =>
    let n := max (firstCluster bs) 1
    bs.take n :: clustersOf fuel (bs.drop n)

/-- The grapheme clusters of a byte string, in order. -/
def clusters (bs : List UInt8) : List (List UInt8) := clustersOf bs.length bs

/-- The width of one cluster: that of its first character taking any cell, a stray byte
taking the width of the replacement character. -/
def clusterWidth (cl : List UInt8) : Nat :=
  (((Glyph.decode cl).map fun g => cellWidth g.toChar).find? (· > 0)).getD 0

/-- The number of cells a byte string takes. -/
def displayWidth (bs : List UInt8) : Nat := ((clusters bs).map clusterWidth).foldr (· + ·) 0

/-- The number of cells a text takes. -/
def textWidth (s : String) : Nat := displayWidth s.toUTF8.toList

end Combinatory.Unicode
