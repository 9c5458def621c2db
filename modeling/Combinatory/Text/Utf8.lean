import Combinatory.Number.Power

/-!
# UTF-8 decoding that keeps stray bytes

A well-formed encoding becomes its character and any other byte stands alone as a stray byte.
The encodings of the glyphs concatenate back to the input (`Glyph.decode_bytes`).
-/

namespace Combinatory

/-- One decoded unit of a byte string. -/
inductive Glyph where
  | scalar (c : Char)
  | stray (b : UInt8)
  deriving DecidableEq, Repr, Inhabited

namespace Glyph

/-- Whether `b` is a continuation byte in `[lo, hi]`. -/
def within (b : UInt8) (lo hi : UInt8) : Bool := lo ≤ b && b ≤ hi

/-- The scalar value of a well-formed sequence, assembled from its bytes. -/
def assemble (lead : Nat) (rest : List UInt8) : Nat :=
  rest.foldl (fun acc b => acc * 64 + (b.toNat % 64)) lead

/-- Decodes the first glyph of a non-empty byte list: the glyph and how many bytes after the
first one it takes. -/
def first : List UInt8 → Glyph × Nat
  | [] => (.stray 0, 0)
  | b0 :: rest =>
    if b0 < 0x80 then (.scalar (Char.ofNat b0.toNat), 0)
    else
      let lenLo : Option (Nat × UInt8 × UInt8) :=
        if within b0 0xC2 0xDF then some (1, 0x80, 0xBF)
        else if b0 = 0xE0 then some (2, 0xA0, 0xBF)
        else if within b0 0xE1 0xEC then some (2, 0x80, 0xBF)
        else if b0 = 0xED then some (2, 0x80, 0x9F)
        else if within b0 0xEE 0xEF then some (2, 0x80, 0xBF)
        else if b0 = 0xF0 then some (3, 0x90, 0xBF)
        else if within b0 0xF1 0xF3 then some (3, 0x80, 0xBF)
        else if b0 = 0xF4 then some (3, 0x80, 0x8F)
        else none
      match lenLo with
      | none => (.stray b0, 0)
      | some (n, lo, hi) =>
        let tail := rest.take n
        let ok := tail.length = n &&
          (match tail with
            | [] => false
            | b1 :: more => within b1 lo hi && more.all (within · 0x80 0xBF))
        if ok then
          let lead := b0.toNat % (if n = 1 then 32 else if n = 2 then 16 else 8)
          (.scalar (Char.ofNat (assemble lead tail)), n)
        else (.stray b0, 0)

/-- Splits a byte list into glyphs, each with the bytes it was decoded from. -/
def decodeWithBytes (bs : List UInt8) : List (Glyph × List UInt8) :=
  if h : bs = [] then []
  else
    let (g, n) := first bs
    (g, bs.take (n + 1)) :: decodeWithBytes (bs.drop (n + 1))
termination_by bs.length
decreasing_by
  have : bs.length ≠ 0 := by simpa [List.length_eq_zero_iff] using h
  simp only [List.length_drop]
  omega

/-- The glyphs of a byte list. -/
def decode (bs : List UInt8) : List Glyph := (decodeWithBytes bs).map Prod.fst

theorem decode_bytes (bs : List UInt8) : ((decodeWithBytes bs).map Prod.snd).flatten = bs := by
  induction bs using decodeWithBytes.induct with
  | case1 => simp [decodeWithBytes]
  | case2 bs h g n hgn ih =>
    rw [decodeWithBytes, dif_neg h]
    simp only [hgn, List.map_cons, List.flatten_cons, ih, List.take_append_drop]

/-- The bytes of a character in UTF-8. -/
def encodeChar (c : Char) : List UInt8 := (String.singleton c).toUTF8.toList

/-- The bytes a glyph stands for. -/
def toBytes : Glyph → List UInt8
  | .scalar c => encodeChar c
  | .stray b => [b]

/-- The character a glyph shows: a stray byte shows as the replacement character. -/
def toChar : Glyph → Char
  | .scalar c => c
  | .stray _ => '\uFFFD'

/-- The text of a byte string with every stray byte replaced. -/
def lossy (bs : List UInt8) : String := String.ofList ((decode bs).map toChar)

/-- The text of a byte string when it is well-formed UTF-8. -/
def text? (bs : List UInt8) : Option String :=
  (decode bs).foldr (fun g acc => match g, acc with
    | .scalar c, some cs => some (c :: cs)
    | _, _ => none) (some []) |>.map String.ofList

/-- The number of bytes a glyph takes. -/
def byteLength : Glyph → Nat
  | .scalar c => c.utf8Size
  | .stray _ => 1

end Glyph

end Combinatory
