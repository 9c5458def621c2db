import Combinatory.Compress.DecodeError

/-!
# Bit streams of compressed blocks

Entropy-coded streams are read backwards through a 64-bit register. Past the start of the
stream `BackReader` (FSE) reads old bits again and `ShiftReader` (Huffman) reads zeros, which
fixes what corrupt input decodes to.
-/

namespace Combinatory

namespace Zstd

/-- The byte at `i`, zero past the end. -/
def byteAt (data : ByteArray) (i : Nat) : Nat := ((data[i]?).map UInt8.toNat).getD 0

/-- The little-endian number of the `k` bytes from `i`. -/
def wordAt (data : ByteArray) (i k : Nat) : Nat :=
  (List.range k).foldr (fun j acc => byteAt data (i + j) + 256 * acc) 0

/-- The little-endian word of the `k ≤ 8` bytes that end just before byte `stop`. -/
def wordBefore (data : ByteArray) (stop k : Nat) : UInt64 := (wordAt data (stop - k) k).toUInt64

/-- `x` shifted left by `n` places in a 64-bit register: a shift by 64 or more leaves nothing. -/
def shl (x : UInt64) (n : Nat) : UInt64 := if n < 64 then x <<< n.toUInt64 else 0

/-- `x` shifted right by `n` places in a 64-bit register. -/
def shr (x : UInt64) (n : Nat) : UInt64 := if n < 64 then x >>> n.toUInt64 else 0

/-- The position of the highest set bit of a positive number. -/
def highBit (v : Nat) : Nat := Nat.log2 v

/-- A backward stream read through a register that keeps the bytes loaded last in its low
bits: `cursor` bytes are still to be loaded, and the top `bitsRead` bits of `value` are read. -/
structure BackReader where
  data : ByteArray
  cursor : Nat
  value : UInt64
  bitsRead : UInt8
  deriving Inhabited

namespace BackReader

/-- Loads the last eight bytes at once. -/
def loadFirst (r : BackReader) : BackReader :=
  { r with value := wordBefore r.data r.cursor 8, bitsRead := 0, cursor := r.cursor - 8 }

/-- Loads four more bytes once 32 bits are read, or all the bytes left when fewer than four
are. -/
def fill (r : BackReader) : BackReader :=
  if r.bitsRead < 32 then r
  else
    let k := min r.cursor 4
    { r with value := shl r.value (8 * k) ||| wordBefore r.data r.cursor k,
             bitsRead := r.bitsRead - (8 * k).toUInt8, cursor := r.cursor - k }

/-- The stream held in `data`, with its marker and the zeros above it read. -/
def init (data : ByteArray) : Except DecodeError BackReader := do
  if data.size = 0 then throw .emptyStream
  let last := byteAt data (data.size - 1)
  if last = 0 then throw .noEndMark
  let r : BackReader := ⟨data, data.size, 0, 64⟩
  let r := if data.size ≥ 8 then r.loadFirst else r.fill.fill
  return { r with bitsRead := r.bitsRead + (8 - highBit last).toUInt8 }

/-- Reads `n` bits, `1 ≤ n ≤ 32`: the register shifted by `bitsRead` modulo 64, then down to
its top `n` bits. -/
def take (r : BackReader) (n : Nat) : Nat × BackReader :=
  let v := shr (shl r.value (r.bitsRead.toNat % 64)) ((64 - n) % 64)
  (v.toNat % 2 ^ 32, { r with bitsRead := r.bitsRead + n.toUInt8 })

/-- Reads `n ≤ 32` bits; reading none reads nothing. -/
def bits (r : BackReader) (n : Nat) : Nat × BackReader := if n = 0 then (0, r) else r.take n

/-- Reads `n ≤ 16` bits, or nothing once the whole register is read. -/
def bitsWithin (r : BackReader) (n : Nat) : Nat × BackReader :=
  if n = 0 ∨ r.bitsRead ≥ 64 then (0, r) else r.take n

/-- Whether every byte is loaded and every loaded bit read. -/
def finished (r : BackReader) : Bool := r.cursor = 0 && r.bitsRead ≥ 64

/-- Whether more bits were read than the stream holds. -/
def overread (r : BackReader) : Bool := r.bitsRead > 64

/-- The bits not read yet, as an unsigned machine word, which wraps once too many are read. -/
def remain (r : BackReader) : UInt64 := (8 * r.cursor).toUInt64 + 64 - r.bitsRead.toUInt64

/-- Ends a stream that must be read exactly to its start. -/
def close (r : BackReader) : Except DecodeError Unit :=
  if !r.finished then .error (.extraBits r.remain.toNat)
  else if r.overread then .error .unexpectedEnd
  else .ok ()

end BackReader

/-- A backward stream read through a register that keeps its unread bits at the top: `off`
bytes are still to be loaded, and `bitsRead` of the register's bits are used up. -/
structure ShiftReader where
  data : ByteArray
  off : Nat
  value : UInt64
  bitsRead : UInt8
  deriving Inhabited

namespace ShiftReader

/-- Loads the last eight bytes at once. -/
def loadFirst (r : ShiftReader) : ShiftReader :=
  { r with value := wordBefore r.data r.off 8, bitsRead := 0, off := r.off - 8 }

/-- Loads four bytes below the unread bits. -/
def loadWord (r : ShiftReader) : ShiftReader :=
  { r with value := r.value ||| shl (wordBefore r.data r.off 4) ((r.bitsRead - 32).toNat % 64),
           bitsRead := r.bitsRead - 32, off := r.off - 4 }

/-- Loads the bytes left one at a time, at most `fuel` of them. -/
def loadBytes : Nat → ShiftReader → ShiftReader
  | 0, r => r
  | fuel + 1, r =>
    if r.off = 0 then r
    else
      loadBytes fuel
        { r with value := r.value ||| shl (byteAt r.data (r.off - 1)).toUInt64
                            ((r.bitsRead - 8).toNat % 64),
                 bitsRead := r.bitsRead - 8, off := r.off - 1 }

/-- Once 32 bits are used up, loads four bytes when more than four are left, or else all
the bytes left. -/
def fill (r : ShiftReader) : ShiftReader :=
  if r.bitsRead < 32 then r
  else if r.off > 4 then r.loadWord
  else loadBytes r.off r

/-- Loads four bytes once 32 bits are used up; at least four must be left. -/
def fillFast (r : ShiftReader) : ShiftReader := if r.bitsRead < 32 then r else r.loadWord

/-- Loads four bytes once more than 32 bits are used up; at least four must be left. -/
def fillAbove (r : ShiftReader) : ShiftReader := if r.bitsRead ≤ 32 then r else r.loadWord

/-- The next `n ≥ 1` bits, without using them up. -/
def peek (r : ShiftReader) (n : Nat) : Nat := (r.value >>> ((64 - n) % 64).toUInt64).toNat

/-- Uses up `n` bits. -/
def advance (r : ShiftReader) (n : Nat) : ShiftReader :=
  { r with bitsRead := r.bitsRead + n.toUInt8, value := shl r.value (n % 64) }

/-- The stream held in `data`, with its marker and the zeros above it used up. -/
def init (data : ByteArray) : Except DecodeError ShiftReader := do
  if data.size = 0 then throw .emptyStream
  let last := byteAt data (data.size - 1)
  if last = 0 then throw .noEndMark
  let r : ShiftReader := ⟨data, data.size, 0, 64⟩
  let r := if data.size ≥ 8 then r.loadFirst else r.fill.fill
  return r.advance (8 - highBit last)

/-- The bits left, counting the register's use in a byte. -/
def remaining (r : ShiftReader) : Nat := r.off * 8 + (64 - r.bitsRead).toNat

/-- Whether more bits were used up than the stream holds. -/
def overread (r : ShiftReader) : Bool := r.bitsRead > 64

end ShiftReader

end Zstd

end Combinatory
