import Combinatory.Compress.Huffman

/-!
# The literals of a compressed block

A block's literals are raw, one repeated byte, or Huffman-coded with the block's table or the
previous one; the header gives the kind, the size format and the sizes.
-/

namespace Combinatory

namespace Zstd

/-- The decoded literals of a block, the bytes their section took, and the Huffman table
left for the next block. -/
structure LiteralSection where
  bytes : ByteArray
  used : Nat
  table : Option HuffTable

/-- The sizes in a literals header: the decoded size, the stored size of coded literals,
whether they form four streams, and the header's length. -/
structure LiteralHeader where
  size : Nat
  stored : Nat
  four : Bool
  length : Nat

/-- Reads the literals header of `kind` and size `format` at the start of `data`, which holds
at least two bytes. -/
def literalHeader (data : ByteArray) (kind format : Nat) : Except DecodeError LiteralHeader := do
  let b0 := byteAt data 0
  if kind ≤ 1 then
    match format with
    | 1 => return ⟨b0 / 16 + 16 * byteAt data 1, 0, false, 2⟩
    | 3 =>
      if data.size < 3 then throw .blockTooSmall
      return ⟨b0 / 16 + 16 * byteAt data 1 + 4096 * byteAt data 2, 0, false, 3⟩
    | _ => return ⟨b0 / 8, 0, false, 1⟩
  else
    let (length, bits) := match format with
      | 0 => (3, 10)
      | 1 => (3, 10)
      | 2 => (4, 14)
      | _ => (5, 18)
    if data.size < length then throw .blockTooSmall
    let v := wordAt data 0 length / 16
    return ⟨v % 2 ^ bits, v / 2 ^ bits, format ≠ 0, length⟩

/-- Decodes coded literals with `table` into `size` bytes. -/
def decodeCoded (table : HuffTable) (h : LiteralHeader) (src : ByteArray) :
    Except DecodeError ByteArray := do
  let out ← if h.four then decodeFour table src h.size else decodeSingle table src h.size
  if out.size ≠ h.size then
    throw (.literalSizeMismatch h.size out.size)
  return out

/-- Reads the literals section at the start of a block with window `window`; `prev` is the
table a previous coded section left. -/
def readLiterals (data : ByteArray) (window : Nat) (prev : Option HuffTable) :
    Except DecodeError LiteralSection := do
  if data.size < 2 then throw .blockTooSmall
  let b0 := byteAt data 0
  let kind := b0 % 4
  let h ← literalHeader data kind (b0 / 4 % 4)
  if h.size > window ∨ h.size > 131072 then throw .windowExceeded
  let body := h.length
  match kind with
  | 0 =>
    if data.size - body < h.size then throw .blockTooSmall
    return ⟨data.extract body (body + h.size), body + h.size, prev⟩
  | 1 =>
    if data.size - body < 1 then throw .blockTooSmall
    return ⟨⟨Array.replicate h.size (data[body]?.getD 0)⟩, body + 1, prev⟩
  | 2 =>
    if data.size - body < h.stored then throw .blockTooSmall
    let src := data.extract body (body + h.stored)
    let (table, took) ← readHuffTable src
    let out ← decodeCoded table h (src.extract took src.size)
    return ⟨out, body + h.stored, some table⟩
  | _ =>
    if data.size - body < h.stored then throw .blockTooSmall
    let some table := prev | throw .noHuffmanTable
    let out ← decodeCoded table h (data.extract body (body + h.stored))
    return ⟨out, body + h.stored, prev⟩

end Zstd

end Combinatory
