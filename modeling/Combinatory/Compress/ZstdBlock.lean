import Combinatory.Compress.Literals
import Combinatory.Compress.Sequences

/-!
# Compressed Zstandard blocks

A compressed block is its literals section and its sequences section. The blocks of a frame
share the output so far, the three most recent match distances and the last tables.
-/

namespace Combinatory

namespace Zstd

/-- The largest block. -/
def maxBlockSize : Nat := 131072

/-- What blocks of a frame share. -/
structure BlockState where
  out : ByteArray
  start : Nat
  recent : Recent
  huffman : Option HuffTable
  tables : SeqTables
  deriving Inhabited

/-- The state at the start of a frame whose output is appended to `out`. -/
def BlockState.fresh (out : ByteArray) : BlockState :=
  ⟨out, out.size, Recent.initial, none, ⟨none, none, none⟩⟩

/-- Appends bytes to the output. -/
def BlockState.append (st : BlockState) (data : ByteArray) : BlockState :=
  match st with
  | ⟨out, start, recent, huffman, tables⟩ => ⟨out ++ data, start, recent, huffman, tables⟩

/-- Decodes a compressed block with window `window`. -/
def decodeCompressed (data : ByteArray) (window : Nat) (st : BlockState) :
    Except DecodeError BlockState :=
  match st with
  | ⟨out, start, recent, huffman, tables⟩ => do
    let lit ← readLiterals data window huffman
    let rest := data.extract lit.used data.size
    let (count, tables, pos) ← sequenceHeader rest tables
    if count = 0 then return ⟨out ++ lit.bytes, start, recent, lit.table, tables⟩
    let (out, recent) ← decodeSequences tables count (rest.extract pos rest.size) lit.bytes
      window start recent out
    return ⟨out, start, recent, lit.table, tables⟩

end Zstd

end Combinatory
