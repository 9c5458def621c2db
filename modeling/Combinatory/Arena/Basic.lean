import Combinatory.Number.Power
import Combinatory.Arena.Bitset

/-!
# Region arenas: geometry, regions and the failures of an arena

An allocation is a run of whole blocks whose first word holds its size. A region keeps a bump
cursor, its bytes, a bitmap of occupied blocks and one of allocation starts, and a list of its
allocations that no operation reads and the proofs compare the bitmaps with.
-/

namespace Combinatory

/-- Why an arena operation was refused. -/
inductive ArenaError where
  | zeroCapacity
  | capacityOutOfRange
  | blockSizeTooSmall
  | zeroSize
  | tooLarge
  | exhausted
  | foreign
  | doubleFree
  | shrink
  | destroyed
  deriving DecidableEq, Repr, Inhabited

namespace ArenaError

/-- The text of each failure. -/
def message : ArenaError → String
  | .zeroCapacity => "arena: zero capacity"
  | .capacityOutOfRange => "arena: capacity out of range"
  | .blockSizeTooSmall => "arena: block size smaller than a word"
  | .zeroSize => "arena: zero-size allocation"
  | .tooLarge => "arena: allocation larger than a region"
  | .exhausted => "arena: regions exhausted"
  | .foreign => "arena: pointer not owned by arena"
  | .doubleFree => "arena: allocation already freed"
  | .shrink => "arena: realloc cannot shrink"
  | .destroyed => "arena: destroyed"

end ArenaError

namespace Arena

/-- The word that precedes every payload and records its size. -/
def wordSize : Nat := 8

/-- The largest region an arena may have. -/
def maxCapacity : Nat := 2 ^ 31

/-- The most regions an arena may chain. -/
def maxRegionLimit : Nat := 2 ^ 16

/-- The least power of two that is at least `v`, as a 64-bit word: a value above `2 ^ 63`
has no such word and gives `0`. -/
def nextPow2 (v : UInt64) : UInt64 :=
  if v ≤ 1 then 1
  else
    let p := 2 ^ (Nat.log2 (v.toNat - 1) + 1)
    if p < 2 ^ 64 then p.toUInt64 else 0

end Arena

/-- The fixed shape of an arena: all sizes are in bytes and `capacity` is the size of one
region. -/
structure Geometry where
  aligned : Bool
  capacity : Nat
  blockSize : Nat
  maxRegions : Nat
  deriving DecidableEq, Repr, Inhabited

namespace Geometry

/-- The number of blocks of one region. -/
def blocks (g : Geometry) : Nat := g.capacity / g.blockSize

/-- The bytes of one region's occupancy bitmap. -/
def bitmapSize (g : Geometry) : Nat := (g.blocks + 7) / 8

/-- The blocks taken by a payload of `size` bytes and its size word (no wrapping: callers
pass sizes of at most one region). -/
def blocksFor (g : Geometry) (size : Nat) : Nat :=
  if g.aligned then (size + Arena.wordSize + g.blockSize - 1) / g.blockSize
  else size + Arena.wordSize

/-- Checks a requested shape: capacity and block size are rounded up to powers of two, the
region limit is clamped to `[1, 2 ^ 16]`. -/
def make (aligned : Bool) (capacity blockSize maxRegions : UInt64) :
    Except ArenaError Geometry :=
  if capacity = 0 then .error .zeroCapacity
  else
    let cap := Arena.nextPow2 capacity
    let bs := Arena.nextPow2 blockSize
    if bs = 0 then .error .blockSizeTooSmall
    else if cap.toNat > Arena.maxCapacity ∨ cap < bs then .error .capacityOutOfRange
    else
      let m := if maxRegions = 0 then 1 else min maxRegions.toNat Arena.maxRegionLimit
      .ok { aligned, capacity := cap.toNat, blockSize := bs.toNat, maxRegions := m }

/-- A packed arena: blocks of one byte. -/
def packed (capacity maxRegions : UInt64) : Except ArenaError Geometry :=
  make false capacity 1 maxRegions

/-- An aligned arena: the block size must hold at least one word, which is checked first. -/
def alignedTo (capacity blockSize maxRegions : UInt64) : Except ArenaError Geometry :=
  if blockSize < Arena.wordSize.toUInt64 then .error .blockSizeTooSmall
  else make true capacity blockSize maxRegions

/-- The footprint of a payload of `size` bytes in 64-bit arithmetic, wrapping as words do;
zero for an empty payload. -/
def roundedSize (g : Geometry) (size : UInt64) : UInt64 :=
  if size = 0 then 0
  else
    let total := size + Arena.wordSize.toUInt64
    let bs := g.blockSize.toUInt64
    let blocks := if g.aligned then (total + bs - 1) / bs else total
    blocks * bs

end Geometry

/-- One allocation made since the last reset: its header offset, its length in blocks and
whether it is still live. -/
structure Allocation where
  start : Nat
  blocks : Nat
  live : Bool
  deriving DecidableEq, Repr, Inhabited

/-- A region: the bump cursor, the bytes below the cursor (every byte past `data.size` reads
as zero), the bitmap of occupied blocks, the bitmap of the blocks where an allocation started,
and the allocations made since the last reset, in address order. -/
structure Region where
  cursor : Nat
  data : ByteArray
  bitmap : Bitset
  starts : Bitset
  allocations : Array Allocation
  deriving Inhabited

namespace Region

/-- A fresh region: nothing allocated, every byte zero. -/
def empty : Region :=
  { cursor := 0, data := .empty, bitmap := .empty, starts := .empty, allocations := #[] }

/-- The byte at offset `i`. -/
def byte (r : Region) (i : Nat) : UInt8 :=
  if h : i < r.data.size then r.data[i] else 0

/-- The `n` bytes from offset `i`. -/
def read (r : Region) (i n : Nat) : ByteArray :=
  ⟨(List.range n).toArray.map fun k => r.byte (i + k)⟩

/-- The little-endian word at offset `i`. -/
def word (r : Region) (i : Nat) : Nat :=
  (List.range Arena.wordSize).foldr (fun k acc => acc * 256 + (r.byte (i + k)).toNat) 0

/-- Sets (`occupied`) or clears the bitmap bits of the `blocks` blocks from `first`, one after
another. -/
def mark (r : Region) (first blocks : Nat) (occupied : Bool) : Region :=
  let step (s : Bitset) (k : Nat) := if occupied then s.set (first + k) else s.clear (first + k)
  { r with bitmap := (List.range blocks).foldl step r.bitmap }

/-- The number of occupied blocks: the bits set in the bitmap. -/
def used (r : Region) : Nat := r.bitmap.count

/-- Writes `bytes` at offset `i`, which must lie below the cursor. -/
def writeBytes (r : Region) (i : Nat) (bytes : ByteArray) : Region :=
  { r with data := bytes.toList.zipIdx.foldl (fun d (b, k) =>
      if h : i + k < d.size then d.set (i + k) b h else d) r.data }

/-- Writes the little-endian word `v` at offset `i`. -/
def writeWord (r : Region) (i v : Nat) : Region :=
  r.writeBytes i ⟨(List.range Arena.wordSize).toArray.map fun k => (v / 256 ^ k % 256).toUInt8⟩

end Region

end Combinatory
