import Combinatory.Arena.Basic

/-!
# Region arenas: allocation, lookup and release

Allocation bumps the cursor of the last region, appending a region while the limit allows;
freed space is reused only after a reset. A pointer packs the space tag, the region index and
the payload offset into one 64-bit word.
-/

namespace Combinatory

/-- An arena: its geometry, its space tag (`0` to `2 ^ 16 - 1`), its regions and whether it
has been destroyed (a destroyed arena has no regions). -/
structure Arena where
  geometry : Geometry
  space : Nat
  regions : Array Region
  destroyed : Bool
  deriving Inhabited

/-- A pointer into an arena. -/
abbrev Ptr := UInt64

/-- The pointer that names nothing. -/
def Ptr.nil : Ptr := 0

/-- The region index carried by a pointer. -/
def Ptr.region (p : Ptr) : Nat := (p.toNat / 2 ^ 32) % 2 ^ 16

/-- The offset carried by a pointer. -/
def Ptr.offset (p : Ptr) : Nat := p.toNat % 2 ^ 32

/-- What the arena reports about itself. -/
structure ArenaStats where
  aligned : Bool
  bitmapSize : Nat
  blockSize : Nat
  capacity : Nat
  used : Nat
  regions : Nat
  maxRegions : Nat
  deriving DecidableEq, Repr, Inhabited

namespace Arena

/-- A new arena of geometry `g` in address space `space`: one empty region. -/
def ofGeometry (g : Geometry) (space : Nat) : Arena :=
  { geometry := g, space, regions := #[Region.empty], destroyed := false }

/-- A packed arena (blocks of one byte). -/
def packed (capacity maxRegions : UInt64) (space : Nat) : Except ArenaError Arena :=
  (Geometry.packed capacity maxRegions).map (ofGeometry · space)

/-- An aligned arena. -/
def aligned (capacity blockSize maxRegions : UInt64) (space : Nat) : Except ArenaError Arena :=
  (Geometry.alignedTo capacity blockSize maxRegions).map (ofGeometry · space)

/-- The base pointer of region `i`. -/
def base (a : Arena) (i : Nat) : Nat := a.space * 2 ^ 48 + i * 2 ^ 32

/-- The pointer of offset `off` in region `i`. -/
def ptr (a : Arena) (i off : Nat) : Ptr := (a.base i + off).toUInt64

/-- Bytes occupied, over all regions: the blocks set in the bitmaps. -/
def used (a : Arena) : Nat :=
  (a.regions.foldl (fun n r => n + r.used) 0) * a.geometry.blockSize

/-- The number of regions (none once destroyed). -/
def regionCount (a : Arena) : Nat := a.regions.size

/-- The footprint of a payload of `size` bytes. -/
def roundedSize (a : Arena) (size : UInt64) : UInt64 := a.geometry.roundedSize size

/-- The statistics of the arena. -/
def stats (a : Arena) : ArenaStats :=
  { aligned := a.geometry.aligned, bitmapSize := a.geometry.bitmapSize,
    blockSize := a.geometry.blockSize, capacity := a.geometry.capacity, used := a.used,
    regions := a.regionCount, maxRegions := a.geometry.maxRegions }

/-- The place of a fresh allocation: the region index, the header offset and the blocks. -/
structure Placement where
  region : Nat
  start : Nat
  blocks : Nat

/-- Where an allocation of `size` bytes goes, appending a region when the last one is full. -/
def place (a : Arena) (size : Nat) : Except ArenaError (Arena × Placement) :=
  if a.destroyed then .error .destroyed
  else if size = 0 then .error .zeroSize
  else if size > a.geometry.capacity then .error .tooLarge
  else
    let g := a.geometry
    let blocks := g.blocksFor size
    let need := blocks * g.blockSize
    if need > g.capacity then .error .tooLarge
    else
      let tail := a.regions.back?.getD Region.empty
      if tail.cursor + need > g.capacity then
        if a.regions.size ≥ g.maxRegions then .error .exhausted
        else .ok ({ a with regions := a.regions.push Region.empty },
          ⟨a.regions.size, 0, blocks⟩)
      else .ok (a, ⟨a.regions.size - 1, tail.cursor, blocks⟩)

/-- Marks a placement as allocated: its first word records `size`, its blocks are marked
occupied and its first block a start, and the cursor moves past its blocks, which read as
zero. -/
def commit (a : Arena) (pl : Placement) (size : Nat) : Arena :=
  let g := a.geometry
  let need := pl.blocks * g.blockSize
  { a with regions := a.regions.modify pl.region fun r =>
      let grown := { r with
        cursor := r.cursor + need,
        data := r.data ++ ByteArray.mk (Array.replicate (pl.start + need - r.data.size) 0),
        starts := r.starts.set (pl.start / g.blockSize),
        allocations := r.allocations.push ⟨pl.start, pl.blocks, true⟩ }
      (grown.mark (pl.start / g.blockSize) pl.blocks true).writeWord pl.start size }

/-- Allocates `size` bytes: the result is the region index and the payload offset. -/
def allocAt (a : Arena) (size : Nat) : Except ArenaError (Arena × Nat × Nat) := do
  let (a, pl) ← a.place size
  return (a.commit pl size, pl.region, pl.start + wordSize)

/-- Allocates `size` bytes, all zero. -/
def alloc (a : Arena) (size : UInt64) : Except ArenaError (Arena × Ptr) := do
  let (a, i, off) ← a.allocAt size.toNat
  return (a, a.ptr i off)

/-- Allocates `count` elements of `elem` bytes; a product past 64 bits is too large. -/
def allocArray (a : Arena) (elem count : UInt64) : Except ArenaError (Arena × Ptr) :=
  if elem.toNat * count.toNat ≥ 2 ^ 64 then .error .tooLarge
  else a.alloc (elem * count)

/-- What a pointer resolves to: region index, payload offset and recorded size. -/
structure Resolved where
  region : Nat
  offset : Nat
  size : Nat

/-- Resolves a pointer inside region `i`, whose range contains it at payload offset `off`. -/
def resolveIn (a : Arena) (i : Nat) (r : Region) (off : Nat) : Except ArenaError Resolved :=
  let g := a.geometry
  let start := off - wordSize
  if start % g.blockSize ≠ 0 ∨ !r.starts.test (start / g.blockSize) then .error .foreign
  else
    let size := r.word start
    if size = 0 then .error .doubleFree
    else if size > g.capacity ∨ start + g.blocksFor size * g.blockSize > r.cursor then
      .error .foreign
    else if !r.bitmap.test (start / g.blockSize) then .error .foreign
    else .ok ⟨i, off, size⟩

/-- Walks the regions for the first one whose range holds `p`: at or past its base, with an
offset of at least one word and below its cursor. -/
def lookupFrom (a : Arena) (p : Nat) : List (Nat × Region) → Except ArenaError Resolved
  | [] => .error .foreign
  | (i, r) :: rest =>
    let b := a.base i
    if b ≤ p ∧ wordSize ≤ p - b ∧ p - b < r.cursor then a.resolveIn i r (p - b)
    else a.lookupFrom p rest

/-- Resolves a pointer to a live allocation. -/
def lookup (a : Arena) (p : Ptr) : Except ArenaError Resolved :=
  if a.destroyed then .error .destroyed
  else if p = 0 then .error .foreign
  else a.lookupFrom p.toNat (a.regions.toList.zipIdx.map Prod.swap)

/-- Zeroes the blocks of the allocation at `res`, clears their bitmap bits and records the
allocation freed. -/
def release (a : Arena) (res : Resolved) : Arena :=
  let g := a.geometry
  let start := res.offset - wordSize
  let blocks := g.blocksFor res.size
  { a with regions := a.regions.modify res.region fun r =>
      let cleared := (r.writeBytes start (ByteArray.mk (Array.replicate (blocks * g.blockSize) 0))).mark
        (start / g.blockSize) blocks false
      { cleared with allocations := cleared.allocations.map fun al =>
          if al.start = start then { al with live := false } else al } }

/-- Frees the allocation of `p`. -/
def free (a : Arena) (p : Ptr) : Except ArenaError Arena := do
  let res ← a.lookup p
  return a.release res

/-- The bytes of region `i` from offset `off`. -/
def readAt (a : Arena) (i off n : Nat) : ByteArray :=
  (a.regions[i]?.getD Region.empty).read off n

/-- Writes bytes into region `i` at offset `off`. -/
def writeAt (a : Arena) (i off : Nat) (bytes : ByteArray) : Arena :=
  { a with regions := a.regions.modify i (·.writeBytes off bytes) }

/-- Moves the allocation of `p` to a fresh one of `newSize` bytes, which may not be smaller:
it copies `min newSize (capacity - offset)` bytes read from the old offset once the new size
word is written, then frees the old allocation. -/
def realloc (a : Arena) (p : Ptr) (newSize : UInt64) : Except ArenaError (Arena × Ptr) := do
  let res ← a.lookup p
  if newSize.toNat < res.size then throw .shrink
  let (a', i, off) ← a.allocAt newSize.toNat
  let n := min newSize.toNat (a'.geometry.capacity - res.offset)
  let copied := a'.writeAt i off (a'.readAt res.region res.offset n)
  return (copied.release res, a'.ptr i off)

/-- Copies `bytes` with a terminating zero byte into a fresh allocation. -/
def strdup (a : Arena) (bytes : ByteArray) : Except ArenaError (Arena × Ptr) := do
  let (a, i, off) ← a.allocAt (bytes.size + 1)
  return (a.writeAt i off bytes, a.ptr i off)

/-- The payload of `p`: exactly its recorded size. -/
def bytes (a : Arena) (p : Ptr) : Except ArenaError ByteArray := do
  let res ← a.lookup p
  return a.readAt res.region res.offset res.size

/-- The payload of `p` less one trailing zero byte. -/
def string (a : Arena) (p : Ptr) : Except ArenaError ByteArray := do
  let b ← a.bytes p
  if b.data.back? = some 0 then return b.extract 0 (b.size - 1) else return b

/-- The recorded size of `p`. -/
def sizeOf (a : Arena) (p : Ptr) : Except ArenaError Nat := do
  return (← a.lookup p).size

/-- Whether `p` names a live allocation. -/
def owns (a : Arena) (p : Ptr) : Bool := (a.lookup p).toBool

/-- Writes `bytes` into the payload of `p` at offset `pos`; `none` when they do not fit. -/
def write (a : Arena) (p : Ptr) (pos : Nat) (bytes : ByteArray) :
    Except ArenaError (Option Arena) := do
  let res ← a.lookup p
  if pos + bytes.size > res.size then return none
  return some (a.writeAt res.region (res.offset + pos) bytes)

/-- Forgets every allocation: the first region is cleared and rewound, the others dropped. -/
def reset (a : Arena) : Except ArenaError Arena :=
  if a.destroyed then .error .destroyed
  else .ok { a with regions := #[Region.empty] }

/-- Drops every region for good. -/
def destroy (a : Arena) : Except ArenaError Arena :=
  if a.destroyed then .error .destroyed
  else .ok { a with regions := #[], destroyed := true }

end Arena

end Combinatory
