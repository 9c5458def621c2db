import Combinatory.Arena.Ops

/-!
# Region arenas: the methods, run in place

The operations of `Combinatory.Arena.Ops` as methods that change one arena in place, in
`EStateM`: a failure carries the arena as it stands, with any change made before it.
-/

namespace Combinatory

namespace Arena

/-- A method run on an arena in place; a failure keeps the arena as it stands when raised. -/
abbrev Method := EStateM ArenaError Arena

namespace Method

/-- Resolves a pointer to a live allocation, changing nothing. -/
def lookup (p : Ptr) : Method Resolved := do
  MonadExcept.ofExcept ((← get).lookup p)

/-- The allocation behind every allocating method: the checks in order, then a fresh region
appended when the last one is full, then the size word, the bitmaps and the cursor of the last
region. The result is the region index and the payload offset. -/
def allocIn (size : Nat) : Method (Nat × Nat) := do
  let a ← get
  if a.destroyed then throw .destroyed
  else if size = 0 then throw .zeroSize
  else if size > a.geometry.capacity then throw .tooLarge
  else
    let blocks := a.geometry.blocksFor size
    let need := blocks * a.geometry.blockSize
    if need > a.geometry.capacity then throw .tooLarge
    else
      if (a.regions.back?.getD Region.empty).cursor + need > a.geometry.capacity then
        if a.regions.size ≥ a.geometry.maxRegions then throw .exhausted
        else set { a with regions := a.regions.push Region.empty }
      let a ← get
      let start := (a.regions.back?.getD Region.empty).cursor
      set (a.commit ⟨a.regions.size - 1, start, blocks⟩ size)
      return (a.regions.size - 1, start + wordSize)

/-- `Alloc`. -/
def alloc (size : UInt64) : Method Ptr := do
  let (i, off) ← allocIn size.toNat
  return (← get).ptr i off

/-- `AllocArray`: a product past 64 bits is refused before anything else. -/
def allocArray (elem count : UInt64) : Method Ptr :=
  if elem.toNat * count.toNat ≥ 2 ^ 64 then throw .tooLarge
  else alloc (elem * count)

/-- `Strdup`: the bytes are copied into a fresh allocation one byte longer, whose last byte is
the zero it was allocated with. -/
def strdup (bytes : ByteArray) : Method Ptr := do
  let (i, off) ← allocIn (bytes.size + 1)
  modify (·.writeAt i off bytes)
  return (← get).ptr i off

/-- `Free`. -/
def free (p : Ptr) : Method Unit := do
  let res ← lookup p
  modify (·.release res)

/-- `Bytes`. -/
def bytes (p : Ptr) : Method ByteArray := do
  let res ← lookup p
  return (← get).readAt res.region res.offset res.size

/-- `SizeOf`. -/
def sizeOf (p : Ptr) : Method Nat := do
  return (← lookup p).size

/-- `String`: the payload less one trailing zero byte. -/
def string (p : Ptr) : Method ByteArray := do
  let b ← bytes p
  if b.data.back? = some 0 then return b.extract 0 (b.size - 1) else return b

/-- `Realloc`: the copy is read from the old offset once the new allocation is made, and the
old allocation is released last. -/
def realloc (p : Ptr) (newSize : UInt64) : Method Ptr := do
  let res ← lookup p
  if newSize.toNat < res.size then throw .shrink
  let (i, off) ← allocIn newSize.toNat
  let a ← get
  let n := min newSize.toNat (a.geometry.capacity - res.offset)
  set (a.writeAt i off (a.readAt res.region res.offset n))
  modify (·.release res)
  return a.ptr i off

/-- `Reset`. -/
def reset : Method Unit := do
  let a ← get
  if a.destroyed then throw .destroyed
  set { a with regions := #[Region.empty] }

/-- `Destroy`. -/
def destroy : Method Unit := do
  let a ← get
  if a.destroyed then throw .destroyed
  set { a with regions := #[], destroyed := true }

end Method

end Arena

end Combinatory
