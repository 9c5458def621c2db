import Combinatory.NameMap
import Combinatory.Compress.XxHash

/-!
# Hash maps with separate chaining

A power of two of buckets, each with an inline head and an overflow chain; the array doubles
once the ratio of names to buckets reaches the load threshold. The hash is a parameter; the
program's maps hash a name's bytes with 64-bit xxHash (`nameHash`).
-/

namespace Combinatory

/-- A bucket: its inline head, when used, and the overflow chain behind it. -/
structure Bucket (α : Type) where
  head : Option (String × α)
  chain : List (String × α)
  deriving Inhabited

namespace Bucket

variable {α : Type}

/-- A bucket with nothing in it. -/
def empty : Bucket α := ⟨none, []⟩

/-- The entries of a bucket, from the head along the chain; behind an unused head nothing is
reached. -/
def entries (b : Bucket α) : List (String × α) :=
  match b.head with
  | none => []
  | some e => e :: b.chain

/-- The value of `key`, walking from the head. -/
def find? (b : Bucket α) (key : String) : Option α :=
  (b.entries.find? (·.1 = key)).map (·.2)

/-- Stores a new entry: in the head when it is unused (whatever hung behind it is dropped),
else linked in right behind the head. -/
def place (b : Bucket α) (key : String) (value : α) : Bucket α :=
  match b.head with
  | none => ⟨some (key, value), []⟩
  | some e => ⟨some e, (key, value) :: b.chain⟩

/-- Gives the first entry of `key` along a chain the value `value`. -/
def setFirst (key : String) (value : α) : List (String × α) → List (String × α)
  | [] => []
  | e :: es => if e.1 = key then (key, value) :: es else e :: setFirst key value es

/-- Gives the first entry of `key` the value `value`. -/
def setValue (b : Bucket α) (key : String) (value : α) : Bucket α :=
  match b.head with
  | none => b
  | some e =>
    if e.1 = key then ⟨some (key, value), b.chain⟩ else ⟨some e, setFirst key value b.chain⟩

/-- Unlinks the first entry of `key` from a chain: the chain left and the value unlinked. -/
def unlink (key : String) : List (String × α) → Option (List (String × α) × α)
  | [] => none
  | e :: es =>
    if e.1 = key then some (es, e.2) else (unlink key es).map fun (rest, v) => (e :: rest, v)

/-- Removes the first entry of `key`: the bucket left and the value removed. A removed head
takes the place of the first chained entry, or leaves the bucket unused. -/
def remove (b : Bucket α) (key : String) : Option (Bucket α × α) :=
  match b.head with
  | none => none
  | some e =>
    if e.1 = key then
      match b.chain with
      | [] => some (empty, e.2)
      | next :: rest => some (⟨some next, rest⟩, e.2)
    else (unlink key b.chain).map fun (rest, v) => (⟨some e, rest⟩, v)

end Bucket

/-- A hash map with separate chaining: the buckets, the number of entries and the load
threshold. -/
structure ChainedMap (α : Type) where
  buckets : Array (Bucket α)
  count : Nat
  threshold : Dyadic
  deriving Inhabited

namespace ChainedMap

variable {α : Type} (hash : String → UInt64)

/-- The hash of the program's maps: the 64-bit xxHash of a name's bytes. -/
def nameHash (key : String) : UInt64 := XxHash.hash64 key.toUTF8

/-- The bucket of `key` among `n`: its hash masked by `n - 1`. -/
def index (key : String) (n : Nat) : Nat := (hash key &&& (n - 1).toUInt64).toNat

/-- An empty map with `NameMap.roundPow2 n` buckets. -/
def empty (n : Nat) (threshold : Dyadic) : ChainedMap α :=
  ⟨Array.replicate (NameMap.roundPow2 n) Bucket.empty, 0, threshold⟩

/-- An empty map; at least one bucket and a threshold of at least `0.75` are required. -/
def make (buckets : Int) (loadFactor : Float) : Except NameMapError (ChainedMap α) :=
  if buckets ≤ 0 then .error .noBuckets
  else
    let t := Dyadic.ofFloat loadFactor
    if t.below 3 4 then .error .lowLoadFactor
    else .ok (empty buckets.toNat t)

/-- The number of entries. -/
def size (m : ChainedMap α) : Nat := m.count

/-- The bucket `key` belongs to. -/
def bucket (m : ChainedMap α) (key : String) : Bucket α :=
  m.buckets.getD (index hash key m.buckets.size) Bucket.empty

/-- The value of `key`. -/
def get? (m : ChainedMap α) (key : String) : Option α := (m.bucket hash key).find? key

/-- Whether `key` is mapped. -/
def contains (m : ChainedMap α) (key : String) : Bool := (m.get? hash key).isSome

/-- Changes the bucket `key` belongs to. -/
def modifyBucket (m : ChainedMap α) (key : String) (f : Bucket α → Bucket α) : ChainedMap α :=
  { m with buckets := m.buckets.modify (index hash key m.buckets.size) f }

/-- The entries in bucket order, each bucket from its head: the order of a walk over the
map. -/
def toList (m : ChainedMap α) : List (String × α) := m.buckets.toList.flatMap Bucket.entries

/-- Places the entries `es`, in order, in the buckets of `bs`. -/
def placeAll (bs : Array (Bucket α)) (es : List (String × α)) : Array (Bucket α) :=
  es.foldl (fun bs e => bs.modify (index hash e.1 bs.size) (·.place e.1 e.2)) bs

/-- Doubles the buckets, placing every entry again. -/
def grow (m : ChainedMap α) : ChainedMap α :=
  { m with buckets := placeAll hash (Array.replicate (2 * m.buckets.size) Bucket.empty) m.toList }

/-- Maps `key` to `value`; the value replaced, if `key` was mapped. A new name is counted,
and the buckets double once the ratio of names to buckets reaches the threshold. -/
def insert (m : ChainedMap α) (key : String) (value : α) : ChainedMap α × Option α :=
  match m.get? hash key with
  | some old => (m.modifyBucket hash key (·.setValue key value), some old)
  | none =>
    let m := { m.modifyBucket hash key (·.place key value) with count := m.count + 1 }
    if Dyadic.ratioAtLeast m.count m.buckets.size m.threshold then (m.grow hash, none)
    else (m, none)

/-- Removes `key`; the value removed, if `key` was mapped. -/
def erase (m : ChainedMap α) (key : String) : ChainedMap α × Option α :=
  match (m.bucket hash key).remove key with
  | none => (m, none)
  | some (b, v) => ({ m.modifyBucket hash key (fun _ => b) with count := m.count - 1 }, some v)

/-- The entries a callback answering `fn` is given, in bucket order: up to the first it
answers `false`, that one included. -/
def visit (fn : String → α → Bool) : List (String × α) → List (String × α)
  | [] => []
  | e :: es => if fn e.1 e.2 then e :: visit fn es else [e]

/-- The entries a walk over the map with callback `fn` is given. -/
def range (m : ChainedMap α) (fn : String → α → Bool) : List (String × α) := visit fn m.toList

/-- Empties the map, keeping the number of buckets; every value it held, in bucket order. -/
def free (m : ChainedMap α) : ChainedMap α × List α :=
  ({ m with buckets := Array.replicate m.buckets.size Bucket.empty, count := 0 },
    m.toList.map (·.2))

end ChainedMap

end Combinatory
