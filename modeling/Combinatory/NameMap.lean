import Combinatory.Number.Dyadic

/-!
# Maps from names with a bucket count and a load threshold

A finite map from strings, with a power-of-two bucket count that doubles when the load
threshold is reached. The operations that drop a value hand it back, so an owner can release
each value once.
-/

namespace Combinatory

/-- Why a name map cannot be made. -/
inductive NameMapError where
  | noBuckets
  | lowLoadFactor
  deriving DecidableEq, Repr, Inhabited

/-- The text of each failure. -/
def NameMapError.message : NameMapError → String
  | .noBuckets => "hashmap: zero buckets"
  | .lowLoadFactor => "hashmap: load factor below 0.75"

/-- A map from names to values, in insertion order. -/
structure NameMap (α : Type) where
  entries : List (String × α)
  buckets : Nat
  threshold : Dyadic
  deriving Inhabited

namespace NameMap

variable {α : Type}

/-- The least power of two that is at least `n` (one for `n ≤ 1`). -/
def roundPow2 (n : Nat) : Nat := if n ≤ 1 then 1 else 2 ^ (Nat.log2 (n - 1) + 1)

/-- An empty map; at least one bucket and a threshold of at least `0.75` are required. -/
def make (buckets : Int) (loadFactor : Float) : Except NameMapError (NameMap α) :=
  if buckets ≤ 0 then .error .noBuckets
  else
    let t := Dyadic.ofFloat loadFactor
    if t.below 3 4 then .error .lowLoadFactor
    else .ok ⟨[], roundPow2 buckets.toNat, t⟩

/-- The number of names. -/
def size (m : NameMap α) : Nat := m.entries.length

/-- The value of a name. -/
def get? (m : NameMap α) (k : String) : Option α := (m.entries.find? (·.1 = k)).map (·.2)

/-- Whether a name is mapped. -/
def contains (m : NameMap α) (k : String) : Bool := (m.get? k).isSome

/-- Maps `k` to `v`; the replaced value, if `k` was mapped. Adding a name doubles the buckets
when the ratio of names to buckets reaches the threshold. -/
def insert (m : NameMap α) (k : String) (v : α) : NameMap α × Option α :=
  match m.get? k with
  | some old => ({ m with entries := m.entries.map fun e => if e.1 = k then (k, v) else e }, some old)
  | none =>
    let entries := m.entries ++ [(k, v)]
    let buckets := if Dyadic.ratioAtLeast entries.length m.buckets m.threshold then 2 * m.buckets
      else m.buckets
    ({ m with entries, buckets }, none)

/-- Removes `k`; the removed value, if `k` was mapped. -/
def erase (m : NameMap α) (k : String) : NameMap α × Option α :=
  match m.get? k with
  | some old => ({ m with entries := m.entries.filter (·.1 ≠ k) }, some old)
  | none => (m, none)

/-- Empties the map, keeping its buckets; every value it held. -/
def free (m : NameMap α) : NameMap α × List α := ({ m with entries := [] }, m.entries.map (·.2))

/-- The names, sorted. -/
def names (m : NameMap α) : List String := (m.entries.map (·.1)).mergeSort (· ≤ ·)

/-- The entries sorted by name. -/
def sorted (m : NameMap α) : List (String × α) := m.entries.mergeSort (fun a b => a.1 ≤ b.1)

end NameMap

end Combinatory
