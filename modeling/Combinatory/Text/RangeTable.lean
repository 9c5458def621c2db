import Combinatory.Number.Power

/-!
# Tables of code point ranges

A character property as a sorted array of disjoint ranges with values, written as literal
arrays so that a look-up evaluates in the logic too; `RangeTable.find?` searches by bisection.
-/

namespace Combinatory

/-- Sorted, disjoint, inclusive code point ranges with a value each. -/
structure RangeTable where
  entries : Array (Nat × Nat × Nat)
  deriving Inhabited

namespace RangeTable

/-- The entry for the code points `lo` to `hi`, both included, with value `v`. -/
def entry (lo hi v : Nat) : Nat × Nat × Nat := (lo, hi, v)

/-- Binary search for the range holding `c` among entries `[lo, hi)`. -/
def search (t : RangeTable) (c lo hi : Nat) : Option Nat :=
  if h : lo < hi then
    let mid := (lo + hi) / 2
    match t.entries[mid]? with
    | none => none
    | some (a, b, v) =>
      if c < a then t.search c lo mid
      else if b < c then t.search c (mid + 1) hi
      else some v
  else none
termination_by hi - lo

/-- The value of the range holding `c`, if any. -/
def find? (t : RangeTable) (c : Nat) : Option Nat := t.search c 0 t.entries.size

/-- Whether some range holds `c`. -/
def contains (t : RangeTable) (c : Nat) : Bool := (t.find? c).isSome

end RangeTable

end Combinatory
