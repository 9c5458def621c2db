import Combinatory.Scope.Binders

/-!
# The binder stack as an array of slots

An array of slots and the index of the first free one. A push onto a full array doubles it, a
pop that leaves it mostly empty halves it (not below `Binders.initialCap`), and lookups scan
the used slots from the top.
-/

namespace Combinatory

/-- A slot of the binder array: a name and a token, and whether it marks a boundary. A free
slot holds the zero slot, `default`. -/
structure BinderSlot where
  name : String
  tok : Nat
  boundary : Bool
  deriving DecidableEq, Repr, Inhabited

/-- The binder stack as it is laid out: the slots, and the number of entries, which is the
index of the first free slot. -/
structure BinderArray where
  items : Array BinderSlot
  top : Nat
  deriving Inhabited

namespace BinderArray

/-- A new stack: `Binders.initialCap` free slots. -/
def new : BinderArray := ⟨Array.replicate Binders.initialCap default, 0⟩

/-- Copies the slots of `src` over the first slots of `dst`, as many as both have. -/
def copyInto (dst src : Array BinderSlot) : Array BinderSlot :=
  dst.mapIdx fun i d => src.getD i d

/-- A fresh array of `n` slots holding the first `k` slots of `items`. -/
def resized (items : Array BinderSlot) (k n : Nat) : Array BinderSlot :=
  copyInto (Array.replicate n default) (items.extract 0 k)

/-- Stores `e` in the first free slot, after doubling a full array. -/
def push (b : BinderArray) (e : BinderSlot) : BinderArray :=
  let items := if b.top = b.items.size then resized b.items b.top (b.items.size * 2) else b.items
  ⟨items.setIfInBounds b.top e, b.top + 1⟩

/-- Pushes a parameter. -/
def pushParam (b : BinderArray) (name : String) (tok : Nat) : BinderArray :=
  b.push ⟨name, tok, false⟩

/-- Pushes a boundary: a slot with no name and the mark set. -/
def pushBoundary (b : BinderArray) : BinderArray := b.push ⟨"", 0, true⟩

/-- Frees the top slot; `false` when there is none. The freed slot is cleared, then the array
shrinks when it is large and mostly free. -/
def pop (b : BinderArray) : BinderArray × Bool :=
  if b.top = 0 then (b, false)
  else
    let top := b.top - 1
    let items := b.items.setIfInBounds top default
    let c := items.size
    if c > Binders.initialCap ∧ top + Binders.slack < c / 5 then
      (⟨resized items top (max (c / 2) Binders.initialCap), top⟩, true)
    else (⟨items, top⟩, true)

/-- The token of the topmost parameter named `name` among the slots below `i`. -/
def lookupBelow (items : Array BinderSlot) (name : String) : Nat → Option Nat
  | 0 => none
  | i + 1 =>
    let e := items.getD i default
    if !e.boundary && e.name == name then some e.tok else lookupBelow items name i

/-- The token of the topmost parameter named `name`. -/
def lookup? (b : BinderArray) (name : String) : Option Nat := lookupBelow b.items name b.top

/-- Whether a parameter named `name` is in scope. -/
def contains (b : BinderArray) (name : String) : Bool := (b.lookup? name).isSome

/-- The slots below `i` above the nearest boundary. -/
def frameBelow (items : Array BinderSlot) : Nat → Nat
  | 0 => 0
  | i + 1 => if (items.getD i default).boundary then 0 else frameBelow items i + 1

/-- The number of parameters above the topmost boundary. -/
def frameLen (b : BinderArray) : Nat := frameBelow b.items b.top

/-- The number of entries, boundaries included. -/
def len (b : BinderArray) : Nat := b.top

/-- The number of slots. -/
def cap (b : BinderArray) : Nat := b.items.size

/-- Empties the stack: a fresh array when the capacity has moved from `Binders.initialCap`,
else the used slots are zeroed. -/
def clear (b : BinderArray) : BinderArray :=
  if b.items.size ≠ Binders.initialCap then new
  else ⟨b.items.mapIdx fun i e => if i < b.top then default else e, 0⟩

end BinderArray

end Combinatory
