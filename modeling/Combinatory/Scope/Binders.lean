import Combinatory.Number.Power

/-!
# The stack of binders in scope

The parameters of the enclosing abstractions, with boundary marks between groups; a lookup
searches from the top through the boundaries. The capacity doubles and halves as the stack
grows and shrinks.
-/

namespace Combinatory

/-- An entry of the binder stack. -/
inductive Binder where
  | param (name : String) (tok : Nat)
  | boundary
  deriving DecidableEq, Repr, Inhabited

/-- A binder stack: its entries, bottom first, and its capacity. -/
structure Binders where
  items : List Binder
  cap : Nat
  deriving DecidableEq, Repr, Inhabited

namespace Binders

/-- The capacity of a new or cleared stack. -/
def initialCap : Nat := 20

/-- How far below a fifth of the capacity the stack must fall before it shrinks. -/
def slack : Nat := 10

/-- An empty stack. -/
def empty : Binders := ⟨[], initialCap⟩

/-- The number of entries, boundaries included. -/
def len (b : Binders) : Nat := b.items.length

/-- Pushes an entry, doubling the capacity when full. -/
def push (b : Binders) (e : Binder) : Binders :=
  { items := b.items ++ [e], cap := if b.len = b.cap then 2 * b.cap else b.cap }

/-- Pushes a parameter. -/
def pushParam (b : Binders) (name : String) (tok : Nat) : Binders := b.push (.param name tok)

/-- Pushes a boundary. -/
def pushBoundary (b : Binders) : Binders := b.push .boundary

/-- Pops the top entry; `false` when the stack is empty. -/
def pop (b : Binders) : Binders × Bool :=
  if b.items.isEmpty then (b, false)
  else
    let items := b.items.dropLast
    let cap := if b.cap > initialCap ∧ items.length + slack < b.cap / 5 then max (b.cap / 2) initialCap
      else b.cap
    (⟨items, cap⟩, true)

/-- The token of the topmost parameter named `name`. -/
def lookup? (b : Binders) (name : String) : Option Nat :=
  b.items.reverse.findSome? fun e => match e with
    | .param n t => if n = name then some t else none
    | .boundary => none

/-- Whether a parameter named `name` is in scope. -/
def contains (b : Binders) (name : String) : Bool := (b.lookup? name).isSome

/-- The number of parameters above the topmost boundary. -/
def frameLen (b : Binders) : Nat := (b.items.reverse.takeWhile (· ≠ .boundary)).length

/-- Empties the stack and resets its capacity. -/
def clear (_ : Binders) : Binders := empty

end Binders

end Combinatory
