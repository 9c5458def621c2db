import Combinatory.Tree.Basic

/-!
# Combinator terms

Terms over `S` and `K` are graphs of nodes in a store next to the syntax tree, charged to its
arena at 24 bytes a node. `S` and `K` are built once and shared; after the first allocation
failure no node is built, and before it a node given a missing part stops the program.
-/

namespace Combinatory

/-- A combinator node. -/
inductive Node where
  | s
  | k
  | app (left right : Nat)
  | ref (target stmt : Nat)
  | free (ident : Nat)
  deriving DecidableEq, Repr, Inhabited

namespace Node

/-- The stored discriminant of each kind of node. -/
def code : Node → Nat
  | .s => 1
  | .k => 2
  | .app .. => 3
  | .ref .. => 4
  | .free .. => 5

/-- The name of the kind with discriminant `n`. -/
def kindNameOf : Nat → String
  | 1 => "S"
  | 2 => "K"
  | 3 => "App"
  | 4 => "Ref"
  | 5 => "FreeLeaf"
  | _ => "Invalid"

/-- The name of a node's kind. -/
def kindName (n : Node) : String := kindNameOf n.code

end Node

/-- A store of combinator nodes over a syntax tree. -/
structure Store where
  tree : Tree
  nodes : Array Node
  sNode : Option Nat
  kNode : Option Nat
  failure : Option ArenaError
  deriving Inhabited

namespace Store

/-- Bytes charged for a node. -/
def nodeSize : Nat := 24

/-- An empty store over `t`. -/
def ofTree (t : Tree) : Store := ⟨t, #[], none, none, none⟩

/-- The text of the kept failure. -/
def failureMessage (e : ArenaError) : String := "sk: " ++ e.message

/-- Node `i`. -/
def node (st : Store) (i : Nat) : Node := st.nodes[i]?.getD default

/-- Allocates a node. -/
def newNode (n : Node) : StateM Store (Option Nat) := do
  let st ← get
  if st.failure.isSome then return none
  match st.tree.arena.alloc nodeSize.toUInt64 with
  | .ok (a, _) =>
    set { st with tree := { st.tree with arena := a }, nodes := st.nodes.push n }
    return some st.nodes.size
  | .error e =>
    set { st with failure := some e }
    return none

/-- The shared `S` node. -/
def sComb : StateM Store (Option Nat) := do
  match (← get).sNode with
  | some i => return some i
  | none =>
    let i ← newNode .s
    modify fun st => { st with sNode := i }
    return i

/-- The shared `K` node. -/
def kComb : StateM Store (Option Nat) := do
  match (← get).kNode with
  | some i => return some i
  | none =>
    let i ← newNode .k
    modify fun st => { st with kNode := i }
    return i

/-- A node given a missing part: it stops the program and builds nothing. -/
def refuse (msg : String) : StateM Store (Option Nat) := do
  modify fun st => { st with tree := st.tree.crashWith msg }
  return none

/-- An application of two built nodes. -/
def app (l r : Option Nat) : StateM Store (Option Nat) := do
  if (← get).failure.isSome then return none
  match l, r with
  | some l, some r => newNode (.app l r)
  | _, _ => refuse "sk: application with a missing operand"

/-- A reference to the compiled term `target` of statement `stmt`. -/
def ref (target : Option Nat) (stmt : Nat) : StateM Store (Option Nat) := do
  if (← get).failure.isSome then return none
  let some target := target | refuse "sk: reference without target"
  newNode (.ref target stmt)

/-- A free leaf for identifier `ident`. -/
def freeLeaf (ident : Nat) : StateM Store (Option Nat) := newNode (.free ident)

/-- The identity, `S K K`. -/
def identity : StateM Store (Option Nat) := do
  let s ← sComb
  let k ← kComb
  let sk ← app s k
  let k ← kComb
  app sk k

/-- Renders node `i` inline, following at most `fuel` nodes; `paren` asks for parentheses
around an application. -/
def formatAux (st : Store) : Nat → Nat → Bool → String
  | 0, _, _ => "?"
  | fuel + 1, i, paren =>
    match st.node i with
    | .s => "S"
    | .k => "K"
    | .ref _ stmt => st.tree.stmtName stmt
    | .free v => st.tree.name v
    | .app l r =>
      let inner := formatAux st fuel l false ++ " " ++ formatAux st fuel r true
      if paren then "(" ++ inner ++ ")" else inner

/-- Renders node `i` inline. -/
def format (st : Store) (i : Nat) : String := st.formatAux (st.nodes.size + 1) i false

/-- Whether nodes `a` and `b` are the same term: references are equal when they name the
same statement, free leaves when they have the same name. -/
def equalAux (st : Store) : Nat → Nat → Nat → Bool
  | 0, a, b => a = b
  | fuel + 1, a, b =>
    a = b ||
    match st.node a, st.node b with
    | .s, .s => true
    | .k, .k => true
    | .app l r, .app l' r' => st.equalAux fuel l l' && st.equalAux fuel r r'
    | .ref _ s, .ref _ s' => s = s'
    | .free v, .free v' => st.tree.name v = st.tree.name v'
    | _, _ => false

/-- Whether nodes `a` and `b` are the same term. -/
def equal (st : Store) (a b : Nat) : Bool := st.equalAux (st.nodes.size + 1) a b

/-- Whether a free leaf named `name` occurs below node `i`; references are not followed. -/
def containsFreeAux (st : Store) (name : String) : Nat → Nat → Bool
  | 0, _ => false
  | fuel + 1, i =>
    match st.node i with
    | .free v => st.tree.name v = name
    | .app l r => st.containsFreeAux name fuel l || st.containsFreeAux name fuel r
    | _ => false

/-- Whether a free leaf named `name` occurs in the term at node `i`. -/
def containsFree (st : Store) (i : Nat) (name : String) : Bool :=
  st.containsFreeAux name (st.nodes.size + 1) i

/-- The number of nodes of a term, references not followed. -/
def sizeAux (st : Store) : Nat → Nat → Nat
  | 0, _ => 1
  | fuel + 1, i =>
    match st.node i with
    | .app l r => 1 + st.sizeAux fuel l + st.sizeAux fuel r
    | _ => 1

/-- The number of nodes of the term at node `i`. -/
def size (st : Store) (i : Nat) : Nat := st.sizeAux (st.nodes.size + 1) i

/-- The statements referenced below node `i`, in pre-order, left before right. -/
def refsAux (st : Store) : Nat → Nat → List Nat
  | 0, _ => []
  | fuel + 1, i =>
    match st.node i with
    | .app l r => st.refsAux fuel l ++ st.refsAux fuel r
    | .ref _ s => [s]
    | _ => []

/-- The statements referenced in the term at node `i`, in pre-order. -/
def refs (st : Store) (i : Nat) : List Nat := st.refsAux (st.nodes.size + 1) i

/-- The reference nodes below node `i`, as pairs of target and statement, in pre-order. -/
def linksAux (st : Store) : Nat → Nat → List (Nat × Nat)
  | 0, _ => []
  | fuel + 1, i =>
    match st.node i with
    | .app l r => st.linksAux fuel l ++ st.linksAux fuel r
    | .ref t s => [(t, s)]
    | _ => []

/-- The reference nodes of the term at node `i`, as pairs of target and statement. -/
def links (st : Store) (i : Nat) : List (Nat × Nat) := st.linksAux (st.nodes.size + 1) i

end Store

/-- One compiled statement: the statement, its bound identifier and its term. -/
structure Root where
  stmt : Nat
  ident : Nat
  node : Nat
  deriving DecidableEq, Repr, Inhabited

end Combinatory
