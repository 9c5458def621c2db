import Combinatory.Combinator.Store

/-!
# Artifacts: compiled forests as flat node tables

The compiled terms of a program as a table of nodes, children before parents and each node of
the store once; an application names its children by index, a reference the root it names.
-/

namespace Combinatory

/-- One node of an artifact: kind 1 is `S`, 2 `K`, 3 an application, 4 a reference and 5 a
free leaf. -/
structure ArtNode where
  kind : Nat
  a : Int
  b : Int
  name : List UInt8
  deriving DecidableEq, Repr, Inhabited

/-- One root of an artifact: the name of its statement and its node. -/
structure ArtRoot where
  name : List UInt8
  node : Int
  deriving DecidableEq, Repr, Inhabited

/-- A flattened forest. -/
structure Artifact where
  schema : Nat
  source : List UInt8
  nodes : List ArtNode
  roots : List ArtRoot
  deriving DecidableEq, Repr, Inhabited

/-- Why an artifact cannot be built or read. -/
inductive ArtifactError where
  | badMagic
  | schema (v : Nat)
  | corrupt (detail : String)
  | dangling (name : String)
  | badCodec (codec : String)
  | truncated (detail : String)
  | codec (codec : String) (detail : String)
  | codecCorrupt (codec : String)
  deriving DecidableEq, Repr, Inhabited

namespace ArtifactError

/-- The text of each failure. -/
def message : ArtifactError → String
  | .badMagic => "emit: not an skc artifact"
  | .schema v => s!"emit: unsupported artifact schema: {v}"
  | .corrupt "" => "emit: corrupt artifact"
  | .corrupt d => "emit: corrupt artifact: " ++ d
  | .dangling n => "emit: reference to a statement outside the forest: " ++ n
  | .badCodec c => "emit: " ++ c ++ ": emit: unknown codec"
  | .truncated d => "emit: truncated artifact: " ++ d
  | .codec c d => "emit: " ++ c ++ ": " ++ d
  | .codecCorrupt c => "emit: " ++ c ++ ": emit: corrupt artifact"

/-- The name of the failure's kind. -/
def kind : ArtifactError → String
  | .badMagic => "ErrBadMagic"
  | .schema _ => "ErrSchema"
  | .corrupt _ => "ErrCorrupt"
  | .dangling _ => "ErrDangling"
  | .badCodec _ => "ErrBadCodec"
  | .truncated _ => "ErrTruncated"
  | .codec _ _ => "error"
  | .codecCorrupt _ => "ErrCorrupt"

end ArtifactError

namespace Artifact

/-- The schema version written and accepted. -/
def schemaVersion : Nat := 1

/-- The state of a build: the index given to each store node, the root index of each
statement, and the nodes emitted so far. -/
structure BuildState where
  index : Array (Option Nat)
  roots : List (Nat × Nat)
  nodes : Array ArtNode

/-- Emits node `i` after its children; its index. -/
def emit (st : Store) : Nat → Nat → StateT BuildState (Except ArtifactError) Nat
  | 0, _ => throw (.corrupt "node kind Invalid")
  | fuel + 1, i => do
    if let some (some idx) := (← get).index[i]? then return idx
    let n : ArtNode ← match st.node i with
      | .s => pure ⟨1, 0, 0, []⟩
      | .k => pure ⟨2, 0, 0, []⟩
      | .app l r => do
        let left ← emit st fuel l
        let right ← emit st fuel r
        pure ⟨3, left, right, []⟩
      | .ref target stmt => do
        let s ← get
        match s.index[target]?.join, s.roots.lookup stmt with
        | some t, some r => pure ⟨4, t, r, []⟩
        | _, _ => throw (.dangling (st.tree.stmtName stmt))
      | .free v => pure ⟨5, 0, 0, (st.tree.name v).toUTF8.toList⟩
    let s ← get
    let idx := s.nodes.size
    set { s with nodes := s.nodes.push n, index := s.index.set! i (some idx) }
    return idx

/-- Emits the roots from index `k` on. -/
def emitRoots (st : Store) : Nat → List Root → StateT BuildState (Except ArtifactError) (List ArtRoot)
  | _, [] => return []
  | k, r :: rest => do
    let idx ← emit st (st.nodes.size + 1) r.node
    modify fun s => { s with roots := (r.stmt, k) :: s.roots }
    let more ← emitRoots st (k + 1) rest
    return ⟨(st.tree.name r.ident).toUTF8.toList, idx⟩ :: more

end Artifact

/-- The artifact of the roots of a store, for source file `source`. -/
def Store.toArtifact (st : Store) (roots : List Root) (source : String) :
    Except ArtifactError Artifact := do
  let init : Artifact.BuildState := ⟨Array.replicate st.nodes.size none, [], #[]⟩
  let (rs, s) ← (Artifact.emitRoots st 0 roots).run init
  return ⟨Artifact.schemaVersion, source.toUTF8.toList, s.nodes.toList, rs⟩

namespace Artifact

/-- Checks node `i` against the nodes before it. -/
def checkNode (a : Artifact) (i : Nat) (n : ArtNode) : Except ArtifactError Unit :=
  let at_ : Int := i
  match n.kind with
  | 1 | 2 | 5 => .ok ()
  | 3 =>
    if n.a < 0 ∨ n.a ≥ at_ ∨ n.b < 0 ∨ n.b ≥ at_ then .error (.corrupt s!"node {i}") else .ok ()
  | 4 =>
    let target := (a.roots[n.b.toNat]?).map (·.node)
    if n.a < 0 ∨ n.a ≥ at_ ∨ n.b < 0 ∨ n.b ≥ a.roots.length ∨ target ≠ some n.a then
      .error (.corrupt s!"reference at node {i}")
    else .ok ()
  | k => .error (.corrupt s!"node {i} has kind {k}")

/-- Checks the schema, the node table and the roots. -/
def validate (a : Artifact) : Except ArtifactError Unit := do
  if a.schema ≠ schemaVersion then throw (.schema a.schema)
  for (n, i) in a.nodes.zipIdx do
    checkNode a i n
  for (r, i) in a.roots.zipIdx do
    if r.node < 0 ∨ r.node ≥ a.nodes.length then throw (.corrupt s!"root {i}")

/-- Renders node `i` inline, as the store renders terms. -/
def formatAux (a : Artifact) : Nat → Nat → Bool → List UInt8
  | 0, _, _ => "?".toUTF8.toList
  | fuel + 1, i, paren =>
    match a.nodes[i]? with
    | none => "?".toUTF8.toList
    | some n =>
      match n.kind with
      | 1 => [83]
      | 2 => [75]
      | 4 => ((a.roots[n.b.toNat]?).map (·.name)).getD []
      | 5 => n.name
      | 3 =>
        let inner := formatAux a fuel n.a.toNat false ++ [32] ++ formatAux a fuel n.b.toNat true
        if paren then [40] ++ inner ++ [41] else inner
      | _ => "?".toUTF8.toList

/-- Renders root `i` inline. -/
def format (a : Artifact) (i : Nat) : List UInt8 :=
  match a.roots[i]? with
  | some r => a.formatAux (a.nodes.length + 1) r.node.toNat false
  | none => []

end Artifact

end Combinatory
