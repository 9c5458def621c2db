import Combinatory.Tree.Basic

/-!
# Building programs through the constructors

A program built directly from sketches of its statements. Once an allocation has failed a
missing part is expected; before that, a missing part stops the build with the constructor's
complaint.
-/

namespace Combinatory

/-- A sketch of an expression; `none` stands for a missing part. -/
inductive Sketch where
  | ref (name : String) (span : Span)
  | app (left right : Option Sketch)
  | abs (params : List (String × Span)) (body : Option Sketch) (span : Span)
  deriving Inhabited

/-- A sketch of a statement. -/
structure StmtSketch where
  name : String
  nameSpan : Span
  span : Span
  expr : Option Sketch
  missingVar : Bool
  deriving Inhabited

namespace Build

/-- Building over a tree; a broken invariant stops with its complaint. -/
abbrev BuildM := StateT Tree (Except String)

/-- Runs a constructor; one given a missing part stops the build with its complaint. -/
def onTree {α} (f : StateM Tree α) : BuildM α := do
  let (a, t) := f.run (← get)
  if let some msg := t.crash then throw msg
  set t
  return a

/-- An identifier with its token, in front of chain `next`. -/
def ident (f : SourceFile) (name : String) (sp : Span) (next : Option Nat) :
    BuildM (Option Nat) := do
  let s := f.lineCol sp.start
  let e := f.lineCol sp.stop
  onTree (Tree.newIdent (← onTree (Tree.newToken name s.line s.col e.col sp)) next)

/-- A parameter chain, built from the last parameter to the first. -/
def chain (f : SourceFile) : List (String × Span) → Option Nat → BuildM (Option Nat)
  | [], next => return next
  | (name, sp) :: rest, next => do
    let next ← ident f name sp next
    chain f rest next

/-- An expression. -/
def expr (f : SourceFile) : Option Sketch → BuildM (Option Nat)
  | none => return none
  | some (.ref name sp) => do onTree (Tree.newRef (← ident f name sp none))
  | some (.app l r) => do
    let left ← expr f l
    let right ← expr f r
    onTree (Tree.newApp left right)
  | some (.abs ps body sp) => do
    let params ← chain f ps.reverse none
    let b ← expr f body
    onTree (Tree.newAbs sp params b)

/-- A statement. -/
def stmt (f : SourceFile) (s : StmtSketch) : BuildM (Option Nat) := do
  let v ← if s.missingVar then pure none else ident f s.name s.nameSpan none
  let e ← expr f s.expr
  onTree (Tree.newStmt v e s.span)

end Build

/-- Builds the program of the sketched statements into `t`, for file `f` under file name
`filename`: the tree and the program record (none after an allocation failure), or the
complaint of the constructor whose invariant a missing part broke. -/
def Tree.build (t : Tree) (f : SourceFile) (filename : String) (stmts : List StmtSketch) :
    Except String (Option Nat × Tree) := do
  let run : Build.BuildM (Option Nat) := do
    let mut ids : List Nat := []
    for s in stmts do
      if let some i ← Build.stmt f s then ids := ids ++ [i]
    Build.onTree (Tree.newProgram filename ids)
  run.run t

end Combinatory
