import Combinatory.Tree.Basic

/-!
# Currying abstractions, and occurrence of names

Currying rewrites every abstraction in place to bind one parameter: `λx,y,z.E` becomes
`λx.λy.λz.E`. `occurs` tells whether a name is referenced in an expression.
-/

namespace Combinatory

namespace Curry

/-- Wraps `body` in one abstraction per identifier of the chain from `param`, the first
identifier outermost; the innermost abstraction is built first. -/
def wrap : Nat → Nat → Nat → StateM Tree (Option Nat)
  | 0, _, _ => return none
  | fuel + 1, param, body => do
    let inner ← match ← Tree.detach param with
      | some next => wrap fuel next body
      | none => pure (some body)
    match inner with
    | none => return none
    | some b => Tree.newAbs ((← get).ident param).span (some param) (some b)

/-- Curries every abstraction below expression `i`. -/
def expr : Nat → Nat → StateM Tree Unit
  | 0, _ => return
  | fuel + 1, i => do
    match (← get).expr i with
    | .app l r _ =>
      expr fuel l
      expr fuel r
    | .abs params body _ =>
      let body ← match ← Tree.detach params with
        | none => pure (some body)
        | some rest => do
          match ← wrap ((← get).idents.size + 1) rest body with
          | none => pure none
          | some b =>
            Tree.setAbs i params b
            pure (some b)
      match body with
      | some b => expr fuel b
      | none => return
    | .ref .. => return

/-- Curries the statements in order, stopping at the first allocation failure. -/
def stmts : List Nat → StateM Tree Unit
  | [] => return
  | s :: rest => do
    let t ← get
    expr (t.exprs.size + t.idents.size + 1) (t.stmt s).expr
    if (← get).failure.isNone then stmts rest

end Curry

/-- Curries every abstraction of program `prog`. -/
def Tree.curry (t : Tree) (prog : Nat) : Tree :=
  ((Curry.stmts (t.programStmts prog)).run t).2

/-- Whether `name` is referenced in expression `i`, following at most `fuel` records. -/
def Tree.occursIn (t : Tree) (name : String) : Nat → Nat → Bool
  | 0, _ => false
  | fuel + 1, i =>
    match t.expr i with
    | .ref v _ => t.name v = name
    | .app l r _ => t.occursIn name fuel l || t.occursIn name fuel r
    | .abs _ body _ => t.occursIn name fuel body

/-- Whether `name` is referenced in expression `i`. -/
def Tree.occurs (t : Tree) (i : Nat) (name : String) : Bool :=
  t.occursIn name (t.exprs.size + 1) i

end Combinatory
