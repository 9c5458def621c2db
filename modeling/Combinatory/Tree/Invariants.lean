import Combinatory.Tree.Basic

/-!
# Structural checks of a syntax tree

The span check asks that statements be ordered, disjoint and inside the file, and every
expression inside its statement; the curried check that every abstraction bind one parameter.
-/

namespace Combinatory

namespace Invariants

/-- The failures below expression `i`, in pre-order, for an expression inside `outer`. -/
def spanFailures (t : Tree) (outer : Span) : Nat → Nat → List String
  | 0, _ => []
  | fuel + 1, i =>
    let e := t.expr i
    let sp := e.span
    if !outer.contains sp then [s!"{e.kindName} span {sp.render} outside {outer.render}"]
    else match e with
      | .app l r _ =>
        let ls := t.exprSpan l
        let rs := t.exprSpan r
        if !sp.contains ls || !sp.contains rs then
          [s!"application {sp.render} does not cover {ls.render} and {rs.render}"]
        else spanFailures t outer fuel l ++ spanFailures t outer fuel r
      | .abs _ body _ =>
        let bs := t.exprSpan body
        if !sp.contains bs then [s!"abstraction {sp.render} does not cover body {bs.render}"]
        else spanFailures t outer fuel body
      | .ref .. => []

/-- Checks the statements from index `idx` on, the previous one ending at `prevEnd`. -/
def spanStmts (t : Tree) (file size : Nat) : Nat → Nat → List Nat → Except String Unit
  | _, _, [] => .ok ()
  | idx, prevEnd, s :: rest => do
    let st := t.stmt s
    let sp := st.span
    if sp.isEmpty then throw s!"stmt {idx}: empty span {sp.render}"
    if sp.file ≠ file then
      throw s!"stmt {idx}: span file mismatch: got={sp.file} want={file}"
    if sp.stop > size then throw s!"stmt {idx}: span end beyond content: {sp.stop} > {size}"
    if sp.start < prevEnd then throw s!"stmt {idx}: span {sp.render} overlaps the previous statement"
    let v := (t.ident st.var).span
    if !sp.contains v then throw s!"stmt {idx}: name span {v.render} outside {sp.render}"
    match (spanFailures t sp (t.exprs.size + 1) st.expr).getLast? with
    | some msg => throw s!"stmt {idx} ({t.stmtName s}): {msg}"
    | none => spanStmts t file size (idx + 1) sp.stop rest

/-- The abstractions below expression `i` that bind other than one parameter, as failure
texts for statement `name`, in pre-order. -/
def curryFailures (t : Tree) (name : String) : Nat → Nat → List String
  | 0, _ => []
  | fuel + 1, i =>
    match t.expr i with
    | .app l r _ => curryFailures t name fuel l ++ curryFailures t name fuel r
    | .abs params body sp =>
      let n := (t.chain params).length
      if n ≠ 1 then [s!"{name}: abstraction at {sp.render} binds {n} parameters"]
      else curryFailures t name fuel body
    | .ref .. => []

end Invariants

/-- Checks the spans of program `prog` against a file with id `file` and `size` bytes. -/
def Tree.checkSpans (t : Tree) (prog file size : Nat) : Except String Unit :=
  Invariants.spanStmts t file size 0 0 (t.programStmts prog)

/-- Checks that every abstraction of program `prog` binds one parameter; the failure is the
last one met in the first statement that has one. -/
def Tree.checkCurried (t : Tree) (prog : Nat) : Except String Unit :=
  let failure := (t.programStmts prog).findSome? fun s =>
    (Invariants.curryFailures t (t.stmtName s) (t.exprs.size + 1) (t.stmt s).expr).getLast?
  match failure with
  | some msg => .error msg
  | none => .ok ()

end Combinatory
