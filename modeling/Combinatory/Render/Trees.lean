import Combinatory.Render.Outline
import Combinatory.Combinator.Store
import Combinatory.Text.Ansi

/-!
# Drawing syntax trees and compiled terms

A statement is drawn as an outline under its name, an application as `@` over its operands; a
compiled term the same way with `S` and `K` leaves, references as `→name` and free leaves as
`?name`.
-/

namespace Combinatory

namespace Draw

/-- The styles of the parts of a drawing. -/
def nameStyle : List Nat := [Ansi.green, Ansi.bold]
def appStyle : List Nat := [Ansi.yellow]
def lambdaStyle : List Nat := [Ansi.cyan, Ansi.bold]
def combStyle : List Nat := [Ansi.magenta]
def refStyle : List Nat := [Ansi.blue]

/-- The outline of expression `i`. -/
def exprOutline (t : Tree) (color : Bool) : Nat → Nat → Outline
  | 0, _ => .node "?" []
  | fuel + 1, i =>
    match t.expr i with
    | .app l r _ =>
      .node (Ansi.paint color appStyle "@") [exprOutline t color fuel l, exprOutline t color fuel r]
    | .abs params body _ =>
      let names := (t.chain params).map t.name
      .node (Ansi.paint color lambdaStyle ("λ" ++ ",".intercalate names))
        [exprOutline t color fuel body]
    | .ref v _ => .node (t.name v) []

/-- The outline of the term at node `i`. -/
def termOutline (st : Store) (color : Bool) : Nat → Nat → Outline
  | 0, _ => .node "?" []
  | fuel + 1, i =>
    match st.node i with
    | .s => .node (Ansi.paint color combStyle "S") []
    | .k => .node (Ansi.paint color combStyle "K") []
    | .app l r =>
      .node (Ansi.paint color appStyle "@") [termOutline st color fuel l, termOutline st color fuel r]
    | .ref _ stmt => .node (Ansi.paint color refStyle ("→" ++ st.tree.stmtName stmt)) []
    | .free v => .node ("?" ++ st.tree.name v) []

end Draw

/-- Every statement of program `prog` drawn as its name over its expression. -/
def Tree.drawProgram (t : Tree) (prog : Nat) (color : Bool) : String :=
  String.join <| (t.programStmts prog).map fun s =>
    let st := t.stmt s
    (Outline.node (Ansi.paint color Draw.nameStyle (t.name st.var))
      [Draw.exprOutline t color (t.exprs.size + 1) st.expr]).render

/-- Every root drawn as its name over its term. -/
def Store.drawForest (st : Store) (roots : List Root) (color : Bool) : String :=
  String.join <| roots.map fun r =>
    (Outline.node (Ansi.paint color Draw.nameStyle (st.tree.name r.ident))
      [Draw.termOutline st color (st.nodes.size + 1) r.node]).render

/-- One line `name = term` per root. -/
def Store.formatForest (st : Store) (roots : List Root) (color : Bool) : String :=
  String.join <| roots.map fun r =>
    Ansi.paint color Draw.nameStyle (st.tree.name r.ident) ++ " = " ++ st.format r.node ++ "\n"

end Combinatory
