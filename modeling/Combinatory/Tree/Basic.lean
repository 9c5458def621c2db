import Combinatory.Arena.Ops
import Combinatory.Source.File

/-!
# Syntax trees whose records live in an arena

A program is kept as tables of records (tokens, identifiers, expressions, statements,
programs), each charged to the arena at the size it takes there. After the first allocation
failure no constructor builds anything; before it, a constructor given a missing part stops the
program with its complaint.
-/

namespace Combinatory

/-- A token record. -/
structure TokenRecord where
  lexeme : String
  row : Nat
  col : Nat
  endCol : Nat
  span : Span
  deriving DecidableEq, Repr, Inhabited

/-- An identifier record: its token, the next identifier of its chain and the span of the
chain from this identifier on. -/
structure Ident where
  token : Nat
  next : Option Nat
  span : Span
  deriving DecidableEq, Repr, Inhabited

/-- An expression record. -/
inductive Expr where
  | app (left right : Nat) (span : Span)
  | abs (params : Nat) (body : Nat) (span : Span)
  | ref (var : Nat) (span : Span)
  deriving DecidableEq, Repr, Inhabited

/-- The span of an expression record. -/
def Expr.span : Expr → Span
  | .app _ _ s => s
  | .abs _ _ s => s
  | .ref _ s => s

/-- The name of the expression kind with stored discriminant `n`. -/
def Expr.kindNameOf : Nat → String
  | 1 => "Application"
  | 2 => "Abstraction"
  | 3 => "IdentRef"
  | _ => "Invalid"

/-- The stored discriminant of an expression record's kind. -/
def Expr.code : Expr → Nat
  | .app .. => 1
  | .abs .. => 2
  | .ref .. => 3

/-- The name of an expression record's kind. -/
def Expr.kindName (e : Expr) : String := Expr.kindNameOf e.code

/-- A statement record. -/
structure Stmt where
  var : Nat
  expr : Nat
  next : Option Nat
  span : Span
  compiled : Option Nat
  deriving DecidableEq, Repr, Inhabited

/-- A program record. -/
structure Program where
  head : Option Nat
  filename : String
  deriving DecidableEq, Repr, Inhabited

/-- A syntax tree of one file, with the arena its records are charged to, the first allocation
failure and the complaint the program stopped with, if any. -/
structure Tree where
  arena : Arena
  file : Nat
  tokens : Array TokenRecord
  idents : Array Ident
  exprs : Array Expr
  stmts : Array Stmt
  programs : Array Program
  failure : Option ArenaError
  crash : Option String
  deriving Inhabited

namespace Tree

/-- Bytes charged for each kind of record. -/
def tokenSize : Nat := 32
def identSize : Nat := 24
def exprSize : Nat := 32
def stmtSize : Nat := 40
def programSize : Nat := 16

/-- An empty tree of file `file` over arena `a`. -/
def empty (a : Arena) (file : Nat) : Tree := ⟨a, file, #[], #[], #[], #[], #[], none, none⟩

/-- The text of the kept failure. -/
def failureMessage (e : ArenaError) : String := "ast: " ++ e.message

/-- Stops the program with complaint `msg`; a program already stopped keeps its complaint. -/
def crashWith (msg : String) (t : Tree) : Tree := { t with crash := t.crash.or (some msg) }

/-- A constructor given a missing part: it stops the program and builds nothing. -/
def refuse (msg : String) : StateM Tree (Option Nat) := do
  modify (crashWith msg)
  return none

/-- Charges `size` bytes to the arena; false once anything failed. -/
def charge (size : Nat) : StateM Tree Bool := do
  let t ← get
  if t.failure.isSome then return false
  match t.arena.alloc size.toUInt64 with
  | .ok (a, _) => set { t with arena := a }; return true
  | .error e => set { t with failure := some e }; return false

/-- Charges a copy of a string with its terminating zero. -/
def chargeString (s : String) : StateM Tree Unit := do
  let t ← get
  if t.failure.isSome then return
  match t.arena.strdup s.toUTF8 with
  | .ok (a, _) => set { t with arena := a }
  | .error e => set { t with failure := some e }

/-- The token record `i`. -/
def token (t : Tree) (i : Nat) : TokenRecord := t.tokens[i]?.getD default

/-- The identifier record `i`. -/
def ident (t : Tree) (i : Nat) : Ident := t.idents[i]?.getD default

/-- The expression record `i`. -/
def expr (t : Tree) (i : Nat) : Expr := t.exprs[i]?.getD default

/-- The statement record `i`. -/
def stmt (t : Tree) (i : Nat) : Stmt := t.stmts[i]?.getD default

/-- The name of identifier `i`. -/
def name (t : Tree) (i : Nat) : String := (t.token (t.ident i).token).lexeme

/-- The span of expression `i`. -/
def exprSpan (t : Tree) (i : Nat) : Span := (t.expr i).span

/-- The name bound by statement `i`. -/
def stmtName (t : Tree) (i : Nat) : String := t.name (t.stmt i).var

/-- A token record: the lexeme is copied first, then the record. -/
def newToken (lexeme : String) (row col endCol : Nat) (span : Span) :
    StateM Tree (Option Nat) := do
  chargeString lexeme
  if ← charge tokenSize then
    let t ← get
    set { t with tokens := t.tokens.push ⟨lexeme, row, col, endCol, { span with file := t.file }⟩ }
    return some t.tokens.size
  else return none

/-- An identifier record for token `tok` in front of chain `next`: its span covers the
token and the rest of the chain. -/
def newIdent (tok next : Option Nat) : StateM Tree (Option Nat) := do
  let t ← get
  if t.failure.isSome then return none
  let some tok := tok | refuse "ast: identifier without token"
  let sp := (t.token tok).span
  let sp := match next with
    | some n => sp.cover (t.ident n).span
    | none => sp
  if ← charge identSize then
    let t ← get
    set { t with idents := t.idents.push ⟨tok, next, sp⟩ }
    return some t.idents.size
  else return none

/-- Adds an expression record. -/
def pushExpr (e : Expr) : StateM Tree (Option Nat) := do
  if ← charge exprSize then
    let t ← get
    set { t with exprs := t.exprs.push e }
    return some t.exprs.size
  else return none

/-- A reference to identifier `v`, with its span. -/
def newRef (v : Option Nat) : StateM Tree (Option Nat) := do
  let t ← get
  if t.failure.isSome then return none
  let some v := v | refuse "ast: identifier reference without identifier"
  pushExpr (.ref v (t.ident v).span)

/-- An application; its span covers both operands. -/
def newApp (l r : Option Nat) : StateM Tree (Option Nat) := do
  let t ← get
  if t.failure.isSome then return none
  match l, r with
  | some l, some r => pushExpr (.app l r ((t.exprSpan l).cover (t.exprSpan r)))
  | _, _ => refuse "ast: application with a missing operand"

/-- An abstraction over the chain `params`. -/
def newAbs (span : Span) (params body : Option Nat) : StateM Tree (Option Nat) := do
  let t ← get
  if t.failure.isSome then return none
  match params, body with
  | some params, some body => pushExpr (.abs params body { span with file := t.file })
  | _, _ => refuse "ast: abstraction without parameters or body"

/-- A statement binding identifier `v` to expression `e`. -/
def newStmt (v e : Option Nat) (span : Span) : StateM Tree (Option Nat) := do
  let t ← get
  if t.failure.isSome then return none
  match v, e with
  | some v, some e =>
    if ← charge stmtSize then
      let t ← get
      set { t with stmts := t.stmts.push ⟨v, e, none, { span with file := t.file }, none⟩ }
      return some t.stmts.size
    else return none
  | _, _ => refuse "ast: statement without variable or expression"

/-- Links statements in order. -/
def link (t : Tree) : List Nat → Tree
  | a :: b :: rest =>
    link { t with stmts := t.stmts.modify a fun s => { s with next := some b } } (b :: rest)
  | _ => t

/-- A program of the given statements: they are linked in order, the file name copied, and
the record added. -/
def newProgram (filename : String) (stmts : List Nat) : StateM Tree (Option Nat) := do
  let t ← get
  if t.failure.isSome then return none
  set (t.link stmts)
  chargeString filename
  if ← charge programSize then
    let t ← get
    set { t with programs := t.programs.push ⟨stmts.head?, filename⟩ }
    return some t.programs.size
  else return none

/-- The identifiers of a chain, following at most `fuel` links. -/
def chainFrom (t : Tree) : Nat → Option Nat → List Nat
  | 0, _ => []
  | _, none => []
  | fuel + 1, some i => i :: t.chainFrom fuel (t.ident i).next

/-- The identifiers of the chain starting at `i`. -/
def chain (t : Tree) (i : Nat) : List Nat := t.chainFrom (t.idents.size + 1) (some i)

/-- The statements of a program, in order. -/
def programStmts (t : Tree) (p : Nat) : List Nat :=
  let rec go : Nat → Option Nat → List Nat
    | 0, _ => []
    | _, none => []
    | fuel + 1, some s => s :: go fuel (t.stmt s).next
  go (t.stmts.size + 1) ((t.programs[p]?.map (·.head)).getD none)

/-- Cuts the chain after identifier `i`, which then spans its own token only; returns the
rest of the chain, if any. -/
def detach (i : Nat) : StateM Tree (Option Nat) := do
  let t ← get
  match (t.ident i).next with
  | none => return none
  | some n =>
    let sp := (t.token (t.ident i).token).span
    set { t with idents := t.idents.modify i fun d => { d with next := none, span := sp } }
    return some n

/-- Gives abstraction `i` new parameters and body, keeping its span; any other record stops the
program. -/
def setAbs (i params body : Nat) : StateM Tree Unit :=
  modify fun t => match t.expr i with
    | .abs _ _ sp => { t with exprs := t.exprs.modify i fun _ => .abs params body sp }
    | _ => t.crashWith "ast: SetAbstraction on a non-abstraction"

/-- Records the compiled combinator of statement `i`. The slot is written once, and never with
a missing term: either stops the program. -/
def setCompiled (i : Nat) (node : Option Nat) : StateM Tree Unit :=
  modify fun t =>
    if (t.stmt i).compiled.isSome then t.crashWith "ast: compiled slot written twice"
    else match node with
      | some n => { t with stmts := t.stmts.modify i fun s => { s with compiled := some n } }
      | none => t.crashWith "ast: empty compiled tree"

end Tree

end Combinatory
