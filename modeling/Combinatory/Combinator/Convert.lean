import Combinatory.Combinator.Store
import Combinatory.NameMap
import Combinatory.Diagnostic.Bag

/-!
# Bracket abstraction

Each statement is compiled in order into a combinator term. An abstraction `λx.E` compiles `E`
and removes `x`: `K E` when `x` does not occur, `S K K` for `x` itself, `E₁` for `E₁ x` with `x`
not in `E₁`, and `S E₁' E₂'` for an application.
-/

namespace Combinatory

/-- Why a conversion failed. -/
inductive ConvertError where
  | forest (e : ArenaError)
  | node (name : String) (e : ArenaError)
  | unreachable
  deriving DecidableEq, Repr, Inhabited

/-- The text of each failure. -/
def ConvertError.message : ConvertError → String
  | .forest e => "sk: forest: " ++ e.message
  | .node name e => "bracket: " ++ name ++ ": " ++ Store.failureMessage e
  | .unreachable => "bracket: unreachable converter state"

/-- A term the converter has no rule for: where, and what it was. -/
structure Unreachable where
  span : Span
  what : String
  deriving Inhabited

/-- The state of a conversion. -/
structure ConvertState where
  store : Store
  table : NameMap Nat
  done : NameMap Nat
  pending : List String
  reporter : Reporter
  deriving Inhabited

namespace Bracket

abbrev ConvertM := ExceptT Unreachable (StateM ConvertState)

/-- Runs a store operation. -/
def onStore {α} (f : StateM Store α) : ConvertM α := do
  let s ← get
  let (a, st) := f.run s.store
  set { s with store := st }
  return a

/-- Reports a diagnostic about a subject. -/
def report (sev : Severity) (code : Nat) (sp : Span) (msg subject : String) : ConvertM Unit :=
  let d : Diagnostic :=
    { severity := sev, code := code, message := msg, subject := subject.toUTF8.toList,
      primary := sp, notes := [] }
  modify fun s => { s with reporter := s.reporter.report d }

/-- The compiled statement a top-level name resolves to. -/
def resolve (name : String) : ConvertM (Option Nat) := do
  let s ← get
  match s.table.get? name with
  | some stmt =>
    if (s.store.tree.stmt stmt).compiled.isSome then return some stmt
    else return s.done.get? name
  | none => return s.done.get? name

/-- Compiles a reference to identifier `v`. -/
def ident (v : Nat) (sp : Span) : ConvertM (Option Nat) := do
  let s ← get
  let name := s.store.tree.name v
  if s.pending.contains name then return ← onStore (Store.freeLeaf v)
  match ← resolve name with
  | some stmt => onStore (Store.ref ((← get).store.tree.stmt stmt).compiled stmt)
  | none =>
    report .error DiagCode.usedBeforeDefined sp "identifier used before being defined" name
    onStore (Store.freeLeaf v)

/-- Removes the free leaf `name` from the term at `term`, following at most `fuel` nodes. -/
def abstract (name : String) (sp : Span) : Nat → Option Nat → ConvertM (Option Nat)
  | 0, _ => return none
  | fuel + 1, term => do
    let st := (← get).store
    if st.failure.isSome then return none
    let some i := term | onStore (Store.refuse "sk: bad handle 0x0: arena: pointer not owned by arena")
    if !st.containsFree i name then
      let k ← onStore Store.kComb
      return ← onStore (Store.app k (some i))
    match st.node i with
    | .free _ => onStore Store.identity
    | .app l r =>
      let etaLeaf := match st.node r with
        | .free v => st.tree.name v = name
        | _ => false
      if etaLeaf && !st.containsFree l name then return some l
      let left ← abstract name sp fuel (some l)
      let right ← abstract name sp fuel (some r)
      let s ← onStore Store.sComb
      let sl ← onStore (Store.app s left)
      onStore (Store.app sl right)
    | n => throw ⟨sp, n.kindName⟩

/-- Compiles expression `i` into a term in which the parameters of the enclosing
abstractions are still free leaves. -/
def compile : Nat → Nat → ConvertM (Option Nat)
  | 0, _ => return none
  | fuel + 1, i => do
    let t := (← get).store.tree
    match t.expr i with
    | .ref v sp => ident v sp
    | .app l r _ =>
      let left ← compile fuel l
      let right ← compile fuel r
      onStore (Store.app left right)
    | .abs params body sp =>
      if (t.chain params).length ≠ 1 then throw ⟨sp, "uncurried abstraction"⟩
      let name := t.name params
      modify fun s => { s with pending := s.pending ++ [name] }
      let b ← compile fuel body
      modify fun s => { s with pending := s.pending.dropLast }
      abstract name sp (2 * (← get).store.nodes.size + 2) b

/-- Compiles the statements in order; the roots, or the failure. -/
def stmts : List Nat → List Root → ConvertM (Except ConvertError (List Root))
  | [], acc => return .ok acc
  | s :: rest, acc => do
    let t := (← get).store.tree
    let st := t.stmt s
    let root ← compile (t.exprs.size + 1) st.expr
    let store := (← get).store
    let name := t.name st.var
    match store.failure with
    | some e => return .error (.node name e)
    | none =>
      modify fun c =>
        { c with store := { c.store with tree := (Tree.setCompiled s root).run c.store.tree |>.2 },
                 done := (c.done.insert name s).1 }
      stmts rest (acc ++ [⟨s, st.var, root.getD 0⟩])

end Bracket

/-- Converts every statement of program `prog` into a combinator term, resolving names
through `table`. The roots, one per statement, are charged to the arena as one array of
24-byte entries before any statement is compiled. -/
def Store.convert (store : Store) (prog : Nat) (table : NameMap Nat) (reporter : Reporter) :
    Except ConvertError (List Root) × Store × Reporter :=
  let stmts := store.tree.programStmts prog
  let n := stmts.length
  let charged : Except ArenaError Arena :=
    if n = 0 then .ok store.tree.arena
    else (store.tree.arena.allocArray 24 n.toUInt64).map (·.1)
  match charged with
  | .error e => (.error (.forest e), store, reporter)
  | .ok a =>
    let store := { store with tree := { store.tree with arena := a } }
    let done : NameMap Nat := ⟨[], NameMap.roundPow2 (max table.size 1), Dyadic.ofFloat 0.75⟩
    let init : ConvertState := ⟨store, table, done, [], reporter⟩
    let (r, s) := ((Bracket.stmts stmts []).run).run init
    match r with
    | .ok res => (res, s.store, s.reporter)
    | .error u =>
      let d : Diagnostic :=
        { severity := .fatal, code := DiagCode.unreachable,
          message := "unreachable state reached converting", subject := u.what.toUTF8.toList,
          primary := u.span, notes := [] }
      (.error .unreachable, s.store, s.reporter.report d)

end Combinatory
