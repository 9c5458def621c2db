import Combinatory.Tree.Basic
import Combinatory.NameMap
import Combinatory.Scope.Binders
import Combinatory.Diagnostic.Bag

/-!
# Scope checking

Each statement binds its name (warning on a rebinding), then its expression is checked: a
reference must name a parameter in scope or a statement bound so far, and a parameter that
repeats a name in scope is reported as shadowing.
-/

namespace Combinatory

/-- The sizing of the table of statements; zero buckets means the defaults. -/
structure TableHints where
  buckets : Int
  loadFactor : Float
  deriving Inhabited

/-- The default sizing: 32 buckets, threshold 0.75. -/
def TableHints.default : TableHints := ⟨32, 0.75⟩

/-- The outcome of a check: the table of statements and the counts of undeclared references,
rebound names and shadowing parameters. -/
structure CheckResult where
  table : NameMap Nat
  undeclared : Nat
  rebound : Nat
  shadowed : Nat
  deriving Inhabited

/-- A check passes when no reference is undeclared. -/
def CheckResult.ok (r : CheckResult) : Bool := r.undeclared = 0

/-- The state of the checker. -/
structure CheckState where
  result : CheckResult
  binders : Binders
  reporter : Reporter
  deriving Inhabited

namespace Checker

abbrev CheckM := StateM CheckState

/-- Reports a diagnostic about a name. -/
def report (sev : Severity) (code : Nat) (sp : Span) (msg name : String) : CheckM Unit :=
  let d : Diagnostic :=
    { severity := sev, code := code, message := msg, subject := name.toUTF8.toList,
      primary := sp, notes := [] }
  modify fun s => { s with reporter := s.reporter.report d }

/-- Checks an expression; whether all its references are declared. -/
def expr (t : Tree) : Nat → Nat → CheckM Bool
  | 0, _ => return true
  | fuel + 1, i =>
    match t.expr i with
    | .ref v sp => do
      let name := t.name v
      let s ← get
      if s.binders.contains name || s.result.table.contains name then return true
      modify fun s => { s with result := { s.result with undeclared := s.result.undeclared + 1 } }
      report .error DiagCode.undeclared sp "non declared identifier used" name
      return false
    | .abs params body _ => do
      let ps := t.chain params
      for p in ps do
        let name := t.name p
        if (← get).binders.contains name then
          modify fun s => { s with result := { s.result with shadowed := s.result.shadowed + 1 } }
          report .warning DiagCode.shadowedBinder (t.ident p).span
            "parameter shadows a bound variable" name
        modify fun s => { s with binders := s.binders.pushParam name (t.ident p).token }
      let ok ← expr t fuel body
      for _ in ps do
        modify fun s => { s with binders := (s.binders.pop).1 }
      return ok
    | .app l r _ => do
      let boundary := match t.expr l with
        | .abs .. => true
        | _ => false
      if boundary then modify fun s => { s with binders := s.binders.pushBoundary }
      let left ← expr t fuel l
      if boundary then modify fun s => { s with binders := (s.binders.pop).1 }
      let right ← expr t fuel r
      return left && right

/-- Checks a statement. -/
def stmt (t : Tree) (i : Nat) : CheckM Unit := do
  let st := t.stmt i
  let name := t.name st.var
  let s ← get
  let (table, old) := s.result.table.insert name i
  set { s with result := { s.result with table } }
  if old.isSome then
    modify fun s => { s with result := { s.result with rebound := s.result.rebound + 1 } }
    report .warning DiagCode.rebinding (t.ident st.var).span
      "reassigning expression to const variable" name
  modify fun s => { s with binders := s.binders.clear }
  let _ ← expr t (t.exprs.size + 1) st.expr
  modify fun s => { s with binders := s.binders.clear }

end Checker

/-- Checks the statements of program `prog`; fails only when the table cannot be made. -/
def checkProgram (t : Tree) (prog : Nat) (hints : TableHints) (reporter : Reporter) :
    Except NameMapError (CheckResult × Reporter) := do
  let hints := if hints.buckets = 0 then TableHints.default else hints
  let table ← NameMap.make hints.buckets hints.loadFactor
  let st : CheckState := ⟨⟨table, 0, 0, 0⟩, Binders.empty, reporter⟩
  let ((), s) := ((t.programStmts prog).forM (Checker.stmt t)).run st
  return (s.result, s.reporter)

end Combinatory
