import Combinatory.Proofs.Shape
import Combinatory.Proofs.Names
import Combinatory.Proofs.State
import Combinatory.Scope.Check
import Mathlib

/-! What the scope check computes: an expression leaves the stack and the table as it found
them and counts its undeclared free references (`expr_spec`); over a program the table maps
each name to its last statement (`checkProgram_spec`). -/
namespace Combinatory

namespace Binders

/-- The names of the parameters on the stack, bottom first. -/
def names (b : Binders) : List String :=
  b.items.filterMap fun e => match e with
    | .param n _ => some n
    | .boundary => none

theorem contains_iff (b : Binders) (x : String) : b.contains x = true ↔ x ∈ b.names := by
  simp only [contains,lookup?,names,List.mem_filterMap]
  rw [List.findSome?_isSome_iff]
  constructor
  · rintro ⟨e,he,hs⟩
    cases e with
    | param n tok =>
      by_cases h : n = x
      · exact ⟨.param n tok,List.mem_reverse.1 he,by simp [h]⟩
      · simp [h] at hs
    | boundary => simp at hs
  · rintro ⟨e,he,hs⟩
    cases e with
    | param n tok =>
      simp only [Option.some.injEq] at hs
      exact ⟨.param n tok,List.mem_reverse.2 he,by simp [hs]⟩
    | boundary => simp at hs

@[simp] theorem items_pushParam (b : Binders) (n : String) (tok : Nat) :
    (b.pushParam n tok).items = b.items ++ [.param n tok] := rfl

@[simp] theorem items_pushBoundary (b : Binders) : b.pushBoundary.items = b.items ++ [.boundary] :=
  rfl

@[simp] theorem items_pop (b : Binders) : b.pop.1.items = b.items.dropLast := by
  unfold pop
  split <;> simp_all

@[simp] theorem names_pushBoundary (b : Binders) : b.pushBoundary.names = b.names := by
  simp [names]

theorem names_of_items {b b' : Binders} (h : b'.items = b.items) : b'.names = b.names := by
  simp [names,h]

/-- Pushing parameters adds their names, in order. -/
theorem names_of_params {b b' : Binders} (t : Tree) (ps : List Nat)
    (h : b'.items = b.items ++ ps.map fun p => .param (t.name p) (t.ident p).token) :
    b'.names = b.names ++ ps.map t.name := by
  simp [names,h,List.filterMap_map]

end Binders

namespace Term

/-- The parameters `xs` of a chain whose name is in scope as they are bound: among the names
`bound` or the earlier parameters of the chain. -/
def shadowing : List String → List String → Nat
  | _, [] => 0
  | bound, x :: xs => (if x ∈ bound then 1 else 0) + shadowing (bound ++ [x]) xs

/-- The parameters of a term that shadow an enclosing parameter (or one of the names `bound`)
or an earlier parameter of their own chain. -/
def shadowed : List String → Term → Nat
  | _, var _ _ => 0
  | bound, app f a => shadowed bound f + shadowed bound a
  | bound, lam ps b => shadowing bound ps + shadowed (bound ++ ps) b

theorem shadowing_concat (bound xs : List String) (x : String) :
    shadowing bound (xs ++ [x]) = shadowing bound xs + if x ∈ bound ++ xs then 1 else 0 := by
  induction xs generalizing bound with
  | nil => simp [shadowing]
  | cons y xs ih =>
    simp only [List.cons_append,shadowing,ih,List.append_assoc,
      List.nil_append]
    omega

end Term

namespace Checker

open Pass

/-- The diagnostic that `report` sends. -/
def diagnostic (sev : Severity) (code : Nat) (sp : Span) (msg name : String) : Diagnostic :=
  { severity := sev, code := code, message := msg, subject := name.toUTF8.toList, primary := sp,
    notes := [] }

/-- The warning for a parameter whose name is in scope already. -/
def shadowWarning (x : String) (sp : Span) : Diagnostic :=
  diagnostic .warning DiagCode.shadowedBinder sp "parameter shadows a bound variable" x

/-- The error for a reference that names neither a parameter nor a statement. -/
def undeclaredError (x : String) (sp : Span) : Diagnostic :=
  diagnostic .error DiagCode.undeclared sp "non declared identifier used" x

/-- The warning for a statement that binds a name an earlier statement bound. -/
def rebindWarning (x : String) (sp : Span) : Diagnostic :=
  diagnostic .warning DiagCode.rebinding sp "reassigning expression to const variable" x

/-- The warnings of binding the chain `ps` with the names `bound` in scope: one for each
parameter whose name is in scope, the earlier parameters of the chain included. -/
def shadowWarnings (t : Tree) : List String → List Nat → List Diagnostic
  | _, [] => []
  | bound, p :: ps =>
    (if t.name p ∈ bound then [shadowWarning (t.name p) (t.ident p).span] else []) ++
      shadowWarnings t (bound ++ [t.name p]) ps

/-- What checking shape `sh` reports, depth first and left to right, with the parameters
`bound` in scope and `declared` telling the names of the statements bound so far. -/
def reports (t : Tree) (declared : String → Bool) : List String → Shape → List Diagnostic
  | bound, .ref i v =>
    if t.name v ∈ bound ∨ declared (t.name v) = true then []
    else [undeclaredError (t.name v) (t.exprSpan i)]
  | bound, .app _ l r => reports t declared bound l ++ reports t declared bound r
  | bound, .abs _ ps b => shadowWarnings t bound ps ++ reports t declared (bound ++ ps.map t.name) b

theorem shadowWarnings_concat (t : Tree) (bound : List String) (ps : List Nat) (p : Nat) :
    shadowWarnings t bound (ps ++ [p]) = shadowWarnings t bound ps ++
      if t.name p ∈ bound ++ ps.map t.name then [shadowWarning (t.name p) (t.ident p).span]
      else [] := by
  induction ps generalizing bound with
  | nil => simp [shadowWarnings]
  | cons q ps ih => simp [shadowWarnings,ih]

theorem report_eq (sev : Severity) (code : Nat) (sp : Span) (msg name : String) :
    report sev code sp msg name =
      modify fun s => { s with reporter := s.reporter.report (diagnostic sev code sp msg name) } :=
  rfl

/-- The first loop of an abstraction: each parameter of the chain pushed, a shadowing one
counted and reported. -/
def pushParams (t : Tree) (ps : List Nat) : CheckM PUnit :=
  for p in ps do
    let name := t.name p
    if (← get).binders.contains name then
      modify fun s => { s with result := { s.result with shadowed := s.result.shadowed + 1 } }
      report .warning DiagCode.shadowedBinder (t.ident p).span
        "parameter shadows a bound variable" name
    modify fun s => { s with binders := s.binders.pushParam name (t.ident p).token }

/-- The second loop of an abstraction: one entry popped per parameter. -/
def popParams (ps : List Nat) : CheckM PUnit :=
  for _ in ps do
    modify fun s => { s with binders := (s.binders.pop).1 }

theorem expr_abs (t : Tree) (fuel : Nat) {i p b : Nat} {sp : Span} (he : t.expr i = .abs p b sp) :
    expr t (fuel + 1) i = do
      pushParams t (t.chain p)
      let ok ← expr t fuel b
      popParams (t.chain p)
      return ok := by
  simp only [expr,he]
  rfl

/-- Binding a chain pushes its parameters, and counts and reports those whose name is in
scope. -/
theorem pushParams_spec (t : Tree) (ps : List Nat) (cs : CheckState) :
    (run (pushParams t ps) cs).2.binders.items =
        cs.binders.items ++ ps.map (fun p => .param (t.name p) (t.ident p).token) ∧
      (run (pushParams t ps) cs).2.result = { cs.result with
        shadowed := cs.result.shadowed + Term.shadowing cs.binders.names (ps.map t.name) } ∧
      (run (pushParams t ps) cs).2.reporter =
        (shadowWarnings t cs.binders.names ps).foldl Reporter.report cs.reporter := by
  refine forIn_inv ps _ (fun pre s => s.binders.items =
      cs.binders.items ++ pre.map (fun p => .param (t.name p) (t.ident p).token) ∧
      s.result = { cs.result with
        shadowed := cs.result.shadowed + Term.shadowing cs.binders.names (pre.map t.name) } ∧
      s.reporter = (shadowWarnings t cs.binders.names pre).foldl Reporter.report cs.reporter) ?_ cs
    ⟨by simp,by simp [Term.shadowing],rfl⟩
  intro pre p post s _ ⟨hi,hr,hrep⟩
  -- the parameters pushed so far are in scope, after the names the chain started with
  have hnames : s.binders.names = cs.binders.names ++ pre.map t.name :=
    Binders.names_of_params t pre hi
  by_cases hc : s.binders.contains (t.name p) = true
  · have hin : t.name p ∈ cs.binders.names ++ pre.map t.name := by
      rw [← hnames]; exact (Binders.contains_iff _ _).1 hc
    refine ⟨_,by simp [hc,report]; rfl,by simp [hi],?_,?_⟩
    · simp [hr,Term.shadowing_concat,hin]
      omega
    · simp [hrep,shadowWarnings_concat,hin,diagnostic,shadowWarning]
  · have hin : t.name p ∉ cs.binders.names ++ pre.map t.name := by
      rw [← hnames]; exact fun h => hc ((Binders.contains_iff _ _).2 h)
    refine ⟨_,by simp [hc]; rfl,by simp [hi],?_,?_⟩
    · simp [hr,Term.shadowing_concat,hin]
    · simp [hrep,shadowWarnings_concat,hin]

theorem popParams_spec (ps : List Nat) (cs : CheckState) (extra : List Binder)
    (hlen : extra.length = ps.length) (items : List Binder)
    (hi : cs.binders.items = items ++ extra) :
    (run (popParams ps) cs).2.binders.items = items ∧
      (run (popParams ps) cs).2.result = cs.result ∧
      (run (popParams ps) cs).2.reporter = cs.reporter := by
  have h : (run (popParams ps) cs).2.binders.items =
        items ++ extra.take (extra.length - ps.length) ∧
      (run (popParams ps) cs).2.result = cs.result ∧
      (run (popParams ps) cs).2.reporter = cs.reporter := by
    refine forIn_inv ps _ (fun pre s => s.binders.items =
        items ++ extra.take (extra.length - pre.length) ∧ s.result = cs.result ∧
        s.reporter = cs.reporter) ?_ cs ⟨by simp [hi],rfl,rfl⟩
    intro pre p post s hpre ⟨hs,hr,hrep⟩
    refine ⟨_,rfl,?_,hr,hrep⟩
    have hlt : pre.length < extra.length := by
      rw [hlen,← hpre]
      simp
    have hne : extra.take (extra.length - pre.length) ≠ [] :=
      List.ne_nil_of_length_pos (by simp; omega)
    simp only [Binders.items_pop,hs,List.length_append,List.length_singleton]
    rw [List.dropLast_append_of_ne_nil hne,List.dropLast_eq_take,List.take_take,List.length_take]
    congr 2
    omega
  exact ⟨by simpa [hlen] using h.1,h.2⟩

/-- What checking shape `sh` from state `cs` leads to: the same stack, table and count of
rebound names; one more undeclared reference for each free reference, past the names in scope,
that the table does not bind; one more shadowing parameter for each that `Term.shadowed`
counts; and the reporter told of `reports`, in order. -/
structure Checks (t : Tree) (sh : Shape) (cs cs' : CheckState) : Prop where
  binders : cs'.binders.items = cs.binders.items
  table : cs'.result.table = cs.result.table
  rebound : cs'.result.rebound = cs.result.rebound
  undeclared : cs'.result.undeclared = cs.result.undeclared +
    ((sh.term t).freeRefs cs.binders.names).countP fun o => !cs.result.table.contains o.1
  shadowed : cs'.result.shadowed = cs.result.shadowed + (sh.term t).shadowed cs.binders.names
  reporter : cs'.reporter =
    (reports t cs.result.table.contains cs.binders.names sh).foldl Reporter.report cs.reporter

/-- Checking an application: its operator from a state with the same names in scope, then its
operand from one with the stack given back, the results and the reporter passed along. -/
theorem Checks.app {t : Tree} {i : Nat} {l r : Shape} {cs c₀ c₁ c₂ cs' : CheckState}
    (h₀ : c₀.binders.names = cs.binders.names ∧ c₀.result = cs.result ∧ c₀.reporter = cs.reporter)
    (hl : Checks t l c₀ c₁)
    (h₂ : c₂.binders.items = cs.binders.items ∧ c₂.result = c₁.result ∧ c₂.reporter = c₁.reporter)
    (hr : Checks t r c₂ cs') : Checks t (.app i l r) cs cs' := by
  obtain ⟨hn₀,hr₀,hp₀⟩ := h₀
  obtain ⟨hi₂,hr₂,hp₂⟩ := h₂
  have hn₂ : c₂.binders.names = cs.binders.names := Binders.names_of_items hi₂
  have ht₁ : c₁.result.table = cs.result.table := by rw [hl.table,hr₀]
  refine ⟨hr.binders.trans hi₂,by rw [hr.table,hr₂,ht₁],?_,?_,?_,?_⟩
  · rw [hr.rebound,hr₂,hl.rebound,hr₀]
  · rw [hr.undeclared,hn₂,hr₂,hl.undeclared,ht₁,hn₀,hr₀]
    simp only [Shape.term,Term.freeRefs,List.countP_append]
    omega
  · rw [hr.shadowed,hn₂,hr₂,hl.shadowed,hn₀,hr₀]
    simp only [Shape.term,Term.shadowed]
    omega
  · rw [hr.reporter,hn₂,hr₂,hp₂,hl.reporter,ht₁,hn₀,hr₀,hp₀]
    simp [reports]

/-- Checking an expression: on a tree holding a linear shape at it, with fuel past its depth,
the check does what `Checks` says. -/
theorem expr_spec (t : Tree) {sh : Shape} (ht : t.Realizes sh) (hl : sh.Linear) :
    ∀ (cs : CheckState) (fuel : Nat), sh.depth ≤ fuel →
      Checks t sh cs (run (expr t fuel sh.root) cs).2 := by
  induction ht with
  | @ref i v sp _ he _ =>
    intro cs fuel hf
    obtain ⟨fuel,rfl⟩ : ∃ f, fuel = f + 1 := ⟨fuel - 1,by simp [Shape.depth] at hf; omega⟩
    have hterm : (Shape.ref i v).term t = .var (t.name v) sp := by
      simp [Shape.term,Tree.exprSpan,he,Expr.span]
    have hsp : t.exprSpan i = sp := by simp [Tree.exprSpan,he,Expr.span]
    rw [Shape.root_ref]
    by_cases hd : t.name v ∈ cs.binders.names ∨ cs.result.table.contains (t.name v) = true
    · -- a reference to a parameter or a statement leaves the state alone
      have hc : cs.binders.contains (t.name v) = true ∨
          cs.result.table.contains (t.name v) = true :=
        hd.imp_left (Binders.contains_iff _ _).2
      have hrun : (run (expr t (fuel + 1) i) cs).2 = cs := by simp [expr,he,hc]
      rw [hrun]
      refine ⟨rfl,rfl,rfl,?_,by simp [hterm,Term.shadowed],by simp [reports,hd]⟩
      simp only [hterm,Term.freeRefs]
      split <;> simp_all
    · -- any other is counted and reported
      have hb : cs.binders.contains (t.name v) = false :=
        Bool.eq_false_iff.2 fun h => hd (.inl ((Binders.contains_iff _ _).1 h))
      have hT : cs.result.table.contains (t.name v) = false := by simpa using fun h => hd (.inr h)
      have hrun : (run (expr t (fuel + 1) i) cs).2 = { cs with
          result := { cs.result with undeclared := cs.result.undeclared + 1 },
          reporter := cs.reporter.report (undeclaredError (t.name v) sp) } := by
        simp [expr,he,hb,hT,report,undeclaredError,diagnostic]
      have hn : t.name v ∉ cs.binders.names := fun h => hd (.inl h)
      rw [hrun]
      exact ⟨rfl,rfl,rfl,by simp [hterm,Term.freeRefs,hn,hT],by simp [hterm,Term.shadowed],
        by simp [reports,hd,hsp]⟩
  | @app i sp l r _ he _ _ ihl ihr =>
    intro cs fuel hf
    obtain ⟨fuel,rfl⟩ : ∃ f, fuel = f + 1 := ⟨fuel - 1,by simp [Shape.depth] at hf; omega⟩
    simp only [Shape.depth] at hf
    simp only [Shape.root_app,expr,he]
    -- the left operand is checked behind a boundary when it is an abstraction; a boundary
    -- adds no name, and popping it gives the stack back
    split
    · simp only [run_bind,run_modify,run_pure,if_true]
      have hl₁ := ihl hl.left { cs with binders := cs.binders.pushBoundary } fuel (by omega)
      generalize (run (expr t fuel l.root) { cs with binders := cs.binders.pushBoundary }) = o₁
        at hl₁ ⊢
      have hi₂ : o₁.2.binders.pop.1.items = cs.binders.items := by simp [hl₁.binders]
      refine Checks.app ?_ hl₁ ?_
        (ihr hl.right { o₁.2 with binders := o₁.2.binders.pop.1 } fuel (by omega))
      · exact ⟨by simp,rfl,rfl⟩
      · exact ⟨hi₂,rfl,rfl⟩
    · simp only [run_bind,run_pure,Bool.false_eq_true,if_false]
      have hl₁ := ihl hl.left cs fuel (by omega)
      refine Checks.app ?_ hl₁ ?_ (ihr hl.right _ fuel (by omega))
      · exact ⟨rfl,rfl,rfl⟩
      · exact ⟨hl₁.binders,rfl,rfl⟩
  | @abs i p sp ps b _ he hc _ ih =>
    intro cs fuel hf
    obtain ⟨fuel,rfl⟩ : ∃ f, fuel = f + 1 := ⟨fuel - 1,by simp [Shape.depth] at hf; omega⟩
    simp only [Shape.depth] at hf
    rw [Shape.root_abs,expr_abs t fuel he,Tree.chain_of_chainAt hc hl.chain]
    simp only [run_bind,run_pure]
    -- the parameters are pushed, the body checked with them in scope, and as many entries popped
    obtain ⟨hi₁,hr₁,hp₁⟩ := pushParams_spec t ps cs
    generalize run (pushParams t ps) cs = o₁ at hi₁ hr₁ hp₁ ⊢
    have hb := ih hl.body o₁.2 fuel (by omega)
    generalize run (expr t fuel b.root) o₁.2 = o₂ at hb ⊢
    obtain ⟨hi₃,hr₃,hp₃⟩ := popParams_spec ps o₂.2 _ (List.length_map _) cs.binders.items
      (hb.binders.trans hi₁)
    generalize run (popParams ps) o₂.2 = o₃ at hi₃ hr₃ hp₃ ⊢
    have hnames : o₁.2.binders.names = cs.binders.names ++ ps.map t.name :=
      Binders.names_of_params t ps hi₁
    have hterm : (Shape.abs i ps b).term t = .lam (ps.map t.name) (b.term t) := rfl
    refine ⟨hi₃,?_,?_,?_,?_,?_⟩
    · rw [hr₃,hb.table,hr₁]
    · rw [hr₃,hb.rebound,hr₁]
    · rw [hr₃,hb.undeclared,hnames,hr₁,hterm]
      simp [Term.freeRefs]
    · rw [hr₃,hb.shadowed,hnames,hr₁,hterm]
      simp only [Term.shadowed]
      omega
    · rw [hp₃,hb.reporter,hnames,hp₁,hr₁]
      simp [reports]

/-- The statements `R`, after the statements `P`, that bind a name a statement before them
binds. -/
def rebindsAfter (t : Tree) : List Nat → List Nat → List Nat
  | _, [] => []
  | P, j :: R => (if t.stmtName j ∈ P.map t.stmtName then [j] else []) ++ rebindsAfter t (P ++ [j]) R

/-- What checking the statements `R` after the statements `P` reports, each statement's
expression laid out in `shape`: a warning when the statement binds a name bound before, then
what its expression reports with the statements up to it declared. -/
def programReports (t : Tree) (shape : Nat → Shape) : List Nat → List Nat → List Diagnostic
  | _, [] => []
  | P, j :: R =>
    (if t.stmtName j ∈ P.map t.stmtName then
      [rebindWarning (t.stmtName j) (t.ident (t.stmt j).var).span] else []) ++
    reports t (fun x => (lastNamed t.stmtName (P ++ [j]) x).isSome) [] (shape j) ++
    programReports t shape (P ++ [j]) R

/-- The references the check counts as undeclared in the statements `R` that follow the
statements `P`: in each statement, the free references naming no statement up to it. -/
def undeclaredAfter (t : Tree) : List Nat → List Nat → Nat
  | _, [] => 0
  | P, j :: R =>
    ((t.term (t.stmt j).expr).freeRefs []).countP
        (fun o => (lastNamed t.stmtName (P ++ [j]) o.1).isNone) +
      undeclaredAfter t (P ++ [j]) R

/-- Checking statement `i`: its name is bound in the table first, warning when it was bound
already, then its expression is checked with no parameter in scope. -/
theorem stmt_spec (t : Tree) {i : Nat} {sh : Shape} (ht : t.Realizes sh) (hl : sh.Linear)
    (hroot : sh.root = (t.stmt i).expr) (cs : CheckState) :
    (run (Checker.stmt t i) cs).2.result.table = (cs.result.table.insert (t.stmtName i) i).1 ∧
      (run (Checker.stmt t i) cs).2.result.undeclared = cs.result.undeclared +
        ((t.term (t.stmt i).expr).freeRefs []).countP
          (fun o => !(cs.result.table.insert (t.stmtName i) i).1.contains o.1) ∧
      (run (Checker.stmt t i) cs).2.result.rebound = cs.result.rebound +
        (if (cs.result.table.insert (t.stmtName i) i).2.isSome then 1 else 0) ∧
      (run (Checker.stmt t i) cs).2.result.shadowed =
        cs.result.shadowed + (t.term (t.stmt i).expr).shadowed [] ∧
      (run (Checker.stmt t i) cs).2.reporter =
        (reports t (cs.result.table.insert (t.stmtName i) i).1.contains [] sh).foldl Reporter.report
          (if (cs.result.table.insert (t.stmtName i) i).2.isSome then
            cs.reporter.report (rebindWarning (t.stmtName i) (t.ident (t.stmt i).var).span)
          else cs.reporter) := by
  have hterm : t.term (t.stmt i).expr = sh.term t := by rw [← hroot,Tree.term_eq ht hl]
  have hfuel : sh.depth ≤ t.exprs.size + 1 := Nat.le_succ_of_le (ht.depth_le hl)
  -- the expression is checked from the state with the name bound and the stack cleared
  have key : ∀ c : CheckState,
      Checks t sh c (run (expr t (t.exprs.size + 1) (t.stmt i).expr) c).2 := by
    intro c
    rw [← hroot]
    exact expr_spec t ht hl c _ hfuel
  rw [hterm]
  by_cases hold : (cs.result.table.insert (t.stmtName i) i).2.isSome = true
  · simp only [Tree.stmtName] at hold ⊢
    simp only [Checker.stmt,hold,report,Binders.clear,run_bind,run_get,run_set,run_modify,if_true]
    exact ⟨(key _).table,(key _).undeclared,by rw [(key _).rebound],(key _).shadowed,
      (key _).reporter⟩
  · simp only [Tree.stmtName] at hold ⊢
    simp only [Checker.stmt,hold,Binders.clear,run_bind,run_get,run_set,run_modify,
      Bool.false_eq_true,if_false]
    exact ⟨(key _).table,(key _).undeclared,by rw [(key _).rebound]; rfl,(key _).shadowed,
      (key _).reporter⟩

/-- The statements are checked in order, each binding its name before its expression is
checked. -/
theorem forM_stmt_spec (t : Tree) (shape : Nat → Shape) : ∀ (R P : List Nat) (cs : CheckState),
    (∀ j ∈ R, t.Realizes (shape j) ∧ (shape j).root = (t.stmt j).expr ∧ (shape j).Linear) →
    (∀ x, cs.result.table.get? x = lastNamed t.stmtName P x) →
    (∀ x, (run (R.forM (Checker.stmt t)) cs).2.result.table.get? x =
        lastNamed t.stmtName (P ++ R) x) ∧
      (run (R.forM (Checker.stmt t)) cs).2.result.undeclared =
        cs.result.undeclared + undeclaredAfter t P R ∧
      (run (R.forM (Checker.stmt t)) cs).2.result.rebound =
        cs.result.rebound + (rebindsAfter t P R).length ∧
      (run (R.forM (Checker.stmt t)) cs).2.result.shadowed =
        cs.result.shadowed + (R.map fun j => (t.term (t.stmt j).expr).shadowed []).sum ∧
      (run (R.forM (Checker.stmt t)) cs).2.reporter =
        (programReports t shape P R).foldl Reporter.report cs.reporter
  | [], P, cs, _, h => ⟨by simpa using h,by simp [undeclaredAfter],by simp [rebindsAfter],by simp,
      by simp [programReports]⟩
  | j :: R, P, cs, hR, h => by
    obtain ⟨ht,hroot,hl⟩ := hR j (by simp)
    obtain ⟨ht₁,hu₁,hb₁,hs₁,hp₁⟩ := stmt_spec t ht hl hroot cs
    have hget : ∀ x, (cs.result.table.insert (t.stmtName j) j).1.get? x =
        lastNamed t.stmtName (P ++ [j]) x := fun x => by
      rw [NameMap.get?_insert,lastNamed_concat,h x]
    -- the name was bound before exactly when a statement of `P` binds it
    have hold : (cs.result.table.insert (t.stmtName j) j).2.isSome =
        decide (t.stmtName j ∈ P.map t.stmtName) := by
      rw [NameMap.insert_snd,h,Bool.eq_iff_iff,decide_eq_true_iff,Option.isSome_iff_ne_none,
        Ne,lastNamed_eq_none]
      simp
    obtain ⟨h₂,hu₂,hb₂,hs₂,hp₂⟩ := forM_stmt_spec t shape R (P ++ [j]) (run (Checker.stmt t j) cs).2
      (fun j' hj' => hR j' (by simp [hj'])) (fun x => by rw [ht₁,hget])
    rw [run_forM_cons]
    refine ⟨by simpa using h₂,?_,?_,?_,?_⟩
    · rw [hu₂,hu₁,undeclaredAfter]
      simp only [NameMap.contains,hget,Option.not_isSome]
      omega
    · rw [hb₂,hb₁,hold,rebindsAfter]
      by_cases hin : t.stmtName j ∈ P.map t.stmtName <;> simp [hin] <;> omega
    · rw [hs₂,hs₁]
      simp
      omega
    · have hcontains : (cs.result.table.insert (t.stmtName j) j).1.contains =
          fun x => (lastNamed t.stmtName (P ++ [j]) x).isSome := by
        funext x
        simp [NameMap.contains,hget]
      rw [hp₂,hp₁,hold,hcontains,programReports]
      by_cases hin : t.stmtName j ∈ P.map t.stmtName <;> simp [hin]

/-- The scope check of a program laid out in `shape`: when it can make its table, the table
maps each name to the last statement binding it, the counts are those of `undeclaredAfter`,
`rebindsAfter` and `Term.shadowed`, and the reporter is told `programReports`, in order. -/
theorem checkProgram_eq (t : Tree) (p : Nat) (hints : TableHints) (rep : Reporter)
    {shape : Nat → Shape} (hshape : ∀ j ∈ t.programStmts p,
      t.Realizes (shape j) ∧ (shape j).root = (t.stmt j).expr ∧ (shape j).Linear)
    {res : CheckResult} {rep' : Reporter} (h : checkProgram t p hints rep = .ok (res, rep')) :
    (∀ x, res.table.get? x = lastNamed t.stmtName (t.programStmts p) x) ∧
      res.undeclared = undeclaredAfter t [] (t.programStmts p) ∧
      res.rebound = (rebindsAfter t [] (t.programStmts p)).length ∧
      res.shadowed = ((t.programStmts p).map fun j => (t.term (t.stmt j).expr).shadowed []).sum ∧
      rep' = (programReports t shape [] (t.programStmts p)).foldl Reporter.report rep := by
  simp only [checkProgram,bind,Except.bind] at h
  split at h
  · cases h
  · rename_i table hmake
    simp only [pure,Except.pure] at h
    cases h
    obtain ⟨h₁,h₂,h₃,h₄,h₅⟩ := forM_stmt_spec t shape (t.programStmts p) []
      ⟨⟨table,0,0,0⟩,Binders.empty,rep⟩ hshape (fun x => by simp [NameMap.get?_of_make hmake x])
    exact ⟨fun x => h₁ x,h₂.trans (Nat.zero_add _),h₃.trans (Nat.zero_add _),
      h₄.trans (Nat.zero_add _),h₅⟩

/-- The scope check of a program: when it can make its table, the table maps each name to
the last statement binding it, and the count of undeclared references is `undeclaredAfter`. -/
theorem checkProgram_spec (t : Tree) (p : Nat) (hints : TableHints) (rep : Reporter)
    (hshape : ∀ j ∈ t.programStmts p, ∃ sh : Shape,
      t.Realizes sh ∧ sh.root = (t.stmt j).expr ∧ sh.Linear)
    {res : CheckResult} {rep' : Reporter} (h : checkProgram t p hints rep = .ok (res, rep')) :
    (∀ x, res.table.get? x = lastNamed t.stmtName (t.programStmts p) x) ∧
      res.undeclared = undeclaredAfter t [] (t.programStmts p) := by
  classical
  -- one of the shapes of each statement
  let shape : Nat → Shape := fun j =>
    if hj : j ∈ t.programStmts p then Classical.choose (hshape j hj) else default
  have hs : ∀ j ∈ t.programStmts p,
      t.Realizes (shape j) ∧ (shape j).root = (t.stmt j).expr ∧ (shape j).Linear := fun j hj => by
    simp only [shape,dif_pos hj]
    exact Classical.choose_spec (hshape j hj)
  obtain ⟨h₁,h₂,-⟩ := checkProgram_eq t p hints rep hs h
  exact ⟨h₁,h₂⟩

end Checker

end Combinatory
