import Combinatory.Proofs.Check

/-! The binder stack of the scope check is balanced: every check of an expression gives the
stack back as it found it (`Checker.expr_keeps_binders`), and the check of a node starts from
the enclosing parameters and boundaries (`Checker.binders_balanced`). -/
namespace Combinatory

namespace Checker

open Pass

/-- Whether the check of an application puts a boundary around its left operand `l`: when
`l` is an abstraction. -/
def boundaryAround (t : Tree) (l : Nat) : Bool :=
  match t.expr l with
  | .abs .. => true
  | _ => false

/-- The state the left operand `l` is checked from. -/
def enterLeft (t : Tree) (l : Nat) (cs : CheckState) : CheckState :=
  if boundaryAround t l then { cs with binders := cs.binders.pushBoundary } else cs

/-- The state after the left operand `l` is checked, from which the right one is. -/
def leaveLeft (t : Tree) (l : Nat) (cs : CheckState) : CheckState :=
  if boundaryAround t l then { cs with binders := cs.binders.pop.1 } else cs

/-- The entries the check of chain `ps` pushes, in order. -/
def paramEntries (t : Tree) (ps : List Nat) : List Binder :=
  ps.map fun p => .param (t.name p) (t.ident p).token

/-- The check of an application, with its boundary test named. -/
theorem expr_app_eq (t : Tree) (fuel : Nat) {i l r : Nat} {sp : Span}
    (he : t.expr i = .app l r sp) :
    expr t (fuel + 1) i = (do
      if boundaryAround t l then modify fun s => { s with binders := s.binders.pushBoundary }
      let left ← expr t fuel l
      if boundaryAround t l then modify fun s => { s with binders := (s.binders.pop).1 }
      let right ← expr t fuel r
      return left && right) := by
  simp only [expr, he]
  rfl

/-- The check of an application: the left operand from the state `enterLeft` gives, then the
right one from the state `leaveLeft` makes of what the left one left. -/
theorem expr_app (t : Tree) (fuel : Nat) {i l r : Nat} {sp : Span} (he : t.expr i = .app l r sp)
    (cs : CheckState) :
    run (expr t (fuel + 1) i) cs =
      ((run (expr t fuel l) (enterLeft t l cs)).1 &&
          (run (expr t fuel r) (leaveLeft t l (run (expr t fuel l) (enterLeft t l cs)).2)).1,
        (run (expr t fuel r) (leaveLeft t l (run (expr t fuel l) (enterLeft t l cs)).2)).2) := by
  rw [expr_app_eq t fuel he]
  unfold enterLeft leaveLeft
  cases boundaryAround t l <;> rfl

/-- The stack the left operand is checked from: the one handed over, with a boundary on top when
the operand is an abstraction. -/
theorem enterLeft_items (t : Tree) (l : Nat) (cs : CheckState) :
    (enterLeft t l cs).binders.items =
      cs.binders.items ++ (if boundaryAround t l then [.boundary] else []) := by
  unfold enterLeft
  split <;> simp

/-- A left operand whose check gave back the stack it was given leaves, once its boundary is
popped, the stack the application was handed. -/
theorem leaveLeft_items {t : Tree} {l : Nat} {cs cs' : CheckState}
    (h : cs'.binders.items = (enterLeft t l cs).binders.items) :
    (leaveLeft t l cs').binders.items = cs.binders.items := by
  rw [enterLeft_items] at h
  unfold leaveLeft
  cases hb : boundaryAround t l
  · simpa [hb] using h
  · simp [hb, h]

/-- Checking an expression gives the binder stack back as it found it. -/
theorem expr_keeps_binders (t : Tree) :
    ∀ (fuel i : Nat) (cs : CheckState), (run (expr t fuel i) cs).2.binders.items = cs.binders.items
  | 0, _, _ => rfl
  | fuel + 1, i, cs => by
    cases he : t.expr i with
    | ref v sp =>
      -- a reference only counts and reports
      by_cases hc : cs.binders.contains (t.name v) = true ∨ cs.result.table.contains (t.name v) = true
      · simp [expr, he, hc]
      · simp [expr, he, hc, report]
    | app l r sp =>
      -- the right operand starts from the stack the left one was given, less its boundary
      rw [expr_app t fuel he, expr_keeps_binders t fuel r]
      exact leaveLeft_items (expr_keeps_binders t fuel l _)
    | abs p b sp =>
      rw [expr_abs t fuel he]
      simp only [run_bind, run_pure]
      have hpush := (pushParams_spec t (t.chain p) cs).1
      have hbody := expr_keeps_binders t fuel b (run (pushParams t (t.chain p)) cs).2
      exact (popParams_spec (t.chain p) _ _ (List.length_map _) _ (hbody.trans hpush)).1

/-- The check of node `i`, started from state `cs` with fuel `fuel`, goes on to check node `j`
from state `cs'` with fuel `f`; `scope` lists what the descent from `i` to `j` pushes: the
parameters of each abstraction whose body it enters, and a boundary when it enters a left
operand that is an abstraction. -/
inductive Enters (t : Tree) : Nat → Nat → CheckState → List Binder → Nat → Nat → CheckState → Prop
  | refl (fuel i : Nat) (cs : CheckState) : Enters t fuel i cs [] fuel i cs
  | body {fuel i p b : Nat} {sp : Span} {cs : CheckState} {scope : List Binder} {f j : Nat}
      {cs' : CheckState} :
      t.expr i = .abs p b sp → Enters t fuel b (run (pushParams t (t.chain p)) cs).2 scope f j cs' →
      Enters t (fuel + 1) i cs (paramEntries t (t.chain p) ++ scope) f j cs'
  | left {fuel i l r : Nat} {sp : Span} {cs : CheckState} {scope : List Binder} {f j : Nat}
      {cs' : CheckState} :
      t.expr i = .app l r sp → Enters t fuel l (enterLeft t l cs) scope f j cs' →
      Enters t (fuel + 1) i cs ((if boundaryAround t l then [.boundary] else []) ++ scope) f j cs'
  | right {fuel i l r : Nat} {sp : Span} {cs : CheckState} {scope : List Binder} {f j : Nat}
      {cs' : CheckState} :
      t.expr i = .app l r sp →
      Enters t fuel r (leaveLeft t l (run (expr t fuel l) (enterLeft t l cs)).2) scope f j cs' →
      Enters t (fuel + 1) i cs scope f j cs'

/-- The check of a node starts from the stack the check above it was handed, followed by what
the descent pushed. -/
theorem Enters.items {t : Tree} {fuel i f j : Nat} {cs cs' : CheckState} {scope : List Binder}
    (h : Enters t fuel i cs scope f j cs') : cs'.binders.items = cs.binders.items ++ scope := by
  induction h with
  | refl => simp
  | body _ _ ih =>
    rw [ih, (pushParams_spec _ _ _).1, paramEntries, List.append_assoc]
  | left _ _ ih => rw [ih, enterLeft_items, List.append_assoc]
  | @right fuel i l r sp cs scope f j cs' _ _ ih =>
    -- the left operand gave back the stack it was given, and its boundary is popped
    rw [ih, leaveLeft_items (expr_keeps_binders t fuel l (enterLeft t l cs))]

/-- Checking a statement ends on a cleared stack. -/
theorem stmt_binders (t : Tree) (j : Nat) (cs : CheckState) :
    (run (stmt t j) cs).2.binders = Binders.empty := by
  by_cases hold : (cs.result.table.insert (t.name (t.stmt j).var) j).2.isSome = true
  · simp only [stmt, hold, report, Binders.clear, run_bind, run_get, run_set, run_modify, if_true]
  · simp only [stmt, hold, Binders.clear, run_bind, run_get, run_set, run_modify,
      Bool.false_eq_true, if_false]

/-- The binder stack of the scope check is balanced: checking any expression gives the stack
back with the entries it found, statements leave it empty, and the check of a node below `i`
starts from the stack of `i` followed by the enclosing parameters and boundaries. -/
theorem binders_balanced (t : Tree) :
    (∀ (fuel i : Nat) (cs : CheckState),
      (run (expr t fuel i) cs).2.binders.items = cs.binders.items) ∧
    (∀ (R : List Nat) (cs : CheckState), cs.binders = Binders.empty →
      (run (R.forM (stmt t)) cs).2.binders = Binders.empty) ∧
    (∀ (fuel i f j : Nat) (cs cs' : CheckState) (scope : List Binder),
      Enters t fuel i cs scope f j cs' → cs'.binders.items = cs.binders.items ++ scope) := by
  refine ⟨expr_keeps_binders t, fun R => ?_, fun _ _ _ _ _ _ _ h => h.items⟩
  induction R with
  | nil => exact fun cs h => h
  | cons j R ih =>
    intro cs _
    rw [run_forM_cons]
    exact ih _ (stmt_binders t j cs)

end Checker

end Combinatory
