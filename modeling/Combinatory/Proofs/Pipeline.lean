import Combinatory.Proofs.Parse
import Combinatory.Proofs.Check
import Combinatory.Proofs.Convert

/-! The passes in sequence. Currying a parsed program gives a program the converter takes
(`ParsedProgram.curry`), and converting it with the check's table gives each statement the pure
converter's term of its source body and reports the references no earlier statement binds
(`ParsedProgram.convert`). -/
namespace Combinatory

/-! ### Currying a parsed program -/

namespace Tree

variable {t : Tree} {p : Nat}

/-- Currying a parsed program gives a program the converter takes, each statement holding the
curried term of its source body; the statements and their names are kept. -/
theorem ParsedProgram.curry (h : t.ParsedProgram p) (hf : (t.curry p).failure = none) :
    (t.curry p).programStmts p = t.programStmts p ∧ (t.curry p).stmtName = t.stmtName ∧
      (t.curry p).Convertible (t.programStmts p) ∧
      ∀ j ∈ t.programStmts p,
        (t.curry p).term ((t.curry p).stmt j).expr = (t.term (t.stmt j).expr).curry := by
  obtain ⟨shape,hl⟩ := h.laidOut
  obtain ⟨hF,hs⟩ := curry_spec hl
  have hshape := hs hf
  refine ⟨hF.programStmts p,funext hF.stmtName,⟨h.nodup,fun j hj => ?_,fun j hj => ?_,
    fun j hj => ?_⟩,fun j hj => ?_⟩
  · rw [hF.stmts]
    exact (h.stmt j hj).1
  · rw [hF.stmt]
    exact (h.stmt j hj).2
  · obtain ⟨sh,hr,hroot,hlin,hcur,-⟩ := hshape j hj
    exact ⟨sh,hr,by rw [hF.stmt]; exact hroot,hlin,hcur⟩
  · obtain ⟨sh,hr,hroot,hlin,-,hterm⟩ := hshape j hj
    rw [hF.stmt,← hterm,← term_eq hr hlin,hroot]

/-! ### The converter in terms of the source program -/

/-- How the converter resolves a name in a statement converted after the statements `P`: to
the last of them that binds it, with the node of its compiled term in `st`. -/
def resolveAfter (t : Tree) (st : Store) (P : List Nat) (x : String) : Option (Nat × Nat) :=
  (lastNamed t.stmtName P x).map fun j => ((st.tree.stmt j).compiled.getD 0, j)

/-- The references of statement `j` that no enclosing parameter binds and no statement of `P`
binds, in order: those that converting `j` after `P` reports as used before being defined. -/
def unboundRefs (t : Tree) (P : List Nat) (j : Nat) : List (String × Span) :=
  ((t.term (t.stmt j).expr).freeRefs []).filter fun o => (lastNamed t.stmtName P o.1).isNone

/-- The references reported over the statements `R` converted after the statements `P`. -/
def unboundAfter (t : Tree) : List Nat → List Nat → List (String × Span)
  | _, [] => []
  | P, j :: R => t.unboundRefs P j ++ t.unboundAfter (P ++ [j]) R

/-- A reference reported in a statement is reported over the program. -/
theorem mem_unboundAfter (t : Tree) : ∀ (P R : List Nat) (i : Nat) (hi : i < R.length)
    {o : String × Span}, o ∈ t.unboundRefs (P ++ R.take i) R[i] → o ∈ t.unboundAfter P R
  | _, [], _, hi, _, _ => absurd hi (by simp)
  | P, j :: R, 0, _, o, h => by
    rw [unboundAfter]
    exact List.mem_append_left _ (by simpa using h)
  | P, j :: R, i + 1, hi, o, h => by
    rw [unboundAfter]
    exact List.mem_append_right _
      (mem_unboundAfter t (P ++ [j]) R i (by simpa using hi) (by simpa using h))

/-- What converting the program `L` of tree `t` leaves: one root per statement, in order, each
recorded as its statement's compiled term and holding the pure converter's term of the
statement's source body, names resolved to the statements before it; and the reporter told, in
order, of every reference that no earlier statement binds. -/
structure Converted (t : Tree) (L : List Nat) (rep : Reporter) (roots : List Root) (st : Store)
    (rep' : Reporter) : Prop where
  stmts : roots.map (·.stmt) = L
  compiled : ∀ r ∈ roots, (st.tree.stmt r.stmt).compiled = some r.node
  reads : ∀ i (hi : i < roots.length), st.Reads roots[i].node
    ((t.term (t.stmt roots[i].stmt).expr).compile (t.resolveAfter st (L.take i)) []).1
  reporter : rep' = Bracket.reportUses rep (t.unboundAfter [] L)

end Tree

namespace Reporter

/-- A reporter that keeps every diagnostic it is told, in order: not silent, dropping no
repeat, into a bag without limit. -/
structure KeepsAll (r : Reporter) : Prop where
  loud : r.silent = false
  repeats : r.dedup = false
  unlimited : r.bag.limit ≤ 0

theorem KeepsAll.report {r : Reporter} (h : r.KeepsAll) (d : Diagnostic) :
    (r.report d).bag.items = r.bag.items.push d ∧ (r.report d).KeepsAll := by
  have hl : ¬ r.bag.limit > 0 := by have := h.unlimited; omega
  simp only [Reporter.report,h.loud,h.repeats,Bool.false_eq_true,if_false,Bag.add,hl,false_and,
    if_false]
  exact ⟨trivial,rfl,rfl,h.unlimited⟩

end Reporter

namespace Bracket

open Combinatory.Tree

/-- The pure converter on the roots: the term of the root at position `i` is compiled after
the roots before it. -/
theorem compileRoots_getElem? (t : Tree) : ∀ (before rs : List Root) (i : Nat), i < rs.length →
    (compileRoots t before rs)[i]? = rs[i]?.map fun r =>
      (t.term (t.stmt r.stmt).expr).compile (resolveIn t (before ++ rs.take i)) []
  | _, [], _, hi => absurd hi (by simp)
  | before, r :: rest, 0, _ => by simp [compileRoots]
  | before, r :: rest, i + 1, hi => by
    simp only [compileRoots,List.getElem?_cons_succ,List.take_succ_cons]
    rw [compileRoots_getElem? t (before ++ [r]) rest i (by simpa using hi)]
    simp

variable {t t' : Tree} {st : Store}

/-- Naming roots by their identifiers names them by their statements. -/
theorem lastNamed_roots (hname : t'.stmtName = t.stmtName) {rs : List Root}
    (hid : ∀ r ∈ rs, r.ident = (t'.stmt r.stmt).var) (x : String) :
    (lastNamed (fun r : Root => t'.name r.ident) rs x).map (·.stmt) =
      lastNamed t.stmtName (rs.map (·.stmt)) x := by
  rw [lastNamed_map,lastNamed_congr (fun r : Root => t'.name r.ident) (g := t.stmtName ∘ (·.stmt))
    fun r hr => by simp [← hname,Tree.stmtName,hid r hr]]

/-- The converter resolves a name among roots as `resolveAfter` does among their statements. -/
theorem resolveIn_eq (hname : t'.stmtName = t.stmtName) {rs : List Root}
    (hid : ∀ r ∈ rs, r.ident = (t'.stmt r.stmt).var)
    (hc : ∀ r ∈ rs, (st.tree.stmt r.stmt).compiled = some r.node) :
    resolveIn t' rs = t.resolveAfter st (rs.map (·.stmt)) := by
  funext x
  rw [resolveAfter,← lastNamed_roots hname hid,Option.map_map,resolveIn]
  cases hr : lastNamed (fun r : Root => t'.name r.ident) rs x with
  | none => rfl
  | some r => simp [hc r (lastNamed_spec _ hr).1]

theorem resolveIn_isNone (hname : t'.stmtName = t.stmtName) {rs : List Root}
    (hid : ∀ r ∈ rs, r.ident = (t'.stmt r.stmt).var) (x : String) :
    (resolveIn t' rs x).isNone = (lastNamed t.stmtName (rs.map (·.stmt)) x).isNone := by
  rw [← lastNamed_roots hname hid,resolveIn]
  simp

/-- What the pure converter reports over the roots, when each root's statement holds the
curried term of its source body: the references no earlier statement binds. -/
theorem compileRoots_errs (hname : t'.stmtName = t.stmtName) :
    ∀ (before rs : List Root), (∀ r ∈ before ++ rs, r.ident = (t'.stmt r.stmt).var ∧
      t'.term (t'.stmt r.stmt).expr = (t.term (t.stmt r.stmt).expr).curry) →
    (compileRoots t' before rs).flatMap (·.2) =
      t.unboundAfter (before.map (·.stmt)) (rs.map (·.stmt))
  | _, [], _ => rfl
  | before, r :: rs, h => by
    have hr := h r (by simp)
    have hid : ∀ r ∈ before, r.ident = (t'.stmt r.stmt).var := fun r' hr' => (h r' (by simp [hr'])).1
    simp only [compileRoots,List.flatMap_cons,List.map_cons,unboundAfter]
    rw [compileRoots_errs hname (before ++ [r]) rs (fun r' hr' => h r' (by simpa using hr')),hr.2,
      Term.compile_curry,Term.errs_compile,unboundRefs]
    simp [resolveIn_isNone hname hid]

/-- A reporter that keeps everything gets one used-before-defined diagnostic per reference it
is told of. -/
theorem count_reportUses {rep : Reporter} (h : rep.KeepsAll) (errs : List (String × Span)) :
    (reportUses rep errs).bag.count DiagCode.usedBeforeDefined =
      rep.bag.count DiagCode.usedBeforeDefined + errs.length := by
  induction errs generalizing rep with
  | nil => rfl
  | cons o errs ih =>
    obtain ⟨hitems,hkeep⟩ := h.report (usedBeforeDefined o.1 o.2)
    rw [reportUses,List.foldl_cons,← reportUses,ih hkeep,Bag.count,hitems,Array.filter_push]
    simp [usedBeforeDefined,Bag.count]
    omega

/-- The statement loop, once it has converted every statement, in terms of the source program
the statements were curried from. -/
theorem Loop.converted {L : List Nat} {rep : Reporter} {roots : List Root} {s : ConvertState}
    (h : Loop t' L rep roots s) (hp : t'.Convertible L) (hroots : roots.map (·.stmt) = L)
    (hname : t'.stmtName = t.stmtName)
    (hterm : ∀ j ∈ L, t'.term (t'.stmt j).expr = (t.term (t.stmt j).expr).curry) :
    t.Converted L rep roots s.store s.reporter := by
  have hnd : (roots.map (·.stmt)).Nodup := hroots ▸ hp.nodup
  have hmem : ∀ r ∈ roots, r.stmt ∈ L := fun r hr => hroots ▸ List.mem_map_of_mem hr
  have hc : ∀ r ∈ roots, (s.store.tree.stmt r.stmt).compiled = some r.node := fun r hr => by
    rw [h.compiled _ (hmem r hr),find?_stmt hnd hr]
    rfl
  have hreads := List.forall₂_iff_get.1 h.reads
  refine ⟨hroots,hc,fun i hi => ?_,?_⟩
  · -- the root at `i` holds what the pure converter gives after the roots before it
    have hi' : i < (compileRoots t' [] roots).length := hreads.1 ▸ hi
    have hget := compileRoots_getElem? t' [] roots i hi
    rw [List.getElem?_eq_getElem hi',List.getElem?_eq_getElem hi] at hget
    have hR := hreads.2 i hi hi'
    simp only [List.get_eq_getElem] at hR
    rw [Option.some_inj.1 hget] at hR
    simp only [List.nil_append] at hR
    rw [hterm _ (hmem _ (List.getElem_mem hi)),Term.compile_curry,
      resolveIn_eq hname (fun r hr => h.ident r (List.mem_of_mem_take hr))
        (fun r hr => hc r (List.mem_of_mem_take hr)),List.map_take,hroots] at hR
    exact hR
  · rw [h.reporter,compileRoots_errs hname [] roots fun r hr => ⟨h.ident r (by simpa using hr),
      hterm _ (hmem r (by simpa using hr))⟩,hroots]
    rfl

end Bracket

namespace Tree

variable {t : Tree} {p : Nat}

/-- Converting a curried parsed program with a table that maps each name to the last statement
binding it, as the check's table does: the conversion never reaches its unreachable state; it
fails only on an allocation failure, and otherwise converts every statement as `Converted`
says. -/
theorem ParsedProgram.convert (h : t.ParsedProgram p) (hf : (t.curry p).failure = none)
    {table : NameMap Nat} (htable : ∀ x, table.get? x = lastNamed t.stmtName (t.programStmts p) x)
    (rep : Reporter) :
    (∃ e, ((Store.ofTree (t.curry p)).convert p table rep).1 = .error (.forest e)) ∨
      (∃ x e, ((Store.ofTree (t.curry p)).convert p table rep).1 = .error (.node x e)) ∨
      ∃ roots, ((Store.ofTree (t.curry p)).convert p table rep).1 = .ok roots ∧
        t.Converted (t.programStmts p) rep roots ((Store.ofTree (t.curry p)).convert p table rep).2.1
          ((Store.ofTree (t.curry p)).convert p table rep).2.2 := by
  obtain ⟨hL,hname,hconv,hterm⟩ := h.curry hf
  rcases Bracket.convert_spec (hL ▸ hconv) (fun x => by rw [htable,hL,hname]) rep with
    ⟨e,he,-⟩ | ⟨x,e,he,-⟩ | ⟨roots,s,hok,hroots,hloop,hst⟩
  · exact .inl ⟨e,he⟩
  · exact .inr (.inl ⟨x,e,he⟩)
  · refine .inr (.inr ⟨roots,hok,?_⟩)
    rw [hst]
    rw [hL] at hroots hloop
    exact hloop.converted hconv hroots hname hterm

theorem ParsedProgram.converted (h : t.ParsedProgram p) (hf : (t.curry p).failure = none)
    {table : NameMap Nat} (htable : ∀ x, table.get? x = lastNamed t.stmtName (t.programStmts p) x)
    {rep rep' : Reporter} {roots : List Root} {st : Store}
    (hconv : (Store.ofTree (t.curry p)).convert p table rep = (.ok roots, st, rep')) :
    t.Converted (t.programStmts p) rep roots st rep' := by
  rcases h.convert hf htable rep with ⟨e,he⟩ | ⟨x,e,he⟩ | ⟨roots',hok,hc⟩ <;> rw [hconv] at *
  · cases he
  · cases he
  · cases hok
    exact hc

/-- A converted statement reports exactly its references that no earlier statement binds. -/
theorem errs_resolveAfter (st : Store) (P : List Nat) (j : Nat) :
    ((t.term (t.stmt j).expr).compile (t.resolveAfter st P) []).2 = t.unboundRefs P j := by
  simp [Term.errs_compile,unboundRefs,resolveAfter]

variable {L : List Nat} {rep rep' : Reporter} {roots : List Root} {st : Store}

theorem Converted.length (h : t.Converted L rep roots st rep') : roots.length = L.length := by
  simpa using congrArg List.length h.stmts

theorem Converted.stmt (h : t.Converted L rep roots st rep') {i : Nat} (hi : i < roots.length)
    (hL : i < L.length) : roots[i].stmt = L[i] := by
  simp [← h.stmts]

end Tree

end Combinatory
