import Combinatory.Proofs.Denotation
import Combinatory.Proofs.Decode

/-! What the converter reports and which leaves it leaves free. A free leaf left in a compiled
term names a reference reported for its statement (`convert_free_leaves_reported`); on a
checked program the references reported are exactly the self-references
(`convert_reports_self_references`). -/
namespace Combinatory

namespace Tree

variable {t : Tree} {p : Nat} {table : NameMap Nat}

/-- No placeholder survives unreported: converting a curried parsed program never ends in the
unreachable state, and when it succeeds every free leaf in a compiled term names a reference
reported for its statement, in order. -/
theorem convert_free_leaves_reported (ht : t.ParsedProgram p) (hcurry : (t.curry p).failure = none)
    (htable : ∀ x, table.get? x = lastNamed t.stmtName (t.programStmts p) x) (rep : Reporter) :
    ((Store.ofTree (t.curry p)).convert p table rep).1 ≠ .error .unreachable ∧
      ∀ roots st rep', (Store.ofTree (t.curry p)).convert p table rep = (.ok roots, st, rep') →
        rep' = Bracket.reportUses rep (t.unboundAfter [] (t.programStmts p)) ∧
        ∀ i (hi : i < roots.length) (n : String), st.containsFree roots[i].node n = true →
          ∃ sp, (n, sp) ∈ t.unboundRefs ((t.programStmts p).take i) roots[i].stmt := by
  refine ⟨fun he => ?_,fun roots st rep' hconv => ?_⟩
  · rcases ht.convert hcurry htable rep with ⟨e,he'⟩ | ⟨x,e,he'⟩ | ⟨roots,he',-⟩ <;>
      rw [he] at he' <;> cases he'
  · have hc := ht.converted hcurry htable hconv
    refine ⟨hc.reporter,fun i hi n hn => ?_⟩
    rw [Store.containsFree_of_reads (hc.reads i hi)] at hn
    rcases Term.hasFree_compile _ _ [] n hn with hn | hn
    · cases hn
    · rwa [errs_resolveAfter] at hn

/-- The references of the statements `R`, after the statements `P`, that no enclosing parameter
binds, that name their own statement and that no statement before it binds. -/
def selfRefsAfter (t : Tree) : List Nat → List Nat → List (String × Span)
  | _, [] => []
  | P, j :: R => ((t.term (t.stmt j).expr).freeRefs []).filter
      (fun o => o.1 = t.stmtName j ∧ ∀ k ∈ P, t.stmtName k ≠ o.1) ++ t.selfRefsAfter (P ++ [j]) R

/-- Where every reference names a statement up to its own, one that no earlier statement binds
names its own statement. -/
theorem unboundAfter_eq_selfRefsAfter : ∀ (P R : List Nat), Checker.undeclaredAfter t P R = 0 →
    t.unboundAfter P R = t.selfRefsAfter P R
  | _, [], _ => rfl
  | P, j :: R, h => by
    simp only [Checker.undeclaredAfter,Nat.add_eq_zero_iff,List.countP_eq_zero] at h
    rw [unboundAfter,selfRefsAfter,unboundAfter_eq_selfRefsAfter (P ++ [j]) R h.2,unboundRefs]
    congr 1
    refine List.filter_congr fun o ho => Bool.eq_iff_iff.2 ?_
    have hdecl := h.1 o ho
    rw [lastNamed_concat] at hdecl
    simp only [Option.isNone_iff_eq_none,decide_eq_true_eq,lastNamed_eq_none]
    by_cases hj : t.stmtName j = o.1
    · simp [hj]
    · -- the name is declared, and not by `j`: some earlier statement binds it
      rw [if_neg hj,Option.isNone_iff_eq_none,lastNamed_eq_none] at hdecl
      exact ⟨fun h' => absurd h' hdecl,fun h' => absurd h'.1.symm hj⟩

/-- The check and the converter disagree only on self-reference: on a program the check
accepts, the references reported are those naming their own statement with no earlier
statement of that name; every other free reference becomes a reference node. -/
theorem convert_reports_self_references (ht : t.ParsedProgram p)
    (hcurry : (t.curry p).failure = none)
    (htable : ∀ x, table.get? x = lastNamed t.stmtName (t.programStmts p) x)
    (hdecl : Checker.undeclaredAfter t [] (t.programStmts p) = 0) {rep rep' : Reporter}
    {roots : List Root} {st : Store}
    (hconv : (Store.ofTree (t.curry p)).convert p table rep = (.ok roots, st, rep')) :
    roots.map (·.stmt) = t.programStmts p ∧
      rep' = Bracket.reportUses rep (t.selfRefsAfter [] (t.programStmts p)) ∧
      ∀ i (hi : i < roots.length), st.refs roots[i].node =
        ((t.term (t.stmt roots[i].stmt).expr).freeRefs []).filterMap
          fun o => lastNamed t.stmtName ((t.programStmts p).take i) o.1 := by
  have hc := ht.converted hcurry htable hconv
  refine ⟨hc.stmts,by rw [hc.reporter,unboundAfter_eq_selfRefsAfter _ _ hdecl],fun i hi => ?_⟩
  rw [Store.refs_of_reads (hc.reads i hi),Term.refs_compile]
  simp [resolveAfter,Option.map_map,Function.comp_def]

/-! ### A program that refers to itself -/

/-- The tree of `i = λx.x; f = λx.f i;`, whose `f` refers to itself. -/
def selfTree : Tree := (parseFile (textFile "i = λx.x;\nf = λx.f i;\n") freshTree Reporter.none 0).2.1

/-- Each name of the self-referring program to the last statement binding it. -/
def selfTable : NameMap Nat :=
  ⟨(selfTree.programStmts 0).reverse.map fun j => (selfTree.stmtName j, j), 4, .finite false 3 (-2)⟩

/-- Converting the curried self-referring program. -/
def selfRun : Except ConvertError (List Root) × Store × Reporter :=
  (Store.ofTree (selfTree.curry 0)).convert 0 selfTable sampleReporter

/-- The roots of the self-referring program. -/
def selfRoots : List Root := [⟨0,0,4⟩,⟨1,3,8⟩]

theorem selfTree_parsed : selfTree.ParsedProgram 0 :=
  (parseFile_spec (textFile "i = λx.x;\nf = λx.f i;\n") freshTree Reporter.none 0 (by decide +kernel)).2

theorem selfTable_spec (x : String) :
    selfTable.get? x = lastNamed selfTree.stmtName (selfTree.programStmts 0) x :=
  get?_reverse_map _ _ _ _ x

/-- The self-referring program curries, passes the check and converts; the one reference left
unbound is the `f` inside `f`. -/
theorem selfRun_facts : (selfTree.curry 0).failure = none ∧
    Checker.undeclaredAfter selfTree [] (selfTree.programStmts 0) = 0 ∧ selfRun.1 = .ok selfRoots ∧
    selfTree.unboundAfter [] (selfTree.programStmts 0) = [("f",⟨0,19,20⟩)] ∧
    selfTree.selfRefsAfter [] (selfTree.programStmts 0) = [("f",⟨0,19,20⟩)] := by
  decide +kernel

theorem selfRun_eq : (Store.ofTree (selfTree.curry 0)).convert 0 selfTable sampleReporter =
    (.ok selfRoots, selfRun.2.1, selfRun.2.2) := by
  show selfRun = _
  rw [← selfRun_facts.2.2.1]

theorem convert_free_leaves_reported_recursive :
    (selfTree.curry 0).failure = none ∧
      selfTree.unboundAfter [] (selfTree.programStmts 0) = [("f",⟨0,19,20⟩)] ∧
      ((Store.ofTree (selfTree.curry 0)).convert 0 selfTable sampleReporter).1 ≠ .error .unreachable ∧
      ∀ roots st rep', (Store.ofTree (selfTree.curry 0)).convert 0 selfTable sampleReporter =
          (.ok roots, st, rep') →
        rep' = Bracket.reportUses sampleReporter (selfTree.unboundAfter [] (selfTree.programStmts 0)) ∧
        ∀ i (hi : i < roots.length) (n : String), st.containsFree roots[i].node n = true →
          ∃ sp, (n, sp) ∈ selfTree.unboundRefs ((selfTree.programStmts 0).take i) roots[i].stmt :=
  ⟨selfRun_facts.1,selfRun_facts.2.2.2.1,
    convert_free_leaves_reported selfTree_parsed selfRun_facts.1 selfTable_spec sampleReporter⟩

theorem convert_reports_self_references_recursive :
    (selfTree.curry 0).failure = none ∧ Checker.undeclaredAfter selfTree [] (selfTree.programStmts 0) = 0 ∧
      selfTree.selfRefsAfter [] (selfTree.programStmts 0) = [("f",⟨0,19,20⟩)] ∧
      selfRoots.map (·.stmt) = selfTree.programStmts 0 ∧
      selfRun.2.2 = Bracket.reportUses sampleReporter (selfTree.selfRefsAfter [] (selfTree.programStmts 0)) ∧
      ∀ i (hi : i < selfRoots.length), selfRun.2.1.refs selfRoots[i].node =
        ((selfTree.term (selfTree.stmt selfRoots[i].stmt).expr).freeRefs []).filterMap
          fun o => lastNamed selfTree.stmtName ((selfTree.programStmts 0).take i) o.1 :=
  ⟨selfRun_facts.1,selfRun_facts.2.1,selfRun_facts.2.2.2.2,
    convert_reports_self_references selfTree_parsed selfRun_facts.1 selfTable_spec selfRun_facts.2.1
      selfRun_eq⟩

end Tree

end Combinatory
