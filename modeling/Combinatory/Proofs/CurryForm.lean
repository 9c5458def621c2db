import Combinatory.Proofs.Denotation
import Combinatory.Tree.Invariants

/-! Curried normal form: in a curried parsed program every abstraction binds one parameter, and
a second currying leaves it as it is (`curry_normal_form`). -/
namespace Combinatory

open Pass

namespace Tree

/-- A chain of one identifier is its head, which ends it. -/
theorem ChainAt.eq_single {t : Tree} {p : Nat} {ps : List Nat} (h : t.ChainAt p ps)
    (hn : ps.length = 1) : ps = [p] := by
  obtain ⟨qs,rfl⟩ := h.head
  rw [List.length_cons,Nat.add_eq_right,List.length_eq_zero_iff] at hn
  rw [hn]

end Tree

namespace Invariants

/-- A curried shape has no abstraction binding other than one parameter, however far the check
looks. -/
theorem curryFailures_of_curried {t : Tree} {sh : Shape} (h : t.Realizes sh) (hc : sh.Curried)
    (name : String) : ∀ fuel, curryFailures t name fuel sh.root = [] := by
  induction h with
  | ref _ he _ =>
    rintro (_ | fuel)
    · rfl
    · simp [curryFailures,he]
  | app _ he _ _ ihl ihr =>
    rintro (_ | fuel)
    · rfl
    · simp [curryFailures,he,ihl hc.1,ihr hc.2]
  | @abs i p sp ps b _ he hch _ ih =>
    rintro (_ | fuel)
    · rfl
    -- the chain is the parameter alone
    have hps : ps = [p] := hch.eq_single hc.1
    subst hps
    have hchain : t.chain p = [p] := Tree.chain_of_chainAt hch (by simp)
    simp [curryFailures,he,hchain,ih hc.2]

end Invariants

/-- The curried check passes on a program whose statements hold curried shapes. -/
theorem Tree.checkCurried_of_curried {t : Tree} {p : Nat}
    (h : ∀ j ∈ t.programStmts p, ∃ sh : Shape, t.Realizes sh ∧ sh.root = (t.stmt j).expr ∧
      sh.Linear ∧ sh.Curried) :
    t.checkCurried p = .ok () := by
  have hnone : (t.programStmts p).findSome? (fun j => (Invariants.curryFailures t (t.stmtName j)
      (t.exprs.size + 1) (t.stmt j).expr).getLast?) = none := by
    rw [List.findSome?_eq_none_iff]
    intro j hj
    obtain ⟨sh,hr,hroot,-,hc⟩ := h j hj
    rw [← hroot,Invariants.curryFailures_of_curried hr hc]
    rfl
  simp only [Tree.checkCurried,hnone]

namespace Curry

/-- The walk over a curried shape changes nothing: it cuts no chain and builds no record. -/
theorem expr_of_curried {t : Tree} {sh : Shape} (h : t.Realizes sh) (hc : sh.Curried) :
    ∀ fuel, run (expr fuel sh.root) t = ((), t) := by
  induction h with
  | ref _ he _ =>
    rintro (_ | fuel)
    · rfl
    · exact expr_ref he
  | app _ he _ _ ihl ihr =>
    rintro (_ | fuel)
    · rfl
    · rw [Shape.root_app,expr_app he,ihl hc.1,ihr hc.2]
  | @abs i p sp ps b _ he hch _ ih =>
    rintro (_ | fuel)
    · rfl
    have hps : ps = [p] := hch.eq_single hc.1
    subst hps
    rw [Shape.root_abs,expr_abs_last he hch.next_of_single,ih hc.2]

/-- Currying statements that hold curried shapes changes nothing. -/
theorem stmts_of_curried : ∀ (L : List Nat) {t : Tree},
    (∀ j ∈ L, ∃ sh : Shape, t.Realizes sh ∧ sh.root = (t.stmt j).expr ∧ sh.Linear ∧ sh.Curried) →
      run (stmts L) t = ((), t)
  | [], _, _ => rfl
  | j :: L, t, h => by
    obtain ⟨sh,hr,hroot,-,hc⟩ := h j List.mem_cons_self
    rw [stmts_cons,← hroot,expr_of_curried hr hc]
    split
    · exact stmts_of_curried L fun k hk => h k (List.mem_cons_of_mem _ hk)
    · rfl

end Curry

namespace Tree

variable {t : Tree} {p : Nat}

/-- Currying a program whose statements hold curried shapes changes nothing. -/
theorem curry_of_curried
    (h : ∀ j ∈ t.programStmts p, ∃ sh : Shape, t.Realizes sh ∧ sh.root = (t.stmt j).expr ∧
      sh.Linear ∧ sh.Curried) :
    t.curry p = t := by
  rw [show t.curry p = (run (Curry.stmts (t.programStmts p)) t).2 from rfl,Curry.stmts_of_curried _ h]

/-- Currying a parsed program puts it in curried normal form: unless an allocation fails, every
abstraction binds one parameter, each statement holds the curried term of its body with the
spans its records had, and a second currying changes nothing. -/
theorem curry_normal_form (ht : t.ParsedProgram p) (hspans : t.SpansTokens)
    (hcurry : (t.curry p).failure = none) :
    (t.curry p).checkCurried p = .ok () ∧ (t.curry p).programStmts p = t.programStmts p ∧
      (∀ j ∈ t.programStmts p,
        (t.curry p).term ((t.curry p).stmt j).expr = (t.term (t.stmt j).expr).curry ∧
        (t.curry p).located ((t.curry p).stmt j).expr = (t.located (t.stmt j).expr).curry) ∧
      (t.curry p).curry p = t.curry p := by
  obtain ⟨hstmts,-,hconv,hterm⟩ := ht.curry hcurry
  obtain ⟨shape,hl⟩ := ht.laidOut
  have hshape := hconv.shape
  rw [← hstmts] at hshape
  refine ⟨checkCurried_of_curried hshape,hstmts,fun j hj => ⟨hterm j hj,?_⟩,curry_of_curried hshape⟩
  rw [(curry_spec hl).1.stmt j]
  exact curry_located hl hspans hcurry j hj

theorem curry_normal_form_sample :
    sampleTree.ParsedProgram 0 ∧ sampleTree.SpansTokens ∧ (sampleTree.curry 0).failure = none ∧
      (sampleTree.curry 0).checkCurried 0 = .ok () ∧
      (sampleTree.curry 0).programStmts 0 = sampleTree.programStmts 0 ∧
      (∀ j ∈ sampleTree.programStmts 0,
        (sampleTree.curry 0).term ((sampleTree.curry 0).stmt j).expr =
          (sampleTree.term (sampleTree.stmt j).expr).curry ∧
        (sampleTree.curry 0).located ((sampleTree.curry 0).stmt j).expr =
          (sampleTree.located (sampleTree.stmt j).expr).curry) ∧
      (sampleTree.curry 0).curry 0 = sampleTree.curry 0 := by
  have hspans : sampleTree.SpansTokens := by
    unfold SpansTokens Spanned
    decide +kernel
  have hcurry : (sampleTree.curry 0).failure = none := by decide +kernel
  exact ⟨sampleTree_parsed,hspans,hcurry,curry_normal_form sampleTree_parsed hspans hcurry⟩

end Tree

end Combinatory
