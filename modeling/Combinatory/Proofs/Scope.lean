import Combinatory.Proofs.Denotation

/-! What the scope check reports, read off the source program: its undeclared-reference errors
(`programReports_undeclared`) and rebinding warnings (`programReports_rebinding`), put together
in `checkProgram_scope_results`. -/
namespace Combinatory

namespace Checker

/-- The references of the statements `R`, after the statements `P`, that no enclosing parameter
binds and that name no statement up to their own, in order. -/
def undeclaredRefsAfter (t : Tree) : List Nat → List Nat → List (String × Span)
  | _, [] => []
  | P, j :: R =>
    ((t.term (t.stmt j).expr).freeRefs []).filter
        (fun o => (lastNamed t.stmtName (P ++ [j]) o.1).isNone) ++
      undeclaredRefsAfter t (P ++ [j]) R

theorem length_undeclaredRefsAfter (t : Tree) :
    ∀ P R, (undeclaredRefsAfter t P R).length = undeclaredAfter t P R
  | _, [] => rfl
  | P, j :: R => by
    rw [undeclaredRefsAfter,undeclaredAfter,List.length_append,← List.countP_eq_length_filter,
      length_undeclaredRefsAfter t (P ++ [j]) R]

theorem shadowWarnings_codes (t : Tree) :
    ∀ (bound : List String) (ps : List Nat), ∀ d ∈ shadowWarnings t bound ps,
      d.code = DiagCode.shadowedBinder
  | _, [], _, hd => by cases hd
  | bound, p :: ps, d, hd => by
    simp only [shadowWarnings,List.mem_append] at hd
    rcases hd with hd | hd
    · split at hd
      · simp only [List.mem_singleton] at hd
        subst hd
        rfl
      · cases hd
    · exact shadowWarnings_codes t _ ps d hd

/-- The undeclared-reference errors a shape reports are its free references, past the names in
scope, that are not declared, in order. -/
theorem reports_undeclared (t : Tree) (declared : String → Bool) :
    ∀ (sh : Shape) (bound : List String),
      (reports t declared bound sh).filter (·.code = DiagCode.undeclared) =
        (((sh.term t).freeRefs bound).filter fun o => !declared o.1).map
          fun o => undeclaredError o.1 o.2
  | .ref i v, bound => by
    by_cases hb : t.name v ∈ bound
    · simp [reports,Shape.term,Term.freeRefs,hb]
    · cases hd : declared (t.name v) <;>
        simp [reports,Shape.term,Term.freeRefs,hb,hd,undeclaredError,diagnostic]
  | .app _ l r, bound => by
    simp [reports,Shape.term,Term.freeRefs,reports_undeclared t declared l,
      reports_undeclared t declared r]
  | .abs _ ps b, bound => by
    -- the chain's warnings have another code
    have hw : (shadowWarnings t bound ps).filter (·.code = DiagCode.undeclared) = [] :=
      List.filter_eq_nil_iff.2 fun d hd => by
        simp [shadowWarnings_codes t bound ps d hd,DiagCode.shadowedBinder,DiagCode.undeclared]
    simp [reports,Shape.term,Term.freeRefs,hw,reports_undeclared t declared b]

/-- A shape reports no rebinding. -/
theorem reports_rebinding (t : Tree) (declared : String → Bool) :
    ∀ (sh : Shape) (bound : List String),
      (reports t declared bound sh).filter (·.code = DiagCode.rebinding) = []
  | .ref i v, bound => by
    by_cases hd : t.name v ∈ bound ∨ declared (t.name v) = true <;>
      simp [reports,hd,undeclaredError,diagnostic,DiagCode.undeclared,DiagCode.rebinding]
  | .app _ l r, bound => by
    simp [reports,reports_rebinding t declared l,reports_rebinding t declared r]
  | .abs _ ps b, bound => by
    have hw : (shadowWarnings t bound ps).filter (·.code = DiagCode.rebinding) = [] :=
      List.filter_eq_nil_iff.2 fun d hd => by
        simp [shadowWarnings_codes t bound ps d hd,DiagCode.shadowedBinder,DiagCode.rebinding]
    simp [reports,hw,reports_rebinding t declared b]

variable {t : Tree} {shape : Nat → Shape}

/-- The undeclared-reference errors of a program, in order, are `undeclaredRefsAfter`. -/
theorem programReports_undeclared :
    ∀ (P R : List Nat), (∀ j ∈ R, (shape j).term t = t.term (t.stmt j).expr) →
      (programReports t shape P R).filter (·.code = DiagCode.undeclared) =
        (undeclaredRefsAfter t P R).map fun o => undeclaredError o.1 o.2
  | _, [], _ => rfl
  | P, j :: R, h => by
    have hj := h j (by simp)
    have hrest := programReports_undeclared (P ++ [j]) R fun k hk => h k (by simp [hk])
    -- a rebinding warning has another code
    have hw : ((if t.stmtName j ∈ P.map t.stmtName then
        [rebindWarning (t.stmtName j) (t.ident (t.stmt j).var).span] else []).filter
          (·.code = DiagCode.undeclared)) = [] := by
      split <;> simp [rebindWarning,diagnostic,DiagCode.rebinding,DiagCode.undeclared]
    rw [programReports,List.filter_append,List.filter_append,hw,reports_undeclared,hj,hrest,
      undeclaredRefsAfter]
    simp

/-- The rebinding warnings of a program, in order: one for each statement whose name an earlier
statement bound, at its bound identifier. -/
theorem programReports_rebinding :
    ∀ (P R : List Nat), (programReports t shape P R).filter (·.code = DiagCode.rebinding) =
      (rebindsAfter t P R).map fun j => rebindWarning (t.stmtName j) (t.ident (t.stmt j).var).span
  | _, [] => rfl
  | P, j :: R => by
    rw [programReports,List.filter_append,List.filter_append,reports_rebinding,
      programReports_rebinding (P ++ [j]) R,rebindsAfter]
    split <;> simp [rebindWarning,diagnostic]

end Checker

namespace Reporter

/-- A reporter that keeps everything holds, after what it held, every diagnostic it is told. -/
theorem KeepsAll.foldl_report {r : Reporter} (h : r.KeepsAll) (ds : List Diagnostic) :
    (ds.foldl Reporter.report r).bag.items.toList = r.bag.items.toList ++ ds := by
  induction ds generalizing r with
  | nil => simp
  | cons d ds ih =>
    obtain ⟨hitems,hkeep⟩ := h.report d
    rw [List.foldl_cons,ih hkeep,hitems]
    simp

end Reporter

namespace Checker

variable {t : Tree} {p : Nat}

/-- The scope check of a parsed program: each free reference naming no statement up to its own
is reported once as undeclared, each rebinding once, and the shadowing count is
`Term.shadowed`, summed over the statements. -/
theorem checkProgram_scope_results (ht : t.ParsedProgram p) {rep : Reporter} (hrep : rep.KeepsAll)
    (hints : TableHints) :
    ∀ res rep', checkProgram t p hints rep = .ok (res, rep') →
      (∀ x, res.table.get? x = lastNamed t.stmtName (t.programStmts p) x) ∧
      res.undeclared = (undeclaredRefsAfter t [] (t.programStmts p)).length ∧
      rep'.bag.items.toList.filter (·.code = DiagCode.undeclared) =
        rep.bag.items.toList.filter (·.code = DiagCode.undeclared) ++
          (undeclaredRefsAfter t [] (t.programStmts p)).map (fun o => undeclaredError o.1 o.2) ∧
      res.rebound = (rebindsAfter t [] (t.programStmts p)).length ∧
      rep'.bag.items.toList.filter (·.code = DiagCode.rebinding) =
        rep.bag.items.toList.filter (·.code = DiagCode.rebinding) ++
          (rebindsAfter t [] (t.programStmts p)).map
            (fun j => rebindWarning (t.stmtName j) (t.ident (t.stmt j).var).span) ∧
      res.shadowed = ((t.programStmts p).map fun j => (t.term (t.stmt j).expr).shadowed []).sum := by
  intro res rep' hcheck
  obtain ⟨shape,hl⟩ := ht.laidOut
  have hshape : ∀ j ∈ t.programStmts p,
      t.Realizes (shape j) ∧ (shape j).root = (t.stmt j).expr ∧ (shape j).Linear :=
    fun j hj => ⟨hl.realizes j hj,hl.root j hj,hl.linear_of_mem j hj⟩
  have hterm : ∀ j ∈ t.programStmts p, (shape j).term t = t.term (t.stmt j).expr := fun j hj => by
    rw [← hl.root j hj,Tree.term_eq (hl.realizes j hj) (hl.linear_of_mem j hj)]
  obtain ⟨htable,hund,hreb,hsh,hreps⟩ := checkProgram_eq t p hints rep hshape hcheck
  have hitems := hrep.foldl_report (programReports t shape [] (t.programStmts p))
  rw [← hreps] at hitems
  refine ⟨htable,by rw [hund,length_undeclaredRefsAfter],?_,hreb,?_,hsh⟩
  · rw [hitems,List.filter_append,programReports_undeclared _ _ hterm]
  · rw [hitems,List.filter_append,programReports_rebinding]

theorem checkProgram_scope_results_sample :
    sampleTree.ParsedProgram 0 ∧ sampleReporter.KeepsAll ∧
      ∀ res rep', checkProgram sampleTree 0 TableHints.default sampleReporter = .ok (res, rep') →
        (∀ x, res.table.get? x = lastNamed sampleTree.stmtName (sampleTree.programStmts 0) x) ∧
        res.undeclared = (undeclaredRefsAfter sampleTree [] (sampleTree.programStmts 0)).length ∧
        rep'.bag.items.toList.filter (·.code = DiagCode.undeclared) =
          sampleReporter.bag.items.toList.filter (·.code = DiagCode.undeclared) ++
            (undeclaredRefsAfter sampleTree [] (sampleTree.programStmts 0)).map
              (fun o => undeclaredError o.1 o.2) ∧
        res.rebound = (rebindsAfter sampleTree [] (sampleTree.programStmts 0)).length ∧
        rep'.bag.items.toList.filter (·.code = DiagCode.rebinding) =
          sampleReporter.bag.items.toList.filter (·.code = DiagCode.rebinding) ++
            (rebindsAfter sampleTree [] (sampleTree.programStmts 0)).map
              (fun j => rebindWarning (sampleTree.stmtName j) (sampleTree.ident (sampleTree.stmt j).var).span) ∧
        res.shadowed = ((sampleTree.programStmts 0).map
          fun j => (sampleTree.term (sampleTree.stmt j).expr).shadowed []).sum :=
  ⟨sampleTree_parsed,⟨rfl,rfl,by decide⟩,
    checkProgram_scope_results sampleTree_parsed ⟨rfl,rfl,by decide⟩ TableHints.default⟩

end Checker

end Combinatory
