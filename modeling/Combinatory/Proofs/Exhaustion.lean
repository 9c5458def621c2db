import Combinatory.Pipeline.Compile
import Combinatory.Proofs.Pipeline
import Combinatory.Proofs.Decode

/-!
# Allocation failures through the pipeline

A compilation accounts for every allocation failure of its arena (`ReportsArena`): it stops at
the stage that met the failure with an error wrapping it, and no stage runs after. No stage
makes a constructor complain of a missing part (`Calm`): every constructor looks at the kept
failure before its parts, and every part the pipeline hands over is missing only after a
failure. Each stage is described once (`parse_error`, `parse_ok`, `parse_crash`, ...), the run
from each stage on is proved from the one after it (`runStages_convert` back to
`runStages_parse`), and `compileSource_reports_arena_failures` starts that run.
-/

namespace Combinatory

/-- A parse that leaves the tree without failure gives a program. -/
theorem parseFile_program (file : SourceFile) (tree : Tree) (rep : Reporter) (maxErrors : Nat)
    (hf : (parseFile file tree rep maxErrors).2.1.failure = none) :
    ∃ p, (parseFile file tree rep maxErrors).1.program = some p := by
  rw [parseFile_eq] at hf ⊢
  generalize Pass.run (Parser.stmts (file.tokens.toArray.size + 1) [])
    ⟨file,file.tokens.toArray,0,0,⟨file.id,0,0⟩,false,0,maxErrors,rep,tree⟩ = r at hf ⊢
  by_cases h : r.2.tree.failure.isSome
  · simp only [if_pos h] at hf
    simp [hf] at h
  · simp only [if_neg h] at hf ⊢
    exact Tree.newProgram_some r.2.tree file.path r.1 hf

namespace Compilation

/-! ### The stages -/

theorem parse_error {c c' : Compilation} {E : CompileError} (h : c.parse = (c', .error E)) :
    ∃ e, c'.tree.failure = some e ∧ E = .parse e ∧ c'.store.failure = c.store.failure := by
  simp only [parse] at h
  generalize parseFile c.file c.tree c.reporter c.settings.maxDiagnostics.toNat = x at h
  obtain ⟨res,t,r⟩ := x
  cases hf : t.failure with
  | some e =>
    simp only [hf, Prod.mk.injEq, Except.error.injEq] at h
    obtain ⟨rfl,rfl⟩ := h
    exact ⟨e,hf,rfl,rfl⟩
  | none => simp [hf] at h

theorem parse_ok {c c' : Compilation} {g : Bool} (h : c.parse = (c', .ok g)) :
    c'.tree.failure = none ∧ c'.store.failure = c.store.failure ∧
      ∃ p, c'.program = some p ∧ c'.tree.ParsedProgram p := by
  simp only [parse] at h
  generalize hx : parseFile c.file c.tree c.reporter c.settings.maxDiagnostics.toNat = x at h
  obtain ⟨res,t,r⟩ := x
  cases hf : t.failure with
  | some e => simp [hf] at h
  | none =>
    simp only [hf, Prod.mk.injEq] at h
    obtain ⟨rfl,-⟩ := h
    have hf' : (parseFile c.file c.tree c.reporter c.settings.maxDiagnostics.toNat).2.1.failure =
        none := by rw [hx]; exact hf
    obtain ⟨p,hp⟩ := parseFile_program _ _ _ _ hf'
    have hparsed := (parseFile_spec _ _ _ _ hp).2
    rw [hx] at hp hparsed
    exact ⟨hf,rfl,p,hp,hparsed⟩

/-- Parsing never complains. -/
theorem parse_crash {c c' : Compilation} {r : Except CompileError Bool} (h : c.parse = (c', r)) :
    c'.tree.crash = c.tree.crash := by
  simp only [parse] at h
  generalize hx : parseFile c.file c.tree c.reporter c.settings.maxDiagnostics.toNat = x at h
  have hc := parseFile_crash c.file c.tree c.reporter c.settings.maxDiagnostics.toNat
  rw [hx] at hc
  obtain ⟨res,t,rep⟩ := x
  cases hf : t.failure <;> simp only [hf,Prod.mk.injEq] at h <;> rw [← h.1] <;> exact hc

theorem checkNames_error {c c' : Compilation} {E : CompileError}
    (h : c.checkNames = (c', .error E)) : c' = c ∧ ∃ e, E = .table e := by
  simp only [checkNames] at h
  split at h
  · simp only [Prod.mk.injEq, Except.error.injEq] at h
    obtain ⟨rfl,rfl⟩ := h
    exact ⟨rfl,_,rfl⟩
  · simp at h

/-- A check that ends leaves the tree and the store alone, and builds the table of the last
statement binding each name. -/
theorem checkNames_ok {c c' : Compilation} {g : Bool} {p : Nat} (h : c.checkNames = (c', .ok g))
    (hp : c.program = some p) (ht : c.tree.ParsedProgram p) :
    c'.store = c.store ∧ c'.program = c.program ∧
      ∀ x, c'.table.get? x = lastNamed c.tree.stmtName (c.tree.programStmts p) x := by
  simp only [checkNames] at h
  split at h
  · simp at h
  · rename_i res r hcheck
    simp only [Prod.mk.injEq] at h
    obtain ⟨rfl,-⟩ := h
    obtain ⟨shape,hl⟩ := ht.laidOut
    have hprog : c.prog = p := by simp [prog,hp]
    rw [hprog] at hcheck
    have htable := (Checker.checkProgram_spec c.tree p _ c.reporter
      (fun j hj => ⟨shape j,hl.realizes j hj,hl.root j hj,hl.linear_of_mem j hj⟩) hcheck).1
    exact ⟨rfl,rfl,htable⟩

theorem curry_error {c c' : Compilation} {E : CompileError} (h : c.curry = (c', .error E)) :
    ∃ e, c'.tree.failure = some e ∧ E = .curry e ∧ c'.store.failure = c.store.failure := by
  simp only [curry] at h
  cases hf : (c.tree.curry c.prog).failure with
  | some e =>
    simp only [hf, Prod.mk.injEq, Except.error.injEq] at h
    obtain ⟨rfl,rfl⟩ := h
    exact ⟨e,hf,rfl,rfl⟩
  | none => simp [hf] at h

/-- The check leaves the store, and with it the tree, alone. -/
theorem checkNames_store {c c' : Compilation} {r : Except CompileError Bool}
    (h : c.checkNames = (c', r)) : c'.store = c.store := by
  simp only [checkNames] at h
  split at h <;> simp only [Prod.mk.injEq] at h <;> obtain ⟨rfl,-⟩ := h <;> rfl

/-- Currying a parsed program never complains: every record it rewrites is an abstraction. -/
theorem curry_crash {c c' : Compilation} {r : Except CompileError Bool} (h : c.curry = (c', r))
    {p : Nat} (hp : c.prog = p) (ht : c.tree.ParsedProgram p) : c'.tree.crash = c.tree.crash := by
  obtain ⟨shape,hl⟩ := ht.laidOut
  have hframe := (Tree.curry_spec hl).1
  simp only [curry] at h
  rw [hp] at h
  cases hf : (c.tree.curry p).failure <;> simp only [hf,Prod.mk.injEq] at h <;> rw [← h.1] <;>
    exact hframe.crash

theorem curry_ok {c c' : Compilation} {g : Bool} (h : c.curry = (c', .ok g)) :
    c'.tree = c.tree.curry c.prog ∧ (c.tree.curry c.prog).failure = none ∧
      c'.store.failure = c.store.failure ∧ c'.program = c.program ∧ c'.check = c.check := by
  simp only [curry] at h
  cases hf : (c.tree.curry c.prog).failure with
  | some e => simp [hf] at h
  | none =>
    simp only [hf, Prod.mk.injEq] at h
    obtain ⟨rfl,-⟩ := h
    exact ⟨rfl,rfl,rfl,rfl,rfl⟩

/-- Converting a curried parsed program with the check's table: the conversion keeps the tree
without failure; it stops only on an allocation failure, for the array of roots with the
store unfailed, or for a node with the store holding that failure; a conversion that ends
leaves the store unfailed; and no constructor complains. -/
theorem convert_outcome {c c' : Compilation} {r : Except CompileError Bool} {t : Tree} {p : Nat}
    (h : c.convert = (c', r)) (ht : t.ParsedProgram p) (hc : c.tree = t.curry p)
    (hf : (t.curry p).failure = none) (hprog : c.prog = p)
    (htable : ∀ x, c.table.get? x = lastNamed t.stmtName (t.programStmts p) x) :
    c'.tree.failure = none ∧ c'.tree.crash = c.tree.crash ∧
      (∀ E, r = .error E → (∃ e, E = .convert (.forest e) ∧ c'.store.failure = none) ∨
        ∃ x e, E = .convert (.node x e) ∧ c'.store.failure = some e) ∧
      (∀ g, r = .ok g → c'.store.failure = none) := by
  obtain ⟨hL,hname,hconv,-⟩ := ht.curry hf
  have hspec := Bracket.convert_spec (hL ▸ hconv) (fun x => by rw [htable,hL,hname]) c.reporter
  simp only [convert] at h
  rw [hc,hprog] at h
  generalize (Store.ofTree (t.curry p)).convert p c.table c.reporter = x at h hspec
  obtain ⟨res,st,rep⟩ := x
  rcases hspec with ⟨e,he,hst⟩ | ⟨x,e,he,hfe,htf⟩ | ⟨roots,s,he,-,hloop,hst⟩
  · -- no array of roots: the store is the fresh one
    simp only at he hst
    subst he hst
    simp only [Prod.mk.injEq] at h
    obtain ⟨rfl,rfl⟩ := h
    exact ⟨hf,by rw [hc]; rfl,fun E hE => .inl ⟨e,by cases hE; rfl,rfl⟩,fun g hg => nomatch hg⟩
  · -- a node failed: the store keeps the failure, the tree its own
    simp only at he hfe htf
    subst he
    simp only [Prod.mk.injEq] at h
    obtain ⟨rfl,rfl⟩ := h
    exact ⟨htf.1.trans hf,by rw [hc]; exact htf.2,fun E hE => .inr ⟨x,e,by cases hE; rfl,hfe⟩,
      fun g hg => nomatch hg⟩
  · -- every statement converted: the loop ends unfailed
    simp only [Prod.mk.injEq] at he hst
    subst he
    obtain ⟨rfl,rfl⟩ := hst
    simp only [Prod.mk.injEq] at h
    obtain ⟨rfl,rfl⟩ := h
    exact ⟨hloop.treeFailure.trans hf,by rw [hc]; exact hloop.crash,(fun E hE => nomatch hE),
      fun _ _ => hloop.ok⟩

/-- A stage leaves the stages run and the error alone. -/
theorem runStage_keeps (c : Compilation) (st : Stage) :
    (c.runStage st).1.phases = c.phases ∧ (c.runStage st).1.error = c.error := by
  cases st with
  | none => exact ⟨rfl,rfl⟩
  | parse => simp only [runStage,parse]; split <;> exact ⟨rfl,rfl⟩
  | check => simp only [runStage,checkNames]; split <;> exact ⟨rfl,rfl⟩
  | curry => simp only [runStage,curry]; split <;> exact ⟨rfl,rfl⟩
  | convert => simp only [runStage,convert]; split <;> exact ⟨rfl,rfl⟩

/-- A stage stops with an error of its own, never with a complaint. -/
theorem runStage_not_panic (c : Compilation) (st : Stage) {c' : Compilation} {E : CompileError}
    (h : c.runStage st = (c', .error E)) (msg : String) : E ≠ .panic msg := by
  cases st with
  | none => cases h
  | parse =>
    obtain ⟨e,-,rfl,-⟩ := parse_error h
    exact CompileError.noConfusion
  | check =>
    obtain ⟨-,e,rfl⟩ := checkNames_error h
    exact CompileError.noConfusion
  | curry =>
    obtain ⟨e,-,rfl,-⟩ := curry_error h
    exact CompileError.noConfusion
  | convert =>
    simp only [runStage,convert] at h
    split at h
    · cases h
      exact CompileError.noConfusion
    · cases h

/-- A stage that ends without error ran as it is. -/
theorem runStage_of_step_ok {c c' : Compilation} {st : Stage} {g : Bool}
    (h : c.step st = (c', .ok g)) : c.runStage st = (c', .ok g) := by
  simp only [step] at h
  split at h
  · cases h
  · exact h

/-- A stage after which the tree holds no complaint runs as it is. -/
theorem step_of_calm {c : Compilation} {st : Stage}
    (h : ∀ c' r, c.runStage st = (c', r) → c'.tree.crash = none) : c.step st = c.runStage st := by
  simp [step,h _ _ (Prod.eta _).symm]

/-! ### The account of a finished compilation -/

/-- How a finished compilation accounts for the allocation failures of its arena: a failure
kept by the tree stopped parsing or currying with that failure, a failure kept by the store
stopped converting with that failure and the statement being converted, and a failure to
allocate the array of roots stopped converting. The stage stopped is the last one run. -/
structure ReportsArena (c : Compilation) : Prop where
  tree : ∀ e, c.tree.failure = some e → c.phases.getLast? = some c.failed.name ∧
    (c.failed = .parse ∧ c.error = some (.parse e) ∨
      c.failed = .curry ∧ c.error = some (.curry e)) ∧
    c.error.map CompileError.message = some (c.failed.name ++ ": ast: " ++ e.message)
  store : ∀ e, c.store.failure = some e → c.phases.getLast? = some c.failed.name ∧
    c.failed = .convert ∧ ∃ x, c.error = some (.convert (.node x e)) ∧
      c.error.map CompileError.message = some ("convert: bracket: " ++ x ++ ": sk: " ++ e.message)
  forest : ∀ e, c.error = some (.convert (.forest e)) →
    c.phases.getLast? = some c.failed.name ∧ c.failed = .convert

/-- A finished compilation that no constructor stopped: the tree holds no complaint, and the
compilation does not end with one. -/
structure Calm (c : Compilation) : Prop where
  crash : c.tree.crash = none
  error : ∀ msg, c.error ≠ some (.panic msg)

/-- A compilation in which nothing failed has nothing to account for. -/
theorem ReportsArena.of_clean {c : Compilation} (ht : c.tree.failure = none)
    (hs : c.store.failure = none) (he : c.error = none) : c.ReportsArena where
  tree e h := by simp [ht] at h
  store e h := by simp [hs] at h
  forest e h := by simp [he] at h

/-- What an error stopping the pipeline at stage `st` wraps: the failure the tree kept, at
parsing or currying; the failure the store kept, with a statement, at conversion; and a failure
to allocate the array of roots only at conversion. -/
structure Wraps (st : Stage) (c : Compilation) (E : CompileError) : Prop where
  tree : ∀ e, c.tree.failure = some e → st = .parse ∧ E = .parse e ∨ st = .curry ∧ E = .curry e
  store : ∀ e, c.store.failure = some e → st = .convert ∧ ∃ x, E = .convert (.node x e)
  forest : ∀ e, E = .convert (.forest e) → st = .convert

/-- A pipeline stopped at stage `st` with an error wrapping the failures `st` met accounts for
them. -/
theorem ReportsArena.stopped {c : Compilation} {st : Stage} {E : CompileError}
    (hlast : c.phases.getLast? = some st.name) (hw : Wraps st c E) :
    ({ c with failed := st, error := some E } : Compilation).ReportsArena where
  tree e h := by
    rcases hw.tree e h with ⟨rfl,rfl⟩ | ⟨rfl,rfl⟩
    · refine ⟨hlast,.inl ⟨rfl,rfl⟩,congrArg some ?_⟩
      show "parse: " ++ ("ast: " ++ e.message) = "parse" ++ ": ast: " ++ e.message
      simp only [← String.append_assoc]
      rfl
    · refine ⟨hlast,.inr ⟨rfl,rfl⟩,congrArg some ?_⟩
      show "curry: " ++ ("ast: " ++ e.message) = "curry" ++ ": ast: " ++ e.message
      simp only [← String.append_assoc]
      rfl
  store e h := by
    obtain ⟨rfl,x,rfl⟩ := hw.store e h
    refine ⟨hlast,rfl,x,rfl,congrArg some ?_⟩
    show "convert: " ++ ("bracket: " ++ x ++ ": " ++ ("sk: " ++ e.message)) =
      "convert: bracket: " ++ x ++ ": sk: " ++ e.message
    rw [show "convert: bracket: " = "convert: " ++ "bracket: " by simp,
      show ": sk: " = ": " ++ "sk: " by simp]
    simp only [String.append_assoc]
  forest e h := ⟨hlast,hw.forest e (Option.some.inj h)⟩

/-- A note in the log changes nothing an error wraps. -/
theorem Wraps.note {st : Stage} {c : Compilation} {E : CompileError} (hw : Wraps st c E)
    (level : LogLevel) (msg : String) (fields : List (String × LogValue)) :
    Wraps st (c.note level msg fields) E :=
  ⟨hw.tree,hw.store,hw.forest⟩

/-! ### What each stage stops with -/

/-- Parsing stops only on a failure of the tree, and wraps it. -/
theorem Wraps.parse {c c' : Compilation} {E : CompileError} (h : c.parse = (c', .error E))
    (hs : c.store.failure = none) : Wraps .parse c' E := by
  obtain ⟨e,hte,rfl,hse⟩ := parse_error h
  refine ⟨fun e' h' => .inl ⟨rfl,?_⟩,(fun e' h' => nomatch h'.symm.trans (hse.trans hs)),
    (fun e' h' => nomatch h')⟩
  cases h'.symm.trans hte
  rfl

/-- The check meets no arena: it stops with nothing failed. -/
theorem Wraps.check {c c' : Compilation} {E : CompileError} (h : c.checkNames = (c', .error E))
    (ht : c.tree.failure = none) (hs : c.store.failure = none) : Wraps .check c' E := by
  obtain ⟨rfl,e,rfl⟩ := checkNames_error h
  exact ⟨(fun e' h' => nomatch h'.symm.trans ht),(fun e' h' => nomatch h'.symm.trans hs),
    (fun e' h' => nomatch h')⟩

/-- Currying stops only on a failure of the tree, and wraps it. -/
theorem Wraps.curry {c c' : Compilation} {E : CompileError} (h : c.curry = (c', .error E))
    (hs : c.store.failure = none) : Wraps .curry c' E := by
  obtain ⟨e,hte,rfl,hse⟩ := curry_error h
  refine ⟨fun e' h' => .inr ⟨rfl,?_⟩,(fun e' h' => nomatch h'.symm.trans (hse.trans hs)),
    (fun e' h' => nomatch h')⟩
  cases h'.symm.trans hte
  rfl

/-- Conversion, leaving the tree unfailed, stops with an error for the array of roots and the
store unfailed, or with the failure the store kept and the statement being converted. -/
theorem Wraps.convert {c : Compilation} {E : CompileError} (ht : c.tree.failure = none)
    (hE : (∃ e, E = .convert (.forest e) ∧ c.store.failure = none) ∨
      ∃ x e, E = .convert (.node x e) ∧ c.store.failure = some e) : Wraps .convert c E := by
  refine ⟨(fun e' h' => nomatch h'.symm.trans ht),fun e' h' => ⟨rfl,?_⟩,fun _ _ => rfl⟩
  rcases hE with ⟨e,-,hs⟩ | ⟨x,e,rfl,hs⟩
  · nomatch h'.symm.trans hs
  · cases h'.symm.trans hs
    exact ⟨x,rfl⟩

/-- A compilation starts with nothing failed and no complaint once its arena is made. -/
theorem start_ok (name : String) (content : ByteArray) (settings : Settings) {arena : Arena}
    (ha : settings.newArena 1 = .ok arena) :
    ∃ c, start name content settings = .ok c ∧ c.tree.failure = none ∧ c.store.failure = none ∧
      c.error = none ∧ c.tree.crash = none := by
  simp only [start,startIn,ha]
  exact ⟨_,rfl,rfl,rfl,rfl,rfl⟩

/-! ### The run of the stages -/

theorem reportsArena_nil (stop : Stage) {c : Compilation} (ht : c.tree.failure = none)
    (hs : c.store.failure = none) (he : c.error = none) (hc : c.tree.crash = none) :
    (runStages stop [] c).ReportsArena ∧ (runStages stop [] c).Calm :=
  ⟨ReportsArena.of_clean ht hs he,hc,fun msg h => by simp [runStages,noteEnd,note,he] at h⟩

/-- One stage of the pipeline passes the account on: a stage that leaves no complaint runs as
it is, an error it stops with wraps the failures it met and is not a complaint, an end without
error leaves none, and the stages after a good end account for theirs. -/
theorem reportsArena_cons {stop st : Stage} {rest : List Stage} {c : Compilation}
    (he : c.error = none)
    (hcalm : ∀ c' r, ({ c with phases := c.phases ++ [st.name] } : Compilation).runStage st =
      (c', r) → c'.tree.crash = none)
    (herr : ∀ c' E, ({ c with phases := c.phases ++ [st.name] } : Compilation).runStage st =
        (c', .error E) → Wraps st c' E)
    (hok : ∀ c' g, ({ c with phases := c.phases ++ [st.name] } : Compilation).runStage st =
        (c', .ok g) → c'.tree.failure = none ∧ c'.store.failure = none)
    (hnext : ∀ c', ({ c with phases := c.phases ++ [st.name] } : Compilation).runStage st =
        (c', .ok true) → c'.error = none →
      let d := runStages stop rest
        { c'.note .debug "phase done" [("phase", .text st.name)] with reached := st }
      d.ReportsArena ∧ d.Calm) :
    (runStages stop (st :: rest) c).ReportsArena ∧ (runStages stop (st :: rest) c).Calm := by
  have hkeep := runStage_keeps { c with phases := c.phases ++ [st.name] } st
  rw [runStages,step_of_calm hcalm]
  generalize hs : ({ c with phases := c.phases ++ [st.name] } : Compilation).runStage st = x
    at hkeep hcalm
  obtain ⟨c',E | g⟩ := x
  all_goals simp only at hkeep
  all_goals have hc' : c'.tree.crash = none := hcalm _ _ rfl
  · -- the stage stopped the pipeline with its error, which is not a complaint
    refine ⟨ReportsArena.stopped (by simp [note,hkeep.1]) ((herr c' E hs).note _ _ _),hc',
      fun msg h => ?_⟩
    simp only [Option.some.injEq] at h
    exact runStage_not_panic _ st hs msg h
  · obtain ⟨ht,hst⟩ := hok c' g hs
    have he' : c'.error = none := hkeep.2.trans he
    cases g
    · -- the stage ended, not good
      exact ⟨ReportsArena.of_clean ht hst (by simpa [note] using he'),hc',
        fun msg h => by simp [note,he'] at h⟩
    · -- the stage ended good: the pipeline ends here or goes on
      simp only [Bool.not_true,Bool.false_eq_true,if_false]
      by_cases hstop : st = stop
      · rw [if_pos hstop]
        exact ⟨ReportsArena.of_clean ht hst (by simpa [noteEnd,note] using he'),hc',
          fun msg h => by simp [noteEnd,note,he'] at h⟩
      · rw [if_neg hstop]
        exact hnext c' hs he'

/-- The conversion of a curried parsed program, with the check's table, ends the run: an
allocation failure it meets is its error, at the statement being converted. -/
theorem runStages_convert (stop : Stage) {c : Compilation} {t : Tree} {p : Nat}
    (ht : t.ParsedProgram p) (hc : c.tree = t.curry p) (hf : (t.curry p).failure = none)
    (hprog : c.prog = p) (htable : ∀ x, c.table.get? x = lastNamed t.stmtName (t.programStmts p) x)
    (he : c.error = none) (hcrash : c.tree.crash = none) :
    (runStages stop [.convert] c).ReportsArena ∧ (runStages stop [.convert] c).Calm := by
  refine reportsArena_cons he
    (fun c' r h => (convert_outcome h ht hc hf hprog htable).2.1.trans hcrash)
    (fun c' E h => ?_) (fun c' g h => ?_) fun c' h' he' => ?_
  · obtain ⟨hf',-,herr,-⟩ := convert_outcome h ht hc hf hprog htable
    exact Wraps.convert hf' (herr E rfl)
  · obtain ⟨hf',-,-,hok⟩ := convert_outcome h ht hc hf hprog htable
    exact ⟨hf',hok g rfl⟩
  obtain ⟨hf',hc',-,hok⟩ := convert_outcome h' ht hc hf hprog htable
  exact reportsArena_nil stop hf' (hok true rfl) he' (hc'.trans hcrash)

/-- Currying a parsed program hands the conversion its curried form: an allocation failure it
meets is its error. -/
theorem runStages_curry (stop : Stage) {c : Compilation} {p : Nat} (ht : c.tree.ParsedProgram p)
    (hprog : c.prog = p)
    (htable : ∀ x, c.table.get? x = lastNamed c.tree.stmtName (c.tree.programStmts p) x)
    (hs : c.store.failure = none) (he : c.error = none) (hcrash : c.tree.crash = none) :
    (runStages stop [.curry, .convert] c).ReportsArena ∧
      (runStages stop [.curry, .convert] c).Calm := by
  refine reportsArena_cons he (fun c' r h => (curry_crash h hprog ht).trans hcrash)
    (fun c' E h => Wraps.curry h hs) (fun c' g h => ?_) fun c' h' he' => ?_
  · obtain ⟨hc,hf,hs',-⟩ := curry_ok h
    exact ⟨(congrArg Tree.failure hc).trans hf,hs'.trans hs⟩
  obtain ⟨hc,hf,-,hp,hk⟩ := curry_ok h'
  change c'.tree = c.tree.curry c.prog at hc
  change (c.tree.curry c.prog).failure = none at hf
  rw [hprog] at hc hf
  have hprog' : c'.prog = p := by rw [prog,hp]; exact hprog
  have htable' : ∀ x, c'.table.get? x = lastNamed c.tree.stmtName (c.tree.programStmts p) x := by
    intro x
    simp only [table,hk]
    exact htable x
  exact runStages_convert stop ht hc hf hprog' htable' he' ((curry_crash h' hprog ht).trans hcrash)

/-- The check of a parsed program leaves the tree alone and hands currying the table of the
last statement binding each name; it meets no arena. -/
theorem runStages_check (stop : Stage) {c : Compilation} {p : Nat} (hp : c.program = some p)
    (ht : c.tree.ParsedProgram p) (hf : c.tree.failure = none) (hs : c.store.failure = none)
    (he : c.error = none) (hcrash : c.tree.crash = none) :
    (runStages stop [.check, .curry, .convert] c).ReportsArena ∧
      (runStages stop [.check, .curry, .convert] c).Calm := by
  refine reportsArena_cons he
    (fun c' r h => (congrArg (·.tree.crash) (checkNames_store h)).trans hcrash)
    (fun c' E h => Wraps.check h hf hs) (fun c' g h => ?_) fun c' h' he' => ?_
  · have hst := checkNames_store h
    exact ⟨(congrArg (·.tree.failure) hst).trans hf,(congrArg (·.failure) hst).trans hs⟩
  obtain ⟨hst,hp',htable⟩ := checkNames_ok h' hp ht
  have htree : c'.tree = c.tree := congrArg Store.tree hst
  have htable' : ∀ x, c'.table.get? x = lastNamed c'.tree.stmtName (c'.tree.programStmts p) x := by
    rw [htree]
    exact htable
  have hprog : c'.prog = p := by simp [prog,hp',hp]
  exact runStages_curry stop (htree ▸ ht) hprog htable' ((congrArg Store.failure hst).trans hs) he'
    (htree ▸ hcrash)

/-- The stages from a fresh compilation: a failure of the tree met in parsing is its error,
and the parsed program goes on to the check. -/
theorem runStages_parse (stop : Stage) {c : Compilation} (hs : c.store.failure = none)
    (he : c.error = none) (hcrash : c.tree.crash = none) :
    (runStages stop Stage.order c).ReportsArena ∧ (runStages stop Stage.order c).Calm := by
  refine reportsArena_cons he (fun c' r h => (parse_crash h).trans hcrash)
    (fun c' E h => Wraps.parse h hs) (fun c' g h => ?_) fun c' h' he' => ?_
  · obtain ⟨hf',hs',-⟩ := parse_ok h
    exact ⟨hf',hs'.trans hs⟩
  obtain ⟨hf',hs',p,hp,ht⟩ := parse_ok h'
  exact runStages_check stop hp ht hf' (hs'.trans hs) he' ((parse_crash h').trans hcrash)

/-- A compilation returned is the run of the stages from the start. -/
theorem compileSource_ok {name : String} {content : ByteArray} {settings : Settings}
    {stop : Stage} {c : Compilation} (h : compileSource name content settings stop = .ok c) :
    ∃ c₀, start name content settings = .ok c₀ ∧
      c = runStages (if stop = .none then .convert else stop) Stage.order c₀ := by
  cases hs : start name content settings with
  | error e => simp [compileSource,hs,bind,Except.bind] at h
  | ok c₀ =>
    refine ⟨c₀,rfl,?_⟩
    rw [compileSource,hs] at h
    dsimp only [bind,Except.bind] at h
    split at h
    · cases h
    · simp only [pure,Except.pure,Except.ok.injEq] at h
      exact h.symm

/-- A compilation whose stages leave no complaint is returned as it is. -/
theorem compileSource_of_calm {name : String} {content : ByteArray} {settings : Settings}
    {stop : Stage} {c₀ : Compilation} (hstart : start name content settings = .ok c₀)
    (h : (runStages (if stop = .none then .convert else stop) Stage.order c₀).Calm) :
    compileSource name content settings stop =
      .ok (runStages (if stop = .none then .convert else stop) Stage.order c₀) := by
  rw [compileSource,hstart]
  dsimp only [bind,Except.bind]
  split
  · rename_i msg hmsg
    exact absurd hmsg (h.error msg)
  · rfl

end Compilation

open Compilation in
/-- Compiling never throws once the arena is made: no constructor complains of a missing part,
whatever the source and wherever the arena runs out. The compilation stops at the stage that
met an allocation failure, with `parse: ast: …`, `curry: ast: …` or
`convert: bracket: <name>: sk: …` wrapping it. -/
theorem compileSource_reports_arena_failures (name : String) (content : ByteArray)
    (settings : Settings) (stop : Stage) {arena : Arena} (ha : settings.newArena 1 = .ok arena) :
    ∃ c, compileSource name content settings stop = .ok c ∧ c.ReportsArena ∧ c.tree.crash = none := by
  obtain ⟨c₀,hstart,-,hs₀,he₀,hc₀⟩ := start_ok name content settings ha
  have h := runStages_parse (if stop = .none then .convert else stop) hs₀ he₀ hc₀
  exact ⟨_,compileSource_of_calm hstart h.2,h.1,h.2.crash⟩

/-- The arena the default settings make for the first file. -/
def defaultArena : Arena := match Settings.default.newArena 1 with
  | .ok a => a
  | .error _ => default

theorem compileSource_reports_arena_failures_default :
    Settings.default.newArena 1 = .ok defaultArena ∧
      ∃ c, compileSource "main.sk" "i = λx.x;".toUTF8 Settings.default .none = .ok c ∧
        c.ReportsArena ∧ c.tree.crash = none := by
  have ha : Settings.default.newArena 1 = .ok defaultArena := by rfl
  exact ⟨ha,@compileSource_reports_arena_failures "main.sk" "i = λx.x;".toUTF8 Settings.default
    .none defaultArena ha⟩

end Combinatory
