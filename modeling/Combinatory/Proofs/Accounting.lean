import Combinatory.Proofs.Exhaustion

/-!
# Accounting for the errors reported

A full bag refuses errors, so a compilation can end OK with an error reported. What holds is an
account (`Reporter.Accounts`): every error the reporter was told of is in the bag, or the bag
refused something. Every pass keeps it, so an OK compilation that refused nothing has a closed
forest (`compileSource_ok_unrefused`).
-/

namespace Combinatory

namespace Bag

variable (b : Bag) (d : Diagnostic)

/-- Adding keeps every error of the bag and every refusal counted. -/
theorem add_keeps :
    (b.hasErrors = true → (b.add d).hasErrors = true) ∧ b.dropped ≤ (b.add d).dropped := by
  unfold add
  split
  · exact ⟨id, Nat.le_succ _⟩
  · refine ⟨fun h => ?_, Nat.le_refl _⟩
    simp only [hasErrors, Array.any_push] at h ⊢
    simp [h]

/-- An error added is kept, or counted as refused. -/
theorem add_error (h : d.severity.fails = true) :
    (b.add d).hasErrors = true ∨ 0 < (b.add d).dropped := by
  unfold add
  split
  · exact .inr (Nat.succ_pos _)
  · left
    simp [hasErrors, h]

end Bag

/-- What identifies a diagnostic among repeats. -/
def Diagnostic.repeatKey (d : Diagnostic) : RepeatKey :=
  ⟨d.code, d.severity, d.primary, d.message, d.subject⟩

namespace Reporter

variable {r r₁ r₂ r₃ : Reporter}

/-- `r'` is `r` told some diagnostics, in order. -/
def Told (r r' : Reporter) : Prop := ∃ ds : List Diagnostic, r' = ds.foldl report r

theorem Told.refl (r : Reporter) : Told r r := ⟨[], rfl⟩

theorem Told.trans (h₁ : Told r₁ r₂) (h₂ : Told r₂ r₃) : Told r₁ r₃ := by
  obtain ⟨d₁, rfl⟩ := h₁
  obtain ⟨d₂, rfl⟩ := h₂
  exact ⟨d₁ ++ d₂, by rw [List.foldl_append]⟩

theorem told_report (r : Reporter) (d : Diagnostic) : Told r (r.report d) := ⟨[d], rfl⟩

theorem told_foldl (r : Reporter) (ds : List Diagnostic) : Told r (ds.foldl report r) := ⟨ds, rfl⟩

theorem Told.foldl {β : Type} (g : Reporter → β → Reporter) (hg : ∀ r b, Told r (g r b)) :
    ∀ (l : List β) (r : Reporter), Told r (l.foldl g r)
  | [], r => .refl r
  | b :: l, r => (hg r b).trans (Told.foldl g hg l (g r b))

/-- Reporting keeps every key seen, and keeps the reporter loud and filtering repeats. -/
theorem report_keeps (r : Reporter) (d : Diagnostic) :
    r.seen ⊆ (r.report d).seen ∧ (r.report d).silent = r.silent ∧ (r.report d).dedup = r.dedup := by
  unfold Reporter.report
  split
  · exact ⟨fun _ h => h, rfl, rfl⟩
  · split
    · dsimp only
      split
      · exact ⟨fun _ h => h, rfl, rfl⟩
      · exact ⟨fun _ h => List.mem_cons_of_mem _ h, rfl, rfl⟩
    · exact ⟨fun _ h => h, rfl, rfl⟩

/-- A loud reporter that filters repeats has seen every diagnostic it was told. -/
theorem mem_seen_report (hl : r.silent = false) (hd : r.dedup = true) (d : Diagnostic) :
    d.repeatKey ∈ (r.report d).seen := by
  unfold Reporter.report
  simp only [hl, hd, Bool.false_eq_true, if_false, if_true]
  split
  · exact List.elem_iff.1 ‹_›
  · exact List.mem_cons_self

/-- What every report keeps, being told keeps. -/
theorem Told.preserve (P : Reporter → Prop) (hP : ∀ r d, P r → P (r.report d)) (h : Told r₁ r₂)
    (h₁ : P r₁) : P r₂ := by
  obtain ⟨ds, rfl⟩ := h
  induction ds generalizing r₁ with
  | nil => exact h₁
  | cons d ds ih => exact ih (hP r₁ d h₁)

theorem Told.keeps (h : Told r₁ r₂) :
    r₁.seen ⊆ r₂.seen ∧ r₂.silent = r₁.silent ∧ r₂.dedup = r₁.dedup :=
  h.preserve (fun r => r₁.seen ⊆ r.seen ∧ r.silent = r₁.silent ∧ r.dedup = r₁.dedup)
    (fun r d h => by
      obtain ⟨hs, hl, hd⟩ := h
      obtain ⟨hs', hl', hd'⟩ := r.report_keeps d
      exact ⟨fun _ h => hs' (hs h), hl'.trans hl, hd'.trans hd⟩)
    ⟨fun _ h => h, rfl, rfl⟩

theorem Told.seen (h : Told r₁ r₂) : r₁.seen ⊆ r₂.seen := h.keeps.1

/-- Every error this reporter was told of is in its bag, or its bag refused a diagnostic. -/
def Accounts (r : Reporter) : Prop :=
  ∀ k ∈ r.seen, k.severity.fails = true → r.bag.hasErrors = true ∨ 0 < r.bag.dropped

theorem Accounts.weaken {b : Bag} (h : r.bag.hasErrors = true ∨ 0 < r.bag.dropped)
    (hk : (r.bag.hasErrors = true → b.hasErrors = true) ∧ r.bag.dropped ≤ b.dropped) :
    b.hasErrors = true ∨ 0 < b.dropped :=
  h.imp hk.1 fun h' => Nat.lt_of_lt_of_le h' hk.2

theorem Accounts.report (h : r.Accounts) (d : Diagnostic) : (r.report d).Accounts := by
  unfold Reporter.report
  split
  · exact h
  · split
    · dsimp only
      split
      · exact h
      · -- a diagnostic not seen before goes to the bag
        intro k hk hf
        rcases List.mem_cons.1 hk with rfl | hk
        · exact r.bag.add_error d hf
        · exact Accounts.weaken (h k hk hf) (r.bag.add_keeps d)
    · intro k hk hf
      exact Accounts.weaken (h k hk hf) (r.bag.add_keeps d)

theorem Accounts.told (h : r₁.Accounts) (ht : Told r₁ r₂) : r₂.Accounts :=
  ht.preserve Accounts (fun _ d h => h.report d) h

end Reporter

/-! ### The parser only reports -/

namespace Parser

open Pass

variable {α β : Type}

/-- A parser action only tells its reporter diagnostics. -/
def Tells (x : ParseM α) : Prop := ∀ s, Reporter.Told s.reporter (run x s).2.reporter

theorem Tells.pure (a : α) : Tells (pure a : ParseM α) := fun s => .refl s.reporter

theorem Tells.bind {x : ParseM α} {f : α → ParseM β} (hx : Tells x) (hf : ∀ a, Tells (f a)) :
    Tells (x >>= f) :=
  fun s => (hx s).trans (hf _ _)

theorem Tells.ite {c : Prop} [Decidable c] {x y : ParseM α} (hx : Tells x) (hy : Tells y) :
    Tells (if c then x else y) := by
  by_cases h : c
  · simpa [h] using hx
  · simpa [h] using hy

theorem Tells.of_reporter {x : ParseM α} (h : ∀ s, (run x s).2.reporter = s.reporter) : Tells x :=
  fun s => h s ▸ .refl s.reporter

theorem tells_get : Tells (get : ParseM ParseState) := .of_reporter fun _ => rfl

theorem tells_onTree (f : StateM Tree α) : Tells (onTree f) := .of_reporter fun _ => rfl

theorem tells_lexUpTo (i : Nat) : Tells (lexUpTo i) := by
  intro s
  by_cases h : s.lexed ≤ i
  · simp only [lexUpTo, Lexer.reportUnknown, run_bind, run_get, h, if_true, run_set]
    exact Reporter.Told.foldl _ (fun r t => by
      unfold Lexer.reportToken
      split
      · exact Reporter.told_report r _
      · exact .refl r) _ _
  · simp only [lexUpTo, run_bind, run_get, h, if_false, run_pure]
    exact .refl _

theorem tells_peek : Tells peek :=
  tells_get.bind fun s => (tells_lexUpTo s.pos).bind fun _ => .pure _

theorem tells_isAt (k : TokenKind) : Tells (isAt k) := tells_peek.bind fun _ => .pure _

theorem tells_advance : Tells advance :=
  tells_peek.bind fun _ => (Tells.of_reporter fun _ => rfl).bind fun _ => .pure _

theorem tells_report (d : Diagnostic) : Tells (report d) := by
  intro s
  simp only [report, run_modify]
  split
  · exact .refl _
  · exact Reporter.told_report _ _

theorem tells_diagnosticSpan : Tells diagnosticSpan :=
  tells_peek.bind fun _ => tells_get.bind fun _ => .ite (.pure _) (.pure _)

theorem tells_fail (code : Nat) (msg : String) (notes : List Note) : Tells (fail code msg notes) :=
  tells_peek.bind fun _ => .ite (.of_reporter fun _ => rfl)
    (tells_diagnosticSpan.bind fun _ => tells_report _)

theorem tells_expect (k : TokenKind) (code : Nat) (msg : String) : Tells (expect k code msg) :=
  (tells_isAt k).bind fun _ => .ite (tells_advance.bind fun _ => .pure _)
    ((tells_fail code msg []).bind fun _ => .pure _)

theorem tells_newToken (tok : Token) : Tells (newToken tok) :=
  tells_get.bind fun _ => tells_onTree _

theorem tells_newIdentOf (tok : Token) (next : Option Nat) : Tells (newIdentOf tok next) :=
  (tells_newToken tok).bind fun _ => tells_onTree _

theorem tells_atOperand : Tells atOperand := tells_peek.bind fun _ => .pure _

theorem tells_params : ∀ (fuel : Nat) (acc : List Token), Tells (params fuel acc)
  | 0, _ => .pure _
  | fuel + 1, acc => (tells_expect _ _ _).bind fun t => by
    cases t with
    | none => exact .pure _
    | some tok =>
      exact (tells_isAt _).bind fun _ => .ite (tells_advance.bind fun _ => tells_params fuel _)
        ((tells_isAt _).bind fun _ => .ite (tells_params fuel _) (.pure _))

theorem tells_chainOf : ∀ (toks : List Token) (next : Option Nat), Tells (chainOf toks next)
  | [], _ => .pure _
  | tok :: rest, next => (tells_newIdentOf tok next).bind fun _ => tells_chainOf rest _

/-- The expression parsers, by induction on the fuel, which each of them passes on lessened. -/
theorem tells_expr : ∀ fuel : Nat, Tells (expr fuel) ∧ Tells (abstraction fuel) ∧
    Tells (operand fuel) ∧ (∀ acc, Tells (operands fuel acc)) ∧ Tells (application fuel)
  | 0 => ⟨.pure _, .pure _, .pure _, fun _ => .pure _, .pure _⟩
  | fuel + 1 => by
    obtain ⟨he, ha, ho, hos, hap⟩ := tells_expr fuel
    refine ⟨(tells_isAt _).bind fun _ => .ite ha hap, ?_, ?_, ?_, ?_⟩
    · -- an abstraction: the lambda, the parameters, the body, then the chain
      refine tells_advance.bind fun _ => (tells_params _ _).bind fun ps => ?_
      cases ps with
      | none => exact .pure _
      | some ps =>
        refine tells_peek.bind fun _ => .ite ((tells_fail _ _ _).bind fun _ => .pure _)
          (tells_advance.bind fun _ => he.bind fun b => ?_)
        cases b with
        | none => exact .pure _
        | some body =>
          refine (tells_chainOf _ _).bind fun c => ?_
          cases c with
          | none => exact .pure _
          | some c => exact tells_get.bind fun _ => tells_onTree _
    · -- an operand: a reference, or an expression in parentheses
      refine (tells_isAt _).bind fun _ => .ite (tells_advance.bind fun _ =>
        (tells_newIdentOf _ _).bind fun _ => tells_onTree _) ((tells_expect _ _ _).bind fun o => ?_)
      cases o with
      | none => exact .pure _
      | some o =>
        refine he.bind fun i => ?_
        cases i with
        | none => exact .pure _
        | some i =>
          exact (tells_isAt _).bind fun _ =>
            .ite ((tells_fail _ _ _).bind fun _ => .pure _) (tells_advance.bind fun _ => .pure _)
    · -- further operands
      intro acc
      refine tells_atOperand.bind fun _ => .ite (ho.bind fun a => ?_) (.pure _)
      cases a with
      | none => exact .pure _
      | some a => exact (tells_onTree _).bind fun x => hos x
    · -- an application, perhaps ending in an abstraction
      refine tells_atOperand.bind fun _ => .ite ((tells_fail _ _ _).bind fun _ => .pure _)
        (ho.bind fun a => ?_)
      cases a with
      | none => exact .pure _
      | some a =>
        refine (hos (some a)).bind fun e => ?_
        cases e with
        | none => exact .pure _
        | some e =>
          refine (tells_isAt _).bind fun _ => .ite (ha.bind fun x => ?_) (.pure _)
          cases x with
          | none => exact .pure _
          | some x => exact tells_onTree _

theorem tells_stmt (fuel : Nat) : Tells (stmt fuel) := by
  refine tells_peek.bind fun _ => (tells_isAt _).bind fun _ => ?_
  -- both ways past the optional `let` join the rest of the statement
  extract_lets rest
  have hrest : ∀ u, Tells (rest u) := by
    intro u
    simp only [rest]
    refine (tells_expect _ _ _).bind fun n => ?_
    cases n with
    | none => exact .pure _
    | some n =>
      refine (tells_newIdentOf _ _).bind fun v => (tells_expect _ _ _).bind fun a => ?_
      cases a with
      | none => exact .pure _
      | some a =>
        refine (tells_expr fuel).1.bind fun e => ?_
        cases e with
        | none => exact .pure _
        | some e =>
          refine (tells_expect _ _ _).bind fun semi => ?_
          cases semi with
          | none => exact .pure _
          | some semi =>
            exact tells_onTree _
  exact .ite (tells_advance.bind fun _ => hrest ()) (hrest ())

theorem tells_resync : ∀ fuel : Nat, Tells (resync fuel)
  | 0 => .pure _
  | fuel + 1 => tells_peek.bind fun _ => .ite (.pure _)
      (.ite (tells_advance.bind fun _ => .pure _) (tells_advance.bind fun _ => tells_resync fuel))

theorem tells_stmts : ∀ (fuel : Nat) (acc : List Nat), Tells (stmts fuel acc)
  | 0, _ => .pure _
  | fuel + 1, acc => by
    refine (tells_isAt _).bind fun _ => .ite (.pure _) (tells_get.bind fun s => .ite (.pure _)
      ((tells_stmt _).bind fun j => ?_))
    cases j with
    | none => exact (tells_resync _).bind fun _ => tells_stmts fuel acc
    | some j => exact tells_stmts fuel _

end Parser

/-- Parsing only tells the reporter diagnostics. -/
theorem parseFile_told (file : SourceFile) (tree : Tree) (rep : Reporter) (maxErrors : Nat) :
    rep.Told (parseFile file tree rep maxErrors).2.2 := by
  rw [parseFile_eq]
  dsimp only
  -- the reporter is the statement loop's, whether or not the program record is added
  split <;> exact Parser.tells_stmts _ [] _

namespace Bracket

theorem told_reportUses (rep : Reporter) (errs : List (String × Span)) :
    rep.Told (reportUses rep errs) :=
  ⟨errs.map fun o => usedBeforeDefined o.1 o.2, by simp [reportUses, List.foldl_map]⟩

/-- A loud reporter that filters repeats has seen every reference reported as used before being
defined. -/
theorem mem_seen_reportUses {rep : Reporter} (hl : rep.silent = false) (hd : rep.dedup = true)
    (errs : List (String × Span)) :
    ∀ o ∈ errs, (usedBeforeDefined o.1 o.2).repeatKey ∈ (reportUses rep errs).seen := by
  induction errs generalizing rep with
  | nil => intro o ho; cases ho
  | cons o' errs ih =>
    obtain ⟨-, hl', hd'⟩ := rep.report_keeps (usedBeforeDefined o'.1 o'.2)
    intro o ho
    rw [reportUses, List.foldl_cons, ← reportUses]
    rcases List.mem_cons.1 ho with rfl | ho
    · exact (told_reportUses _ errs).seen (Reporter.mem_seen_report hl hd _)
    · exact ih (hl'.trans hl) (hd'.trans hd) o ho

end Bracket

/-! ### The stages of a compilation -/

namespace Compilation

theorem start_reporter {name : String} {content : ByteArray} {settings : Settings}
    {c : Compilation} (h : start name content settings = .ok c) :
    c.reporter = Reporter.toBag (Bag.empty settings.maxDiagnostics) true := by
  simp only [start, startIn] at h
  cases ha : settings.newArena 1 with
  | error e => simp [ha, Except.mapError, bind, Except.bind] at h
  | ok a =>
    simp only [ha, Except.mapError, bind, Except.bind, pure, Except.pure, Except.ok.injEq] at h
    rw [← h]

theorem parse_told (c : Compilation) : c.reporter.Told c.parse.1.reporter := by
  have h := parseFile_told c.file c.tree c.reporter c.settings.maxDiagnostics.toNat
  simp only [parse]
  generalize parseFile c.file c.tree c.reporter c.settings.maxDiagnostics.toNat = x at h
  obtain ⟨res, t, r⟩ := x
  cases t.failure <;> exact h

/-- A check that ends tells the reporter what it found. -/
theorem checkNames_told {c c' : Compilation} {g : Bool} {p : Nat} (h : c.checkNames = (c', .ok g))
    (hp : c.program = some p) (ht : c.tree.ParsedProgram p) : c.reporter.Told c'.reporter := by
  simp only [checkNames] at h
  split at h
  · simp at h
  · rename_i res r hcheck
    simp only [Prod.mk.injEq] at h
    obtain ⟨rfl, -⟩ := h
    obtain ⟨shape, hl⟩ := ht.laidOut
    have hprog : c.prog = p := by simp [prog, hp]
    rw [hprog] at hcheck
    rw [(Checker.checkProgram_eq c.tree p _ c.reporter
      (fun j hj => ⟨hl.realizes j hj, hl.root j hj, hl.linear_of_mem j hj⟩) hcheck).2.2.2.2]
    exact Reporter.told_foldl _ _

theorem curry_reporter (c : Compilation) : c.curry.1.reporter = c.reporter := by
  simp only [curry]
  split <;> rfl

/-- A good conversion of a curried parsed program keeps its forest, and its bag holds no
error. -/
theorem convert_good {c c' : Compilation} {t : Tree} {p : Nat} (h : c.convert = (c', .ok true))
    (ht : t.ParsedProgram p) (hc : c.tree = t.curry p) (hf : (t.curry p).failure = none)
    (hprog : c.prog = p) (htable : ∀ x, c.table.get? x = lastNamed t.stmtName (t.programStmts p) x) :
    c'.bag.hasErrors = false ∧ ∃ roots, c'.forest = some roots ∧
      t.Converted (t.programStmts p) c.reporter roots c'.store c'.reporter := by
  simp only [convert] at h
  rw [hc, hprog] at h
  generalize hx : (Store.ofTree (t.curry p)).convert p c.table c.reporter = x at h
  obtain ⟨res, st, rep⟩ := x
  cases res with
  | error e => simp at h
  | ok roots =>
    simp only [Prod.mk.injEq, Except.ok.injEq] at h
    obtain ⟨rfl, hg⟩ := h
    exact ⟨by simpa [bag, note] using hg, roots, rfl, ht.converted hf htable hx⟩

/-- A pipeline that nothing stopped ran its first stage to a good end, then ended there (the
stage asked for) or ran the rest. -/
theorem runStages_cons_good {stop st : Stage} {rest : List Stage} {c : Compilation}
    (hst : st ≠ .none) (h : (runStages stop (st :: rest) c).failed = .none) :
    ∃ c', ({ c with phases := c.phases ++ [st.name] } : Compilation).runStage st = (c', .ok true) ∧
      runStages stop (st :: rest) c =
        if st = stop then
          ({ c'.note .debug "phase done" [("phase", .text st.name)] with reached := st } :
            Compilation).noteEnd
        else runStages stop rest
          { c'.note .debug "phase done" [("phase", .text st.name)] with reached := st } := by
  rw [runStages] at h ⊢
  generalize hx : ({ c with phases := c.phases ++ [st.name] } : Compilation).step st = x at h ⊢
  obtain ⟨c', E | g⟩ := x
  · exact absurd h hst
  · cases g
    · exact absurd h hst
    · exact ⟨c', runStage_of_step_ok hx, rfl⟩

end Compilation

open Compilation in
/-- What a compilation to the end that nothing stopped went through: the parser gave a program,
currying it succeeded, and every statement of it was converted, the reporter having been told
only diagnostics from the start to the conversion; the compilation keeps the conversion's
store, reporter and forest, and its bag holds no error. -/
theorem compileSource_converts {name : String} {content : ByteArray} {settings : Settings}
    {c : Compilation} (h : compileSource name content settings .convert = .ok c)
    (hf : c.failed = .none) :
    ∃ (t : Tree) (p : Nat) (rep : Reporter) (roots : List Root),
      (Reporter.toBag (Bag.empty settings.maxDiagnostics) true).Told rep ∧
      t.ParsedProgram p ∧ (t.curry p).failure = none ∧ c.bag.hasErrors = false ∧
      c.forest = some roots ∧ t.Converted (t.programStmts p) rep roots c.store c.reporter := by
  obtain ⟨c₀, hstart, hc⟩ := compileSource_ok h
  rw [if_neg (by decide)] at hc
  subst hc
  have hr₀ := start_reporter hstart
  clear h
  rw [show Stage.order = [.parse, .check, .curry, .convert] from rfl] at hf ⊢
  -- parsing gave a program
  obtain ⟨c₁, h₁, e₁⟩ := runStages_cons_good (by decide) hf
  rw [if_neg (by decide)] at e₁
  rw [e₁] at hf ⊢
  obtain ⟨-, -, p, hp₁, hparsed⟩ := parse_ok h₁
  have hr₁ : c₀.reporter.Told c₁.reporter := by
    have := parse_told { c₀ with phases := c₀.phases ++ [Stage.parse.name] }
    rwa [show ({ c₀ with phases := c₀.phases ++ [Stage.parse.name] } : Compilation).parse = _
      from h₁] at this
  -- the check built its table
  obtain ⟨c₂, h₂, e₂⟩ := runStages_cons_good (by decide) hf
  rw [if_neg (by decide)] at e₂
  rw [e₂] at hf ⊢
  obtain ⟨hs₂, hp₂, htable⟩ := checkNames_ok h₂ hp₁ hparsed
  have hr₂ := checkNames_told h₂ hp₁ hparsed
  have ht₂ : c₂.tree = c₁.tree := congrArg Store.tree hs₂
  have hprog₂ : c₂.prog = p := by simp [prog, hp₂.trans hp₁]
  -- currying succeeded
  obtain ⟨c₃, h₃, e₃⟩ := runStages_cons_good (by decide) hf
  rw [if_neg (by decide)] at e₃
  rw [e₃] at hf ⊢
  obtain ⟨hc₃, hf₃, -, hp₃, hk₃⟩ := curry_ok h₃
  have hr₃ : c₃.reporter = c₂.reporter :=
    (congrArg (·.1.reporter) h₃).symm.trans (curry_reporter _)
  change c₃.tree = c₂.tree.curry c₂.prog at hc₃
  change (c₂.tree.curry c₂.prog).failure = none at hf₃
  rw [ht₂, hprog₂] at hc₃ hf₃
  have hprog₃ : c₃.prog = p := by simp [prog, hp₃.trans (hp₂.trans hp₁)]
  have htable₃ : ∀ x, c₃.table.get? x = lastNamed c₁.tree.stmtName (c₁.tree.programStmts p) x := by
    intro x
    simp only [table, hk₃]
    exact htable x
  -- every statement was converted, and the pipeline ends there
  obtain ⟨c₄, h₄, e₄⟩ := runStages_cons_good (by decide) hf
  rw [if_pos rfl] at e₄
  rw [e₄]
  obtain ⟨hg₄, roots, hforest, hconv⟩ := convert_good h₄ hparsed hc₃ hf₃ hprog₃ htable₃
  refine ⟨c₁.tree, p, c₃.reporter, roots, ?_, hparsed, hf₃, hg₄, hforest, hconv⟩
  rw [← hr₀, hr₃]
  exact hr₁.trans hr₂

/-- A result whose summary is evaluated to `true` is a success, and the summary holds of it;
this is how a run of the pipeline on a fixed input is read back. -/
theorem exists_ok_of_summary {ε α : Type} {x : Except ε α} {f : α → Bool}
    (h : x.toOption.map f = some true) : ∃ a, x = .ok a ∧ f a = true := by
  cases x with
  | error e => cases h
  | ok a => exact ⟨a, rfl, Option.some.inj h⟩

/-- A compilation that ends OK with nothing refused by its bag was told no error: every
diagnostic a stage reported (the reporter of a compilation drops repeats and keeps the key of
each diagnostic it is told) is below the error severity, and every term of the forest is
closed. -/
theorem compileSource_ok_unrefused (name : String) (content : ByteArray) (settings : Settings)
    {c : Compilation} (h : compileSource name content settings .convert = .ok c)
    (hok : c.ok = true) (hkept : c.bag.dropped = 0) :
    (∀ k ∈ c.reporter.seen, k.severity.fails = false) ∧
      ∃ roots, c.forest = some roots ∧ ∀ r ∈ roots, ∀ x, c.store.containsFree r.node x = false := by
  have hf : c.failed = .none := by
    simp only [Compilation.ok, Bool.and_eq_true, decide_eq_true_eq] at hok
    exact hok.1
  obtain ⟨t, p, rep, roots, hrep, -, -, herr, hforest, hconv⟩ := compileSource_converts h hf
  change c.reporter.bag.hasErrors = false at herr
  change c.reporter.bag.dropped = 0 at hkept
  have htold : (Reporter.toBag (Bag.empty settings.maxDiagnostics) true).Told c.reporter := by
    rw [hconv.reporter]
    exact hrep.trans (Bracket.told_reportUses rep _)
  -- every error told is in the bag, which refused nothing and holds no error
  have hnone : ∀ k ∈ c.reporter.seen, k.severity.fails = false := by
    intro k hk
    cases hfk : k.severity.fails
    · rfl
    · have hacc : (Reporter.toBag (Bag.empty settings.maxDiagnostics) true).Accounts :=
        fun _ h => by cases h
      rcases hacc.told htold k hk hfk with h' | h'
      · rw [herr] at h'
        cases h'
      · omega
  refine ⟨hnone, roots, hforest, fun r hr x => Bool.eq_false_iff.2 fun hx => ?_⟩
  -- a free leaf names a reference reported as used before being defined, which is an error
  obtain ⟨i, hi, rfl⟩ := List.getElem_of_mem hr
  rw [Store.containsFree_of_reads (hconv.reads i hi)] at hx
  obtain ⟨sp, hsp⟩ : ∃ sp, (x, sp) ∈ t.unboundRefs ((t.programStmts p).take i) roots[i].stmt := by
    rcases Term.hasFree_compile _ _ [] x hx with hx | hx
    · cases hx
    · rwa [Tree.errs_resolveAfter] at hx
  have hiL : i < (t.programStmts p).length := hconv.length ▸ hi
  rw [hconv.stmt hi hiL] at hsp
  have hmem := t.mem_unboundAfter [] _ i hiL (by simpa using hsp)
  obtain ⟨-, hl, hd⟩ := hrep.keeps
  have hseen := Bracket.mem_seen_reportUses hl hd _ _ hmem
  rw [← hconv.reporter] at hseen
  have := hnone _ hseen
  simp [Bracket.usedBeforeDefined, Diagnostic.repeatKey, Severity.fails, Severity.rank] at this

theorem compileSource_ok_unrefused_shadowing :
    ∃ c, compileSource "" "i = λx.x;\nk = λx x.x;\n".toUTF8 Settings.default .convert = .ok c ∧
      c.ok = true ∧ c.bag.dropped = 0 ∧ c.reporter.seen ≠ [] ∧
      ((∀ k ∈ c.reporter.seen, k.severity.fails = false) ∧
        ∃ roots, c.forest = some roots ∧ ∀ r ∈ roots, ∀ x, c.store.containsFree r.node x = false) := by
  -- the second `x` of `k` shadows the first: a warning is told and kept
  have hrun : ((compileSource "" "i = λx.x;\nk = λx x.x;\n".toUTF8 Settings.default .convert).toOption.map
      fun c => c.ok && c.bag.dropped == 0 && !c.reporter.seen.isEmpty) = some true := by
    decide +kernel
  obtain ⟨c, hc, hsum⟩ := exists_ok_of_summary hrun
  simp only [Bool.and_eq_true, beq_iff_eq, Bool.not_eq_true', List.isEmpty_eq_false_iff] at hsum
  obtain ⟨⟨hok, hdrop⟩, hseen⟩ := hsum
  exact ⟨c, hc, hok, hdrop, hseen,
    compileSource_ok_unrefused "" "i = λx.x;\nk = λx x.x;\n".toUTF8 Settings.default hc hok hdrop⟩

/-- With room for one diagnostic, the warning that the second `x` shadows the first fills the
bag, and the error that `f` is used before it is defined is refused: the compilation is OK and
dropped one diagnostic, though it was told an error and the root of `f` holds a free leaf. -/
theorem compileSource_ok_despite_refused_error :
    ∃ c, compileSource "" "f = λx x.f;".toUTF8 { Settings.default with maxDiagnostics := 1 }
        .convert = .ok c ∧ c.ok = true ∧ c.bag.dropped = 1 ∧
      (∃ k ∈ c.reporter.seen, k.severity.fails = true) ∧
      ∃ roots, c.forest = some roots ∧ ∃ r ∈ roots, c.store.containsFree r.node "f" = true := by
  have hrun : ((compileSource "" "f = λx x.f;".toUTF8 { Settings.default with maxDiagnostics := 1 }
      .convert).toOption.map fun c => c.ok && c.bag.dropped == 1 &&
        c.reporter.seen.any (·.severity.fails) &&
        c.forest.any (·.any fun r => c.store.containsFree r.node "f")) = some true := by
    decide +kernel
  obtain ⟨c, hc, hsum⟩ := exists_ok_of_summary hrun
  simp only [Bool.and_eq_true, beq_iff_eq, List.any_eq_true, Option.any_eq_true] at hsum
  obtain ⟨⟨⟨hok, hdrop⟩, hseen⟩, hforest⟩ := hsum
  exact ⟨c, hc, hok, hdrop, hseen, hforest⟩

end Combinatory
