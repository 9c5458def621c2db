import Combinatory.Proofs.Decode

/-! The statement loop recovers from syntax errors and stops. An attempt counts at most one
error (`CountsOnce`), a failed one is followed by a skip past the next `;` (`resync_rest`), and
the loop runs to the end of the file or the error limit (`parseFile_recovers`). -/
namespace Combinatory

open Pass Grammar

/-! ### Skipping to the next statement -/

/-- The tokens left after skipping to just past the first `;`, or up to the end of the file. -/
def pastSemicolon : List Token → List Token
  | [] => []
  | x :: u => if x.kind = .eof then x :: u else if x.kind = .semicolon then u else pastSemicolon u

theorem pastSemicolon_suffix : ∀ ts : List Token, pastSemicolon ts <:+ ts
  | [] => List.suffix_refl _
  | x :: u => by
    rw [pastSemicolon]
    split
    · exact List.suffix_refl _
    · split
      · exact List.suffix_cons _ _
      · exact (pastSemicolon_suffix u).trans (List.suffix_cons _ _)

/-- A suffix shorter than a list is a suffix of its tail. -/
theorem suffix_tail_of_length_lt {x : Token} {u ts : List Token} (h : ts <:+ x :: u)
    (hl : ts.length < (x :: u).length) : ts <:+ u := by
  rcases List.suffix_cons_iff.1 h with rfl | h
  · exact absurd hl (Nat.lt_irrefl _)
  · exact h

/-- Skipping from a failure at or after a token other than the end of the file consumes that
token. -/
theorem pastSemicolon_lt {x : Token} {u ts : List Token} (hx : x.kind ≠ .eof) (h : ts <:+ x :: u) :
    (pastSemicolon ts).length < (x :: u).length := by
  rcases List.suffix_cons_iff.1 h with rfl | h
  · have hu := (pastSemicolon_suffix u).length_le
    rw [pastSemicolon, if_neg hx]
    split <;> simp only [List.length_cons] <;> omega
  · have hts := (pastSemicolon_suffix ts).length_le
    have hu := h.length_le
    simp only [List.length_cons]
    omega

/-! ### Runs of the statement loop -/

/-- A run of the statement loop over tokens `ts` with error limit `m`, from `e` errors counted:
it adds the statement records `js` and ends with `e'` errors. Each attempt below the limit
counts at most one error, and after a failed one the run resumes past the next `;`. -/
inductive Recovery (m : Nat) : List Token → Nat → List Nat → Nat → Prop
  | eof {x : Token} {ts : List Token} {e : Nat} : x.kind = .eof → Recovery m (x :: ts) e [] e
  | limit {x : Token} {ts : List Token} {e : Nat} : x.kind ≠ .eof → 0 < m → m ≤ e →
      Recovery m (x :: ts) e [] e
  | stmt {x : Token} {ts ts' : List Token} {e e' j : Nat} {js : List Nat} : x.kind ≠ .eof →
      m = 0 ∨ e < m → ts' <:+ ts → Recovery m ts' e js e' → Recovery m (x :: ts) e (j :: js) e'
  | skip {x : Token} {ts ts₁ : List Token} {e e' d : Nat} {js : List Nat} : x.kind ≠ .eof →
      m = 0 ∨ e < m → ts₁ <:+ x :: ts → d ≤ 1 → (∀ y u, ts₁ = y :: u → y.kind = .invalid → d = 0) →
      Recovery m (pastSemicolon ts₁) (e + d) js e' → Recovery m (x :: ts) e js e'

/-- With a positive limit, a run that starts within it ends within it: it only attempts a
statement below the limit, and an attempt counts at most one error. -/
theorem Recovery.errors_le {m : Nat} {ts : List Token} {e e' : Nat} {js : List Nat}
    (h : Recovery m ts e js e') (hm : 0 < m) (he : e ≤ m) : e' ≤ m := by
  induction h with
  | eof _ => exact he
  | limit _ _ _ => exact he
  | stmt _ _ _ _ ih => exact ih he
  | skip _ hbelow _ hd _ _ ih =>
    apply ih
    omega

namespace Parser

variable {α β : Type} {s s₁ s₂ : ParseState}

/-! ### Counting syntax errors -/

/-- A step from `s` to `s'` that counts no syntax error, keeps the error limit and reads on. -/
structure Quieted (s s' : ParseState) : Prop where
  errors : s'.errors = s.errors
  limit : s'.maxErrors = s.maxErrors
  suffix : s'.rest <:+ s.rest

/-- A step from `s` to `s'` with result `r` that counts at most one syntax error: none when it
gives a result, and none when the token it stops at is invalid. It keeps the error limit and
reads on. -/
structure Counted (s s' : ParseState) (r : Option α) : Prop where
  mono : s.errors ≤ s'.errors
  le : s'.errors ≤ s.errors + 1
  ok : r.isSome → s'.errors = s.errors
  valid : s'.errors = s.errors + 1 → s'.cur.kind ≠ .invalid
  limit : s'.maxErrors = s.maxErrors
  suffix : s'.rest <:+ s.rest

/-- Step `x` counts no syntax error, from every state. -/
def Quiet (x : ParseM α) : Prop := ∀ s, Quieted s (run x s).2

/-- Step `x` counts at most one syntax error, from every state. -/
def CountsOnce (x : ParseM (Option α)) : Prop := ∀ s, Counted s (run x s).2 (run x s).1

namespace Quieted

theorem refl (s : ParseState) : Quieted s s := ⟨rfl, rfl, List.suffix_refl _⟩

theorem trans (h₁ : Quieted s s₁) (h₂ : Quieted s₁ s₂) : Quieted s s₂ :=
  ⟨h₂.errors.trans h₁.errors, h₂.limit.trans h₁.limit, h₂.suffix.trans h₁.suffix⟩

theorem of_looked (h : Looked s s₁) : Quieted s s₁ := by
  obtain ⟨r, l, rfl⟩ := h
  exact ⟨rfl, rfl, List.suffix_refl _⟩

theorem of_frame (h : s₁ = { s with tree := s₁.tree }) : Quieted s s₁ := by
  rw [h]
  exact ⟨rfl, rfl, List.suffix_refl _⟩

end Quieted

namespace Counted

variable {r : Option α}

theorem of_quieted (h : Quieted s s₁) : Counted s s₁ r :=
  ⟨Nat.le_of_eq h.errors.symm, by rw [h.errors]; exact Nat.le_succ _, fun _ => h.errors,
    fun he => absurd (h.errors ▸ he) (Nat.succ_ne_self _).symm, h.limit, h.suffix⟩

/-- A step that counts no error, then one that counts at most one. -/
theorem after (hq : Quieted s s₁) (h : Counted s₁ s₂ r) : Counted s s₂ r := by
  obtain ⟨hmono, hle, hok, hvalid, hlim, hsuf⟩ := h
  rw [hq.errors] at hmono hle hok hvalid
  exact ⟨hmono, hle, hok, hvalid, hlim.trans hq.limit, hsuf.trans hq.suffix⟩

/-- A step that gave a result, so counted no error, then one that counts at most one. -/
theorem onward {a : β} (h : Counted s s₁ (some a)) (h₂ : Counted s₁ s₂ r) : Counted s s₂ r :=
  h₂.after ⟨h.ok rfl, h.limit, h.suffix⟩

end Counted

namespace Quiet

theorem pure (a : α) : Quiet (Pure.pure a : ParseM α) := fun s => .refl s

theorem bind {x : ParseM α} {f : α → ParseM β} (hx : Quiet x) (hf : ∀ a, Quiet (f a)) :
    Quiet (x >>= f) := fun s => (hx s).trans (hf _ _)

end Quiet

namespace CountsOnce

theorem pure (r : Option α) : CountsOnce (Pure.pure r : ParseM (Option α)) :=
  fun s => .of_quieted (.refl s)

theorem of_quiet {x : ParseM (Option α)} (hx : Quiet x) : CountsOnce x := fun s => .of_quieted (hx s)

theorem bind_quiet {x : ParseM α} {f : α → ParseM (Option β)} (hx : Quiet x)
    (hf : ∀ a, CountsOnce (f a)) : CountsOnce (x >>= f) := fun s => (hf _ _).after (hx s)

/-- A step with an optional result, then a continuation that gives up on none: the error the
first counted is the last. -/
theorem bind_some {x : ParseM (Option α)} {f : Option α → ParseM (Option β)} (hx : CountsOnce x)
    (hf : ∀ a, CountsOnce (f (some a))) (hn : ∀ s, run (f none) s = (none, s)) :
    CountsOnce (x >>= f) := fun s => by
  have h := hx s
  rw [run_bind]
  cases hr : (run x s).1 with
  | none =>
    rw [hr] at h
    rw [hn]
    exact ⟨h.mono, h.le, fun h' => (nomatch h'), h.valid, h.limit, h.suffix⟩
  | some a =>
    rw [hr] at h
    exact h.onward (hf a _)

end CountsOnce

/-! ### Steps -/

theorem peek_quiet : Quiet peek := fun s => .of_looked (peek_looked s)

theorem isAt_quiet (k : TokenKind) : Quiet (isAt k) := fun s => .of_looked (isAt_looked s k)

theorem atOperand_quiet : Quiet atOperand := fun s => .of_looked (atOperand_looked s)

theorem get_quiet : Quiet (get : ParseM ParseState) := fun s => .refl s

theorem onTree_quiet (f : StateM Tree α) : Quiet (onTree f) := fun s => by
  rw [onTree_run]
  exact ⟨rfl, rfl, List.suffix_refl _⟩

theorem newIdentOf_quiet (tok : Token) (next : Option Nat) : Quiet (newIdentOf tok next) :=
  fun s => .of_frame (newIdentOf_frame s tok next)

theorem chainOf_quiet (toks : List Token) (next : Option Nat) : Quiet (chainOf toks next) :=
  fun s => .of_frame (chainOf_frame toks next s)

/-- Consuming a token moves the position on by one at most. -/
theorem advance_quiet : Quiet advance := fun s => by
  obtain ⟨r, l, hl⟩ := lexUpTo_looked s s.pos
  refine ⟨advance_errors s, by simp [advance, peek_run, hl], ?_⟩
  simp only [advance, peek_run, run_bind, run_modify, run_pure, hl, ParseState.rest]
  split
  · rw [← List.drop_drop]
    exact List.drop_suffix _ _
  · exact List.suffix_refl _

theorem resync_quiet : ∀ n : Nat, Quiet (resync n)
  | 0 => .pure _
  | n + 1 => by
    rw [resync]
    refine .bind peek_quiet fun tok => ?_
    dsimp only
    split
    · exact .pure _
    · split
      · exact .bind advance_quiet fun _ => .pure _
      · exact .bind advance_quiet fun _ => resync_quiet n

/-- A syntax error counts one error, or none at an invalid token, and stays at the token. -/
theorem fail_counted (code : Nat) (msg : String) (notes : List Note) (s : ParseState) :
    Counted s (run (fail code msg notes) s).2 (none : Option α) := by
  have hp := peek_looked s
  have hcur : (run peek s).1 = s.cur := by rw [peek_run]
  by_cases hk : (run peek s).1.kind = .invalid
  · have hrun : (run (fail code msg notes) s).2 = { (run peek s).2 with invalid := true } := by
      simp [fail, hk]
    rw [hrun]
    obtain ⟨r, l, hl⟩ := hp
    rw [hl]
    exact .of_quieted ⟨rfl, rfl, List.suffix_refl _⟩
  · have hd := hp.trans (diagnosticSpan_looked (run peek s).2)
    obtain ⟨d, hrun⟩ : ∃ d, run (fail code msg notes) s =
        run (report d) (run diagnosticSpan (run peek s).2).2 := ⟨_, by simp [fail, hk]; rfl⟩
    obtain ⟨he, -, hr⟩ := report_flags (run diagnosticSpan (run peek s).2).2 d
    have hlim : (run (report d) (run diagnosticSpan (run peek s).2).2).2.maxErrors = s.maxErrors := by
      obtain ⟨r, l, hl⟩ := hd
      simp only [report, run_modify, hl]
      split <;> rfl
    rw [hd.errors] at he
    rw [hrun]
    refine ⟨by omega, by omega, fun h => (by cases h), fun _ => ?_, hlim,
      by simp only [hr, hd.rest, List.suffix_refl]⟩
    have hc' : (run (report d) (run diagnosticSpan (run peek s).2).2).2.cur = s.cur := by
      simp only [ParseState.cur, hr, hd.rest]
    rw [hc', ← hcur]
    exact hk

theorem fail_none (code : Nat) (msg : String) (notes : List Note) :
    CountsOnce (fail code msg notes >>= fun _ => (Pure.pure none : ParseM (Option α))) :=
  fail_counted code msg notes

theorem expect_countsOnce (k : TokenKind) (code : Nat) (msg : String) :
    CountsOnce (expect k code msg) := by
  rw [expect]
  refine .bind_quiet (isAt_quiet k) fun b => ?_
  split
  · exact .of_quiet (.bind advance_quiet fun _ => .pure _)
  · exact fail_none _ _ _

theorem params_countsOnce : ∀ (n : Nat) (acc : List Token), CountsOnce (params n acc)
  | 0, _ => .pure _
  | n + 1, acc => by
    rw [params]
    refine .bind_some (expect_countsOnce _ _ _) (fun tok => ?_) fun _ => rfl
    refine .bind_quiet (isAt_quiet _) fun b => ?_
    split
    · exact .bind_quiet advance_quiet fun _ => params_countsOnce n _
    · refine .bind_quiet (isAt_quiet _) fun c => ?_
      split
      · exact params_countsOnce n _
      · exact .pure _

/-! ### Expressions and statements -/

theorem operand_countsOnce {fuel : Nat} (he : CountsOnce (expr fuel)) :
    CountsOnce (operand (fuel + 1)) := by
  rw [operand]
  refine .bind_quiet (isAt_quiet _) fun b => ?_
  split
  · -- a reference: its identifier, then its record
    exact .bind_quiet advance_quiet fun tok =>
      .bind_quiet (newIdentOf_quiet tok none) fun _ => .of_quiet (onTree_quiet _)
  · -- a parenthesized expression
    refine .bind_some (expect_countsOnce _ _ _) (fun _ => ?_) fun _ => rfl
    refine .bind_some he (fun _ => ?_) fun _ => rfl
    refine .bind_quiet (isAt_quiet _) fun c => ?_
    split
    · exact fail_none _ _ _
    · exact .bind_quiet advance_quiet fun _ => .pure _

theorem operands_countsOnce {fuel : Nat} (hop : CountsOnce (operand fuel))
    (hrec : ∀ acc, CountsOnce (operands fuel acc)) (acc : Option Nat) :
    CountsOnce (operands (fuel + 1) acc) := by
  rw [operands]
  refine .bind_quiet atOperand_quiet fun b => ?_
  split
  · refine .bind_some hop (fun _ => ?_) fun _ => rfl
    exact .bind_quiet (onTree_quiet _) fun app => hrec app
  · exact .pure _

theorem application_countsOnce {fuel : Nat} (hop : CountsOnce (operand fuel))
    (hops : ∀ acc, CountsOnce (operands fuel acc)) (hab : CountsOnce (abstraction fuel)) :
    CountsOnce (application (fuel + 1)) := by
  rw [application]
  refine .bind_quiet atOperand_quiet fun b => ?_
  split
  · exact fail_none _ _ _
  · refine .bind_some hop (fun first => ?_) fun _ => rfl
    refine .bind_some (hops (some first)) (fun _ => ?_) fun _ => rfl
    refine .bind_quiet (isAt_quiet _) fun l => ?_
    split
    · exact .bind_some hab (fun _ => .of_quiet (onTree_quiet _)) fun _ => rfl
    · exact .pure _

theorem abstraction_countsOnce {fuel : Nat} (he : CountsOnce (expr fuel)) :
    CountsOnce (abstraction (fuel + 1)) := by
  rw [abstraction]
  refine .bind_quiet advance_quiet fun lam => ?_
  refine .bind_some (params_countsOnce _ _) (fun ps => ?_) fun _ => rfl
  refine .bind_quiet peek_quiet fun tok => ?_
  dsimp only
  split
  · exact fail_none _ _ _
  · refine .bind_quiet advance_quiet fun _ => ?_
    refine .bind_some he (fun _ => ?_) fun _ => rfl
    refine .bind_some (.of_quiet (chainOf_quiet _ _)) (fun _ => ?_) fun _ => rfl
    exact .bind_quiet get_quiet fun _ => .of_quiet (onTree_quiet _)

theorem expr_countsOnce {fuel : Nat} (hab : CountsOnce (abstraction fuel))
    (hap : CountsOnce (application fuel)) : CountsOnce (expr (fuel + 1)) := by
  rw [expr]
  refine .bind_quiet (isAt_quiet _) fun b => ?_
  split
  · exact hab
  · exact hap

/-- Every expression parser counts at most one syntax error, at every fuel. -/
theorem exprs_countsOnce : ∀ fuel, CountsOnce (expr fuel) ∧ CountsOnce (abstraction fuel) ∧
    CountsOnce (operand fuel) ∧ (∀ acc, CountsOnce (operands fuel acc)) ∧
    CountsOnce (application fuel)
  | 0 => ⟨.pure _, .pure _, .pure _, fun _ => .pure _, .pure _⟩
  | fuel + 1 =>
    have ⟨he, hab, hop, hops, hap⟩ := exprs_countsOnce fuel
    ⟨expr_countsOnce hab hap, abstraction_countsOnce he, operand_countsOnce he,
      operands_countsOnce hop hops, application_countsOnce hop hops hab⟩

theorem stmtTail_countsOnce (fuel : Nat) (start : Span) : CountsOnce (stmtTail fuel start) := by
  rw [stmtTail]
  refine .bind_some (expect_countsOnce _ _ _) (fun nameTok => ?_) fun _ => rfl
  refine .bind_quiet (newIdentOf_quiet _ _) fun name => ?_
  refine .bind_some (expect_countsOnce _ _ _) (fun _ => ?_) fun _ => rfl
  refine .bind_some (exprs_countsOnce fuel).1 (fun _ => ?_) fun _ => rfl
  exact .bind_some (expect_countsOnce _ _ _) (fun _ => .of_quiet (onTree_quiet _)) fun _ => rfl

/-- A statement attempt counts at most one syntax error. -/
theorem stmt_countsOnce (fuel : Nat) : CountsOnce (stmt fuel) := fun s => by
  have hl := (peek_looked s).trans (isAt_looked (run peek s).2 .kwLet)
  rw [stmt_run]
  split
  · exact (stmtTail_countsOnce fuel _ _).after ((Quieted.of_looked hl).trans (advance_quiet _))
  · exact (stmtTail_countsOnce fuel _ _).after (.of_looked hl)

/-! ### The statement loop -/

/-- Resynchronizing skips just past the first `;`, or up to the end of the file, given fuel for
every token left. -/
theorem resync_rest : ∀ (n : Nat) (s : ParseState), Terminated s.rest → s.rest.length ≤ n →
    (run (resync n) s).2.rest = pastSemicolon s.rest
  | 0, s, ht, hn => absurd (List.eq_nil_of_length_eq_zero (Nat.le_zero.1 hn)) ht.ne_nil
  | n + 1, s, ht, hn => by
    obtain ⟨x, u, hrest⟩ := List.exists_cons_of_ne_nil ht.ne_nil
    have hp := peek_looked s
    have hk : (run peek s).1.kind = x.kind := by rw [peek_run, s.cur_of_rest hrest]
    by_cases he : x.kind = .eof
    · have hrun : run (resync (n + 1)) s = ((), (run peek s).2) := by simp [resync, hk, he]
      rw [hrun, hp.rest, hrest, pastSemicolon, if_pos he]
    · obtain ⟨hu, htu⟩ := (hrest ▸ ht).tail he
      have hr₁ := advance_rest (run peek s).2 (hp.rest.trans hrest) hu
      by_cases hs : x.kind = .semicolon
      · have hrun : run (resync (n + 1)) s = ((), (run advance (run peek s).2).2) := by
          simp [resync, hk, hs]
        rw [hrun, hr₁, hrest, pastSemicolon, if_neg he, if_pos hs]
      · have hrun : run (resync (n + 1)) s = run (resync n) (run advance (run peek s).2).2 := by
          simp [resync, hk, he, hs]
        have hlen : u.length ≤ n := by
          rw [hrest, List.length_cons] at hn
          omega
        rw [hrun, resync_rest n _ (hr₁ ▸ htu) (hr₁ ▸ hlen), hr₁, hrest, pastSemicolon, if_neg he,
          if_neg hs]

/-- The statement loop runs the recovery of the tokens left, from the errors counted so far,
given fuel for every token left; the statements it returns are those of the run, after the ones
it was given. By induction on the fuel. -/
theorem stmts_recovery : ∀ (n : Nat) (acc : List Nat) (s : ParseState), Terminated s.rest →
    s.rest.length ≤ n → (run (stmts n acc) s).2.tree.failure = none →
    ∃ js, (run (stmts n acc) s).1 = acc ++ js ∧
      Recovery s.maxErrors s.rest s.errors js (run (stmts n acc) s).2.errors
  | 0, _, s, ht, hn, _ => absurd (List.eq_nil_of_length_eq_zero (Nat.le_zero.1 hn)) ht.ne_nil
  | n + 1, acc, s, ht, hn, hf => by
    obtain ⟨x, u, hrest⟩ := List.exists_cons_of_ne_nil ht.ne_nil
    have hl₁ := isAt_looked s .eof
    by_cases he : x.kind = .eof
    · -- the end of the file
      have he' : (run (isAt .eof) s).1 = true := by simp [isAt_fst s hrest, he]
      have hrun : run (stmts (n + 1) acc) s = (acc, (run (isAt .eof) s).2) := by simp [stmts, he']
      rw [hrun, hrest, hl₁.errors]
      exact ⟨[], by simp, .eof he⟩
    have he' : (run (isAt .eof) s).1 = false := by simp [isAt_fst s hrest, he]
    generalize hs₁ : (run (isAt .eof) s).2 = s₁ at hl₁
    have hq₁ := Quieted.of_looked hl₁
    by_cases hstop : (s₁.maxErrors > 0 ∧ s₁.errors ≥ s₁.maxErrors) ∨ s₁.tree.failure.isSome
    · -- the error limit: a failed tree would have stayed failed
      have hrun : run (stmts (n + 1) acc) s = (acc, s₁) := by simp [stmts, he', hs₁, hstop]
      rw [hrun] at hf ⊢
      simp only at hf
      rw [hq₁.errors, hq₁.limit] at hstop
      have hlim : 0 < s.maxErrors ∧ s.maxErrors ≤ s.errors := by
        rcases hstop with h | h
        · exact h
        · simp [hf] at h
      rw [hrest, hq₁.errors]
      exact ⟨[], by simp, .limit he hlim.1 hlim.2⟩
    have hbelow : s.maxErrors = 0 ∨ s.errors < s.maxErrors := by
      rw [hq₁.errors, hq₁.limit] at hstop
      omega
    have hbound : 3 * s₁.rest.length + 3 ≤ 4 * s₁.tokens.size + 4 := by
      have := s₁.length_rest_le
      omega
    have hr₁ : s₁.rest = x :: u := hl₁.rest.trans hrest
    have hc := stmt_countsOnce (4 * s₁.tokens.size + 4) s₁
    cases hst : (run (stmt (4 * s₁.tokens.size + 4)) s₁).1 with
    | some j =>
      -- a statement: it consumed its first token
      have hrun : run (stmts (n + 1) acc) s =
          run (stmts n (acc ++ [j])) (run (stmt (4 * s₁.tokens.size + 4)) s₁).2 := by
        simp [stmts, he', hs₁, hstop, hst]
      rw [hrun] at hf ⊢
      obtain ⟨-, hter, -, hrd⟩ := stmt_recognizes 0 _ s₁ (hr₁ ▸ hrest ▸ ht) hbound
        ((stmts_adds n _ _).sticky hf)
      obtain ⟨st, hst'⟩ := hrd j hst
      have hlen := hst'.consumes.2
      rw [hr₁] at hlen
      rw [hst] at hc
      have hsuf := suffix_tail_of_length_lt (hr₁ ▸ hc.suffix) hlen
      obtain ⟨js, hjs, hrec⟩ := stmts_recovery n _ _ hter
        (by rw [hrest, List.length_cons] at hn; rw [List.length_cons] at hlen; omega) hf
      rw [hc.ok rfl, hc.limit, hq₁.errors, hq₁.limit] at hrec
      refine ⟨j :: js, by rw [hjs]; simp, ?_⟩
      rw [hrest]
      exact .stmt he hbelow hsuf hrec
    | none =>
      -- a failed attempt, then the skip past the next `;`
      have hrun : run (stmts (n + 1) acc) s = run (stmts n acc)
          (run (resync (s₁.tokens.size + 1)) (run (stmt (4 * s₁.tokens.size + 4)) s₁).2).2 := by
        simp [stmts, he', hs₁, hstop, hst]
      rw [hrun] at hf ⊢
      have hf₂ := (resync_tree _ _) ▸ (stmts_adds n _ _).sticky hf
      obtain ⟨-, hter, -, -⟩ := stmt_recognizes 0 _ s₁ (hr₁ ▸ hrest ▸ ht) hbound hf₂
      rw [hst] at hc
      generalize hs₂ : (run (stmt (4 * s₁.tokens.size + 4)) s₁).2 = s₂ at hc hter hf ⊢
      have hsuf₂ : s₂.rest <:+ x :: u := hr₁ ▸ hc.suffix
      have hq₃ := resync_quiet (s₁.tokens.size + 1) s₂
      have hr₃ := resync_rest (s₁.tokens.size + 1) s₂ hter
        (Nat.le_succ_of_le (Nat.le_trans hc.suffix.length_le s₁.length_rest_le))
      have hlt := pastSemicolon_lt he hsuf₂
      obtain ⟨js, hjs, hrec⟩ := stmts_recovery n acc _ (resync_steady _ _ hter).2
        (by rw [hr₃]; rw [hrest, List.length_cons] at hn; rw [List.length_cons] at hlt; omega) hf
      rw [hr₃, hq₃.errors, hq₃.limit, hc.limit, hq₁.limit] at hrec
      refine ⟨js, hjs, ?_⟩
      have hd : s₂.errors = s.errors + (s₂.errors - s.errors) := by
        have := hc.mono
        rw [hq₁.errors] at this
        omega
      rw [hd] at hrec
      rw [hrest]
      refine .skip he hbelow hsuf₂ (by have := hc.le; rw [hq₁.errors] at this; omega) (fun y v hy hy' => ?_) hrec
      -- an error counted at the token the attempt stopped at would make it valid
      have hcur : s₂.cur = y := s₂.cur_of_rest hy
      have hne : s₂.errors ≠ s₁.errors + 1 := fun h => hc.valid h (hcur ▸ hy')
      have := hc.mono
      have := hc.le
      rw [hq₁.errors] at hne this
      omega

end Parser

/-! ### Files -/

/-- Parsing a file whose tree does not fail recovers from every syntax error and stops: the
statement loop runs the recovery of the file's tokens from no error, with the error limit given.
The program holds the statements whose attempts succeeded, in order, and the errors of the result
are those the attempts counted, at most the limit when there is one. -/
theorem parseFile_recovers (file : SourceFile) (tree : Tree) (rep : Reporter) (maxErrors : Nat)
    (hf : (parseFile file tree rep maxErrors).2.1.failure = none) :
    ∃ p, (parseFile file tree rep maxErrors).1.program = some p ∧
      Recovery maxErrors file.tokens 0 ((parseFile file tree rep maxErrors).2.1.programStmts p)
        (parseFile file tree rep maxErrors).1.errors ∧
      (parseFile file tree rep maxErrors).1.stmts =
        ((parseFile file tree rep maxErrors).2.1.programStmts p).length ∧
      (0 < maxErrors → (parseFile file tree rep maxErrors).1.errors ≤ maxErrors) := by
  obtain ⟨s₀, hs₀⟩ : ∃ s₀ : ParseState,
      s₀ = ⟨file, file.tokens.toArray, 0, 0, ⟨file.id, 0, 0⟩, false, 0, maxErrors, rep, tree⟩ := ⟨_, rfl⟩
  have hrest₀ : s₀.rest = file.tokens := by simp [hs₀, ParseState.rest]
  have hlim₀ : s₀.maxErrors = maxErrors := by rw [hs₀]
  have herr₀ : s₀.errors = 0 := by rw [hs₀]
  obtain ⟨-, hs⟩ := Parser.stmts_spec (file.tokens.toArray.size + 1) [] s₀
    fun _ => ⟨List.nodup_nil, by simp, fun _ => default, by simp, by simp, by simp, by simp⟩
  have hrec := Parser.stmts_recovery (file.tokens.toArray.size + 1) [] s₀
    (hrest₀ ▸ file.tokens_terminated) (by simp [hrest₀])
  rw [hrest₀, hlim₀, herr₀] at hrec
  rw [parseFile_eq, ← hs₀] at hf ⊢
  generalize run (Parser.stmts (file.tokens.toArray.size + 1) []) s₀ = r at hs hrec hf ⊢
  obtain ⟨ss, s₁⟩ := r
  dsimp only at hs hrec
  -- the program is added only when the tree did not fail
  by_cases hf₁ : s₁.tree.failure.isSome
  · rw [if_pos hf₁] at hf
    simp only at hf
    simp [hf] at hf₁
  · rw [if_neg hf₁] at hf ⊢
    simp only at hf ⊢
    have hf₁' : s₁.tree.failure = none := by simpa using hf₁
    obtain ⟨p, hp⟩ := Tree.newProgram_some s₁.tree file.path ss hf
    obtain ⟨js, hjs, hr⟩ := hrec hf₁'
    simp only [List.nil_append] at hjs
    subst hjs
    refine ⟨p, hp, ?_⟩
    rw [(hs hf₁').programStmts file.path hp]
    exact ⟨hr, rfl, fun hm => hr.errors_le hm (Nat.zero_le _)⟩

theorem parseFile_recovers_error :
    (parseFile (textFile "i = λx.x;\nk = ;\nw = i i;\n") freshTree Reporter.none 5).2.1.failure = none ∧
      ∃ p, (parseFile (textFile "i = λx.x;\nk = ;\nw = i i;\n") freshTree Reporter.none 5).1.program = some p ∧
        Recovery 5 (textFile "i = λx.x;\nk = ;\nw = i i;\n").tokens 0
          ((parseFile (textFile "i = λx.x;\nk = ;\nw = i i;\n") freshTree Reporter.none 5).2.1.programStmts p)
          (parseFile (textFile "i = λx.x;\nk = ;\nw = i i;\n") freshTree Reporter.none 5).1.errors ∧
        (parseFile (textFile "i = λx.x;\nk = ;\nw = i i;\n") freshTree Reporter.none 5).1.stmts =
          ((parseFile (textFile "i = λx.x;\nk = ;\nw = i i;\n") freshTree Reporter.none 5).2.1.programStmts p).length ∧
        (0 < 5 → (parseFile (textFile "i = λx.x;\nk = ;\nw = i i;\n") freshTree Reporter.none 5).1.errors ≤ 5) :=
  -- the statement `k = ;` is a syntax error that the parser skips
  have hf : (parseFile (textFile "i = λx.x;\nk = ;\nw = i i;\n") freshTree Reporter.none 5).2.1.failure = none := by decide +kernel
  ⟨hf, parseFile_recovers (textFile "i = λx.x;\nk = ;\nw = i i;\n") freshTree Reporter.none 5 hf⟩

end Combinatory
