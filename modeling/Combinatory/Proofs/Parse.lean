import Combinatory.Proofs.Curry
import Combinatory.Tree.Parser

/-! What the parser builds. Every record is added at the end of its array (`Tree.Adds`), an
expression returned is the root of a linear shape of records added during its parse
(`expr_spec`), and over a file the statements lay out their expressions in disjoint shapes
(`parseFile_spec`). -/
namespace Combinatory

open Pass

namespace Tree

/-- `t'` is `t` with records added at the ends of its arrays of tokens, identifiers,
expressions and statements, with the same programs; a failure of `t` is kept, and no
constructor complained in between. -/
structure Adds (t t' : Tree) : Prop where
  tokens : ∃ ext, t'.tokens = t.tokens ++ ext
  idents : ∃ ext, t'.idents = t.idents ++ ext
  exprs : ∃ ext, t'.exprs = t.exprs ++ ext
  stmts : ∃ ext, t'.stmts = t.stmts ++ ext
  programs : t'.programs = t.programs
  sticky : t'.failure = none → t.failure = none
  crash : t'.crash = t.crash

namespace Adds

variable {t t₁ t₂ : Tree}

theorem refl (t : Tree) : Adds t t :=
  ⟨⟨#[],by simp⟩,⟨#[],by simp⟩,⟨#[],by simp⟩,⟨#[],by simp⟩,rfl,id,rfl⟩

theorem trans (h₁ : Adds t t₁) (h₂ : Adds t₁ t₂) : Adds t t₂ := by
  obtain ⟨⟨a,ha⟩,⟨b,hb⟩,⟨c,hc⟩,⟨d,hd⟩,hp,hs,hk⟩ := h₁
  obtain ⟨⟨a',ha'⟩,⟨b',hb'⟩,⟨c',hc'⟩,⟨d',hd'⟩,hp',hs',hk'⟩ := h₂
  exact ⟨⟨a ++ a',by simp [ha',ha]⟩,⟨b ++ b',by simp [hb',hb]⟩,⟨c ++ c',by simp [hc',hc]⟩,
    ⟨d ++ d',by simp [hd',hd]⟩,hp'.trans hp,fun h => hs (hs' h),hk'.trans hk⟩

theorem grows (h : Adds t t₁) : Grows t t₁ := ⟨h.tokens,h.idents,h.exprs⟩

theorem realizes (h : Adds t t₁) {sh : Shape} (hs : t.Realizes sh) : t₁.Realizes sh :=
  (hs.keep (h.grows.keeps sh)).1

theorem exprs_size (h : Adds t t₁) : t.exprs.size ≤ t₁.exprs.size := by
  obtain ⟨c,hc⟩ := h.exprs
  simp [hc]

theorem idents_size (h : Adds t t₁) : t.idents.size ≤ t₁.idents.size := by
  obtain ⟨c,hc⟩ := h.idents
  simp [hc]

theorem stmts_size (h : Adds t t₁) : t.stmts.size ≤ t₁.stmts.size := by
  obtain ⟨c,hc⟩ := h.stmts
  simp [hc]

/-- A statement record is kept. -/
theorem stmt (h : Adds t t₁) {j : Nat} (hj : j < t.stmts.size) : t₁.stmt j = t.stmt j := by
  obtain ⟨c,hc⟩ := h.stmts
  simp only [Tree.stmt,hc,getD_append_left _ hj]

theorem chainAt (h : Adds t t₁) {p : Nat} {ps : List Nat} (hc : t.ChainAt p ps) : t₁.ChainAt p ps :=
  (hc.keep (fun v hv hlt => (h.grows.keeps (.abs 0 ps (.ref 0 0))).next v (by simp [Shape.params,hv]) hlt)
    h.grows.named).1

/-- Records that only the arena and the failure changed. -/
theorem of_arena (t : Tree) (a : Arena) (f : Option ArenaError) (hf : f = none → t.failure = none) :
    Adds t { t with arena := a, failure := f } :=
  ⟨⟨#[],by simp⟩,⟨#[],by simp⟩,⟨#[],by simp⟩,⟨#[],by simp⟩,rfl,hf,rfl⟩

end Adds

section Ops

variable (t : Tree)

/-- Charging the arena changes the arena and the failure only, and succeeds exactly when the
tree is left without failure. -/
theorem charge_spec (n : Nat) : ∃ a f, (run (charge n) t).2 = { t with arena := a, failure := f } ∧
    ((run (charge n) t).1 = true ↔ f = none) ∧ (f = none → t.failure = none) := by
  by_cases hf : t.failure.isSome
  · have hf' : t.failure ≠ none := by simpa [Option.isSome_iff_ne_none] using hf
    refine ⟨t.arena,t.failure,by simp [charge,hf],by simp [charge,hf,hf'],fun h => absurd h hf'⟩
  · have hf' : t.failure = none := by simpa using hf
    cases ha : t.arena.alloc n.toUInt64 with
    | ok a => exact ⟨a.1,t.failure,by simp [charge,hf,ha],by simp [charge,ha,hf'],fun _ => hf'⟩
    | error e => exact ⟨t.arena,some e,by simp [charge,hf,ha],by simp [charge,hf,ha],
        fun h => by simp at h⟩

theorem chargeString_spec (s : String) :
    ∃ a f, (run (chargeString s) t).2 = { t with arena := a, failure := f } ∧
      (f = none → t.failure = none) := by
  by_cases hf : t.failure.isSome
  · refine ⟨t.arena,t.failure,by simp [chargeString,hf],fun h => ?_⟩
    simp [h] at hf
  · have hf' : t.failure = none := by simpa using hf
    cases ha : t.arena.strdup s.toByteArray with
    | ok a => exact ⟨a.1,t.failure,by simp [chargeString,hf,ha],fun _ => hf'⟩
    | error e => exact ⟨t.arena,some e,by simp [chargeString,hf,ha],fun h => by simp at h⟩

/-- Adding an expression record: it gets the next index, unless the tree fails. -/
theorem pushExpr_spec (e : Expr) :
    Adds t (run (pushExpr e) t).2 ∧
      (∀ i, (run (pushExpr e) t).1 = some i → (run (pushExpr e) t).2.failure = none) ∧
      ((run (pushExpr e) t).2.failure = none →
        (run (pushExpr e) t).1 = some t.exprs.size ∧ (run (pushExpr e) t).2.exprs = t.exprs.push e) := by
  obtain ⟨a,f,hrun,hok,hf⟩ := charge_spec t exprSize
  simp only [pushExpr,run_bind,hrun]
  cases hc : (run (charge exprSize) t).1
  · have hf' : f ≠ none := fun h => by simp [hok.2 h] at hc
    simp only [Bool.false_eq_true,if_false,run_pure]
    exact ⟨Adds.of_arena t a f hf,by simp,fun h => absurd h hf'⟩
  · have hf' : f = none := hok.1 hc
    simp only [if_true]
    refine ⟨⟨⟨#[],by simp⟩,⟨#[],by simp⟩,⟨#[e],by simp⟩,⟨#[],by simp⟩,rfl,fun _ => hf hf',rfl⟩,
      fun _ _ => hf',fun _ => ⟨rfl,rfl⟩⟩

/-! After an allocation failure a constructor gives nothing and changes nothing, whatever parts
it is given: the failure is looked at before the parts. -/

theorem newIdent_failed (hf : t.failure.isSome) (tok next : Option Nat) :
    run (newIdent tok next) t = (none, t) := by
  simp [newIdent,hf]

theorem newRef_failed (hf : t.failure.isSome) (v : Option Nat) : run (newRef v) t = (none, t) := by
  simp [newRef,hf]

theorem newApp_failed (hf : t.failure.isSome) (l r : Option Nat) : run (newApp l r) t = (none, t) := by
  simp [newApp,hf]

theorem newAbs_failed (hf : t.failure.isSome) (sp : Span) (p b : Option Nat) :
    run (newAbs sp p b) t = (none, t) := by
  simp [newAbs,hf]

theorem newStmt_failed (hf : t.failure.isSome) (v e : Option Nat) (span : Span) :
    run (newStmt v e span) t = (none, t) := by
  simp [newStmt,hf]

theorem newRef_eq (v : Nat) : run (newRef (some v)) t = run (pushExpr (.ref v (t.ident v).span)) t := by
  by_cases hf : t.failure.isSome
  · simp [newRef,pushExpr,charge,hf]
  · simp [newRef,hf]

theorem newApp_eq (l r : Nat) :
    run (newApp (some l) (some r)) t =
      run (pushExpr (.app l r ((t.exprSpan l).cover (t.exprSpan r)))) t := by
  by_cases hf : t.failure.isSome
  · simp [newApp,pushExpr,charge,hf]
  · simp [newApp,hf]

theorem newAbs_eq (sp : Span) (p b : Nat) :
    run (newAbs sp (some p) (some b)) t = run (pushExpr (.abs p b { sp with file := t.file })) t := by
  by_cases hf : t.failure.isSome
  · simp [newAbs,pushExpr,charge,hf]
  · simp [newAbs,hf]

@[simp] theorem refuse_run (msg : String) : run (refuse msg) t = (none, t.crashWith msg) := rfl

/-- An application, whatever its parts, keeps a failure of the tree: it adds a record or
complains of a missing operand. -/
theorem newApp_sticky (l r : Option Nat) (hf : (run (newApp l r) t).2.failure = none) :
    t.failure = none := by
  cases hs : t.failure.isSome
  · simpa using hs
  · rw [newApp_failed t hs] at hf
    exact hf

/-- Adding a token record: it gets the next index, unless the tree fails. -/
theorem newToken_spec (lexeme : String) (row col endCol : Nat) (span : Span) :
    Adds t (run (newToken lexeme row col endCol span) t).2 ∧
      (run (newToken lexeme row col endCol span) t).2.idents = t.idents ∧
      (run (newToken lexeme row col endCol span) t).2.exprs = t.exprs ∧
      ((run (newToken lexeme row col endCol span) t).2.failure = none →
        ∃ k, (run (newToken lexeme row col endCol span) t).1 = some k) ∧
      ∀ k, (run (newToken lexeme row col endCol span) t).1 = some k →
        (run (newToken lexeme row col endCol span) t).2.failure = none ∧
        k < (run (newToken lexeme row col endCol span) t).2.tokens.size := by
  obtain ⟨a,f,hrun,hf⟩ := chargeString_spec t lexeme
  obtain ⟨a',f',hrun',hok',hf'⟩ := charge_spec { t with arena := a, failure := f } tokenSize
  cases hc : (run (charge tokenSize) { t with arena := a, failure := f }).1
  · have h : run (newToken lexeme row col endCol span) t = (none, { t with arena := a', failure := f' }) := by
      simp only [newToken,run_bind,hrun,hrun',hc]; rfl
    rw [h]
    exact ⟨Adds.of_arena t a' f' fun h => hf (hf' h),rfl,rfl,fun h => absurd (hok'.2 h) (by simp [hc]),
      by simp⟩
  · have h' : f' = none := hok'.1 hc
    have h : run (newToken lexeme row col endCol span) t = (some t.tokens.size, { t with
        arena := a', failure := f',
        tokens := t.tokens.push ⟨lexeme, row, col, endCol, { span with file := t.file }⟩ }) := by
      simp only [newToken,run_bind,hrun,hrun',hc]; rfl
    rw [h]
    refine ⟨⟨⟨_,Array.push_eq_append⟩,⟨#[],by simp⟩,⟨#[],by simp⟩,⟨#[],by simp⟩,rfl,fun _ => hf (hf' h'),rfl⟩,
      rfl,rfl,fun _ => ⟨_,rfl⟩,fun k hk => ⟨h',?_⟩⟩
    simp only [Option.some.injEq] at hk
    simp [← hk]

/-- Adding an identifier record in front of chain `next`. -/
theorem newIdent_spec (tok : Nat) (next : Option Nat) :
    Adds t (run (newIdent (some tok) next) t).2 ∧
      (run (newIdent (some tok) next) t).2.tokens = t.tokens ∧
      (run (newIdent (some tok) next) t).2.exprs = t.exprs ∧
      (∀ v, (run (newIdent (some tok) next) t).1 = some v → (run (newIdent (some tok) next) t).2.failure = none) ∧
      ((run (newIdent (some tok) next) t).2.failure = none →
        (run (newIdent (some tok) next) t).1 = some t.idents.size ∧
        ∃ sp, (run (newIdent (some tok) next) t).2.idents = t.idents.push ⟨tok, next, sp⟩) := by
  by_cases hf : t.failure.isSome
  · have hf' : t.failure ≠ none := by simpa [Option.isSome_iff_ne_none] using hf
    have hrun : run (newIdent (some tok) next) t = (none, t) := by simp [newIdent,hf]
    rw [hrun]
    exact ⟨Adds.refl t,rfl,rfl,by simp,fun h => absurd h hf'⟩
  · obtain ⟨a,f,hrun,hok,hf'⟩ := charge_spec t identSize
    cases hc : (run (charge identSize) t).1
    · have h : run (newIdent (some tok) next) t = (none, { t with arena := a, failure := f }) := by
        simp only [newIdent,run_bind,run_get,hf,Bool.false_eq_true,if_false,hrun,hc]; rfl
      rw [h]
      exact ⟨Adds.of_arena t a f hf',rfl,rfl,by simp,fun h => absurd (hok.2 h) (by simp [hc])⟩
    · have h' : f = none := hok.1 hc
      obtain ⟨sp,h⟩ : ∃ sp, run (newIdent (some tok) next) t = (some t.idents.size, { t with
          arena := a, failure := f, idents := t.idents.push ⟨tok, next, sp⟩ }) :=
        ⟨_,by simp only [newIdent,run_bind,run_get,hf,Bool.false_eq_true,if_false,hrun,hc]; rfl⟩
      rw [h]
      exact ⟨⟨⟨#[],by simp⟩,⟨_,Array.push_eq_append⟩,⟨#[],by simp⟩,⟨#[],by simp⟩,rfl,fun _ => hf' h',rfl⟩,
        rfl,rfl,fun _ _ => h',fun _ => ⟨rfl,sp,rfl⟩⟩

/-- A token record that is added: the tree holds exactly one more token. -/
theorem newToken_ok (lexeme : String) (row col endCol : Nat) (span : Span)
    (hf : (run (newToken lexeme row col endCol span) t).2.failure = none) :
    ∃ a, run (newToken lexeme row col endCol span) t = (some t.tokens.size, { t with
      arena := a, failure := none,
      tokens := t.tokens.push ⟨lexeme, row, col, endCol, { span with file := t.file }⟩ }) := by
  obtain ⟨a,f,hrun,-⟩ := chargeString_spec t lexeme
  obtain ⟨a',f',hrun',hok',-⟩ := charge_spec { t with arena := a, failure := f } tokenSize
  cases hc : (run (charge tokenSize) { t with arena := a, failure := f }).1
  · have h : run (newToken lexeme row col endCol span) t = (none, { t with arena := a', failure := f' }) := by
      simp only [newToken,run_bind,hrun,hrun',hc]; rfl
    rw [h] at hf
    exact absurd (hok'.2 hf) (by simp [hc])
  · have h : run (newToken lexeme row col endCol span) t = (some t.tokens.size, { t with
        arena := a', failure := f',
        tokens := t.tokens.push ⟨lexeme, row, col, endCol, { span with file := t.file }⟩ }) := by
      simp only [newToken,run_bind,hrun,hrun',hc]; rfl
    exact ⟨a',by rw [h,hok'.1 hc]⟩

/-- An identifier record that is added: the tree holds exactly one more identifier, which spans
its token when it starts no chain. -/
theorem newIdent_ok (tok : Nat) (next : Option Nat)
    (hf : (run (newIdent (some tok) next) t).2.failure = none) :
    ∃ a sp, run (newIdent (some tok) next) t = (some t.idents.size, { t with
      arena := a, failure := none, idents := t.idents.push ⟨tok, next, sp⟩ }) ∧
      (next = none → sp = (t.token tok).span) := by
  have hf₀ : t.failure = none := (newIdent_spec t tok next).1.sticky hf
  obtain ⟨a,f,hrun,hok,-⟩ := charge_spec t identSize
  have hs : t.failure.isSome = false := by simp [hf₀]
  cases hc : (run (charge identSize) t).1
  · have h : run (newIdent (some tok) next) t = (none, { t with arena := a, failure := f }) := by
      simp only [newIdent,run_bind,run_get,hs,Bool.false_eq_true,if_false,hrun,hc]; rfl
    rw [h] at hf
    exact absurd (hok.2 hf) (by simp [hc])
  · have hf' := hok.1 hc
    cases next with
    | none =>
      refine ⟨a,(t.token tok).span,?_,fun _ => rfl⟩
      simp only [newIdent,run_bind,run_get,hs,Bool.false_eq_true,hrun,hc,hf',↓reduceIte]
      rfl
    | some n =>
      refine ⟨a,(t.token tok).span.cover (t.ident n).span,?_,by simp⟩
      simp only [newIdent,run_bind,run_get,hs,Bool.false_eq_true,hrun,hc,hf',↓reduceIte]
      rfl

/-- Adding a statement record, not linked and not compiled. -/
theorem newStmt_spec (v e : Nat) (span : Span) :
    Adds t (run (newStmt (some v) (some e) span) t).2 ∧
      ((run (newStmt (some v) (some e) span) t).2.failure = none →
        (run (newStmt (some v) (some e) span) t).1 = some t.stmts.size ∧
        ∃ sp, (run (newStmt (some v) (some e) span) t).2.stmts = t.stmts.push ⟨v, e, none, sp, none⟩) := by
  by_cases hf : t.failure.isSome
  · have hf' : t.failure ≠ none := by simpa [Option.isSome_iff_ne_none] using hf
    have hrun : run (newStmt (some v) (some e) span) t = (none, t) := by simp [newStmt,hf]
    rw [hrun]
    exact ⟨Adds.refl t,fun h => absurd h hf'⟩
  · obtain ⟨a,f,hrun,hok,hf'⟩ := charge_spec t stmtSize
    cases hc : (run (charge stmtSize) t).1
    · have h : run (newStmt (some v) (some e) span) t = (none, { t with arena := a, failure := f }) := by
        simp only [newStmt,run_bind,run_get,hf,Bool.false_eq_true,if_false,hrun,hc]; rfl
      rw [h]
      exact ⟨Adds.of_arena t a f hf',fun h => absurd (hok.2 h) (by simp [hc])⟩
    · have h' : f = none := hok.1 hc
      have h : run (newStmt (some v) (some e) span) t = (some t.stmts.size, { t with
          arena := a, failure := f,
          stmts := t.stmts.push ⟨v, e, none, { span with file := t.file }, none⟩ }) := by
        simp only [newStmt,run_bind,run_get,hf,Bool.false_eq_true,if_false,hrun,hc]; rfl
      rw [h]
      exact ⟨⟨⟨#[],by simp⟩,⟨#[],by simp⟩,⟨#[],by simp⟩,⟨_,Array.push_eq_append⟩,rfl,fun _ => hf' h',rfl⟩,
        fun _ => ⟨rfl,_,rfl⟩⟩

theorem stmt_modify (a : Nat) (f : Stmt → Stmt) (j : Nat) :
    ({ t with stmts := t.stmts.modify a f } : Tree).stmt j =
      if a = j ∧ a < t.stmts.size then f (t.stmt j) else t.stmt j := by
  by_cases h : a = j ∧ a < t.stmts.size
  · obtain ⟨rfl,ha⟩ := h
    simp [Tree.stmt,Array.getElem_modify,ha]
  · rw [if_neg h]
    by_cases haj : a = j
    · subst haj
      have ha : t.stmts.size ≤ a := Nat.le_of_not_lt fun h' => h ⟨rfl,h'⟩
      simp [Tree.stmt,Array.getElem?_modify,Array.getElem?_eq_none ha]
    · simp [Tree.stmt,Array.getElem?_modify,haj]

/-- Linking changes the links of statement records only. -/
theorem link_eq : ∀ (ss : List Nat) (t : Tree),
    ∃ st : Array Stmt, t.link ss = { t with stmts := st } ∧ st.size = t.stmts.size ∧
      ∀ j, ∃ n, st[j]?.getD default = { t.stmt j with next := n }
  | a :: b :: rest, t => by
    obtain ⟨st,h,hs,hj⟩ := link_eq (b :: rest) { t with stmts := t.stmts.modify a fun s => { s with next := some b } }
    refine ⟨st,by rw [link,h],by rw [hs]; simp,fun j => ?_⟩
    obtain ⟨n,hn⟩ := hj j
    refine ⟨n,?_⟩
    rw [hn,stmt_modify]
    split <;> rfl
  | [], t => ⟨t.stmts,rfl,rfl,fun j => ⟨(t.stmt j).next,rfl⟩⟩
  | [_], t => ⟨t.stmts,rfl,rfl,fun j => ⟨(t.stmt j).next,rfl⟩⟩

theorem link_stmt_of_not_mem : ∀ {ss : List Nat} (t : Tree) {j : Nat}, j ∉ ss → (t.link ss).stmt j = t.stmt j
  | a :: b :: rest, t, j, hj => by
    rw [link,link_stmt_of_not_mem _ fun h => hj (List.mem_cons_of_mem _ h),stmt_modify,
      if_neg fun (h : a = j ∧ _) => hj (h.1 ▸ List.mem_cons_self)]
  | [], _, _, _ => rfl
  | [_], _, _, _ => rfl

/-- A program of distinct unlinked statements reads them back in order. -/
theorem go_link : ∀ (ss : List Nat) (t : Tree), ss.Nodup →
    (∀ j ∈ ss, j < t.stmts.size ∧ (t.stmt j).next = none) →
    ∀ fuel, ss.length ≤ fuel → programStmts.go (t.link ss) fuel ss.head? = ss
  | [], _, _, _, fuel, _ => by cases fuel <;> rfl
  | [a], t, _, h, fuel + 1, _ => by
    simp [link,programStmts.go,(h a (by simp)).2]
    cases fuel <;> rfl
  | a :: b :: rest, t, hnd, h, fuel + 1, hlen => by
    have ha : a ∉ b :: rest := (List.nodup_cons.1 hnd).1
    have hstmt : ∀ j, ({ t with stmts := t.stmts.modify a fun s => { s with next := some b } } : Tree).stmt j =
        if a = j then { t.stmt j with next := some b } else t.stmt j := by
      intro j
      by_cases haj : a = j
      · subst haj
        simp [stmt_modify,(h a (by simp)).1]
      · simp [stmt_modify,haj]
    have ih := go_link (b :: rest) { t with stmts := t.stmts.modify a fun s => { s with next := some b } }
      (List.nodup_cons.1 hnd).2 (fun j hj => ⟨by simpa using (h j (List.mem_cons_of_mem _ hj)).1,by
        rw [hstmt,if_neg fun (e : a = j) => ha (e ▸ hj)]; exact (h j (List.mem_cons_of_mem _ hj)).2⟩)
      fuel (by simp at hlen ⊢; omega)
    simp only [link,List.head?_cons,programStmts.go]
    rw [link_stmt_of_not_mem _ ha,hstmt,if_pos rfl]
    simpa using ih

/-- Adding the program record after linking its statements: it gets the next index, unless
the tree fails. -/
theorem newProgram_spec (filename : String) (ss : List Nat) {p : Nat}
    (hp : (run (newProgram filename ss) t).1 = some p) :
    (run (newProgram filename ss) t).2.failure = none ∧ p = t.programs.size ∧
      (run (newProgram filename ss) t).2.programs = t.programs.push ⟨ss.head?, filename⟩ ∧
      (run (newProgram filename ss) t).2.stmts = (t.link ss).stmts ∧
      (run (newProgram filename ss) t).2.tokens = t.tokens ∧
      (run (newProgram filename ss) t).2.idents = t.idents ∧
      (run (newProgram filename ss) t).2.exprs = t.exprs := by
  obtain ⟨st,hl,-,-⟩ := link_eq ss t
  by_cases hf : t.failure.isSome
  · have hrun : run (newProgram filename ss) t = (none, t) := by simp [newProgram,hf]
    rw [hrun] at hp
    cases hp
  · obtain ⟨a,f,hrun,-⟩ := chargeString_spec (t.link ss) filename
    obtain ⟨a',f',hrun',hok',-⟩ := charge_spec { t.link ss with arena := a, failure := f } programSize
    cases hc : (run (charge programSize) { t.link ss with arena := a, failure := f }).1
    · have h : run (newProgram filename ss) t =
          (none, { t.link ss with arena := a', failure := f' }) := by
        simp only [newProgram,run_bind,run_get,hf,Bool.false_eq_true,if_false,run_set,hrun,hrun',hc]; rfl
      rw [h] at hp
      cases hp
    · have h : run (newProgram filename ss) t = (some t.programs.size, { t.link ss with
          arena := a', failure := f', programs := t.programs.push ⟨ss.head?, filename⟩ }) := by
        simp only [newProgram,run_bind,run_get,hf,Bool.false_eq_true,if_false,run_set,hrun,hrun',hc]
        simp [hl]
      rw [h] at hp ⊢
      cases hp
      simp [hl,hok'.1 hc]

/-- Adding a program never complains: linking and charging leave the complaint alone. -/
theorem newProgram_crash (filename : String) (ss : List Nat) :
    (run (newProgram filename ss) t).2.crash = t.crash := by
  obtain ⟨st,hl,-,-⟩ := link_eq ss t
  have hlink : (t.link ss).crash = t.crash := by rw [hl]
  by_cases hf : t.failure.isSome
  · simp [newProgram,hf]
  · obtain ⟨a,f,hrun,-⟩ := chargeString_spec (t.link ss) filename
    obtain ⟨a',f',hrun',-,-⟩ := charge_spec { t.link ss with arena := a, failure := f } programSize
    cases hc : (run (charge programSize) { t.link ss with arena := a, failure := f }).1 <;>
      simp only [newProgram,run_bind,run_get,hf,Bool.false_eq_true,↓reduceIte,run_set,hrun,
        hrun',hc] <;> exact hlink

end Ops

end Tree

namespace Parser

open Combinatory.Tree

section Steps

variable (s : ParseState)

/-! The parser's reading steps leave the tree as it is. -/

@[simp] theorem lexUpTo_tree (i : Nat) : (run (lexUpTo i) s).2.tree = s.tree := by
  by_cases h : s.lexed ≤ i <;> simp [lexUpTo,h]

@[simp] theorem peek_tree : (run peek s).2.tree = s.tree := by
  simp [peek]

@[simp] theorem isAt_tree (k : TokenKind) : (run (isAt k) s).2.tree = s.tree := by
  simp [isAt]

@[simp] theorem advance_tree : (run advance s).2.tree = s.tree := by
  simp [advance]

@[simp] theorem diagnosticSpan_tree : (run diagnosticSpan s).2.tree = s.tree := by
  by_cases h : (run peek s).1.kind = .eof ∧ (run peek s).2.lastSpan.stop > 0 <;>
    simp [diagnosticSpan,h]

@[simp] theorem report_tree (d : Diagnostic) : (run (report d) s).2.tree = s.tree := by
  simp only [report,run_modify]
  split <;> rfl

@[simp] theorem fail_tree (code : Nat) (msg : String) (notes : List Note) :
    (run (fail code msg notes) s).2.tree = s.tree := by
  by_cases h : (run peek s).1.kind = .invalid <;> simp [fail,h]

@[simp] theorem expect_tree (k : TokenKind) (code : Nat) (msg : String) :
    (run (expect k code msg) s).2.tree = s.tree := by
  by_cases h : (run (isAt k) s).1 = true <;> simp [expect,h]

@[simp] theorem atOperand_tree : (run atOperand s).2.tree = s.tree := by
  simp [atOperand]

@[simp] theorem resync_tree : ∀ (fuel : Nat) (s : ParseState), (run (resync fuel) s).2.tree = s.tree
  | 0, _ => rfl
  | fuel + 1, s => by
    by_cases he : (run peek s).1.kind = .eof
    · simp [resync,he]
    · by_cases hs : (run peek s).1.kind = .semicolon
      · simp [resync,hs]
      · simp [resync,he,hs,resync_tree fuel]

@[simp] theorem params_tree : ∀ (fuel : Nat) (acc : List Token) (s : ParseState),
    (run (params fuel acc) s).2.tree = s.tree
  | 0, _, _ => rfl
  | fuel + 1, acc, s => by
    cases h : (run (expect .ident DiagCode.expectIdentifier "expected parameter name") s).1 with
    | none => simp [params,h]
    | some tok =>
      generalize hs₁ : (run (expect .ident DiagCode.expectIdentifier "expected parameter name") s).2
        = s₁
      have h₁ : s₁.tree = s.tree := by rw [← hs₁,expect_tree]
      by_cases hc : (run (isAt .comma) s₁).1 = true
      · simp [params,h,hs₁,hc,params_tree fuel,h₁]
      · by_cases hi : (run (isAt .ident) (run (isAt .comma) s₁).2).1 = true
        · simp [params,h,hs₁,hc,hi,params_tree fuel,h₁]
        · simp [params,h,hs₁,hc,hi,h₁]

theorem onTree_run {α : Type} (f : StateM Tree α) :
    run (onTree f) s = ((run f s.tree).1, { s with tree := (run f s.tree).2 }) := rfl

/-- An identifier record for a token, in front of chain `next`: it is the next identifier, named
by a token of the tree, unless the tree fails. -/
theorem newIdentOf_spec (tok : Token) (next : Option Nat) :
    Adds s.tree (run (newIdentOf tok next) s).2.tree ∧
      (run (newIdentOf tok next) s).2.tree.exprs = s.tree.exprs ∧
      ((run (newIdentOf tok next) s).2.tree.failure = none →
        (run (newIdentOf tok next) s).1 = some s.tree.idents.size ∧
        (run (newIdentOf tok next) s).2.tree.Named s.tree.idents.size ∧
        ((run (newIdentOf tok next) s).2.tree.ident s.tree.idents.size).next = next ∧
        (run (newIdentOf tok next) s).2.tree.idents.size = s.tree.idents.size + 1) := by
  obtain ⟨ha₁,hid₁,hex₁,hsome₁,hk₁⟩ := Tree.newToken_spec s.tree tok.textString
    (s.file.lineCol tok.span.start).line (s.file.lineCol tok.span.start).col
    (s.file.lineCol tok.span.stop).col tok.span
  generalize hr : run (Tree.newToken tok.textString (s.file.lineCol tok.span.start).line
    (s.file.lineCol tok.span.start).col (s.file.lineCol tok.span.stop).col tok.span) s.tree = r
    at ha₁ hid₁ hex₁ hsome₁ hk₁
  obtain ⟨k?,t₁⟩ := r
  dsimp only at ha₁ hid₁ hex₁ hsome₁ hk₁
  have hrun₁ : run (newToken tok) s = (k?, { s with tree := t₁ }) := by
    simp [newToken,onTree_run,hr]
  by_cases hf : t₁.failure.isSome
  · have hf' : t₁.failure ≠ none := by simpa [Option.isSome_iff_ne_none] using hf
    have hrun : run (newIdentOf tok next) s = (none, { s with tree := t₁ }) := by
      simp [newIdentOf,hrun₁,onTree_run,newIdent_failed t₁ hf]
    rw [hrun]
    exact ⟨ha₁,hex₁,fun h => absurd h hf'⟩
  · obtain ⟨k,rfl⟩ := hsome₁ (by simpa using hf)
    obtain ⟨ha₂,htok₂,hex₂,-,hs₂⟩ := Tree.newIdent_spec t₁ k next
    have hrun : run (newIdentOf tok next) s = ((run (Tree.newIdent (some k) next) t₁).1,
        { s with tree := (run (Tree.newIdent (some k) next) t₁).2 }) := by
      simp [newIdentOf,hrun₁,onTree_run]
    rw [hrun]
    refine ⟨ha₁.trans ha₂,hex₂.trans hex₁,fun h => ?_⟩
    obtain ⟨hr₂,sp,hid₂⟩ := hs₂ h
    have hk := (hk₁ k rfl).2
    rw [hid₁] at hr₂
    refine ⟨hr₂,⟨by simp [hid₂,hid₁],?_⟩,?_,by simp [hid₂,hid₁]⟩
    · simp [Tree.ident,hid₂,hid₁,htok₂,hk]
    · simp [Tree.ident,hid₂,hid₁]

/-- An identifier is missing only after an allocation failure. -/
theorem newIdentOf_failed (tok : Token) (next : Option Nat) (h : (run (newIdentOf tok next) s).1 = none) :
    (run (newIdentOf tok next) s).2.tree.failure.isSome := by
  cases hf : (run (newIdentOf tok next) s).2.tree.failure with
  | none => simp [((newIdentOf_spec s tok next).2.2 hf).1] at h
  | some _ => rfl

/-- The identifier added for a token is named by its text and, when it starts no chain, spans
the token, placed in the tree's file. -/
theorem newIdentOf_record (tok : Token) (next : Option Nat)
    (hf : (run (newIdentOf tok next) s).2.tree.failure = none) :
    (run (newIdentOf tok next) s).2.tree.file = s.tree.file ∧
      (run (newIdentOf tok next) s).2.tree.name s.tree.idents.size = tok.textString ∧
      (next = none → ((run (newIdentOf tok next) s).2.tree.ident s.tree.idents.size).span =
        { tok.span with file := s.tree.file }) := by
  generalize hr : run (Tree.newToken tok.textString (s.file.lineCol tok.span.start).line
    (s.file.lineCol tok.span.start).col (s.file.lineCol tok.span.stop).col tok.span) s.tree = r
  obtain ⟨k?,t₁⟩ := r
  have hrun₁ : run (newToken tok) s = (k?, { s with tree := t₁ }) := by
    simp [newToken,onTree_run,hr]
  by_cases hf₁ : t₁.failure.isSome
  · have hrun : run (newIdentOf tok next) s = (none, { s with tree := t₁ }) := by
      simp [newIdentOf,hrun₁,onTree_run,newIdent_failed t₁ hf₁]
    rw [hrun] at hf
    simp only at hf
    simp [hf] at hf₁
  · obtain ⟨a₁,h₁⟩ := Tree.newToken_ok s.tree tok.textString (s.file.lineCol tok.span.start).line
      (s.file.lineCol tok.span.start).col (s.file.lineCol tok.span.stop).col tok.span
      (by simpa [hr] using hf₁)
    rw [hr,Prod.mk.injEq] at h₁
    obtain ⟨rfl,ht₁⟩ := h₁
    have hrun : run (newIdentOf tok next) s =
        ((run (Tree.newIdent (some s.tree.tokens.size) next) t₁).1,
          { s with tree := (run (Tree.newIdent (some s.tree.tokens.size) next) t₁).2 }) := by
      simp [newIdentOf,hrun₁,onTree_run]
    rw [hrun] at hf ⊢
    obtain ⟨a₂,sp,h₂,hsp⟩ := Tree.newIdent_ok _ s.tree.tokens.size next hf
    rw [h₂]
    subst ht₁
    refine ⟨rfl,by simp [Tree.name,Tree.ident,Tree.token],fun hn => ?_⟩
    simp [Tree.ident,hsp hn,Tree.token]

/-- `next` heads the chain `qs`, or is none and `qs` is empty. -/
def ChainOpt (t : Tree) : Option Nat → List Nat → Prop
  | none, qs => qs = []
  | some q, qs => t.ChainAt q qs

/-- Building a chain in front of `next`: the new identifiers come first, the last token's
outermost, each named by its token. -/
theorem chainOf_spec : ∀ (toks : List Token) (next : Option Nat) (qs : List Nat) (s : ParseState),
    (s.tree.failure = none → ChainOpt s.tree next qs) →
    Adds s.tree (run (chainOf toks next) s).2.tree ∧
      (run (chainOf toks next) s).2.tree.exprs = s.tree.exprs ∧
      ((run (chainOf toks next) s).2.tree.failure = none →
        ∃ vs, ChainOpt (run (chainOf toks next) s).2.tree (run (chainOf toks next) s).1 (vs ++ qs) ∧
          vs.Nodup ∧ (∀ v ∈ vs, s.tree.idents.size ≤ v) ∧
          vs.map (run (chainOf toks next) s).2.tree.name = toks.reverse.map Token.textString)
  | [], next, qs, s, h => ⟨Adds.refl _,rfl,fun hf => ⟨[],h hf,List.nodup_nil,by simp,rfl⟩⟩
  | tok :: rest, next, qs, s, h => by
    obtain ⟨ha₁,hex₁,hs₁⟩ := newIdentOf_spec s tok next
    generalize hr : run (newIdentOf tok next) s = r at ha₁ hex₁ hs₁
    obtain ⟨v?,s₁⟩ := r
    dsimp only at ha₁ hex₁ hs₁
    have hrun : run (chainOf (tok :: rest) next) s = run (chainOf rest v?) s₁ := by
      simp [chainOf,hr]
    rw [hrun]
    -- the new identifier heads the old chain
    have hpre : s₁.tree.failure = none → ChainOpt s₁.tree v? (s.tree.idents.size :: qs) := by
      intro hf
      obtain ⟨rfl,hn,hnext,-⟩ := hs₁ hf
      cases next with
      | none =>
        have hq : qs = [] := h (ha₁.sticky hf)
        subst hq
        exact .last hn hnext
      | some q => exact .cons hn hnext (ha₁.chainAt (h (ha₁.sticky hf)))
    obtain ⟨ha₂,hex₂,hs₂⟩ := chainOf_spec rest v? _ s₁ hpre
    refine ⟨ha₁.trans ha₂,hex₂.trans hex₁,fun hf => ?_⟩
    obtain ⟨vs,hc,hnd,hge,hnames⟩ := hs₂ hf
    obtain ⟨-,hn,-,hsize⟩ := hs₁ (ha₂.sticky hf)
    -- the new identifier keeps its token's name in the trees that follow
    have hname : (run (chainOf rest v?) s₁).2.tree.name s.tree.idents.size = tok.textString := by
      rw [(ha₂.grows.named _ hn).2,← (newIdentOf_record s tok next (by rw [hr]; exact ha₂.sticky hf)).2.1,hr]
    refine ⟨vs ++ [s.tree.idents.size],by simpa using hc,?_,?_,by simp [hnames,hname]⟩
    · rw [List.nodup_append]
      refine ⟨hnd,by simp,fun a ha b hb hab => ?_⟩
      have := hge a ha
      simp only [List.mem_singleton] at hb
      omega
    · intro v hv
      rcases List.mem_append.1 hv with hv | hv
      · have := hge v hv
        omega
      · simp only [List.mem_singleton] at hv
        omega

/-- Adding an expression record from the parser. -/
theorem onTree_pushExpr (e : Expr) :
    Adds s.tree (run (onTree (pushExpr e)) s).2.tree ∧
      ((run (onTree (pushExpr e)) s).2.tree.failure = none →
        (run (onTree (pushExpr e)) s).1 = some s.tree.exprs.size ∧
        (run (onTree (pushExpr e)) s).2.tree.exprs = s.tree.exprs.push e) := by
  obtain ⟨ha,-,hs⟩ := pushExpr_spec s.tree e
  exact ⟨ha,hs⟩

end Steps

section Shapes

variable {t t₁ t₂ t₃ : Tree}

/-- Shape `sh` is linear and laid out in records of `t'` added since `t`. -/
structure Fresh (t t' : Tree) (sh : Shape) : Prop where
  realizes : t'.Realizes sh
  linear : sh.Linear
  exprs : ∀ i ∈ sh.exprs, t.exprs.size ≤ i
  params : ∀ v ∈ sh.params, t.idents.size ≤ v

theorem Fresh.grow {sh : Shape} (h : Fresh t t₁ sh) (ha : Adds t₁ t₂) : Fresh t t₂ sh :=
  { h with realizes := ha.realizes h.realizes }

theorem Fresh.since {sh : Shape} (h : Fresh t₁ t₂ sh) (ha : Adds t t₁) : Fresh t t₂ sh :=
  { h with
    exprs := fun i hi => Nat.le_trans ha.exprs_size (h.exprs i hi)
    params := fun v hv => Nat.le_trans ha.idents_size (h.params v hv) }

theorem expr_push {e : Expr} (hex : t₁.exprs = t.exprs.push e) :
    t.exprs.size < t₁.exprs.size ∧ t₁.expr t.exprs.size = e := by
  simp [hex,Tree.expr]

/-- A reference added after its identifier. -/
theorem Fresh.ref {v : Nat} {sp : Span} (ha : Adds t t₁) (hv : t₁.Named v) (ha₂ : Adds t₁ t₂)
    (hex : t₂.exprs = t₁.exprs.push (.ref v sp)) : Fresh t t₂ (.ref t₁.exprs.size v) := by
  obtain ⟨hlt,he⟩ := expr_push hex
  refine ⟨.ref hlt he (ha₂.grows.named v hv).1,⟨by simp [Shape.exprs],by simp [Shape.params]⟩,?_,
    by simp [Shape.params]⟩
  simpa [Shape.exprs] using ha.exprs_size

/-- An application added after its operator and its operand, in that order. -/
theorem Fresh.app {l r : Shape} {sp : Span} (ha₁ : Adds t t₁) (hl : Fresh t t₁ l)
    (ha₂ : Adds t₁ t₂) (hr : Fresh t₁ t₂ r) (ha₃ : Adds t₂ t₃)
    (hex : t₃.exprs = t₂.exprs.push (.app l.root r.root sp)) :
    Fresh t t₃ (.app t₂.exprs.size l r) := by
  obtain ⟨hlt,he⟩ := expr_push hex
  have hl₁ := hl.realizes.exprs_lt
  have hr₂ := hr.realizes.exprs_lt
  have hlp := hl.realizes.params_named
  have h₁ := ha₁.exprs_size
  have h₂ := ha₂.exprs_size
  refine ⟨.app hlt he ((hl.grow (ha₂.trans ha₃)).realizes) (hr.grow ha₃).realizes,⟨?_,?_⟩,?_,?_⟩
  · rw [Shape.exprs,List.nodup_cons,List.mem_append,List.nodup_append]
    refine ⟨fun h => h.elim (fun h => ?_) (fun h => ?_),hl.linear.1,hr.linear.1,fun a ha b hb hab => ?_⟩
    · have := hl₁ _ h
      omega
    · have := hr₂ _ h
      omega
    · have := hl₁ a ha
      have := hr.exprs b hb
      omega
  · rw [Shape.params,List.nodup_append]
    refine ⟨hl.linear.2,hr.linear.2,fun a ha b hb hab => ?_⟩
    have := (hlp a ha).1
    have := hr.params b hb
    omega
  · intro i hi
    simp only [Shape.exprs,List.mem_cons,List.mem_append] at hi
    rcases hi with rfl | hi | hi
    · omega
    · exact hl.exprs i hi
    · have := hr.exprs i hi
      omega
  · intro v hv
    simp only [Shape.params,List.mem_append] at hv
    rcases hv with hv | hv
    · exact hl.params v hv
    · exact Nat.le_trans ha₁.idents_size (hr.params v hv)

/-- An abstraction added after its body and then its parameter chain. -/
theorem Fresh.abs {b : Shape} {c : Nat} {vs : List Nat} {sp : Span} (ha₁ : Adds t t₁)
    (hb : Fresh t t₁ b) (ha₂ : Adds t₁ t₂) (hc : t₂.ChainAt c vs) (hnd : vs.Nodup)
    (hge : ∀ v ∈ vs, t₁.idents.size ≤ v) (ha₃ : Adds t₂ t₃)
    (hex : t₃.exprs = t₂.exprs.push (.abs c b.root sp)) :
    Fresh t t₃ (.abs t₂.exprs.size vs b) := by
  obtain ⟨hlt,he⟩ := expr_push hex
  have hb₁ := hb.realizes.exprs_lt
  have hbp := hb.realizes.params_named
  have h₁ := ha₁.exprs_size
  have h₂ := ha₂.exprs_size
  refine ⟨.abs hlt he (ha₃.chainAt hc) (hb.grow (ha₂.trans ha₃)).realizes,⟨?_,?_⟩,?_,?_⟩
  · rw [Shape.exprs,List.nodup_cons]
    refine ⟨fun h => ?_,hb.linear.1⟩
    have := hb₁ _ h
    omega
  · rw [Shape.params,List.nodup_append]
    refine ⟨hnd,hb.linear.2,fun a ha v hv hav => ?_⟩
    have := hge a ha
    have := (hbp v hv).1
    omega
  · intro i hi
    simp only [Shape.exprs,List.mem_cons] at hi
    rcases hi with rfl | hi
    · omega
    · exact hb.exprs i hi
  · intro v hv
    simp only [Shape.params,List.mem_append] at hv
    rcases hv with hv | hv
    · exact Nat.le_trans ha₁.idents_size (hge v hv)
    · exact hb.params v hv

end Shapes

/-- What parsing an expression from tree `t` leaves: records only added and, unless the tree
failed, a result that roots a linear shape of records added since `t`. -/
structure Parsed (t t' : Tree) (r : Option Nat) : Prop where
  adds : Adds t t'
  shape : t'.failure = none → ∀ i, r = some i → ∃ sh, Fresh t t' sh ∧ sh.root = i

theorem Parsed.nothing {t t' : Tree} (h : Adds t t') : Parsed t t' none := ⟨h,fun _ _ h => nomatch h⟩

theorem Parsed.nothing_of_eq {t t' : Tree} (h : t' = t) : Parsed t t' none :=
  Parsed.nothing (h ▸ Adds.refl t)

/-- An expression parser: what it leaves from every state is `Parsed`. -/
def Parses (x : ParseM (Option Nat)) : Prop := ∀ s, Parsed s.tree (run x s).2.tree (run x s).1

theorem operand_succ {fuel : Nat} (he : Parses (expr fuel)) : Parses (operand (fuel + 1)) := by
  intro s
  by_cases hi : (run (isAt .ident) s).1 = true
  · -- a reference: its identifier, then its record
    generalize hs₁ : run advance (run (isAt .ident) s).2 = r₁
    obtain ⟨tok,s₁⟩ := r₁
    have ht₁ : s₁.tree = s.tree := by simpa [hs₁] using advance_tree (run (isAt .ident) s).2
    obtain ⟨ha₂,-,hs₂⟩ := newIdentOf_spec s₁ tok none
    cases hv : (run (newIdentOf tok none) s₁).1 with
    | none =>
      -- no identifier only after a failure, so no reference either
      have hrun : run (operand (fuel + 1)) s = (none, (run (newIdentOf tok none) s₁).2) := by
        simp [operand,hi,hs₁,hv,onTree_run,newRef_failed _ (newIdentOf_failed s₁ tok none hv)]
      rw [hrun]
      exact Parsed.nothing (ht₁ ▸ ha₂)
    | some v =>
      rw [hv] at hs₂
      generalize hs₂' : (run (newIdentOf tok none) s₁).2 = s₂ at ha₂ hs₂
      have hrun : run (operand (fuel + 1)) s =
          run (onTree (pushExpr (.ref v (s₂.tree.ident v).span))) s₂ := by
        simp [operand,hi,hs₁,hv,hs₂',onTree_run,newRef_eq]
      rw [hrun]
      obtain ⟨ha₃,hs₃⟩ := onTree_pushExpr s₂ (.ref v (s₂.tree.ident v).span)
      refine ⟨(ht₁ ▸ ha₂).trans ha₃,fun hf i hr => ?_⟩
      obtain ⟨hr₃,hex⟩ := hs₃ hf
      obtain ⟨hv',hn,-⟩ := hs₂ (ha₃.sticky hf)
      cases hv'
      rw [hr₃] at hr
      cases hr
      exact ⟨_,Fresh.ref (ht₁ ▸ ha₂) hn ha₃ hex,rfl⟩
  · -- a parenthesized expression
    have hi' : (run (isAt .ident) s).1 = false := by simpa using hi
    cases ho : (run (expect .lparen DiagCode.expectExpression "expected identifier or '('")
        (run (isAt .ident) s).2).1 with
    | none =>
      have hrun : run (operand (fuel + 1)) s = (none, (run (expect .lparen
          DiagCode.expectExpression "expected identifier or '('") (run (isAt .ident) s).2).2) := by
        simp [operand,hi',ho]
      rw [hrun]
      exact Parsed.nothing_of_eq (by simp)
    | some opening =>
      generalize hs₂ : (run (expect .lparen DiagCode.expectExpression "expected identifier or '('")
        (run (isAt .ident) s).2).2 = s₂
      have ht₂ : s₂.tree = s.tree := by rw [← hs₂]; simp
      have hp := he s₂
      rw [ht₂] at hp
      cases hin : (run (expr fuel) s₂).1 with
      | none =>
        have hrun : run (operand (fuel + 1)) s = (none, (run (expr fuel) s₂).2) := by
          simp [operand,hi',ho,hs₂,hin]
        rw [hrun]
        exact Parsed.nothing hp.adds
      | some inner =>
        rw [hin] at hp
        generalize hs₃ : (run (expr fuel) s₂).2 = s₃ at hp
        by_cases hc : (run (isAt .rparen) s₃).1 = true
        · have hrun : run (operand (fuel + 1)) s =
              (some inner, (run advance (run (isAt .rparen) s₃).2).2) := by
            simp [operand,hi',ho,hs₂,hin,hs₃,hc]
          rw [hrun]
          simpa using hp
        · have hrun : run (operand (fuel + 1)) s =
              (none, (run (fail DiagCode.unclosedParen "expected ')'"
                [⟨opening.span, "parenthesis opened here"⟩]) (run (isAt .rparen) s₃).2).2) := by
            simp [operand,hi',ho,hs₂,hin,hs₃,hc]
          rw [hrun]
          exact Parsed.nothing (by simpa using hp.adds)

/-- Applying what came before, built since `t` unless the tree failed, to an operand parsed
after it: the application is built since `t`, unless the tree fails. -/
theorem newApp_fresh {t : Tree} {s₁ s : ParseState} {acc : Option Nat} {arg : Nat}
    (ha : Adds t s₁.tree)
    (hacc : s₁.tree.failure = none → ∃ sh, Fresh t s₁.tree sh ∧ acc = some sh.root)
    (hp : Parsed s₁.tree s.tree (some arg)) :
    Adds s.tree (run (onTree (newApp acc (some arg))) s).2.tree ∧
      ((run (onTree (newApp acc (some arg))) s).2.tree.failure = none →
        ∃ sh, Fresh t (run (onTree (newApp acc (some arg))) s).2.tree sh ∧
          (run (onTree (newApp acc (some arg))) s).1 = some sh.root) := by
  by_cases hf : s.tree.failure.isSome
  · -- after a failure the application is missing, and nothing is added
    rw [onTree_run,newApp_failed _ hf]
    exact ⟨Adds.refl _,fun h => by simp only at h; simp [h] at hf⟩
  · have hf' : s.tree.failure = none := by simpa using hf
    obtain ⟨l,hl,rfl⟩ := hacc (hp.adds.sticky hf')
    obtain ⟨r,hr,rfl⟩ := hp.shape hf' arg rfl
    have hrun : run (onTree (newApp (some l.root) (some r.root))) s = run (onTree (pushExpr
        (.app l.root r.root ((s.tree.exprSpan l.root).cover (s.tree.exprSpan r.root))))) s := by
      simp [onTree_run,newApp_eq]
    rw [hrun]
    obtain ⟨ha₃,hs₃⟩ := onTree_pushExpr s
      (.app l.root r.root ((s.tree.exprSpan l.root).cover (s.tree.exprSpan r.root)))
    refine ⟨ha₃,fun hf₃ => ?_⟩
    obtain ⟨hr₃,hex⟩ := hs₃ hf₃
    exact ⟨_,Fresh.app ha hl hp.adds hr ha₃ hex,hr₃⟩

/-- Parsing further operands onto an application already built since `t`, which is missing only
after a failure: what is left is `Parsed`, and the application is missing only after a
failure. -/
def ParsesOnto (x : Option Nat → ParseM (Option (Option Nat))) : Prop :=
  ∀ (t : Tree) (s : ParseState) (acc : Option Nat), Adds t s.tree →
    (s.tree.failure = none → ∃ sh, Fresh t s.tree sh ∧ acc = some sh.root) →
    Parsed t (run (x acc) s).2.tree ((run (x acc) s).1.bind id) ∧
      ((run (x acc) s).2.tree.failure = none → (run (x acc) s).1 ≠ some none)

theorem operands_succ {fuel : Nat} (hop : Parses (operand fuel)) (hrec : ParsesOnto (operands fuel)) :
    ParsesOnto (operands (fuel + 1)) := by
  intro t s acc ha hacc
  by_cases hat : (run atOperand s).1 = true
  · generalize hs₁ : (run atOperand s).2 = s₁ at hat
    have ht₁ : s₁.tree = s.tree := by rw [← hs₁]; simp
    have hp := hop s₁
    rw [ht₁] at hp
    cases harg : (run (operand fuel) s₁).1 with
    | none =>
      have hrun : run (operands (fuel + 1) acc) s = (none, (run (operand fuel) s₁).2) := by
        simp [operands,hs₁,hat,harg]
      rw [hrun]
      exact ⟨Parsed.nothing (ha.trans hp.adds),fun _ h => nomatch h⟩
    | some arg =>
      rw [harg] at hp
      generalize hs₂ : (run (operand fuel) s₁).2 = s₂ at hp
      have hrun : run (operands (fuel + 1) acc) s =
          run (operands fuel (run (onTree (newApp acc (some arg))) s₂).1)
            (run (onTree (newApp acc (some arg))) s₂).2 := by
        simp [operands,hs₁,hat,harg,hs₂]
      rw [hrun]
      obtain ⟨ha₃,hs₃⟩ := newApp_fresh ha hacc hp
      exact hrec t _ _ ((ha.trans hp.adds).trans ha₃) hs₃
  · have hrun : run (operands (fuel + 1) acc) s = (some acc, (run atOperand s).2) := by
      simp [operands,hat]
    rw [hrun]
    simp only [atOperand_tree,Option.bind_some,id_eq]
    refine ⟨⟨ha,fun hf i hi => ?_⟩,fun hf h => ?_⟩
    · obtain ⟨sh,hsh,rfl⟩ := hacc hf
      cases hi
      exact ⟨sh,hsh,rfl⟩
    · obtain ⟨sh,-,rfl⟩ := hacc hf
      simp at h

theorem application_succ {fuel : Nat} (hop : Parses (operand fuel))
    (hops : ParsesOnto (operands fuel)) (hab : Parses (abstraction fuel)) :
    Parses (application (fuel + 1)) := by
  intro s
  by_cases hat : (run atOperand s).1 = true
  · generalize hs₁ : (run atOperand s).2 = s₁ at hat
    have ht₁ : s₁.tree = s.tree := by rw [← hs₁]; simp
    have hp := hop s₁
    rw [ht₁] at hp
    cases hfirst : (run (operand fuel) s₁).1 with
    | none =>
      have hrun : run (application (fuel + 1)) s = (none, (run (operand fuel) s₁).2) := by
        simp [application,hs₁,hat,hfirst]
      rw [hrun]
      exact Parsed.nothing hp.adds
    | some first =>
      rw [hfirst] at hp
      generalize hs₂ : (run (operand fuel) s₁).2 = s₂ at hp
      obtain ⟨hq,hqe⟩ := hops s.tree s₂ (some first) hp.adds
        (fun hf => (hp.shape hf first rfl).imp fun _ h => ⟨h.1,congrArg some h.2.symm⟩)
      cases he : (run (operands fuel (some first)) s₂).1 with
      | none =>
        have hrun : run (application (fuel + 1)) s =
            (none, (run (operands fuel (some first)) s₂).2) := by
          simp [application,hs₁,hat,hfirst,hs₂,he]
        rw [hrun]
        exact Parsed.nothing hq.adds
      | some e =>
        rw [he] at hq hqe
        generalize hs₃ : (run (operands fuel (some first)) s₂).2 = s₃ at hq hqe
        by_cases hl : (run (isAt .lambda) s₃).1 = true
        · -- a trailing abstraction is the last argument
          generalize hs₄ : (run (isAt .lambda) s₃).2 = s₄ at hl
          have ht₄ : s₄.tree = s₃.tree := by rw [← hs₄]; simp
          have hb := hab s₄
          rw [ht₄] at hb
          cases harg : (run (abstraction fuel) s₄).1 with
          | none =>
            have hrun : run (application (fuel + 1)) s = (none, (run (abstraction fuel) s₄).2) := by
              simp [application,hs₁,hat,hfirst,hs₂,he,hs₃,hs₄,hl,harg]
            rw [hrun]
            exact Parsed.nothing (hq.adds.trans hb.adds)
          | some arg =>
            rw [harg] at hb
            generalize hs₅ : (run (abstraction fuel) s₄).2 = s₅ at hb
            have hrun : run (application (fuel + 1)) s = run (onTree (newApp e (some arg))) s₅ := by
              simp [application,hs₁,hat,hfirst,hs₂,he,hs₃,hs₄,hl,harg,hs₅]
            rw [hrun]
            -- the operands' application is there unless the tree failed
            have he' : s₃.tree.failure = none → ∃ sh, Fresh s.tree s₃.tree sh ∧ e = some sh.root :=
              fun hf => by
                cases e with
                | none => exact absurd rfl (hqe hf)
                | some e => exact (hq.shape hf e rfl).imp fun _ h => ⟨h.1,congrArg some h.2.symm⟩
            obtain ⟨ha₆,hs₆⟩ := newApp_fresh hq.adds he' hb
            exact ⟨(hq.adds.trans hb.adds).trans ha₆,fun hf i hi => by
              obtain ⟨sh,hsh,hr⟩ := hs₆ hf
              rw [hr] at hi
              cases hi
              exact ⟨sh,hsh,rfl⟩⟩
        · have hrun : run (application (fuel + 1)) s = (e, (run (isAt .lambda) s₃).2) := by
            simp [application,hs₁,hat,hfirst,hs₂,he,hs₃,hl]
          rw [hrun]
          simpa using hq
  · have hrun : run (application (fuel + 1)) s =
        (none, (run (fail DiagCode.expectExpression "expected expression") (run atOperand s).2).2) := by
      simp [application,hat]
    rw [hrun]
    exact Parsed.nothing_of_eq (by simp)

theorem abstraction_succ {fuel : Nat} (he : Parses (expr fuel)) : Parses (abstraction (fuel + 1)) := by
  intro s
  generalize hs₁ : run advance s = r₁
  obtain ⟨lam,s₁⟩ := r₁
  have ht₁ : s₁.tree = s.tree := by simpa [hs₁] using advance_tree s
  cases hps : (run (params (fuel + 1) []) s₁).1 with
  | none =>
    have hrun : run (abstraction (fuel + 1)) s = (none, (run (params (fuel + 1) []) s₁).2) := by
      simp [abstraction,hs₁,hps]
    rw [hrun]
    exact Parsed.nothing_of_eq (by simp [ht₁])
  | some ps =>
    generalize hs₂ : (run (params (fuel + 1) []) s₁).2 = s₂
    have ht₂ : s₂.tree = s.tree := by rw [← hs₂]; simp [ht₁]
    by_cases hk : (run peek s₂).1.kind = .dot ∨ (run peek s₂).1.kind = .arrow
    · have hk' : ¬(¬(run peek s₂).1.kind = .dot ∧ ¬(run peek s₂).1.kind = .arrow) :=
        fun h => hk.elim h.1 h.2
      generalize hs₄ : (run advance (run peek s₂).2).2 = s₄
      have ht₄ : s₄.tree = s.tree := by rw [← hs₄]; simp [ht₂]
      have hp := he s₄
      rw [ht₄] at hp
      cases hb : (run (expr fuel) s₄).1 with
      | none =>
        have hrun : run (abstraction (fuel + 1)) s = (none, (run (expr fuel) s₄).2) := by
          simp [abstraction,hs₁,hps,hs₂,hk',hs₄,hb]
        rw [hrun]
        exact Parsed.nothing hp.adds
      | some body =>
        rw [hb] at hp
        generalize hs₅ : (run (expr fuel) s₄).2 = s₅ at hp
        obtain ⟨ha₆,-,hs₆⟩ := chainOf_spec ps.reverse none [] s₅ fun _ => rfl
        cases hc : (run (chainOf ps.reverse none) s₅).1 with
        | none =>
          have hrun : run (abstraction (fuel + 1)) s = (none, (run (chainOf ps.reverse none) s₅).2) := by
            simp [abstraction,hs₁,hps,hs₂,hk',hs₄,hb,hs₅,hc]
          rw [hrun]
          exact Parsed.nothing (hp.adds.trans ha₆)
        | some chain =>
          rw [hc] at hs₆
          generalize hs₆' : (run (chainOf ps.reverse none) s₅).2 = s₆ at ha₆ hs₆
          have hrun : run (abstraction (fuel + 1)) s = run (onTree (pushExpr (.abs chain body
              { lam.span.cover (s₆.tree.exprSpan body) with file := s₆.tree.file }))) s₆ := by
            simp [abstraction,hs₁,hps,hs₂,hk',hs₄,hb,hs₅,hc,hs₆',onTree_run,newAbs_eq]
          rw [hrun]
          obtain ⟨ha₇,hs₇⟩ := onTree_pushExpr s₆ (.abs chain body
            { lam.span.cover (s₆.tree.exprSpan body) with file := s₆.tree.file })
          refine ⟨(hp.adds.trans ha₆).trans ha₇,fun hf i hi => ?_⟩
          obtain ⟨hr,hex⟩ := hs₇ hf
          rw [hr] at hi
          cases hi
          have hf₆ := ha₇.sticky hf
          obtain ⟨vs,hcv,hnd,hge,-⟩ := hs₆ hf₆
          obtain ⟨b,hb',rfl⟩ := hp.shape (ha₆.sticky hf₆) body rfl
          exact ⟨_,Fresh.abs hp.adds hb' ha₆ (by simpa [ChainOpt] using hcv) hnd hge ha₇ hex,rfl⟩
    · have hk' : ¬(run peek s₂).1.kind = .dot ∧ ¬(run peek s₂).1.kind = .arrow := not_or.1 hk
      have hrun : run (abstraction (fuel + 1)) s = (none, (run (fail DiagCode.expectParamsClose
          "expected '.' or '->' after parameters") (run peek s₂).2).2) := by
        simp [abstraction,hs₁,hps,hs₂,hk']
      rw [hrun]
      exact Parsed.nothing_of_eq (by simp [ht₂])

theorem expr_succ {fuel : Nat} (hab : Parses (abstraction fuel)) (hap : Parses (application fuel)) :
    Parses (expr (fuel + 1)) := by
  intro s
  have ht : (run (isAt .lambda) s).2.tree = s.tree := by simp
  by_cases hl : (run (isAt .lambda) s).1 = true
  · have hrun : run (expr (fuel + 1)) s = run (abstraction fuel) (run (isAt .lambda) s).2 := by
      simp [expr,hl]
    rw [hrun,← ht]
    exact hab _
  · have hrun : run (expr (fuel + 1)) s = run (application fuel) (run (isAt .lambda) s).2 := by
      simp [expr,hl]
    rw [hrun,← ht]
    exact hap _

/-- Every expression parser, at every fuel, builds what it returns from records it adds. -/
theorem parses : ∀ fuel, Parses (expr fuel) ∧ Parses (abstraction fuel) ∧ Parses (operand fuel) ∧
    ParsesOnto (operands fuel) ∧ Parses (application fuel)
  | 0 => ⟨fun s => Parsed.nothing_of_eq (by simp [expr]),fun s => Parsed.nothing_of_eq (by simp [abstraction]),
      fun s => Parsed.nothing_of_eq (by simp [operand]),
      fun t s acc ha _ => by simpa [operands] using Parsed.nothing ha,
      fun s => Parsed.nothing_of_eq (by simp [application])⟩
  | fuel + 1 =>
    have ⟨he,hab,hop,hops,hap⟩ := parses fuel
    ⟨expr_succ hab hap,abstraction_succ he,operand_succ he,operands_succ hop hops,
      application_succ hop hops hab⟩

/-- The operands after a first operand give an application, unless the tree fails. -/
theorem operands_after_first {n : Nat} (s₁ : ParseState) {first : Nat}
    (h : (run (operand n) s₁).1 = some first)
    (hf : (run (operands n (some first)) (run (operand n) s₁).2).2.tree.failure = none) :
    (run (operands n (some first)) (run (operand n) s₁).2).1 ≠ some none := by
  have hp := (parses n).2.2.1 s₁
  rw [h] at hp
  exact ((parses n).2.2.2.1 s₁.tree _ (some first) hp.adds
    fun hf => (hp.shape hf first rfl).imp fun _ h => ⟨h.1,congrArg some h.2.symm⟩).2 hf

/-! ### Statements -/

/-- The statement parser after its optional `let`: the name, `=`, the expression and `;`, then
the statement record spanning from `start`. -/
def stmtTail (fuel : Nat) (start : Span) : ParseM (Option Nat) := do
  let some nameTok ← expect .ident DiagCode.expectIdentifier "expected identifier to bind"
    | return none
  let name ← newIdentOf nameTok none
  let some _ ← expect .assign DiagCode.expectAssign ("expected '=' after " ++ nameTok.textString)
    | return none
  let some e ← expr fuel | return none
  let some semi ← expect .semicolon DiagCode.expectSemicolon "expected ';' after expression"
    | return none
  onTree (Tree.newStmt name (some e) (start.cover semi.span))

/-- A statement is its tail, read from where the optional `let` leaves the parser. -/
theorem stmt_eq (fuel : Nat) (s : ParseState) : ∃ s', s'.tree = s.tree ∧
    run (stmt fuel) s = run (stmtTail fuel (run peek s).1.span) s' := by
  -- the two bodies differ only in their match auxiliaries, which are shared when both
  -- definitions are elaborated together and equal by unfolding otherwise
  by_cases hl : (run (isAt .kwLet) (run peek s).2).1 = true
  · exact ⟨(run advance (run (isAt .kwLet) (run peek s).2).2).2,by simp,
      by simp only [stmt,stmtTail,run_bind,hl,↓reduceIte] <;> rfl⟩
  · exact ⟨(run (isAt .kwLet) (run peek s).2).2,by simp,
      by simp only [stmt,stmtTail,run_bind,hl,Bool.false_eq_true,↓reduceIte] <;> rfl⟩


/-- What parsing a statement from tree `t` leaves: records only added and, unless the tree
failed, a new statement record, not linked and not compiled, whose expression roots a linear
shape of records added since `t`. -/
structure StmtParsed (t t' : Tree) (r : Option Nat) : Prop where
  adds : Adds t t'
  stmt : t'.failure = none → ∀ j, r = some j → t.stmts.size ≤ j ∧ j < t'.stmts.size ∧
    (t'.stmt j).next = none ∧ (t'.stmt j).compiled = none ∧
    ∃ sh, Fresh t t' sh ∧ sh.root = (t'.stmt j).expr

theorem StmtParsed.nothing {t t' : Tree} (h : Adds t t') : StmtParsed t t' none :=
  ⟨h,fun _ _ h => nomatch h⟩

theorem StmtParsed.nothing_of_eq {t t' : Tree} (h : t' = t) : StmtParsed t t' none :=
  StmtParsed.nothing (h ▸ Adds.refl t)

theorem stmtTail_spec (fuel : Nat) (start : Span) (s : ParseState) :
    StmtParsed s.tree (run (stmtTail fuel start) s).2.tree (run (stmtTail fuel start) s).1 := by
  generalize hr₁ : run (expect .ident DiagCode.expectIdentifier "expected identifier to bind") s = r₁
  obtain ⟨tok?,s₁⟩ := r₁
  have ht₁ : s₁.tree = s.tree := by
    rw [← expect_tree s .ident DiagCode.expectIdentifier "expected identifier to bind",hr₁]
  cases tok? with
  | none =>
    have hrun : run (stmtTail fuel start) s = (none, s₁) := by simp [stmtTail,hr₁]
    rw [hrun]
    exact StmtParsed.nothing_of_eq ht₁
  | some nameTok =>
    obtain ⟨ha₂,-,hname⟩ := newIdentOf_spec s₁ nameTok none
    generalize hr₂ : run (newIdentOf nameTok none) s₁ = r₂ at ha₂ hname
    obtain ⟨name,s₂⟩ := r₂
    generalize hr₃ : run (expect .assign DiagCode.expectAssign ("expected '=' after " ++ nameTok.textString)) s₂ = r₃
    obtain ⟨eq?,s₃⟩ := r₃
    have ht₃ : s₃.tree = s₂.tree := by rw [← expect_tree s₂ .assign DiagCode.expectAssign,hr₃]
    rw [ht₁] at ha₂
    cases eq? with
    | none =>
      have hrun : run (stmtTail fuel start) s = (none, s₃) := by simp [stmtTail,hr₁,hr₂,hr₃]
      rw [hrun]
      exact StmtParsed.nothing (ht₃ ▸ ha₂)
    | some _ =>
      have hp := (parses fuel).1 s₃
      generalize hr₄ : run (expr fuel) s₃ = r₄ at hp
      obtain ⟨e?,s₄⟩ := r₄
      rw [ht₃] at hp
      cases e? with
      | none =>
        have hrun : run (stmtTail fuel start) s = (none, s₄) := by simp [stmtTail,hr₁,hr₂,hr₃,hr₄]
        rw [hrun]
        exact StmtParsed.nothing (ha₂.trans hp.adds)
      | some e =>
        generalize hr₅ : run (expect .semicolon DiagCode.expectSemicolon "expected ';' after expression") s₄ = r₅
        obtain ⟨semi?,s₅⟩ := r₅
        have ht₅ : s₅.tree = s₄.tree := by rw [← expect_tree s₄ .semicolon DiagCode.expectSemicolon,hr₅]
        have ha₅ : Adds s.tree s₅.tree := ht₅ ▸ ha₂.trans hp.adds
        cases semi? with
        | none =>
          have hrun : run (stmtTail fuel start) s = (none, s₅) := by simp [stmtTail,hr₁,hr₂,hr₃,hr₄,hr₅]
          rw [hrun]
          exact StmtParsed.nothing ha₅
        | some semi =>
          by_cases hf : s₅.tree.failure.isSome
          · have hrun : run (stmtTail fuel start) s = (none, s₅) := by
              simp [stmtTail,hr₁,hr₂,hr₃,hr₄,hr₅,onTree_run,newStmt_failed _ hf]
            rw [hrun]
            exact StmtParsed.nothing ha₅
          · have hf₅ : s₅.tree.failure = none := by simpa using hf
            obtain ⟨rfl,-⟩ := hname (hp.adds.sticky (ht₅ ▸ hf₅))
            obtain ⟨ha₆,hs₆⟩ := newStmt_spec s₅.tree s₁.tree.idents.size e (start.cover semi.span)
            have hrun : run (stmtTail fuel start) s =
                run (onTree (newStmt (some s₁.tree.idents.size) (some e) (start.cover semi.span))) s₅ := by
              simp [stmtTail,hr₁,hr₂,hr₃,hr₄,hr₅]
            rw [hrun,onTree_run]
            refine ⟨ha₅.trans ha₆,fun hf₆ j hj => ?_⟩
            obtain ⟨hj',sp,hst⟩ := hs₆ hf₆
            rw [hj'] at hj
            cases hj
            obtain ⟨sh,hsh,hroot⟩ := hp.shape (ht₅ ▸ hf₅) e rfl
            have hstmt : (run (newStmt (some s₁.tree.idents.size) (some e) (start.cover semi.span))
                s₅.tree).2.stmt
                s₅.tree.stmts.size = ⟨s₁.tree.idents.size, e, none, sp, none⟩ := by
              simp [Tree.stmt,hst]
            refine ⟨ha₅.stmts_size,by simp [hst],by simp [hstmt],by simp [hstmt],sh,?_,by simp [hstmt,hroot]⟩
            exact (hsh.since ha₂).grow (ht₅ ▸ ha₆)


theorem stmt_spec (fuel : Nat) (s : ParseState) :
    StmtParsed s.tree (run (stmt fuel) s).2.tree (run (stmt fuel) s).1 := by
  obtain ⟨s',ht,hrun⟩ := stmt_eq fuel s
  rw [hrun,← ht]
  exact stmtTail_spec fuel _ s'

end Parser

namespace Tree

variable {t t₁ t₂ : Tree} {L : List Nat} {shape : Nat → Shape}

theorem Adds.laidOut (ha : Adds t t₁) (h : t.LaidOut L shape) (hL : ∀ j ∈ L, j < t.stmts.size) :
    t₁.LaidOut L shape :=
  ⟨fun j hj => ha.realizes (h.realizes j hj),fun j hj => by rw [h.root j hj,ha.stmt (hL j hj)],
    h.exprs,h.params⟩

/-- The statements parsed so far: distinct statement records, not linked and not compiled,
whose expressions are laid out in disjoint linear shapes. -/
structure Unlinked (t : Tree) (L : List Nat) : Prop where
  nodup : L.Nodup
  stmt : ∀ j ∈ L, j < t.stmts.size ∧ (t.stmt j).next = none ∧ (t.stmt j).compiled = none
  laidOut : ∃ shape, t.LaidOut L shape

theorem Unlinked.grow (h : t.Unlinked L) (ha : Adds t t₁) : t₁.Unlinked L := by
  obtain ⟨shape,hl⟩ := h.laidOut
  refine ⟨h.nodup,fun j hj => ?_,shape,ha.laidOut hl fun j hj => (h.stmt j hj).1⟩
  obtain ⟨hlt,hn,hc⟩ := h.stmt j hj
  exact ⟨Nat.lt_of_lt_of_le hlt ha.stmts_size,by rw [ha.stmt hlt]; exact hn,by rw [ha.stmt hlt]; exact hc⟩

/-- A statement whose shape lies in records added since `t` extends a layout of `t`. -/
theorem LaidOut.concat (h : t.LaidOut L shape) {j : Nat} (hj : j ∉ L) (ha : Adds t t₁)
    (hL : ∀ k ∈ L, k < t.stmts.size) {sh : Shape} (hsh : Parser.Fresh t t₁ sh)
    (hroot : sh.root = (t₁.stmt j).expr) :
    t₁.LaidOut (L ++ [j]) fun k => if k = j then sh else shape k := by
  have hne : ∀ k ∈ L, k ≠ j := fun k hk e => hj (e ▸ hk)
  have hold := ha.laidOut h hL
  have hmap : ∀ f : Shape → List Nat, (L.flatMap fun k => f (if k = j then sh else shape k)) =
      L.flatMap fun k => f (shape k) :=
    fun f => by simp only [List.flatMap_def]; exact congrArg List.flatten (List.map_congr_left fun k hk => by rw [if_neg (hne k hk)])
  refine ⟨fun k hk => ?_,fun k hk => ?_,?_,?_⟩
  · rcases List.mem_append.1 hk with hk | hk
    · rw [if_neg (hne k hk)]; exact hold.realizes k hk
    · rw [List.mem_singleton.1 hk,if_pos rfl]; exact hsh.realizes
  · rcases List.mem_append.1 hk with hk | hk
    · rw [if_neg (hne k hk)]; exact hold.root k hk
    · rw [List.mem_singleton.1 hk,if_pos rfl]; exact hroot
  · rw [List.flatMap_append,hmap Shape.exprs,List.nodup_append]
    refine ⟨h.exprs,by simpa using hsh.linear.1,fun a ha b hb hab => ?_⟩
    obtain ⟨k,hk,hak⟩ := List.mem_flatMap.1 ha
    have := (h.realizes k hk).exprs_lt a hak
    have := hsh.exprs b (by simpa using hb)
    omega
  · rw [List.flatMap_append,hmap Shape.params,List.nodup_append]
    refine ⟨h.params,by simpa using hsh.linear.2,fun a ha b hb hab => ?_⟩
    obtain ⟨k,hk,hak⟩ := List.mem_flatMap.1 ha
    have := ((h.realizes k hk).params_named a hak).1
    have := hsh.params b (by simpa using hb)
    omega

theorem Unlinked.concat (h : t₁.Unlinked L) {j : Nat} (hp : Parser.StmtParsed t₁ t₂ (some j))
    (hf : t₂.failure = none) : t₂.Unlinked (L ++ [j]) := by
  obtain ⟨hge,hlt,hn,hc,sh,hsh,hroot⟩ := hp.stmt hf j rfl
  have hj : j ∉ L := fun hj => by have := (h.stmt j hj).1; omega
  obtain ⟨shape,hl⟩ := h.laidOut
  have h₂ := h.grow hp.adds
  refine ⟨List.nodup_append.2 ⟨h.nodup,by simp,fun a ha b hb hab => hj (by simp at hb; exact hb ▸ hab ▸ ha)⟩,
    fun k hk => ?_,_,hl.concat hj hp.adds (fun k hk => (h.stmt k hk).1) hsh hroot⟩
  rcases List.mem_append.1 hk with hk | hk
  · exact h₂.stmt k hk
  · rw [List.mem_singleton.1 hk]; exact ⟨hlt,hn,hc⟩

/-- A parsed program: its statements are distinct records, none compiled yet, whose
expressions are laid out in disjoint linear shapes. -/
structure ParsedProgram (t : Tree) (p : Nat) : Prop where
  nodup : (t.programStmts p).Nodup
  stmt : ∀ j ∈ t.programStmts p, j < t.stmts.size ∧ (t.stmt j).compiled = none
  laidOut : ∃ shape, t.LaidOut (t.programStmts p) shape

/-- Linking only sets the links of statement records. -/
theorem stmt_link (L : List Nat) (t : Tree) (j : Nat) :
    ((t.link L).stmt j).expr = (t.stmt j).expr ∧ ((t.link L).stmt j).compiled = (t.stmt j).compiled := by
  obtain ⟨st,hl,-,hj⟩ := link_eq L t
  obtain ⟨n,hn⟩ := hj j
  simp [hl,Tree.stmt,hn]

/-- The program made of distinct unlinked statements reads them back in order. -/
theorem Unlinked.programStmts (h : t.Unlinked L) (filename : String) {p : Nat}
    (hp : (run (newProgram filename L) t).1 = some p) :
    (run (newProgram filename L) t).2.programStmts p = L := by
  obtain ⟨-,rfl,hprog,hst,-,-,-⟩ := newProgram_spec t filename L hp
  obtain ⟨_,hl,hsize,-⟩ := link_eq L t
  have hsize' : (run (newProgram filename L) t).2.stmts.size = t.stmts.size := by rw [hst,hl,← hsize]
  simp only [Tree.programStmts,hprog,Array.getElem?_push_size,Option.map_some,Option.getD_some,
    programStmts_go_congr hst]
  exact go_link L t h.nodup (fun j hj => ⟨(h.stmt j hj).1,(h.stmt j hj).2.1⟩) _
    (Nat.le_succ_of_le (hsize' ▸ length_le_of_nodup h.nodup fun j hj => (h.stmt j hj).1))

/-- The program made of the statements parsed: linked in order, it reads them back, and they
keep their records and shapes. -/
theorem Unlinked.program (h : t.Unlinked L) (filename : String) {p : Nat}
    (hp : (run (newProgram filename L) t).1 = some p) :
    (run (newProgram filename L) t).2.failure = none ∧ (run (newProgram filename L) t).2.ParsedProgram p := by
  have hstmts := h.programStmts filename hp
  obtain ⟨hf,rfl,hprog,hst,htok,hid,hex⟩ := newProgram_spec t filename L hp
  generalize (run (newProgram filename L) t).2 = t' at hf hprog hst htok hid hex hstmts
  obtain ⟨_,hl,hsize,-⟩ := link_eq L t
  have hsize' : t'.stmts.size = t.stmts.size := by rw [hst,hl,← hsize]
  have hrec : ∀ j, (t'.stmt j).expr = (t.stmt j).expr ∧ (t'.stmt j).compiled = (t.stmt j).compiled :=
    fun j => by simpa only [Tree.stmt,hst] using stmt_link L t j
  have hg : Grows t t' := ⟨⟨#[],by simp [htok]⟩,⟨#[],by simp [hid]⟩,⟨#[],by simp [hex]⟩⟩
  obtain ⟨shape,hl⟩ := h.laidOut
  refine ⟨hf,⟨hstmts ▸ h.nodup,fun j hj => ?_,shape,hstmts ▸ ⟨fun j hj => ?_,fun j hj => ?_,hl.exprs,hl.params⟩⟩⟩
  · rw [hstmts] at hj
    exact ⟨hsize' ▸ (h.stmt j hj).1,(hrec j).2.trans (h.stmt j hj).2.2⟩
  · exact ((hl.realizes j hj).keep (hg.keeps _)).1
  · rw [(hrec j).1]
    exact hl.root j hj

end Tree

namespace Parser

open Combinatory.Tree

/-- The statement loop: the statements it returns are distinct new records, not linked and not
compiled, laid out in disjoint linear shapes, unless the tree failed. -/
theorem stmts_spec : ∀ (fuel : Nat) (acc : List Nat) (s : ParseState),
    (s.tree.failure = none → s.tree.Unlinked acc) →
    Adds s.tree (run (stmts fuel acc) s).2.tree ∧
      ((run (stmts fuel acc) s).2.tree.failure = none →
        (run (stmts fuel acc) s).2.tree.Unlinked (run (stmts fuel acc) s).1)
  | 0, acc, s, h => ⟨Adds.refl _,h⟩
  | fuel + 1, acc, s, h => by
    have ht₁ : (run (isAt .eof) s).2.tree = s.tree := by simp
    by_cases he : (run (isAt .eof) s).1 = true
    · have hrun : run (stmts (fuel + 1) acc) s = (acc, (run (isAt .eof) s).2) := by simp [stmts,he]
      rw [hrun,ht₁]
      exact ⟨Adds.refl _,h⟩
    generalize hs₁ : (run (isAt .eof) s).2 = s₁ at ht₁
    by_cases hstop : (s₁.maxErrors > 0 ∧ s₁.errors ≥ s₁.maxErrors) ∨ s₁.tree.failure.isSome
    · have hrun : run (stmts (fuel + 1) acc) s = (acc, s₁) := by simp [stmts,he,hs₁,hstop]
      rw [hrun,ht₁]
      exact ⟨Adds.refl _,h⟩
    have hp := stmt_spec (4 * s₁.tokens.size + 4) s₁
    generalize hr₂ : run (stmt (4 * s₁.tokens.size + 4)) s₁ = r₂ at hp
    obtain ⟨st?,s₂⟩ := r₂
    rw [ht₁] at hp
    cases st? with
    | some j =>
      have hrun : run (stmts (fuel + 1) acc) s = run (stmts fuel (acc ++ [j])) s₂ := by
        simp [stmts,he,hs₁,hstop,hr₂]
      obtain ⟨ha,ih⟩ := stmts_spec fuel (acc ++ [j]) s₂ fun hf => (h (hp.adds.sticky hf)).concat hp hf
      rw [hrun]
      exact ⟨hp.adds.trans ha,ih⟩
    | none =>
      have hrun : run (stmts (fuel + 1) acc) s =
          run (stmts fuel acc) (run (resync (s₁.tokens.size + 1)) s₂).2 := by
        simp [stmts,he,hs₁,hstop,hr₂]
      have ht₃ : (run (resync (s₁.tokens.size + 1)) s₂).2.tree = s₂.tree := by simp
      obtain ⟨ha,ih⟩ := stmts_spec fuel acc (run (resync (s₁.tokens.size + 1)) s₂).2 fun hf =>
        (h (hp.adds.sticky (ht₃ ▸ hf))).grow (ht₃ ▸ hp.adds)
      rw [hrun]
      exact ⟨(ht₃ ▸ hp.adds).trans ha,ih⟩

end Parser

/-- Parsing a file runs the statement loop, then adds the program record unless the tree
failed. -/
theorem parseFile_eq (file : SourceFile) (tree : Tree) (rep : Reporter) (maxErrors : Nat) :
    parseFile file tree rep maxErrors =
      let r := run (Parser.stmts (file.tokens.toArray.size + 1) [])
        ⟨file,file.tokens.toArray,0,0,⟨file.id,0,0⟩,false,0,maxErrors,rep,tree⟩
      if r.2.tree.failure.isSome then
        (⟨none, r.1.length, r.2.errors, r.2.invalid⟩, r.2.tree, r.2.reporter)
      else (⟨(run (Tree.newProgram file.path r.1) r.2.tree).1, r.1.length, r.2.errors, r.2.invalid⟩,
        (run (Tree.newProgram file.path r.1) r.2.tree).2, r.2.reporter) := by
  generalize hr : run (Parser.stmts (file.tokens.toArray.size + 1) [])
    ⟨file,file.tokens.toArray,0,0,⟨file.id,0,0⟩,false,0,maxErrors,rep,tree⟩ = r
  obtain ⟨ss,s₁⟩ := r
  simp only [parseFile,stateT_run,run_bind,hr,run_get]
  by_cases hf : s₁.tree.failure.isSome <;> simp [hf,Parser.onTree_run]

/-- A program the parser returns is a parsed program of the tree it leaves, which has not
failed. -/
theorem parseFile_spec (file : SourceFile) (tree : Tree) (rep : Reporter) (maxErrors : Nat)
    {p : Nat} (hp : (parseFile file tree rep maxErrors).1.program = some p) :
    (parseFile file tree rep maxErrors).2.1.failure = none ∧
      (parseFile file tree rep maxErrors).2.1.ParsedProgram p := by
  obtain ⟨-,hs⟩ := Parser.stmts_spec (file.tokens.toArray.size + 1) []
    ⟨file,file.tokens.toArray,0,0,⟨file.id,0,0⟩,false,0,maxErrors,rep,tree⟩
    fun _ => ⟨List.nodup_nil,by simp,fun _ => default,by simp,by simp,by simp,by simp⟩
  rw [parseFile_eq] at hp ⊢
  generalize run (Parser.stmts (file.tokens.toArray.size + 1) [])
    ⟨file,file.tokens.toArray,0,0,⟨file.id,0,0⟩,false,0,maxErrors,rep,tree⟩ = r at hs hp ⊢
  obtain ⟨ss,s₁⟩ := r
  -- the program is added only when the tree did not fail
  by_cases hf : s₁.tree.failure.isSome
  · simp only [if_pos hf] at hp
    cases hp
  · simp only [if_neg hf] at hp ⊢
    exact (hs (by simpa using hf)).program file.path hp

/-- Parsing a file never complains: the statements only add records, as does the program. -/
theorem parseFile_crash (file : SourceFile) (tree : Tree) (rep : Reporter) (maxErrors : Nat) :
    (parseFile file tree rep maxErrors).2.1.crash = tree.crash := by
  obtain ⟨ha,-⟩ := Parser.stmts_spec (file.tokens.toArray.size + 1) []
    ⟨file,file.tokens.toArray,0,0,⟨file.id,0,0⟩,false,0,maxErrors,rep,tree⟩
    fun _ => ⟨List.nodup_nil,by simp,fun _ => default,by simp,by simp,by simp,by simp⟩
  rw [parseFile_eq]
  generalize run (Parser.stmts (file.tokens.toArray.size + 1) [])
    ⟨file,file.tokens.toArray,0,0,⟨file.id,0,0⟩,false,0,maxErrors,rep,tree⟩ = r at ha ⊢
  by_cases hf : r.2.tree.failure.isSome
  · simpa [hf] using ha.crash
  · simpa [hf,Tree.newProgram_crash] using ha.crash

end Combinatory
