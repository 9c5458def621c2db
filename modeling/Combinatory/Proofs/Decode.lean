import Mathlib.Data.List.Forall2
import Combinatory.Proofs.Recognize

/-! The parser accepts the grammar: a phrase followed by a token that may follow it is parsed
with no flag raised into a shape whose term is the phrase's (`Derives.completes`, one lemma per
rule), and a sentence into one statement record per statement (`Sentence.completes`). -/
namespace Combinatory

open Pass Grammar

namespace Tree

/-! ### The file of a tree

No operation changes the file a tree is of, which names the file of every token record. -/

section Files

variable (t : Tree)

@[simp] theorem charge_file (n : Nat) : (run (charge n) t).2.file = t.file := by
  obtain ⟨a, f, h, -⟩ := charge_spec t n
  simp [h]

@[simp] theorem chargeString_file (s : String) : (run (chargeString s) t).2.file = t.file := by
  obtain ⟨a, f, h, -⟩ := chargeString_spec t s
  simp [h]

@[simp] theorem pushExpr_file (e : Expr) : (run (pushExpr e) t).2.file = t.file := by
  obtain ⟨a, f, h, -⟩ := charge_spec t exprSize
  cases hc : (run (charge exprSize) t).1 <;> simp [pushExpr, hc, h]

@[simp] theorem newToken_file (lexeme : String) (row col endCol : Nat) (span : Span) :
    (run (newToken lexeme row col endCol span) t).2.file = t.file := by
  obtain ⟨a, f, h, -⟩ := chargeString_spec t lexeme
  obtain ⟨a', f', h', -⟩ := charge_spec { t with arena := a, failure := f } tokenSize
  cases hc : (run (charge tokenSize) { t with arena := a, failure := f }).1 <;>
    simp [newToken, h, h', hc]

@[simp] theorem crashWith_file (msg : String) : (t.crashWith msg).file = t.file := rfl

@[simp] theorem newIdent_file (tok next : Option Nat) :
    (run (newIdent tok next) t).2.file = t.file := by
  obtain ⟨a, f, h, -⟩ := charge_spec t identSize
  by_cases hf : t.failure.isSome
  · simp [newIdent, hf]
  · cases tok with
    | none => simp [newIdent, hf]
    | some k => cases hc : (run (charge identSize) t).1 <;> simp [newIdent, hf, h, hc]

@[simp] theorem newStmt_file (v e : Option Nat) (span : Span) :
    (run (newStmt v e span) t).2.file = t.file := by
  obtain ⟨a, f, h, -⟩ := charge_spec t stmtSize
  by_cases hf : t.failure.isSome
  · simp [newStmt, hf]
  · -- a missing part only records the complaint
    cases v with
    | none => simp [newStmt, hf]
    | some v =>
      cases e with
      | none => simp [newStmt, hf]
      | some e => cases hc : (run (charge stmtSize) t).1 <;> simp [newStmt, hf, h, hc]

end Files

/-- A program is added whenever the tree is left without failure. -/
theorem newProgram_some (t : Tree) (filename : String) (L : List Nat)
    (hf : (run (newProgram filename L) t).2.failure = none) :
    ∃ p, (run (newProgram filename L) t).1 = some p := by
  by_cases ht : t.failure.isSome
  · have hrun : run (newProgram filename L) t = (none, t) := by simp [newProgram, ht]
    rw [hrun] at hf
    simp only at hf
    simp [hf] at ht
  · obtain ⟨a, f, hrun, -⟩ := chargeString_spec (t.link L) filename
    obtain ⟨a', f', hrun', hok', -⟩ := charge_spec { t.link L with arena := a, failure := f } programSize
    cases hc : (run (charge programSize) { t.link L with arena := a, failure := f }).1
    · -- the charge failed, and with it the tree
      have h : run (newProgram filename L) t = (none, { t.link L with arena := a', failure := f' }) := by
        simp only [newProgram, run_bind, run_get, ht, Bool.false_eq_true, if_false, run_set, hrun, hrun', hc]
        rfl
      rw [h] at hf
      exact absurd (hok'.2 hf) (by simp [hc])
    · exact ⟨_, by simp only [newProgram, run_bind, run_get, ht, Bool.false_eq_true, if_false, run_set,
        hrun, hrun', hc]; rfl⟩

/-- Records added after a shape keep its term. -/
theorem Adds.term {t t₁ : Tree} (h : Adds t t₁) {sh : Shape} (hs : t.Realizes sh) :
    sh.term t₁ = sh.term t :=
  (hs.keep (h.grows.keeps sh)).2

end Tree

theorem Shape.term_ref {t : Tree} {i v : Nat} {sp : Span} (he : t.expr i = .ref v sp) :
    (Shape.ref i v).term t = .var (t.name v) sp := by
  simp [Shape.term, Tree.exprSpan, he, Expr.span]

namespace Parser

open Combinatory.Tree

@[simp] theorem newIdentOf_file (s : ParseState) (tok : Token) (next : Option Nat) :
    (run (newIdentOf tok next) s).2.tree.file = s.tree.file := by
  have hfile := Tree.newToken_file s.tree tok.textString (s.file.lineCol tok.span.start).line
    (s.file.lineCol tok.span.start).col (s.file.lineCol tok.span.stop).col tok.span
  simp only [newIdentOf, newToken, onTree_run, run_bind, run_get]
  generalize run (Tree.newToken tok.textString (s.file.lineCol tok.span.start).line
    (s.file.lineCol tok.span.start).col (s.file.lineCol tok.span.stop).col tok.span) s.tree = r at hfile
  obtain ⟨k?, t₁⟩ := r
  simpa [onTree_run] using hfile

@[simp] theorem chainOf_file : ∀ (toks : List Token) (next : Option Nat) (s : ParseState),
    (run (chainOf toks next) s).2.tree.file = s.tree.file
  | [], _, _ => rfl
  | tok :: rest, next, s => by
    simp only [chainOf, run_bind]
    rw [chainOf_file rest, newIdentOf_file]

/-! ### Parameters -/

/-- The parameter list reads exactly the parameters, with no flag raised. -/
theorem Params.completes {ts xs ts' : List Token} (h : Params ts xs ts') (hend : EndsParams ts') :
    ∀ (n : Nat) (acc : List Token) (s : ParseState), s.rest = ts → Terminated ts → ts.length ≤ n →
      (run (params n acc) s).1 = some (acc ++ xs) ∧ (run (params n acc) s).2.rest = ts' ∧
        Clean s (run (params n acc) s).2 ∧ (run (params n acc) s).2.tree = s.tree := by
  induction h with
  | @last x ts hx =>
    intro n acc s hs ht hn
    obtain ⟨m, rfl⟩ : ∃ m, n = m + 1 := ⟨n - 1, by simp at hn; omega⟩
    obtain ⟨s₁, hr, hr₁, hc₁, ht₁⟩ := expect_step s DiagCode.expectIdentifier "expected parameter name"
      hs (hs ▸ ht) hx (by simp) (by simp)
    -- the end of the list: neither a comma nor another parameter follows
    obtain ⟨y, v, hyv⟩ := List.exists_cons_of_ne_nil (ht.tail (by simp [hx])).1
    obtain ⟨hyc, hyi⟩ := hend y (by simp [hyv])
    have hl₂ := isAt_looked s₁ .comma
    have hl₃ := isAt_looked (run (isAt .comma) s₁).2 .ident
    have hcomma : (run (isAt .comma) s₁).1 = false := by simp [isAt_fst s₁ (hr₁.trans hyv), hyc]
    have hident : (run (isAt .ident) (run (isAt .comma) s₁).2).1 = false := by
      simp [isAt_fst _ (hl₂.rest.trans (hr₁.trans hyv)), hyi]
    have hrun : run (params (m + 1) acc) s =
        (some (acc ++ [x]), (run (isAt .ident) (run (isAt .comma) s₁).2).2) := by
      simp [params, hr, hcomma, hident]
    rw [hrun]
    exact ⟨rfl, (hl₂.trans hl₃).rest.trans hr₁, hc₁.trans (hl₂.trans hl₃).clean,
      (hl₂.trans hl₃).tree.trans ht₁⟩
  | @next x ts xs ts' hx hp ih =>
    intro n acc s hs ht hn
    obtain ⟨m, rfl⟩ : ∃ m, n = m + 1 := ⟨n - 1, by simp at hn; omega⟩
    obtain ⟨s₁, hr, hr₁, hc₁, ht₁⟩ := expect_step s DiagCode.expectIdentifier "expected parameter name"
      hs (hs ▸ ht) hx (by simp) (by simp)
    -- the next parameter, with no comma before it
    obtain ⟨y, v, hyv, hy⟩ := hp.head
    have hl₂ := isAt_looked s₁ .comma
    have hl₃ := isAt_looked (run (isAt .comma) s₁).2 .ident
    have hcomma : (run (isAt .comma) s₁).1 = false := by simp [isAt_fst s₁ (hr₁.trans hyv), hy]
    have hident : (run (isAt .ident) (run (isAt .comma) s₁).2).1 = true := by
      simp [isAt_fst _ (hl₂.rest.trans (hr₁.trans hyv)), hy]
    have hrun : run (params (m + 1) acc) s =
        run (params m (acc ++ [x])) (run (isAt .ident) (run (isAt .comma) s₁).2).2 := by
      simp [params, hr, hcomma, hident]
    obtain ⟨h₁, h₂, h₃, h₄⟩ := ih hend m (acc ++ [x]) _ ((hl₂.trans hl₃).rest.trans hr₁)
      (ht.tail (by simp [hx])).2 (by simp at hn; omega)
    rw [hrun]
    exact ⟨by simp [h₁], h₂, (hc₁.trans (hl₂.trans hl₃).clean).trans h₃,
      h₄.trans ((hl₂.trans hl₃).tree.trans ht₁)⟩
  | @comma x c ts xs ts' hx hc hp ih =>
    intro n acc s hs ht hn
    obtain ⟨m, rfl⟩ : ∃ m, n = m + 1 := ⟨n - 1, by simp at hn; omega⟩
    obtain ⟨s₁, hr, hr₁, hc₁, ht₁⟩ := expect_step s DiagCode.expectIdentifier "expected parameter name"
      hs (hs ▸ ht) hx (by simp) (by simp)
    -- a comma, then the next parameter
    have ht₁' : Terminated s₁.rest := hr₁ ▸ (ht.tail (by simp [hx])).2
    have hl₂ := isAt_looked s₁ .comma
    have hcomma : (run (isAt .comma) s₁).1 = true := by simp [isAt_fst s₁ hr₁, hc]
    obtain ⟨-, hr₃, hc₃, ht₃⟩ := advance_looked s₁ hl₂ hr₁ ht₁' (by simp [hc]) (by simp [hc])
    have hrun : run (params (m + 1) acc) s =
        run (params m (acc ++ [x])) (run advance (run (isAt .comma) s₁).2).2 := by
      simp [params, hr, hcomma]
    obtain ⟨h₁, h₂, h₃, h₄⟩ := ih hend m (acc ++ [x]) _ hr₃ ((hr₁ ▸ ht₁').tail (by simp [hc])).2
      (by simp at hn; omega)
    rw [hrun]
    exact ⟨by simp [h₁], h₂, (hc₁.trans hc₃).trans h₃, h₄.trans (ht₃.trans ht₁)⟩

/-! ### Expressions -/

section Expressions

/-- What a run of an expression parser from `s` to `s'` with result `r` did on a phrase that
leaves `ts'` and denotes `e`: it read exactly the phrase, raised no flag, only added records to
the tree, and returned the root of a shape laid out since the tree `t` that holds `e`. -/
structure Decoded (t : Tree) (e : Term) (ts' : List Token) (s s' : ParseState) (r : Option Nat) :
    Prop where
  rest : s'.rest = ts'
  clean : Clean s s'
  file : s'.tree.file = s.tree.file
  adds : Adds s.tree s'.tree
  shape : ∃ sh, Fresh t s'.tree sh ∧ r = some sh.root ∧ sh.term s'.tree = e

namespace Decoded

variable {t : Tree} {e f a : Term} {ts ts' : List Token} {s s₁ s₂ : ParseState} {r : Option Nat}

/-- Steps that only read, taken before a decoded run. -/
theorem since (h : Decoded t e ts' s₁ s₂ r) (hc : Clean s s₁) (hfile : s₁.tree.file = s.tree.file)
    (ha : Adds s.tree s₁.tree) : Decoded t e ts' s s₂ r :=
  ⟨h.rest, hc.trans h.clean, h.file.trans hfile, ha.trans h.adds, h.shape⟩

theorem since_clean (h : Decoded t e ts' s₁ s₂ r) (hc : Clean s s₁) (ht : s₁.tree = s.tree) :
    Decoded t e ts' s s₂ r :=
  h.since hc (by rw [ht]) (by rw [ht]; exact Adds.refl _)

theorem looked (h : Decoded t e ts' s₁ s₂ r) (hl : Looked s s₁) : Decoded t e ts' s s₂ r :=
  h.since_clean hl.clean hl.tree

/-- A decoded run returns a result. -/
theorem ne_none (h : Decoded t e ts s s₁ r) : r ≠ none := by
  obtain ⟨_, -, rfl, -⟩ := h.shape
  simp

/-- Steps that leave the tree as it is, taken after a decoded run. -/
theorem after (h : Decoded t e ts s s₁ r) (hc : Clean s₁ s₂) (ht : s₂.tree = s₁.tree)
    (hr : s₂.rest = ts') : Decoded t e ts' s s₂ r := by
  refine ⟨hr, h.clean.trans hc, by rw [ht, h.file], ht ▸ h.adds, ?_⟩
  rw [ht]
  exact h.shape

theorem look (h : Decoded t e ts s s₁ r) (hl : Looked s₁ s₂) : Decoded t e ts s s₂ r :=
  h.after hl.clean hl.tree (hl.rest.trans h.rest)

/-- An application record added after its decoded operator and operand. -/
theorem app {acc : Option Nat} {j : Nat} (ht : Adds t s.tree) (hl : Decoded t f ts s s₁ acc)
    (hr : Decoded s₁.tree a ts' s₁ s₂ (some j))
    (hf : (run (onTree (newApp acc (some j))) s₂).2.tree.failure = none) :
    Decoded t (.app f a) ts' s (run (onTree (newApp acc (some j))) s₂).2
      (run (onTree (newApp acc (some j))) s₂).1 := by
  obtain ⟨shl, hfl, rfl, htl⟩ := hl.shape
  obtain ⟨shr, hfr, hj, htr⟩ := hr.shape
  obtain rfl := Option.some.inj hj
  rw [onTree_run, newApp_eq] at hf ⊢
  obtain ⟨ha₃, -, hs₃⟩ := pushExpr_spec s₂.tree
    (.app shl.root shr.root ((s₂.tree.exprSpan shl.root).cover (s₂.tree.exprSpan shr.root)))
  obtain ⟨hres, hex⟩ := hs₃ hf
  refine ⟨by simpa using hr.rest, hl.clean.trans (hr.clean.trans (clean_tree _ _)),
    by simp [hr.file, hl.file], hl.adds.trans (hr.adds.trans ha₃),
    _, Fresh.app (ht.trans hl.adds) hfl hr.adds hfr ha₃ hex, hres, ?_⟩
  simp only [Shape.term, (hr.adds.trans ha₃).term hfl.realizes, ha₃.term hfr.realizes, htl, htr]

end Decoded

variable (fid : Nat)

/-- With fuel `n` the parser `x` decodes the phrase read from `ts` to `ts'` as `e`, from every
state in file `fid` with the tokens `ts` left and at least `3 * ts.length + c` fuel, when the
tree does not fail. -/
def Decodes (x : Nat → ParseM (Option Nat)) (c : Nat) (ts : List Token) (e : Term) (ts' : List Token) :
    Prop :=
  ∀ n s, s.rest = ts → Terminated ts → s.tree.file = fid → 3 * ts.length + c ≤ n →
    (run (x n) s).2.tree.failure = none → Decoded s.tree e ts' s (run (x n) s).2 (run (x n) s).1

/-- The operands loop decodes further operands, read from `ts` to `ts'`, onto an application
denoting `f` that was laid out since the tree `t`, as `g`. -/
def DecodesMore (f : Term) (ts : List Token) (g : Term) (ts' : List Token) : Prop :=
  ∀ n t s₀ s (acc : Option Nat), Decoded t f ts s₀ s acc → Adds t s₀.tree → Terminated ts →
    s₀.tree.file = fid → 3 * ts.length + 2 ≤ n → (run (operands n acc) s).2.tree.failure = none →
    Decoded t g ts' s₀ (run (operands n acc) s).2 ((run (operands n acc) s).1.bind id)

/-- What the parser of each phrase does on that phrase, followed by what may follow it. -/
def Completes : Phrase → List Token → Term → List Token → Prop
  | .expr, ts, e, ts' => EndsExpr ts' → Decodes fid expr 3 ts e ts'
  | .abstraction, ts, e, ts' => EndsExpr ts' → Decodes fid abstraction 2 ts e ts'
  | .application, ts, e, ts' => EndsExpr ts' → Decodes fid application 2 ts e ts'
  | .operand, ts, e, ts' => Decodes fid operand 1 ts e ts'
  | .more f, ts, g, ts' => EndsOperands ts' → DecodesMore fid f ts g ts'

variable {fid}

/-- An identifier operand: its identifier record, then a reference to it. -/
theorem decodes_ident {x : Token} {ts : List Token} (hx : x.kind = .ident) :
    Decodes fid operand 1 (x :: ts) (leaf fid x) ts := by
  intro n s hs ht hfid hn hf
  obtain ⟨m, rfl⟩ : ∃ m, n = m + 1 := ⟨n - 1, by simp at hn; omega⟩
  have hl₁ := isAt_looked s .ident
  have hi : (run (isAt .ident) s).1 = true := by simp [isAt_fst s hs, hx]
  obtain ⟨htok, hr₂, hc₂, ht₂⟩ := advance_looked s hl₁ hs (hs ▸ ht) (by simp [hx]) (by simp [hx])
  generalize hs₂ : run advance (run (isAt .ident) s).2 = r₂ at htok hr₂ hc₂ ht₂
  obtain ⟨tok, s₂⟩ := r₂
  dsimp only at htok hr₂ hc₂ ht₂
  subst htok
  obtain ⟨ha₃, -, hs₃⟩ := newIdentOf_spec s₂ tok none
  have hrec₃ := newIdentOf_record s₂ tok none
  have hfile₃ := newIdentOf_file s₂ tok none
  have hframe₃ := clean_of_frame (newIdentOf_frame s₂ tok none)
  have hc₃ : Clean s (run (newIdentOf tok none) s₂).2 := hc₂.trans hframe₃.1
  have hr₃ : (run (newIdentOf tok none) s₂).2.rest = ts := by simpa [hframe₃.2] using hr₂
  cases hv : (run (newIdentOf tok none) s₂).1 with
  | none =>
    -- no identifier only after a failure, which the end of the operand would keep
    have hf₃ := newIdentOf_failed s₂ tok none hv
    have hrun : run (operand (m + 1)) s = (none, (run (newIdentOf tok none) s₂).2) := by
      simp [operand, hi, hs₂, hv, onTree_run, newRef_failed _ hf₃]
    rw [hrun] at hf
    simp only at hf
    simp [hf] at hf₃
  | some v =>
    generalize hs₃' : (run (newIdentOf tok none) s₂).2 = s₃ at ha₃ hs₃ hrec₃ hfile₃ hc₃ hr₃
    have hrun : run (operand (m + 1)) s = run (onTree (newRef (some v))) s₃ := by
      simp [operand, hi, hs₂, hv, hs₃']
    rw [hrun, onTree_run, newRef_eq] at hf ⊢
    obtain ⟨ha₄, -, hs₄⟩ := pushExpr_spec s₃.tree (.ref v (s₃.tree.ident v).span)
    have hf₃ := ha₄.sticky hf
    obtain ⟨hv', hnamed, -, -⟩ := hs₃ hf₃
    rw [hv] at hv'
    cases hv'
    obtain ⟨-, hname₃, hspan₃⟩ := hrec₃ hf₃
    obtain ⟨hres, hex⟩ := hs₄ hf
    refine ⟨by simpa using hr₃, hc₃.trans (clean_tree _ _), by simp [hfile₃, ht₂], ht₂ ▸ ha₃.trans ha₄,
      _, Fresh.ref (ht₂ ▸ ha₃) hnamed ha₄ hex, hres, ?_⟩
    rw [Shape.term_ref (expr_push hex).2, (ha₄.grows.named _ hnamed).2, hname₃, hspan₃ rfl, ht₂, hfid]
    rfl

/-- No further operand: the loop returns the application built so far. -/
theorem decodesMore_stop {f : Term} {ts : List Token} (hend : EndsOperands ts) :
    DecodesMore fid f ts f ts := by
  intro n t s₀ s acc hd _ ht _ hn _
  obtain ⟨m, rfl⟩ : ∃ m, n = m + 1 := ⟨n - 1, by omega⟩
  obtain ⟨x, u, hrest⟩ := List.exists_cons_of_ne_nil ht.ne_nil
  have hx := hend x (by simp [hrest])
  have hat : (run atOperand s).1 = false := by
    simp [atOperand_fst s (hd.rest.trans hrest), hx.1, hx.2]
  have hrun : run (operands (m + 1) acc) s = (some acc, (run atOperand s).2) := by
    simp [operands, hat]
  rw [hrun]
  exact hd.look (atOperand_looked s)

/-- A further operand: it is applied onto the application built so far, and the loop goes on. -/
theorem decodesMore_more {f a g : Term} {ts₀ ts₁ ts₂ : List Token}
    (hd : Derives fid .operand ts₀ a ts₁) (hop : Decodes fid operand 1 ts₀ a ts₁)
    (hmore : DecodesMore fid (.app f a) ts₁ g ts₂) : DecodesMore fid f ts₀ g ts₂ := by
  intro n t s₀ s acc hdec ht₀ ht hfid hn hf
  obtain ⟨m, rfl⟩ : ∃ m, n = m + 1 := ⟨n - 1, by omega⟩
  obtain ⟨x, u, hrest, hx⟩ := hd.operand_head
  obtain ⟨hcons, hlen⟩ := hd.consumes
  have hlen := hlen fun _ h => nomatch h
  have hat : (run atOperand s).1 = true := by simp [atOperand_fst s (hdec.rest.trans hrest), hx]
  have hl₁ := atOperand_looked s
  generalize hs₁ : (run atOperand s).2 = s₁ at hl₁
  have hdec₁ := hdec.look hl₁
  have hfile₁ : s₁.tree.file = fid := by rw [hl₁.tree, hdec.file, hfid]
  cases hi : (run (operand m) s₁).1 with
  | none =>
    have hrun : run (operands (m + 1) acc) s = (none, (run (operand m) s₁).2) := by
      simp [operands, hat, hs₁, hi]
    rw [hrun] at hf
    exact ((hop m s₁ (hl₁.rest.trans hdec.rest) ht hfile₁ (by omega) hf).ne_none hi).elim
  | some arg =>
    generalize hs₂ : (run (operand m) s₁).2 = s₂
    have hrun : run (operands (m + 1) acc) s =
        run (operands m (run (onTree (newApp acc (some arg))) s₂).1)
          (run (onTree (newApp acc (some arg))) s₂).2 := by
      simp [operands, hat, hs₁, hi, hs₂]
    rw [hrun] at hf ⊢
    have hf₃ := operands_sticky m _ _ hf
    have hdo := hop m s₁ (hl₁.rest.trans hdec.rest) ht hfile₁ (by omega)
      (by rw [hs₂]; exact newApp_sticky s₂.tree acc (some arg) hf₃)
    rw [hs₂, hi] at hdo
    exact hmore m t s₀ _ _ (hdec₁.app ht₀ hdo hf₃) ht₀ (hcons.terminated ht) hfid (by omega) hf

/-- A parenthesized expression: the parentheses add nothing to the term. -/
theorem decodes_paren {lp rp : Token} {ts₀ ts₁ : List Token} {e : Term} (hlp : lp.kind = .lparen)
    (hd : Derives fid .expr ts₀ e (rp :: ts₁)) (he : Decodes fid expr 3 ts₀ e (rp :: ts₁))
    (hrp : rp.kind = .rparen) : Decodes fid operand 1 (lp :: ts₀) e ts₁ := by
  intro n s hs ht hfid hn hf
  obtain ⟨m, rfl⟩ : ∃ m, n = m + 1 := ⟨n - 1, by simp at hn; omega⟩
  have hl₁ := isAt_looked s .ident
  have hi : (run (isAt .ident) s).1 = false := by simp [isAt_fst s hs, hlp]
  generalize hs₁ : (run (isAt .ident) s).2 = s₁ at hl₁
  obtain ⟨s₂, hexp, hr₂, hc₂, ht₂⟩ := expect_step s₁ DiagCode.expectExpression
    "expected identifier or '('" (hl₁.rest.trans hs) (by rw [hl₁.rest, hs]; exact ht) hlp (by simp) (by simp)
  have ht₂' : s₂.tree = s.tree := ht₂.trans hl₁.tree
  have htu := (ht.tail (by simp [hlp])).2
  have hdo := he m s₂ hr₂ htu (by rw [ht₂', hfid]) (by simp at hn; omega)
  rw [ht₂'] at hdo
  cases hin : (run (expr m) s₂).1 with
  | none =>
    have hrun : run (operand (m + 1)) s = (none, (run (expr m) s₂).2) := by
      simp [operand, hi, hs₁, hexp, hin]
    rw [hrun] at hf
    exact ((hdo hf).ne_none hin).elim
  | some inner =>
    generalize hs₃ : (run (expr m) s₂).2 = s₃ at hdo
    rw [hin] at hdo
    have hl₄ := isAt_looked s₃ .rparen
    -- either way the operand ends with the tree the expression left
    have htree : (run (operand (m + 1)) s).2.tree = s₃.tree := by
      by_cases hc : (run (isAt .rparen) s₃).1 = true <;> simp [operand, hi, hs₁, hexp, hin, hs₃, hc]
    have hdo := hdo (htree ▸ hf)
    have hc : (run (isAt .rparen) s₃).1 = true := by simp [isAt_fst s₃ hdo.rest, hrp]
    obtain ⟨-, hr₅, hc₅, ht₅⟩ := advance_looked s₃ hl₄ hdo.rest
      (hdo.rest ▸ hd.consumes.1.terminated htu) (by simp [hrp]) (by simp [hrp])
    have hrun : run (operand (m + 1)) s = (some inner, (run advance (run (isAt .rparen) s₃).2).2) := by
      simp [operand, hi, hs₁, hexp, hin, hs₃, hc]
    rw [hrun]
    exact (hdo.since_clean (hl₁.clean.trans hc₂) ht₂').after hc₅ ht₅ hr₅

/-- The first operand of an application and the operands after it. -/
theorem decodes_firstMore {a f : Term} {ts₀ ts₁ ts₂ : List Token} (hd : Derives fid .operand ts₀ a ts₁)
    (hop : Decodes fid operand 1 ts₀ a ts₁) (hmore : DecodesMore fid a ts₁ f ts₂) {m first : Nat}
    {s : ParseState} (hs : s.rest = ts₀) (ht : Terminated ts₀) (hfid : s.tree.file = fid)
    (hn : 3 * ts₀.length + 1 ≤ m) (hi : (run (operand m) s).1 = some first)
    (hf : (run (operands m (some first)) (run (operand m) s).2).2.tree.failure = none) :
    Decoded s.tree f ts₂ s (run (operands m (some first)) (run (operand m) s).2).2
      ((run (operands m (some first)) (run (operand m) s).2).1.bind id) := by
  obtain ⟨hcons, hlen⟩ := hd.consumes
  have hlen := hlen fun _ h => nomatch h
  have hdo := hop m s hs ht hfid hn (operands_sticky m _ _ hf)
  rw [hi] at hdo
  exact hmore m s.tree s _ _ hdo (Adds.refl _) (hcons.terminated ht) hfid (by omega) hf

/-- Whatever follows the operands of an application, the tree they leave does not fail when the
tree at the end does not. -/
theorem application_sticky {m first : Nat} {e : Option Nat} {s s₃ : ParseState}
    (hat : (run atOperand s).1 = true) (hi : (run (operand m) (run atOperand s).2).1 = some first)
    (hr : run (operands m (some first)) (run (operand m) (run atOperand s).2).2 = (some e, s₃))
    (hf : (run (application (m + 1)) s).2.tree.failure = none) : s₃.tree.failure = none := by
  have hl₄ := isAt_looked s₃ .lambda
  rw [← hl₄.tree]
  by_cases hlam : (run (isAt .lambda) s₃).1 = true
  · have ha₄ := ((parses m).2.1 (run (isAt .lambda) s₃).2).adds
    cases hb : (run (abstraction m) (run (isAt .lambda) s₃).2).1 with
    | none =>
      have hrun : run (application (m + 1)) s =
          (none, (run (abstraction m) (run (isAt .lambda) s₃).2).2) := by
        simp [application, hat, hi, hr, hlam, hb]
      rw [hrun] at hf
      exact ha₄.sticky hf
    | some arg =>
      have hrun : run (application (m + 1)) s =
          run (onTree (newApp e (some arg))) (run (abstraction m) (run (isAt .lambda) s₃).2).2 := by
        simp [application, hat, hi, hr, hlam, hb]
      rw [hrun, onTree_run] at hf
      exact ha₄.sticky (newApp_sticky _ e (some arg) hf)
  · have hrun : run (application (m + 1)) s = (e, (run (isAt .lambda) s₃).2) := by
      simp [application, hat, hi, hr, hlam]
    rw [hrun] at hf
    exact hf

/-- The operands of an application, the first and the loop after it, decoded from the start of
the application whenever the tree at its end does not fail. -/
theorem decodes_applicationOperands {a f : Term} {ts₀ ts₁ ts₂ : List Token}
    (hd : Derives fid .operand ts₀ a ts₁) (hop : Decodes fid operand 1 ts₀ a ts₁)
    (hmore : DecodesMore fid a ts₁ f ts₂) {m : Nat} {s : ParseState} (hs : s.rest = ts₀)
    (ht : Terminated ts₀) (hfid : s.tree.file = fid) (hn : 3 * ts₀.length + 2 ≤ m + 1)
    (hf : (run (application (m + 1)) s).2.tree.failure = none) :
    (run atOperand s).1 = true ∧ ∃ first e s₃, (run (operand m) (run atOperand s).2).1 = some first ∧
      run (operands m (some first)) (run (operand m) (run atOperand s).2).2 = (some e, s₃) ∧
      Decoded s.tree f ts₂ s s₃ e := by
  obtain ⟨x, u, hrest, hx⟩ := hd.operand_head
  have hat : (run atOperand s).1 = true := by simp [atOperand_fst s (hs.trans hrest), hx]
  have hl₁ := atOperand_looked s
  have hfile₁ : (run atOperand s).2.tree.file = fid := by rw [hl₁.tree, hfid]
  refine ⟨hat, ?_⟩
  cases hi : (run (operand m) (run atOperand s).2).1 with
  | none =>
    have hrun : run (application (m + 1)) s = (none, (run (operand m) (run atOperand s).2).2) := by
      simp [application, hat, hi]
    rw [hrun] at hf
    exact ((hop m _ (hl₁.rest.trans hs) ht hfile₁ (by omega) hf).ne_none hi).elim
  | some first =>
    have hpre := fun hf₃ => decodes_firstMore hd hop hmore (hl₁.rest.trans hs) ht hfile₁ (by omega) hi hf₃
    generalize hr : run (operands m (some first)) (run (operand m) (run atOperand s).2).2 = r at hpre
    obtain ⟨e?, s₃⟩ := r
    dsimp only at hpre
    cases e? with
    | none =>
      have hrun : run (application (m + 1)) s = (none, s₃) := by simp [application, hat, hi, hr]
      rw [hrun] at hf
      exact ((hpre hf).ne_none rfl).elim
    | some e' =>
      have hdo := hpre (application_sticky hat hi hr hf)
      rw [hl₁.tree] at hdo
      exact ⟨first, e', s₃, rfl, hr, hdo.looked hl₁⟩

/-- An application of operands only, followed by what may follow an expression. -/
theorem decodes_operands {a e : Term} {ts₀ ts₁ ts₂ : List Token} (hd : Derives fid .operand ts₀ a ts₁)
    (hop : Decodes fid operand 1 ts₀ a ts₁) (hdm : Derives fid (.more a) ts₁ e ts₂)
    (hmore : DecodesMore fid a ts₁ e ts₂) (hend : EndsExpr ts₂) :
    Decodes fid application 2 ts₀ e ts₂ := by
  intro n s hs ht hfid hn hf
  obtain ⟨m, rfl⟩ : ∃ m, n = m + 1 := ⟨n - 1, by omega⟩
  obtain ⟨hat, first, e', s₃, hi, hr, hdo⟩ := decodes_applicationOperands hd hop hmore hs ht hfid hn hf
  have hl₄ := isAt_looked s₃ .lambda
  -- the operands end where the expression does, before no abstraction
  have hlam : (run (isAt .lambda) s₃).1 = false := by
    obtain ⟨y, v, hy⟩ := List.exists_cons_of_ne_nil
      (hdm.consumes.1.terminated (hd.consumes.1.terminated ht)).ne_nil
    simp [isAt_fst s₃ (hdo.rest.trans hy), (hend y (by simp [hy])).2.2]
  have hrun : run (application (m + 1)) s = (e', (run (isAt .lambda) s₃).2) := by
    simp [application, hat, hi, hr, hlam]
  rw [hrun]
  exact hdo.look hl₄

/-- An application whose last argument is an abstraction. -/
theorem decodes_trailing {a f b : Term} {ts₀ ts₁ ts₂ ts₃ : List Token}
    (hd : Derives fid .operand ts₀ a ts₁) (hop : Decodes fid operand 1 ts₀ a ts₁)
    (hdm : Derives fid (.more a) ts₁ f ts₂) (hmore : DecodesMore fid a ts₁ f ts₂)
    (hda : Derives fid .abstraction ts₂ b ts₃) (habs : Decodes fid abstraction 2 ts₂ b ts₃) :
    Decodes fid application 2 ts₀ (.app f b) ts₃ := by
  intro n s hs ht hfid hn hf
  obtain ⟨m, rfl⟩ : ∃ m, n = m + 1 := ⟨n - 1, by omega⟩
  obtain ⟨y, v, hrest₂, hy⟩ := hda.abstraction_head
  have hlen₁ := hd.consumes.2 fun _ h => nomatch h
  have hlen₂ := hdm.consumes.1.length_le
  have ht₂ := hdm.consumes.1.terminated (hd.consumes.1.terminated ht)
  obtain ⟨hat, first, e', s₃, hi, hr, hdo⟩ := decodes_applicationOperands hd hop hmore hs ht hfid hn hf
  have hl₄ := isAt_looked s₃ .lambda
  have hlam : (run (isAt .lambda) s₃).1 = true := by simp [isAt_fst s₃ (hdo.rest.trans hrest₂), hy]
  have hab := habs m (run (isAt .lambda) s₃).2 (hl₄.rest.trans hdo.rest) ht₂
    (by rw [hl₄.tree, hdo.file, hfid]) (by omega)
  cases hb : (run (abstraction m) (run (isAt .lambda) s₃).2).1 with
  | none =>
    have hrun : run (application (m + 1)) s =
        (none, (run (abstraction m) (run (isAt .lambda) s₃).2).2) := by
      simp [application, hat, hi, hr, hlam, hb]
    rw [hrun] at hf
    exact ((hab hf).ne_none hb).elim
  | some arg =>
    have hrun : run (application (m + 1)) s =
        run (onTree (newApp e' (some arg))) (run (abstraction m) (run (isAt .lambda) s₃).2).2 := by
      simp [application, hat, hi, hr, hlam, hb]
    rw [hrun] at hf ⊢
    have hab := hab (by rw [onTree_run] at hf; exact newApp_sticky _ e' (some arg) hf)
    rw [hb] at hab
    exact Decoded.app (Adds.refl _) (hdo.look hl₄) hab hf

/-- An abstraction: its parameters become one identifier chain, laid out after the body. -/
theorem decodes_abstraction {lam close : Token} {ts₀ ts₁ ts₂ xs : List Token} {b : Term}
    (hlam : lam.kind = .lambda) (hps : Params ts₀ xs (close :: ts₁))
    (hclose : close.kind = .dot ∨ close.kind = .arrow) (hb : Decodes fid expr 3 ts₁ b ts₂) :
    Decodes fid abstraction 2 (lam :: ts₀) (.lam (xs.map Token.textString) b) ts₂ := by
  intro n s hs ht hfid hn hf
  obtain ⟨m, rfl⟩ : ∃ m, n = m + 1 := ⟨n - 1, by simp at hn; omega⟩
  have hlen := hps.consumes.2
  simp only [List.length_cons] at hn hlen
  -- the lambda
  obtain ⟨htok, hr₁, hc₁, ht₁⟩ := advance_step s hs (hs ▸ ht) (by simp [hlam]) (by simp [hlam])
  generalize hs₁ : run advance s = r₁ at htok hr₁ hc₁ ht₁
  obtain ⟨lam', s₁⟩ := r₁
  dsimp only at htok hr₁ hc₁ ht₁
  subst lam'
  have htu := (ht.tail (by simp [hlam])).2
  -- the parameters, up to the closing mark
  have hkc : close.kind ≠ .comma ∧ close.kind ≠ .ident := by rcases hclose with h | h <;> simp [h]
  obtain ⟨hp, hr₂, hc₂, ht₂⟩ := Params.completes hps (fun y hy => by simp at hy; subst hy; exact hkc)
    (m + 1) [] s₁ hr₁ htu (by omega)
  simp only [List.nil_append] at hp
  generalize hs₂ : (run (params (m + 1) []) s₁).2 = s₂ at hr₂ hc₂ ht₂
  have hk : ¬(¬(run peek s₂).1.kind = .dot ∧ ¬(run peek s₂).1.kind = .arrow) := by
    rw [peek_run, s₂.cur_of_rest hr₂]
    exact fun h => hclose.elim h.1 h.2
  have hce : close.kind ≠ .eof := by rcases hclose with h | h <;> simp [h]
  have hci : close.kind ≠ .invalid := by rcases hclose with h | h <;> simp [h]
  have ht₂' := hps.consumes.1.terminated htu
  obtain ⟨-, hr₄, hc₄, ht₄⟩ := advance_looked s₂ (peek_looked s₂) hr₂ (hr₂ ▸ ht₂') hce hci
  generalize hs₄ : (run advance (run peek s₂).2).2 = s₄ at hr₄ hc₄ ht₄
  have ht₄' : s₄.tree = s.tree := ht₄.trans (ht₂.trans ht₁)
  have hdo := hb m s₄ hr₄ (ht₂'.tail hce).2 (by rw [ht₄', hfid]) (by omega)
  -- the body
  cases hbody : (run (expr m) s₄).1 with
  | none =>
    have hrun : run (abstraction (m + 1)) s = (none, (run (expr m) s₄).2) := by
      simp [abstraction, hs₁, hp, hs₂, hk, hs₄, hbody]
    rw [hrun] at hf
    exact ((hdo hf).ne_none hbody).elim
  | some body =>
    generalize hs₅ : (run (expr m) s₄).2 = s₅ at hdo
    rw [hbody] at hdo
    obtain ⟨ha₆, -, hs₆⟩ := chainOf_spec xs.reverse none [] s₅ fun _ => rfl
    obtain ⟨hc₆, hr₆⟩ := clean_of_frame (chainOf_frame xs.reverse none s₅)
    have hfile₆ := chainOf_file xs.reverse none s₅
    cases hc : (run (chainOf xs.reverse none) s₅).1 with
    | none =>
      -- a chain of at least one parameter is built unless the tree fails
      have hrun : run (abstraction (m + 1)) s = (none, (run (chainOf xs.reverse none) s₅).2) := by
        simp [abstraction, hs₁, hp, hs₂, hk, hs₄, hbody, hs₅, hc]
      rw [hrun] at hf
      obtain ⟨vs, hch, -, -, hnames⟩ := hs₆ hf
      rw [hc] at hch
      simp only [ChainOpt, List.append_nil] at hch
      subst hch
      simp only [List.map_nil, List.reverse_reverse] at hnames
      exact absurd (List.map_eq_nil_iff.1 hnames.symm) hps.ne_nil
    | some chain =>
      generalize hs₆' : (run (chainOf xs.reverse none) s₅).2 = s₆ at ha₆ hs₆ hc₆ hr₆ hfile₆
      have hrun : run (abstraction (m + 1)) s = run (onTree (pushExpr (.abs chain body
          { lam.span.cover (s₆.tree.exprSpan body) with file := s₆.tree.file }))) s₆ := by
        simp [abstraction, hs₁, hp, hs₂, hk, hs₄, hbody, hs₅, hc, hs₆', onTree_run, newAbs_eq]
      rw [hrun, onTree_run] at hf ⊢
      obtain ⟨ha₇, -, hs₇⟩ := pushExpr_spec s₆.tree (.abs chain body
        { lam.span.cover (s₆.tree.exprSpan body) with file := s₆.tree.file })
      have hf₆ := ha₇.sticky hf
      obtain ⟨hres, hex⟩ := hs₇ hf
      have hdo := hdo (ha₆.sticky hf₆)
      obtain ⟨vs, hch, hnd, hge, hnames⟩ := hs₆ hf₆
      rw [hc] at hch
      simp only [ChainOpt, List.append_nil] at hch
      simp only [List.reverse_reverse] at hnames
      obtain ⟨sb, hfb, hroot, hterm⟩ := hdo.shape
      obtain rfl := Option.some.inj hroot
      have ha₅ : Adds s.tree s₅.tree := ht₄' ▸ hdo.adds
      -- the parameters keep their names in the tree the abstraction is added to
      have hnames₇ : vs.map (run (pushExpr (.abs chain sb.root
          { lam.span.cover (s₆.tree.exprSpan sb.root) with file := s₆.tree.file })) s₆.tree).2.name =
          vs.map s₆.tree.name :=
        List.map_congr_left fun v hv => (ha₇.grows.named v (hch.named v hv)).2
      refine ⟨by simpa [hr₆] using hdo.rest,
        hc₁.trans (hc₂.trans (hc₄.trans (hdo.clean.trans (hc₆.trans (clean_tree _ _))))),
        by simp [hfile₆, hdo.file, ht₄'], ha₅.trans (ha₆.trans ha₇),
        _, Fresh.abs ha₅ (ht₄' ▸ hfb) ha₆ hch hnd hge ha₇ hex, hres, ?_⟩
      simp only [Shape.term, hnames₇, hnames, (ha₆.trans ha₇).term hfb.realizes, hterm]

/-- An expression is the phrase its first token selects, parsed after that look. -/
theorem decodes_expr_of {x : Nat → ParseM (Option Nat)} {ts₀ ts₁ : List Token} {e : Term}
    (hsel : ∀ m s, s.rest = ts₀ → run (expr (m + 1)) s = run (x m) (run (isAt .lambda) s).2)
    (h : Decodes fid x 2 ts₀ e ts₁) : Decodes fid expr 3 ts₀ e ts₁ := by
  intro n s hs ht hfid hn hf
  obtain ⟨m, rfl⟩ : ∃ m, n = m + 1 := ⟨n - 1, by omega⟩
  have hl := isAt_looked s .lambda
  rw [hsel m s hs] at hf ⊢
  have hdo := h m _ (hl.rest.trans hs) ht (by rw [hl.tree, hfid]) (by omega) hf
  rw [hl.tree] at hdo
  exact hdo.looked hl

/-- An expression that starts with a lambda is an abstraction. -/
theorem decodes_ofAbstraction {ts₀ ts₁ : List Token} {e : Term}
    (hd : Derives fid .abstraction ts₀ e ts₁) (h : Decodes fid abstraction 2 ts₀ e ts₁) :
    Decodes fid expr 3 ts₀ e ts₁ := by
  obtain ⟨x, u, hrest, hx⟩ := hd.abstraction_head
  refine decodes_expr_of (fun m s hs => ?_) h
  have hlam : (run (isAt .lambda) s).1 = true := by simp [isAt_fst s (hs.trans hrest), hx]
  simp [expr, hlam]

/-- An expression that starts with an operand is an application. -/
theorem decodes_ofApplication {ts₀ ts₁ : List Token} {e : Term}
    (hd : Derives fid .application ts₀ e ts₁) (h : Decodes fid application 2 ts₀ e ts₁) :
    Decodes fid expr 3 ts₀ e ts₁ := by
  obtain ⟨x, u, hrest, hx⟩ := hd.application_head
  refine decodes_expr_of (fun m s hs => ?_) h
  have hlam : (run (isAt .lambda) s).1 = false := by
    rcases hx with hx | hx <;> simp [isAt_fst s (hs.trans hrest), hx]
  simp [expr, hlam]

/-- Completeness: each parser reads a phrase of the grammar, followed by a token that may follow
it, with no flag raised, and returns a shape holding the phrase's term. -/
theorem Derives.completes {p : Phrase} {ts ts' : List Token} {e : Term} (h : Derives fid p ts e ts') :
    Completes fid p ts e ts' := by
  induction h with
  | abstraction hlam hps hclose _ ih => exact fun hend => decodes_abstraction hlam hps hclose (ih hend)
  | ident hx => exact decodes_ident hx
  | paren hlp hd hrp ih =>
    exact decodes_paren hlp hd (ih fun y hy => by simp at hy; subst hy; simp [hrp]) hrp
  | stop => exact fun hend => decodesMore_stop hend
  | more hd _ ih₁ ih₂ => exact fun hend => decodesMore_more hd ih₁ (ih₂ hend)
  | operands hd hdm ih₁ ih₂ => exact fun hend => decodes_operands hd ih₁ hdm (ih₂ hend.operands) hend
  | trailing hd hdm hda ih₁ ih₂ ih₃ =>
    obtain ⟨y, v, rfl, hy⟩ := hda.abstraction_head
    exact fun hend => decodes_trailing hd ih₁ hdm (ih₂ fun z hz => by simp at hz; subst hz; simp [hy])
      hda (ih₃ hend)
  | ofAbstraction hd ih => exact fun hend => decodes_ofAbstraction hd (ih hend)
  | ofApplication hd ih => exact fun hend => decodes_ofApplication hd (ih hend)

end Expressions

/-! ### Statements -/

section Statements

variable {t t₁ : Tree} {j : Nat} {st : String × Term}

/-- Statement record `j` binds `st`: its identifier is named `st.1`, and its expression roots a
linear shape that holds `st.2`. -/
structure Binds (t : Tree) (j : Nat) (st : String × Term) : Prop where
  lt : j < t.stmts.size
  named : t.Named (t.stmt j).var
  name : t.stmtName j = st.1
  shape : ∃ sh, t.Realizes sh ∧ sh.Linear ∧ sh.root = (t.stmt j).expr ∧ sh.term t = st.2

namespace Binds

theorem grow (h : Binds t j st) (ha : Adds t t₁) : Binds t₁ j st := by
  obtain ⟨sh, hr, hl, hroot, hterm⟩ := h.shape
  have hst := ha.stmt h.lt
  obtain ⟨hn, hname⟩ := ha.grows.named _ h.named
  refine ⟨Nat.lt_of_lt_of_le h.lt ha.stmts_size, hst ▸ hn, ?_, sh, ha.realizes hr, hl, hst ▸ hroot,
    (ha.term hr).trans hterm⟩
  rw [stmtName, hst, hname]
  exact h.name

/-- Linking the statements into a program keeps what each binds. -/
theorem program (h : Binds t j st) (filename : String) (L : List Nat) {p : Nat}
    (hp : (run (newProgram filename L) t).1 = some p) : Binds (run (newProgram filename L) t).2 j st := by
  obtain ⟨-, -, -, hst, htok, hid, hex⟩ := newProgram_spec t filename L hp
  obtain ⟨a, hl, hsize, hj⟩ := link_eq L t
  obtain ⟨n, hn⟩ := hj j
  generalize (run (newProgram filename L) t).2 = t' at hst htok hid hex
  have hstmt : t'.stmt j = { t.stmt j with next := n } := by
    rw [Tree.stmt, hst, hl]
    exact hn
  have hg : Grows t t' := ⟨⟨#[], by simp [htok]⟩, ⟨#[], by simp [hid]⟩, ⟨#[], by simp [hex]⟩⟩
  obtain ⟨sh, hr, hlin, hroot, hterm⟩ := h.shape
  obtain ⟨hr', ht'⟩ := hr.keep (hg.keeps sh)
  obtain ⟨hn', hname⟩ := hg.named _ h.named
  refine ⟨?_, by rw [hstmt]; exact hn', ?_, sh, hr', hlin, by rw [hstmt]; exact hroot, ht'.trans hterm⟩
  · rw [hst, hl]
    exact hsize ▸ h.lt
  · rw [stmtName, hstmt]
    exact hname.trans h.name

/-- The statement's name and the term its expression reads back are the ones it binds. -/
theorem read (h : Binds t j st) : (t.stmtName j, t.term (t.stmt j).expr) = st := by
  obtain ⟨sh, hr, hl, hroot, hterm⟩ := h.shape
  rw [h.name, ← hroot, term_eq hr hl, hterm]

theorem map_read {js : List Nat} {sts : List (String × Term)} (h : List.Forall₂ (Binds t) js sts) :
    js.map (fun j => (t.stmtName j, t.term (t.stmt j).expr)) = sts := by
  induction h with
  | nil => rfl
  | cons hb _ ih => rw [List.map_cons, hb.read, ih]

end Binds

/-- What a run of the statement parser from `s` to `s'` with result `r` did on a statement that
binds `st` and leaves `ts'`: it read exactly the statement, raised no flag, kept the file, and
added a statement record that binds `st`. -/
structure StmtDecoded (st : String × Term) (ts' : List Token) (s s' : ParseState) (r : Option Nat) :
    Prop where
  rest : s'.rest = ts'
  clean : Clean s s'
  file : s'.tree.file = s.tree.file
  binds : ∃ j, r = some j ∧ Binds s'.tree j st

theorem StmtDecoded.since_clean {ts' : List Token} {s s₁ s₂ : ParseState} {r : Option Nat}
    (h : StmtDecoded st ts' s₁ s₂ r) (hc : Clean s s₁) (ht : s₁.tree = s.tree) :
    StmtDecoded st ts' s s₂ r :=
  ⟨h.rest, hc.trans h.clean, by rw [h.file, ht], h.binds⟩

/-- A binding, read after the optional `let`: its statement record binds its name to the term of
its expression. -/
theorem Binding.completes {ts ts' : List Token} (h : Binding fid ts st ts') (fuel : Nat)
    (start : Span) (s : ParseState) (hs : s.rest = ts) (ht : Terminated ts) (hfid : s.tree.file = fid)
    (hn : 3 * ts.length + 3 ≤ fuel) (hf : (run (stmtTail fuel start) s).2.tree.failure = none) :
    StmtDecoded st ts' s (run (stmtTail fuel start) s).2 (run (stmtTail fuel start) s).1 := by
  cases h with
  | @mk x eq semi ts₀ ts₁ e hx heq hd hsemi =>
  simp only [List.length_cons] at hn
  have ht₁ := (ht.tail (by simp [hx])).2
  have ht₀ := (ht₁.tail (by simp [heq])).2
  have hdec := Derives.completes hd fun y hy => by simp at hy; subst hy; simp [hsemi]
  -- the name
  obtain ⟨s₁, hr₁, hrest₁, hc₁, htr₁⟩ := expect_step s DiagCode.expectIdentifier
    "expected identifier to bind" hs (hs ▸ ht) hx (by simp) (by simp)
  -- its identifier record
  obtain ⟨ha₂, -, hs₂⟩ := newIdentOf_spec s₁ x none
  have hrec₂ := newIdentOf_record s₁ x none
  obtain ⟨hc₂, hrest₂⟩ := clean_of_frame (newIdentOf_frame s₁ x none)
  rw [hrest₁] at hrest₂
  have hfile₂ := newIdentOf_file s₁ x none
  generalize hr₂ : run (newIdentOf x none) s₁ = r₂ at ha₂ hs₂ hrec₂ hc₂ hrest₂ hfile₂
  obtain ⟨name, s₂⟩ := r₂
  dsimp only at ha₂ hs₂ hrec₂ hc₂ hrest₂ hfile₂
  -- the `=`
  obtain ⟨s₃, hr₃, hrest₃, hc₃, htr₃⟩ := expect_step s₂ DiagCode.expectAssign
    ("expected '=' after " ++ x.textString) hrest₂ (hrest₂ ▸ ht₁) heq (by simp) (by simp)
  -- the expression
  have hdo := hdec fuel s₃ hrest₃ ht₀ (by rw [htr₃, hfile₂, htr₁, hfid]) (by omega)
  cases he : (run (expr fuel) s₃).1 with
  | none =>
    have hrun : run (stmtTail fuel start) s = (none, (run (expr fuel) s₃).2) := by
      simp [stmtTail, hr₁, hr₂, hr₃, he]
    rw [hrun] at hf
    exact ((hdo hf).ne_none he).elim
  | some root =>
    generalize hs₄ : (run (expr fuel) s₃).2 = s₄ at hdo
    rw [he] at hdo
    -- the `;`, where the expression ends once the tree is known not to fail
    have hexp₅ := fun h₄ : s₄.tree.failure = none => expect_step s₄ DiagCode.expectSemicolon
      "expected ';' after expression" (hdo h₄).rest ((hdo h₄).rest ▸ hd.consumes.1.terminated ht₀)
      hsemi (by simp) (by simp)
    generalize hr₅ : run (expect .semicolon DiagCode.expectSemicolon "expected ';' after expression") s₄ = r₅
      at hexp₅
    obtain ⟨semi?, s₅⟩ := r₅
    have htr₅ : s₅.tree = s₄.tree := by
      rw [← expect_tree s₄ .semicolon DiagCode.expectSemicolon, hr₅]
    cases semi? with
    | none =>
      have hrun : run (stmtTail fuel start) s = (none, s₅) := by
        simp [stmtTail, hr₁, hr₂, hr₃, he, hs₄, hr₅]
      rw [hrun] at hf
      obtain ⟨_, h, -⟩ := hexp₅ (htr₅ ▸ hf)
      simp at h
    | some semi' =>
      by_cases hfs : s₅.tree.failure.isSome
      · have hrun : run (stmtTail fuel start) s = (none, s₅) := by
          simp [stmtTail, hr₁, hr₂, hr₃, he, hs₄, hr₅, onTree_run, newStmt_failed _ hfs]
        rw [hrun] at hf
        simp only at hf
        simp [hf] at hfs
      · have hf₄ : s₄.tree.failure = none := htr₅ ▸ (by simpa using hfs)
        obtain ⟨_, hpair, hrest₅, hc₅, -⟩ := hexp₅ hf₄
        rw [Prod.mk.injEq] at hpair
        obtain ⟨hsemi', rfl⟩ := hpair
        cases hsemi'
        have hdo := hdo hf₄
        have ha₂₄ : Adds s₂.tree s₄.tree := htr₃ ▸ hdo.adds
        obtain ⟨rfl, hnamed, -, -⟩ := hs₂ (ha₂₄.sticky hf₄)
        obtain ⟨-, hname, -⟩ := hrec₂ (ha₂₄.sticky hf₄)
        -- the statement record
        have hrun : run (stmtTail fuel start) s =
            run (onTree (newStmt (some s₁.tree.idents.size) (some root) (start.cover semi.span))) s₅ := by
          simp [stmtTail, hr₁, hr₂, hr₃, he, hs₄, hr₅]
        rw [hrun, onTree_run] at hf ⊢
        obtain ⟨ha₆, hs₆⟩ := newStmt_spec s₅.tree s₁.tree.idents.size root (start.cover semi.span)
        obtain ⟨hj, sp, hst⟩ := hs₆ hf
        have ha₄₆ : Adds s₄.tree (run (newStmt (some s₁.tree.idents.size) (some root)
            (start.cover semi.span)) s₅.tree).2 := htr₅ ▸ ha₆
        have hstmt : (run (newStmt (some s₁.tree.idents.size) (some root) (start.cover semi.span))
            s₅.tree).2.stmt
            s₅.tree.stmts.size = ⟨s₁.tree.idents.size, root, none, sp, none⟩ := by
          simp [Tree.stmt, hst]
        obtain ⟨sh, hfr, hroot, hterm⟩ := hdo.shape
        obtain rfl := Option.some.inj hroot
        obtain ⟨hn₆, hname₆⟩ := (ha₂₄.trans ha₄₆).grows.named _ hnamed
        refine ⟨by simpa using hrest₅, hc₁.trans (hc₂.trans (hc₃.trans (hdo.clean.trans
          (hc₅.trans (clean_tree _ _))))), by simp [htr₅, hdo.file, htr₃, hfile₂, htr₁],
          _, hj, by simp [hst], by rw [hstmt]; exact hn₆, ?_, sh, ha₄₆.realizes hfr.realizes,
          hfr.linear, by rw [hstmt], (ha₄₆.term hfr.realizes).trans hterm⟩
        rw [stmtName, hstmt]
        exact hname₆.trans hname

/-- A statement: its optional `let`, then its binding. -/
theorem Statement.completes {ts ts' : List Token} (h : Statement fid ts st ts') (fuel : Nat)
    (s : ParseState) (hs : s.rest = ts) (ht : Terminated ts) (hfid : s.tree.file = fid)
    (hn : 3 * ts.length + 3 ≤ fuel) (hf : (run (stmt fuel) s).2.tree.failure = none) :
    StmtDecoded st ts' s (run (stmt fuel) s).2 (run (stmt fuel) s).1 := by
  have hl := (peek_looked s).trans (isAt_looked (run peek s).2 .kwLet)
  rw [stmt_run] at hf ⊢
  cases h with
  | bare hb =>
    obtain ⟨x, u, hx, hk⟩ := hb.head
    rw [if_neg (by rw [s.cur_of_rest (hs.trans hx), hk]; simp)] at hf ⊢
    exact (Binding.completes hb fuel _ _ (hl.rest.trans hs) ht (by rw [hl.tree, hfid]) hn hf).since_clean
      hl.clean hl.tree
  | withLet hkw hb =>
    rw [if_pos (by rw [s.cur_of_rest hs]; exact hkw)] at hf ⊢
    obtain ⟨-, hr₁, hc₁, ht₁⟩ := advance_looked s hl hs (hs ▸ ht) (by simp [hkw]) (by simp [hkw])
    simp only [List.length_cons] at hn
    exact (Binding.completes hb fuel _ _ hr₁ (ht.tail (by simp [hkw])).2 (by rw [ht₁, hfid])
      (by omega) hf).since_clean hc₁ ht₁

/-- The statement loop over a whole sentence returns, after `acc`, one statement record per
statement, in source order, each binding the statement's name to its term, and raises no
flag. -/
theorem Sentence.completes {ts : List Token} {sts : List (String × Term)} (h : Sentence fid ts sts) :
    ∀ (n : Nat) (acc : List Nat) (s : ParseState), s.rest = ts → Terminated ts →
      s.tree.file = fid → ts.length ≤ n → s.errors = 0 → (run (stmts n acc) s).2.tree.failure = none →
      Clean s (run (stmts n acc) s).2 ∧ ∃ js, (run (stmts n acc) s).1 = acc ++ js ∧
        List.Forall₂ (Binds (run (stmts n acc) s).2.tree) js sts := by
  induction h with
  | eof he =>
    intro n acc s hs _ _ hn _ _
    obtain ⟨m, rfl⟩ : ∃ m, n = m + 1 := ⟨n - 1, by simp at hn; omega⟩
    have he' : (run (isAt .eof) s).1 = true := by simp [isAt_fst s hs, he]
    have hrun : run (stmts (m + 1) acc) s = (acc, (run (isAt .eof) s).2) := by simp [stmts, he']
    rw [hrun]
    exact ⟨(isAt_looked s .eof).clean, [], by simp, .nil⟩
  | stmt hst _ ih =>
    intro n acc s hs ht hfid hn h0 hf
    obtain ⟨hcons, hlen⟩ := hst.consumes
    obtain ⟨m, rfl⟩ : ∃ m, n = m + 1 := ⟨n - 1, by omega⟩
    obtain ⟨x, u, hx, hk⟩ := hst.head
    have hl₁ := isAt_looked s .eof
    have he' : (run (isAt .eof) s).1 = false := by
      rcases hk with hk | hk <;> simp [isAt_fst s (hs.trans hx), hk]
    have hf₀ := (stmts_adds (m + 1) acc s).sticky hf
    generalize hs₁ : (run (isAt .eof) s).2 = s₁ at hl₁
    -- no error so far and no failure: the loop goes on
    have hstop : ¬((s₁.maxErrors > 0 ∧ s₁.errors ≥ s₁.maxErrors) ∨ s₁.tree.failure.isSome) := by
      rintro (⟨hm, hge⟩ | hfs)
      · rw [hl₁.errors, h0] at hge
        omega
      · simp [hl₁.tree, hf₀] at hfs
    have hbound : 3 * s₁.rest.length + 3 ≤ 4 * s₁.tokens.size + 4 := by
      have := s₁.length_rest_le
      omega
    have hdo := fun hf₂ => Statement.completes hst (4 * s₁.tokens.size + 4) s₁ (hl₁.rest.trans hs) ht
      (by rw [hl₁.tree, hfid]) (by rw [← hl₁.rest.trans hs]; exact hbound) hf₂
    cases hj : (run (stmt (4 * s₁.tokens.size + 4)) s₁).1 with
    | none =>
      have hrun : run (stmts (m + 1) acc) s = run (stmts m acc)
          (run (resync (s₁.tokens.size + 1)) (run (stmt (4 * s₁.tokens.size + 4)) s₁).2).2 := by
        simp [stmts, he', hs₁, hstop, hj]
      rw [hrun] at hf
      obtain ⟨_, h, -⟩ := (hdo ((resync_tree _ _) ▸ (stmts_adds m _ _).sticky hf)).binds
      rw [hj] at h
      cases h
    | some j =>
      have hrun : run (stmts (m + 1) acc) s =
          run (stmts m (acc ++ [j])) (run (stmt (4 * s₁.tokens.size + 4)) s₁).2 := by
        simp [stmts, he', hs₁, hstop, hj]
      rw [hrun] at hf ⊢
      have hdo := hdo ((stmts_adds m _ _).sticky hf)
      obtain ⟨j', hj', hb⟩ := hdo.binds
      obtain rfl := Option.some.inj (hj.symm.trans hj')
      obtain ⟨hc, js, hres, hall⟩ := ih m (acc ++ [j]) _ hdo.rest (hcons.terminated ht)
        (by rw [hdo.file, hl₁.tree, hfid]) (by omega) (by rw [hdo.clean.errors, hl₁.errors, h0]) hf
      refine ⟨hl₁.clean.trans (hdo.clean.trans hc), j :: js, by simp [hres], ?_⟩
      exact .cons (hb.grow (stmts_adds m _ _)) hall

end Statements

end Parser

open Combinatory.Parser in
/-- The parser accepts exactly the grammar. When the tree does not fail, a file parses without
failure exactly when its tokens are a sentence; then the program lists one statement per
statement of the sentence, in order, named as it is and holding its term. As this holds of every
derivation of the tokens, the sentence's terms are unique. -/
theorem parseFile_accepts_grammar (file : SourceFile) (tree : Tree) (rep : Reporter) (maxErrors : Nat)
    (hf : (parseFile file tree rep maxErrors).2.1.failure = none) :
    ((parseFile file tree rep maxErrors).1.failed = false ↔
        ∃ prog, Sentence tree.file file.tokens prog) ∧
      ∀ prog, Sentence tree.file file.tokens prog → ∃ p,
        (parseFile file tree rep maxErrors).1.program = some p ∧
        ((parseFile file tree rep maxErrors).2.1.programStmts p).map (fun j =>
          ((parseFile file tree rep maxErrors).2.1.stmtName j,
            (parseFile file tree rep maxErrors).2.1.term
              ((parseFile file tree rep maxErrors).2.1.stmt j).expr)) = prog := by
  obtain ⟨s₀, hs₀⟩ : ∃ s₀ : ParseState,
      s₀ = ⟨file, file.tokens.toArray, 0, 0, ⟨file.id, 0, 0⟩, false, 0, maxErrors, rep, tree⟩ := ⟨_, rfl⟩
  have hrest₀ : s₀.rest = file.tokens := by simp [hs₀, ParseState.rest]
  obtain ⟨-, hs⟩ := stmts_spec (file.tokens.toArray.size + 1) [] s₀
    fun _ => ⟨List.nodup_nil, by simp, fun _ => default, by simp, by simp, by simp, by simp⟩
  have hsound := stmts_recognizes tree.file (file.tokens.toArray.size + 1) [] s₀
    (hrest₀ ▸ file.tokens_terminated) (by simp [hrest₀])
  have hcomp := fun prog (h : Sentence tree.file file.tokens prog) =>
    Sentence.completes h (file.tokens.toArray.size + 1) [] s₀ hrest₀ file.tokens_terminated
      (by rw [hs₀]) (by simp) (by rw [hs₀])
  generalize hr : run (stmts (file.tokens.toArray.size + 1) []) s₀ = r at hs hsound hcomp
  obtain ⟨ss, s₁⟩ := r
  dsimp only at hs hsound hcomp
  -- after the statements, the program is added unless the tree failed
  have heq : parseFile file tree rep maxErrors =
      if s₁.tree.failure.isSome then (⟨none, ss.length, s₁.errors, s₁.invalid⟩, s₁.tree, s₁.reporter)
      else (⟨(run (Tree.newProgram file.path ss) s₁.tree).1, ss.length, s₁.errors, s₁.invalid⟩,
        (run (Tree.newProgram file.path ss) s₁.tree).2, s₁.reporter) := by
    simp only [parseFile, stateT_run, run_bind, ← hs₀, hr, run_get]
    by_cases hf : s₁.tree.failure.isSome <;> simp [hf, onTree_run]
  by_cases hf₁ : s₁.tree.failure.isSome
  · rw [heq, if_pos hf₁] at hf
    simp only at hf
    simp [hf] at hf₁
  · have hf₁' : s₁.tree.failure = none := by simpa using hf₁
    rw [heq, if_neg hf₁] at hf ⊢
    simp only at hf ⊢
    obtain ⟨p, hp⟩ := Tree.newProgram_some s₁.tree file.path ss hf
    refine ⟨⟨fun hfail => ?_, fun hsentence => ?_⟩, fun prog hprog => ⟨p, hp, ?_⟩⟩
    · -- no error and no invalid token: the tokens are a sentence
      simp only [ParseResult.failed, Bool.or_eq_false_iff, decide_eq_false_iff_not] at hfail
      exact hrest₀ ▸ hsound hf₁' (by omega) hfail.1.2
    · -- a sentence raises no flag, and the program is added
      obtain ⟨prog, hprog⟩ := hsentence
      obtain ⟨hc, -⟩ := hcomp prog hprog hf₁'
      simp [ParseResult.failed, hc.errors, hc.invalid, hp, hs₀]
    · obtain ⟨-, js, hres, hall⟩ := hcomp prog hprog hf₁'
      rw [List.nil_append] at hres
      have hread := Binds.map_read (hall.imp fun _ _ hb => hb.program file.path ss hp)
      rw [← hres] at hread
      rw [(hs hf₁').programStmts file.path hp]
      exact hread

/-- The file a text becomes when it is added in memory: normalized and indexed. -/
def textFile (text : String) : SourceFile :=
  ((FileSet.empty.addVirtual "" text.toUTF8).1.get? 0).getD default

/-- A tree in a fresh arena of 4096 bytes. -/
def freshTree : Tree := match Arena.packed 4096 16 0 with
  | .ok a => .empty a 0
  | .error _ => default

theorem parseFile_accepts_grammar_pair :
    (parseFile (textFile "i = λx.x;\nk = λx y.x;\n") freshTree Reporter.none 0).2.1.failure = none ∧
      (((parseFile (textFile "i = λx.x;\nk = λx y.x;\n") freshTree Reporter.none 0).1.failed = false ↔
          ∃ prog, Sentence freshTree.file (textFile "i = λx.x;\nk = λx y.x;\n").tokens prog) ∧
        ∀ prog, Sentence freshTree.file (textFile "i = λx.x;\nk = λx y.x;\n").tokens prog → ∃ p,
          (parseFile (textFile "i = λx.x;\nk = λx y.x;\n") freshTree Reporter.none 0).1.program = some p ∧
          ((parseFile (textFile "i = λx.x;\nk = λx y.x;\n") freshTree Reporter.none 0).2.1.programStmts p).map
            (fun j => ((parseFile (textFile "i = λx.x;\nk = λx y.x;\n") freshTree Reporter.none 0).2.1.stmtName j,
              (parseFile (textFile "i = λx.x;\nk = λx y.x;\n") freshTree Reporter.none 0).2.1.term
                ((parseFile (textFile "i = λx.x;\nk = λx y.x;\n") freshTree Reporter.none 0).2.1.stmt j).expr)) =
            prog) :=
  have hf : (parseFile (textFile "i = λx.x;\nk = λx y.x;\n") freshTree Reporter.none 0).2.1.failure = none := by
    decide +kernel
  ⟨hf, parseFile_accepts_grammar (textFile "i = λx.x;\nk = λx y.x;\n") freshTree Reporter.none 0 hf⟩

end Combinatory
