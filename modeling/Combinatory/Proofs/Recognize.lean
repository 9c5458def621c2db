import Combinatory.Proofs.Parse
import Combinatory.Proofs.Grammar
import Mathlib

/-! The parser reads the grammar and nothing else: a parser that returns a result has read a
phrase of the grammar (`Derives`), and one that returns none has raised a flag (`Flagged`),
unless the tree failed. The proofs go by induction on the fuel. -/
namespace Combinatory

open Pass Grammar

/-- The tokens the parser has still to read. -/
def ParseState.rest (s : ParseState) : List Token := s.tokens.toList.drop s.pos

/-- The current token. -/
def ParseState.cur (s : ParseState) : Token := s.rest.headD default

theorem ParseState.cur_of_rest {s : ParseState} {x : Token} {u : List Token} (h : s.rest = x :: u) :
    s.cur = x := by
  simp [ParseState.cur, h]

theorem ParseState.length_rest_le (s : ParseState) : s.rest.length ≤ s.tokens.size := by
  simp only [ParseState.rest, List.length_drop, Array.length_toList]
  exact Nat.sub_le _ _

namespace Parser

/-- `s'` has the flags of `s`, and perhaps more: errors are only counted, and an invalid token
once met stays met. -/
structure Raises (s s' : ParseState) : Prop where
  errors : s.errors ≤ s'.errors
  invalid : s.invalid = true → s'.invalid = true

/-- A flag was raised between `s` and `s'`: a syntax error counted or an invalid token met. -/
def Flagged (s s' : ParseState) : Prop := s.errors < s'.errors ∨ s'.invalid = true

/-- `s'` is `s` after looking at tokens: only the lexer's reports moved on. -/
def Looked (s s' : ParseState) : Prop := ∃ r l, s' = { s with reporter := r, lexed := l }

variable {s s₁ s₂ : ParseState}

namespace Raises

theorem refl (s : ParseState) : Raises s s := ⟨Nat.le_refl _, id⟩

theorem trans (h₁ : Raises s s₁) (h₂ : Raises s₁ s₂) : Raises s s₂ :=
  ⟨Nat.le_trans h₁.errors h₂.errors, fun h => h₂.invalid (h₁.invalid h)⟩

theorem of_eq (he : s₁.errors = s.errors) (hi : s₁.invalid = s.invalid) : Raises s s₁ :=
  ⟨Nat.le_of_eq he.symm, fun h => hi ▸ h⟩

end Raises

theorem Flagged.raise (h : Flagged s s₁) (hr : Raises s₁ s₂) : Flagged s s₂ := by
  rcases h with h | h
  · exact .inl (Nat.lt_of_lt_of_le h hr.errors)
  · exact .inr (hr.invalid h)

theorem Flagged.since (h : Flagged s₁ s₂) (hr : Raises s s₁) : Flagged s s₂ := by
  rcases h with h | h
  · exact .inl (Nat.lt_of_le_of_lt hr.errors h)
  · exact .inr h

/-- `s'` has the flags of `s`: no error counted and no invalid token met. -/
structure Clean (s s' : ParseState) : Prop where
  errors : s'.errors = s.errors
  invalid : s'.invalid = s.invalid

namespace Clean

theorem refl (s : ParseState) : Clean s s := ⟨rfl, rfl⟩

theorem trans (h₁ : Clean s s₁) (h₂ : Clean s₁ s₂) : Clean s s₂ :=
  ⟨h₂.errors.trans h₁.errors, h₂.invalid.trans h₁.invalid⟩

theorem raises (h : Clean s s₁) : Raises s s₁ := Raises.of_eq h.errors h.invalid

end Clean

@[simp] theorem rest_tree (s : ParseState) (t : Tree) : ({ s with tree := t } : ParseState).rest = s.rest := rfl

theorem clean_tree (s : ParseState) (t : Tree) : Clean s { s with tree := t } := ⟨rfl, rfl⟩

namespace Looked

theorem refl (s : ParseState) : Looked s s := ⟨s.reporter, s.lexed, rfl⟩

theorem trans (h₁ : Looked s s₁) (h₂ : Looked s₁ s₂) : Looked s s₂ := by
  obtain ⟨r, l, rfl⟩ := h₁
  obtain ⟨r', l', rfl⟩ := h₂
  exact ⟨r', l', rfl⟩

theorem rest (h : Looked s s₁) : s₁.rest = s.rest := by
  obtain ⟨r, l, rfl⟩ := h
  rfl

theorem cur (h : Looked s s₁) : s₁.cur = s.cur := by
  simp [ParseState.cur, h.rest]

theorem errors (h : Looked s s₁) : s₁.errors = s.errors := by
  obtain ⟨r, l, rfl⟩ := h
  rfl

theorem invalid (h : Looked s s₁) : s₁.invalid = s.invalid := by
  obtain ⟨r, l, rfl⟩ := h
  rfl

theorem tree (h : Looked s s₁) : s₁.tree = s.tree := by
  obtain ⟨r, l, rfl⟩ := h
  rfl

theorem clean (h : Looked s s₁) : Clean s s₁ := ⟨h.errors, h.invalid⟩

theorem raises (h : Looked s s₁) : Raises s s₁ := h.clean.raises

end Looked

section Reading

variable (s : ParseState)

theorem lexUpTo_looked (i : Nat) : Looked s (run (lexUpTo i) s).2 := by
  by_cases h : s.lexed ≤ i
  · exact ⟨_, _, by simp [lexUpTo, h]; exact ⟨rfl, rfl⟩⟩
  · exact ⟨s.reporter, s.lexed, by simp [lexUpTo, h]⟩

theorem peek_run : run peek s = (s.cur, (run (lexUpTo s.pos) s).2) := by
  simp [peek, ParseState.cur, ParseState.rest]

theorem peek_looked : Looked s (run peek s).2 := by
  rw [peek_run]
  exact lexUpTo_looked s s.pos

theorem isAt_run (k : TokenKind) : run (isAt k) s = (decide (s.cur.kind = k), (run peek s).2) := by
  simp [isAt, peek_run]

theorem isAt_looked (k : TokenKind) : Looked s (run (isAt k) s).2 := by
  rw [isAt_run]
  exact peek_looked s

theorem atOperand_run :
    run atOperand s = (decide (s.cur.kind = .ident ∨ s.cur.kind = .lparen), (run peek s).2) := by
  simp [atOperand, peek_run]

theorem atOperand_looked : Looked s (run atOperand s).2 := by
  rw [atOperand_run]
  exact peek_looked s

theorem advance_fst : (run advance s).1 = s.cur := by
  simp [advance, peek_run]

@[simp] theorem advance_errors : (run advance s).2.errors = s.errors := by
  simp [advance, peek_run, (lexUpTo_looked s s.pos).errors]

theorem advance_invalid : (run advance s).2.invalid = (s.invalid || decide (s.cur.kind = .invalid)) := by
  simp [advance, peek_run, (lexUpTo_looked s s.pos).invalid]

/-- Consuming a token that is not the last moves on to the next. -/
theorem advance_rest {x : Token} {u : List Token} (h : s.rest = x :: u) (hu : u ≠ []) :
    (run advance s).2.rest = u := by
  have hlen : (s.tokens.toList.drop s.pos).length = u.length + 1 := by
    rw [← ParseState.rest, h, List.length_cons]
  have hlt : s.pos + 1 < s.tokens.size := by
    have : u.length ≠ 0 := by simpa using hu
    simp only [List.length_drop, Array.length_toList] at hlen
    omega
  obtain ⟨r, l, hl⟩ := lexUpTo_looked s s.pos
  simp only [advance, peek_run, run_bind, run_modify, run_pure, hl, ParseState.rest, hlt, ↓reduceIte]
  rw [← List.tail_drop, ← ParseState.rest, h, List.tail_cons]

theorem advance_raises : Raises s (run advance s).2 := by
  refine ⟨by simp, fun h => ?_⟩
  simp [advance_invalid, h]

/-- Consuming the current token `x`, neither the end of the file nor invalid: the next token is
current, with the flags and the tree as they were. -/
theorem advance_step {x : Token} {u : List Token} (h : s.rest = x :: u) (ht : Terminated s.rest)
    (hx : x.kind ≠ .eof) (hi : x.kind ≠ .invalid) :
    (run advance s).1 = x ∧ (run advance s).2.rest = u ∧ Clean s (run advance s).2 ∧
      (run advance s).2.tree = s.tree := by
  have hu := (h ▸ ht).tail hx
  refine ⟨by rw [advance_fst, s.cur_of_rest h], advance_rest s h hu.1, ⟨by simp, ?_⟩, by simp⟩
  simp [advance_invalid, s.cur_of_rest h, hi]

/-- The same, after looking at the token. -/
theorem advance_looked {s₁ : ParseState} (hl : Looked s s₁) {x : Token} {u : List Token}
    (h : s.rest = x :: u) (ht : Terminated s.rest) (hx : x.kind ≠ .eof) (hi : x.kind ≠ .invalid) :
    (run advance s₁).1 = x ∧ (run advance s₁).2.rest = u ∧ Clean s (run advance s₁).2 ∧
      (run advance s₁).2.tree = s.tree := by
  obtain ⟨h₁, h₂, h₃, h₄⟩ := advance_step s₁ (hl.rest.trans h) (hl.rest ▸ ht) hx hi
  exact ⟨h₁, h₂, hl.clean.trans h₃, h₄.trans hl.tree⟩

theorem diagnosticSpan_looked : Looked s (run diagnosticSpan s).2 := by
  have hp := peek_looked s
  by_cases h : (run peek s).1.kind = .eof ∧ (run peek s).2.lastSpan.stop > 0
  · simpa [diagnosticSpan, h] using hp
  · simpa [diagnosticSpan, h] using hp

theorem report_flags (d : Diagnostic) :
    (run (report d) s).2.errors = s.errors + 1 ∧ (run (report d) s).2.invalid = s.invalid ∧
      (run (report d) s).2.rest = s.rest := by
  simp only [report, run_modify]
  split <;> exact ⟨rfl, rfl, rfl⟩

/-- A syntax error raises a flag: it counts an error, or marks the invalid token it is about. -/
theorem fail_flags (code : Nat) (msg : String) (notes : List Note) :
    (run (fail code msg notes) s).2.rest = s.rest ∧ Raises s (run (fail code msg notes) s).2 ∧
      Flagged s (run (fail code msg notes) s).2 := by
  have hp := peek_looked s
  by_cases hk : (run peek s).1.kind = .invalid
  · have hrun : (run (fail code msg notes) s).2 = { (run peek s).2 with invalid := true } := by
      simp [fail, hk]
    rw [hrun]
    exact ⟨hp.rest, ⟨by simp [hp.errors], fun _ => rfl⟩, .inr rfl⟩
  · have hd := hp.trans (diagnosticSpan_looked (run peek s).2)
    obtain ⟨d, hrun⟩ : ∃ d, run (fail code msg notes) s =
        run (report d) (run diagnosticSpan (run peek s).2).2 := ⟨_, by simp [fail, hk]; rfl⟩
    rw [hrun]
    obtain ⟨he, hi, hr⟩ := report_flags (run diagnosticSpan (run peek s).2).2 d
    rw [hd.errors] at he
    rw [hd.invalid] at hi
    exact ⟨hr.trans hd.rest, ⟨by omega, fun h => hi ▸ h⟩, .inl (by omega)⟩

theorem expect_run (k : TokenKind) (code : Nat) (msg : String) :
    run (expect k code msg) s = if s.cur.kind = k then (some s.cur, (run advance (run peek s).2).2)
      else (none, (run (fail code msg) (run peek s).2).2) := by
  by_cases h : s.cur.kind = k <;> simp [expect, isAt_run, h, advance_fst, (peek_looked s).cur]

/-- Expecting the kind of the current token consumes it. -/
theorem expect_step {k : TokenKind} (code : Nat) (msg : String) {x : Token} {u : List Token}
    (h : s.rest = x :: u) (ht : Terminated s.rest) (hx : x.kind = k) (he : k ≠ .eof)
    (hi : k ≠ .invalid) :
    ∃ s₁, run (expect k code msg) s = (some x, s₁) ∧ s₁.rest = u ∧ Clean s s₁ ∧ s₁.tree = s.tree := by
  rw [expect_run, if_pos (by rw [s.cur_of_rest h, hx]), s.cur_of_rest h]
  exact ⟨_, rfl, advance_looked s (peek_looked s) h ht (hx ▸ he) (hx ▸ hi) |>.2⟩

/-- Making an identifier record changes the tree only. -/
theorem newIdentOf_frame (tok : Token) (next : Option Nat) :
    (run (newIdentOf tok next) s).2 = { s with tree := (run (newIdentOf tok next) s).2.tree } := by
  obtain ⟨k?, t₁, hrun₁⟩ : ∃ k? t₁, run (newToken tok) s = (k?, { s with tree := t₁ }) :=
    ⟨_, _, by simp [newToken, onTree_run]; exact ⟨rfl, rfl⟩⟩
  simp [newIdentOf, hrun₁, onTree_run]

/-- Making a chain of identifier records changes the tree only. -/
theorem chainOf_frame : ∀ (toks : List Token) (next : Option Nat) (s : ParseState),
    (run (chainOf toks next) s).2 = { s with tree := (run (chainOf toks next) s).2.tree }
  | [], _, _ => rfl
  | tok :: rest, next, s => by
    have h := chainOf_frame rest (run (newIdentOf tok next) s).1 (run (newIdentOf tok next) s).2
    simp only [chainOf, run_bind] at h ⊢
    rw [h, newIdentOf_frame s tok next]

/-- A step that changes only the tree moves no token and raises no flag. -/
theorem clean_of_frame {s s' : ParseState} (h : s' = { s with tree := s'.tree }) :
    Clean s s' ∧ s'.rest = s.rest := by
  rw [h]
  exact ⟨clean_tree _ _, rfl⟩

theorem isAt_fst {x : Token} {u : List Token} (h : s.rest = x :: u) (k : TokenKind) :
    (run (isAt k) s).1 = decide (x.kind = k) := by
  simp [isAt_run, s.cur_of_rest h]

theorem atOperand_fst {x : Token} {u : List Token} (h : s.rest = x :: u) :
    (run atOperand s).1 = decide (x.kind = .ident ∨ x.kind = .lparen) := by
  simp [atOperand_run, s.cur_of_rest h]

end Reading

/-! ### Parameters -/

/-- The parameter list reads parameters, or raises a flag. -/
theorem params_recognizes : ∀ (n : Nat) (acc : List Token) (s : ParseState),
    Terminated s.rest → s.rest.length ≤ n →
    Raises s (run (params n acc) s).2 ∧ Terminated (run (params n acc) s).2.rest ∧
      ((run (params n acc) s).1 = none → Flagged s (run (params n acc) s).2) ∧
      ∀ ys, (run (params n acc) s).1 = some ys →
        ∃ xs, ys = acc ++ xs ∧ Params s.rest xs (run (params n acc) s).2.rest
  | 0, _, s, ht, hn => absurd (List.eq_nil_of_length_eq_zero (Nat.le_zero.1 hn)) ht.ne_nil
  | n + 1, acc, s, ht, hn => by
    obtain ⟨x, u, hrest⟩ := List.exists_cons_of_ne_nil ht.ne_nil
    have hcur := s.cur_of_rest hrest
    have hp := peek_looked s
    by_cases hx : x.kind = .ident
    · -- a parameter, then a comma, another parameter or the end of the list
      obtain ⟨-, hr₁, hc₁, -⟩ := advance_looked s hp hrest ht (by simp [hx]) (by simp [hx])
      generalize hs₁ : (run advance (run peek s).2).2 = s₁ at hr₁ hc₁
      have hexp : run (expect .ident DiagCode.expectIdentifier "expected parameter name") s =
          (some x, s₁) := by
        rw [expect_run, if_pos (by rw [hcur, hx]), hcur, hs₁]
      have hra₁ : Raises s s₁ := hc₁.raises
      obtain ⟨hu, htu⟩ := (hrest ▸ ht).tail (by simp [hx])
      obtain ⟨c, u', hu'⟩ := List.exists_cons_of_ne_nil hu
      have hl₂ := isAt_looked s₁ .comma
      by_cases hc : c.kind = .comma
      · -- a comma, then the next parameter
        have hcomma : (run (isAt .comma) s₁).1 = true := by simp [isAt_fst s₁ (hr₁.trans hu'), hc]
        obtain ⟨-, hr₃, hc₃, -⟩ := advance_looked s₁ hl₂ (hr₁.trans hu') (hr₁ ▸ htu) (by simp [hc])
          (by simp [hc])
        generalize hs₃ : (run advance (run (isAt .comma) s₁).2).2 = s₃ at hr₃ hc₃
        have hrun : run (params (n + 1) acc) s = run (params n (acc ++ [x])) s₃ := by
          simp [params, hexp, hcomma, hs₃]
        have htu' := ((hu' ▸ htu).tail (by simp [hc])).2
        obtain ⟨ihr, iht, ihn, ihs⟩ := params_recognizes n (acc ++ [x]) s₃ (hr₃ ▸ htu')
          (by rw [hr₃]; simp [hrest, hu'] at hn; omega)
        have hra₃ : Raises s s₃ := hra₁.trans hc₃.raises
        rw [hrun]
        refine ⟨hra₃.trans ihr, iht, fun h => (ihn h).since hra₃, fun ys hys => ?_⟩
        obtain ⟨xs, rfl, hxs⟩ := ihs ys hys
        exact ⟨x :: xs, by simp, hrest ▸ hu' ▸ .comma hx hc (hr₃ ▸ hxs)⟩
      · have hcomma : (run (isAt .comma) s₁).1 = false := by simp [isAt_fst s₁ (hr₁.trans hu'), hc]
        generalize hs₂ : (run (isAt .comma) s₁).2 = s₂ at hl₂
        have hl₄ := isAt_looked s₂ .ident
        generalize hs₄ : (run (isAt .ident) s₂).2 = s₄ at hl₄
        have hra₄ : Raises s s₄ := hra₁.trans (hl₂.trans hl₄).raises
        have hr₄ : s₄.rest = u := (hl₂.trans hl₄).rest.trans hr₁
        by_cases hc' : c.kind = .ident
        · -- the next parameter with no comma
          have hid : (run (isAt .ident) s₂).1 = true := by
            simp [isAt_fst s₂ (hl₂.rest.trans (hr₁.trans hu')), hc']
          have hrun : run (params (n + 1) acc) s = run (params n (acc ++ [x])) s₄ := by
            simp [params, hexp, hcomma, hs₂, hid, hs₄]
          obtain ⟨ihr, iht, ihn, ihs⟩ := params_recognizes n (acc ++ [x]) s₄ (hr₄ ▸ htu)
            (by rw [hr₄]; simp [hrest] at hn; omega)
          rw [hrun]
          refine ⟨hra₄.trans ihr, iht, fun h => (ihn h).since hra₄, fun ys hys => ?_⟩
          obtain ⟨xs, rfl, hxs⟩ := ihs ys hys
          exact ⟨x :: xs, by simp, hrest ▸ .next hx (hr₄ ▸ hxs)⟩
        · -- the end of the list
          have hid : (run (isAt .ident) s₂).1 = false := by
            simp [isAt_fst s₂ (hl₂.rest.trans (hr₁.trans hu')), hc']
          have hrun : run (params (n + 1) acc) s = (some (acc ++ [x]), s₄) := by
            simp [params, hexp, hcomma, hs₂, hid, hs₄]
          rw [hrun]
          refine ⟨hra₄, hr₄ ▸ htu, by simp, fun ys hys => ⟨[x], by simpa using hys.symm, ?_⟩⟩
          rw [hrest, hr₄]
          exact .last hx
    · -- no parameter: a syntax error
      have hrun : run (params (n + 1) acc) s =
          (none, (run (fail DiagCode.expectIdentifier "expected parameter name") (run peek s).2).2) := by
        simp [params, expect_run, hcur, hx]
      obtain ⟨hfr, hra, hfl⟩ := fail_flags (run peek s).2 DiagCode.expectIdentifier "expected parameter name" []
      rw [hrun]
      exact ⟨hp.raises.trans hra, hfr.trans hp.rest ▸ ht, fun _ => hfl.since hp.raises, by simp⟩

/-! ### Expressions -/

section Expressions

open Combinatory.Tree

variable (fid : Nat)

/-- What a run of an expression parser from `s` to `s'` with result `r` shows: the flags only
rise, the tokens left still end the file, no result raised a flag, and a result read a phrase
`p`. -/
structure Recognized {α : Type} (p : Phrase) (s s' : ParseState) (r : Option α) : Prop where
  raises : Raises s s'
  terminated : Terminated s'.rest
  flagged : r = none → Flagged s s'
  derives : ∀ i, r = some i → ∃ e, Derives fid p s.rest e s'.rest

/-- With fuel `n`, the parser `x` recognizes phrases `p` from every state whose current token
`pre` allows and that leaves at least `3 * (tokens left) + c` fuel, when the tree does not fail. -/
def Recognizes (pre : TokenKind → Prop) (p : Phrase) (c : Nat) (x : Nat → ParseM (Option Nat))
    (n : Nat) : Prop :=
  ∀ s, Terminated s.rest → pre s.cur.kind → 3 * s.rest.length + c ≤ n →
    (run (x n) s).2.tree.failure = none → Recognized fid p s (run (x n) s).2 (run (x n) s).1

/-- The operands loop with fuel `n` recognizes further operands onto any term. -/
def RecognizesMore (n : Nat) : Prop :=
  ∀ s (acc : Option Nat) f, Terminated s.rest → 3 * s.rest.length + 2 ≤ n →
    (run (operands n acc) s).2.tree.failure = none →
    Recognized fid (.more f) s (run (operands n acc) s).2 (run (operands n acc) s).1

variable {fid}

theorem Recognized.flag {α : Type} {p : Phrase} {s s' : ParseState} (hr : Raises s s')
    (ht : Terminated s'.rest) (hf : Flagged s s') : Recognized fid p s s' (none : Option α) :=
  ⟨hr, ht, fun _ => hf, fun _ h => nomatch h⟩

/-- What a sub-parser that gave no result leaves, seen from an earlier state. -/
theorem Recognized.none_since {α β : Type} {p q : Phrase} {s s₁ s' : ParseState}
    (h : Recognized fid q s₁ s' (none : Option α)) (hr : Raises s s₁) :
    Recognized fid p s s' (none : Option β) :=
  Recognized.flag (hr.trans h.raises) h.terminated ((h.flagged rfl).since hr)

/-- The operands loop keeps a failure of the tree, whatever it applies its operands to. -/
theorem operands_sticky : ∀ (n : Nat) (acc : Option Nat) (s : ParseState),
    (run (operands n acc) s).2.tree.failure = none → s.tree.failure = none
  | 0, _, _ => id
  | n + 1, acc, s => by
    have ht₁ : (run atOperand s).2.tree = s.tree := (atOperand_looked s).tree
    by_cases hat : (run atOperand s).1 = true
    · generalize hs₁ : (run atOperand s).2 = s₁ at ht₁
      have hp := ((parses n).2.2.1 s₁).adds
      cases harg : (run (operand n) s₁).1 with
      | none =>
        have hrun : run (operands (n + 1) acc) s = (none, (run (operand n) s₁).2) := by
          simp [operands, hs₁, hat, harg]
        rw [hrun, ← ht₁]
        exact hp.sticky
      | some arg =>
        generalize hs₂ : (run (operand n) s₁).2 = s₂ at hp
        have hrun : run (operands (n + 1) acc) s =
            run (operands n (run (onTree (newApp acc (some arg))) s₂).1)
              (run (onTree (newApp acc (some arg))) s₂).2 := by
          simp [operands, hs₁, hat, harg, hs₂]
        rw [hrun, ← ht₁]
        exact fun hf => hp.sticky (newApp_sticky s₂.tree acc (some arg)
          (operands_sticky n _ (run (onTree (newApp acc (some arg))) s₂).2 hf))
    · have hrun : run (operands (n + 1) acc) s = (some acc, (run atOperand s).2) := by
        simp [operands, hat]
      rw [hrun, ht₁]
      exact id

theorem operand_recognizes {n : Nat} (he : Recognizes fid (fun _ => True) .expr 3 expr n) :
    Recognizes fid (fun _ => True) .operand 1 operand (n + 1) := by
  intro s ht _ hn hf
  obtain ⟨x, u, hrest⟩ := List.exists_cons_of_ne_nil ht.ne_nil
  have hl₁ := isAt_looked s .ident
  by_cases hx : x.kind = .ident
  · -- a reference: its identifier, then its record
    have hi : (run (isAt .ident) s).1 = true := by simp [isAt_fst s hrest, hx]
    obtain ⟨htok, hr₂, hc₂, -⟩ := advance_looked s hl₁ hrest ht (by simp [hx]) (by simp [hx])
    generalize hs₂ : run advance (run (isAt .ident) s).2 = r₂ at htok hr₂ hc₂
    obtain ⟨tok, s₂⟩ := r₂
    dsimp only at htok hr₂ hc₂
    subst htok
    obtain ⟨-, -, hs₃⟩ := newIdentOf_spec s₂ tok none
    have hframe₃ := clean_of_frame (newIdentOf_frame s₂ tok none)
    have hc₃ : Clean s (run (newIdentOf tok none) s₂).2 := hc₂.trans hframe₃.1
    cases hv : (run (newIdentOf tok none) s₂).1 with
    | none =>
      -- no identifier only after a failure, which the end of the operand would keep
      have hf₃ := newIdentOf_failed s₂ tok none hv
      have hrun : run (operand (n + 1)) s = (none, (run (newIdentOf tok none) s₂).2) := by
        simp [operand, hi, hs₂, hv, onTree_run, newRef_failed _ hf₃]
      rw [hrun] at hf
      simp only at hf
      simp [hf] at hf₃
    | some v =>
      have hr₃ : (run (newIdentOf tok none) s₂).2.rest = u := by simpa [hframe₃.2] using hr₂
      generalize hs₃' : (run (newIdentOf tok none) s₂).2 = s₃ at hc₃ hr₃
      have hrun : run (operand (n + 1)) s = run (onTree (newRef (some v))) s₃ := by
        simp [operand, hi, hs₂, hv, hs₃']
      rw [hrun, onTree_run, newRef_eq] at hf ⊢
      refine ⟨(hc₃.trans (clean_tree _ _)).raises, by simpa [hr₃] using ((hrest ▸ ht).tail (by simp [hx])).2,
        fun hr => ?_, fun _ _ => ⟨leaf fid tok, ?_⟩⟩
      · simp only at hr
        simp [((pushExpr_spec _ _).2.2 hf).1] at hr
      · simpa [hrest, hr₃] using (Derives.ident hx : Derives fid .operand _ _ _)
  · have hi : (run (isAt .ident) s).1 = false := by simp [isAt_fst s hrest, hx]
    generalize hs₁ : (run (isAt .ident) s).2 = s₁ at hl₁
    by_cases hlp : x.kind = .lparen
    · -- a parenthesized expression
      obtain ⟨-, hr₂, hc₂, -⟩ := advance_looked s (hl₁.trans (peek_looked s₁)) hrest ht
        (by simp [hlp]) (by simp [hlp])
      have hexp : run (expect .lparen DiagCode.expectExpression "expected identifier or '('") s₁ =
          (some x, (run advance (run peek s₁).2).2) := by
        rw [expect_run, hl₁.cur, s.cur_of_rest hrest, if_pos hlp]
      generalize hs₂ : (run advance (run peek s₁).2).2 = s₂ at hr₂ hc₂ hexp
      have htu := ((hrest ▸ ht).tail (by simp [hlp])).2
      have hre := he s₂ (hr₂ ▸ htu) trivial (by rw [hr₂]; simp [hrest] at hn; omega)
      cases hin : (run (expr n) s₂).1 with
      | none =>
        have hrun : run (operand (n + 1)) s = (none, (run (expr n) s₂).2) := by
          simp [operand, hi, hs₁, hexp, hin]
        rw [hrun] at hf ⊢
        exact (hin ▸ hre hf).none_since hc₂.raises
      | some inner =>
        generalize hs₃ : (run (expr n) s₂).2 = s₃ at hre
        rw [hin] at hre
        have hl₄ := isAt_looked s₃ .rparen
        by_cases hc : (run (isAt .rparen) s₃).1 = true
        · -- the closing parenthesis
          have hrun : run (operand (n + 1)) s = (some inner, (run advance (run (isAt .rparen) s₃).2).2) := by
            simp [operand, hi, hs₁, hexp, hin, hs₃, hc]
          rw [hrun] at hf ⊢
          have hre := hre (by simpa [hl₄.tree] using hf)
          obtain ⟨e, hd⟩ := hre.derives inner rfl
          have ht₃ := hd.consumes.1.terminated (hr₂ ▸ htu)
          obtain ⟨rp, u', hrp⟩ := List.exists_cons_of_ne_nil ht₃.ne_nil
          have hk : rp.kind = .rparen := by simpa [isAt_fst s₃ hrp] using hc
          obtain ⟨-, hr₅, hc₅, -⟩ := advance_looked s₃ hl₄ hrp ht₃ (by simp [hk]) (by simp [hk])
          refine ⟨hc₂.raises.trans (hre.raises.trans hc₅.raises), hr₅ ▸ ((hrp ▸ ht₃).tail (by simp [hk])).2,
            (fun h => by cases h), fun _ _ => ?_⟩
          rw [hrest, hr₅]
          exact ⟨e, .paren hlp (hr₂ ▸ hrp ▸ hd) hk⟩
        · -- no closing parenthesis: a syntax error
          have hrun : run (operand (n + 1)) s = (none, (run (fail DiagCode.unclosedParen "expected ')'"
              [⟨x.span, "parenthesis opened here"⟩]) (run (isAt .rparen) s₃).2).2) := by
            simp [operand, hi, hs₁, hexp, hin, hs₃, hc]
          rw [hrun] at hf ⊢
          have hre := hre (by simpa using hf)
          obtain ⟨hfr, hra, hfl⟩ := fail_flags (run (isAt .rparen) s₃).2 DiagCode.unclosedParen
            "expected ')'" [⟨x.span, "parenthesis opened here"⟩]
          have hra₄ : Raises s (run (isAt .rparen) s₃).2 := hc₂.raises.trans (hre.raises.trans hl₄.raises)
          exact Recognized.flag (hra₄.trans hra) (hfr.trans hl₄.rest ▸ hre.terminated) (hfl.since hra₄)
    · -- neither an identifier nor a parenthesis: a syntax error
      have hexp : run (expect .lparen DiagCode.expectExpression "expected identifier or '('") s₁ =
          (none, (run (fail DiagCode.expectExpression "expected identifier or '('") (run peek s₁).2).2) := by
        rw [expect_run, hl₁.cur, s.cur_of_rest hrest, if_neg hlp]
      have hrun : run (operand (n + 1)) s = (none, (run (fail DiagCode.expectExpression
          "expected identifier or '('") (run peek s₁).2).2) := by
        simp [operand, hi, hs₁, hexp]
      rw [hrun]
      obtain ⟨hfr, hra, hfl⟩ := fail_flags (run peek s₁).2 DiagCode.expectExpression
        "expected identifier or '('" []
      have hl := hl₁.trans (peek_looked s₁)
      exact Recognized.flag (hl.raises.trans hra) (hfr.trans hl.rest ▸ ht) (hfl.since hl.raises)

theorem operands_recognizes {n : Nat} (hop : Recognizes fid (fun _ => True) .operand 1 operand n)
    (hrec : RecognizesMore fid n) : RecognizesMore fid (n + 1) := by
  intro s acc f ht hn hf
  obtain ⟨x, u, hrest⟩ := List.exists_cons_of_ne_nil ht.ne_nil
  have hl₁ := atOperand_looked s
  by_cases hat : x.kind = .ident ∨ x.kind = .lparen
  · -- one more operand, applied onto what came before
    have ha : (run atOperand s).1 = true := by simp [atOperand_fst s hrest, hat]
    generalize hs₁ : (run atOperand s).2 = s₁ at hl₁
    have hro := hop s₁ (hl₁.rest ▸ ht) trivial (by rw [hl₁.rest]; omega)
    cases harg : (run (operand n) s₁).1 with
    | none =>
      have hrun : run (operands (n + 1) acc) s = (none, (run (operand n) s₁).2) := by
        simp [operands, hs₁, ha, harg]
      rw [hrun] at hf ⊢
      exact (harg ▸ hro hf).none_since hl₁.raises
    | some arg =>
      generalize hs₂ : (run (operand n) s₁).2 = s₂ at hro
      rw [harg] at hro
      have hrun : run (operands (n + 1) acc) s =
          run (operands n (run (onTree (newApp acc (some arg))) s₂).1)
            (run (onTree (newApp acc (some arg))) s₂).2 := by
        simp [operands, hs₁, ha, harg, hs₂]
      rw [hrun] at hf ⊢
      rw [onTree_run] at hf ⊢
      -- the tree did not fail before the end, so the operand was recognized
      have hro := hro (newApp_sticky s₂.tree acc (some arg) (operands_sticky n _ _ hf))
      obtain ⟨a, hda⟩ := hro.derives arg rfl
      have hlen := hda.consumes.2 (by simp)
      rw [hl₁.rest] at hda hlen
      have ih := hrec { s₂ with tree := (run (newApp acc (some arg)) s₂.tree).2 } _ (.app f a)
        (by simpa using hda.consumes.1.terminated ht) (by simp; omega) hf
      have hra₂ : Raises s { s₂ with tree := (run (newApp acc (some arg)) s₂.tree).2 } :=
        hl₁.raises.trans (hro.raises.trans (clean_tree _ _).raises)
      refine ⟨hra₂.trans ih.raises, ih.terminated, fun h => (ih.flagged h).since hra₂, fun i hi => ?_⟩
      obtain ⟨g, hg⟩ := ih.derives i hi
      exact ⟨g, .more hda (by simpa using hg)⟩
  · -- no more operands
    have ha : (run atOperand s).1 = false := by simp [atOperand_fst s hrest, hat]
    have hrun : run (operands (n + 1) acc) s = (some acc, (run atOperand s).2) := by
      simp [operands, ha]
    rw [hrun]
    exact ⟨hl₁.raises, hl₁.rest ▸ ht, (fun h => by cases h), fun _ _ => ⟨f, hl₁.rest ▸ .stop⟩⟩

theorem application_recognizes {n : Nat} (hop : Recognizes fid (fun _ => True) .operand 1 operand n)
    (hops : RecognizesMore fid n) (hab : Recognizes fid (· = .lambda) .abstraction 2 abstraction n) :
    Recognizes fid (fun _ => True) .application 2 application (n + 1) := by
  intro s ht _ hn hf
  obtain ⟨x, u, hrest⟩ := List.exists_cons_of_ne_nil ht.ne_nil
  have hl₁ := atOperand_looked s
  by_cases hat : x.kind = .ident ∨ x.kind = .lparen
  · have ha : (run atOperand s).1 = true := by simp [atOperand_fst s hrest, hat]
    generalize hs₁ : (run atOperand s).2 = s₁ at hl₁
    have hro := hop s₁ (hl₁.rest ▸ ht) trivial (by rw [hl₁.rest]; omega)
    cases hfirst : (run (operand n) s₁).1 with
    | none =>
      have hrun : run (application (n + 1)) s = (none, (run (operand n) s₁).2) := by
        simp [application, hs₁, ha, hfirst]
      rw [hrun] at hf ⊢
      exact (hfirst ▸ hro hf).none_since hl₁.raises
    | some first =>
      generalize hs₂ : (run (operand n) s₁).2 = s₂ at hro
      rw [hfirst] at hro
      -- every later tree holds the records of the first operand's
      have hf₂ : ∀ t, Adds (run (operands n (some first)) s₂).2.tree t → t.failure = none →
          s₂.tree.failure = none :=
        fun t ha hft => operands_sticky n (some first) s₂ (ha.sticky hft)
      have hne := operands_after_first s₁ hfirst
      rw [hs₂] at hne
      cases he : (run (operands n (some first)) s₂).1 with
      | none =>
        have hrun : run (application (n + 1)) s = (none, (run (operands n (some first)) s₂).2) := by
          simp [application, hs₁, ha, hfirst, hs₂, he]
        rw [hrun] at hf ⊢
        have hro := hro (hf₂ _ (Adds.refl _) hf)
        obtain ⟨a, hda⟩ := hro.derives first rfl
        have hlen := hda.consumes.2 (by simp)
        rw [hl₁.rest] at hda hlen
        have hq := hops s₂ (some first) a (hda.consumes.1.terminated ht) (by omega) hf
        exact (he ▸ hq).none_since (hl₁.raises.trans hro.raises)
      | some e =>
        rw [he] at hne
        generalize hs₃ : (run (operands n (some first)) s₂).2 = s₃ at hf₂ hne
        have hl₄ := isAt_looked s₃ .lambda
        generalize hs₄ : (run (isAt .lambda) s₃).2 = s₄ at hl₄
        -- what the operands read, once the tree is known not to fail after them
        have hmore : s₃.tree.failure = none → ∃ a g, Derives fid .operand s.rest a s₂.rest ∧
            Derives fid (.more a) s₂.rest g s₃.rest ∧ Raises s s₃ ∧ s₂.rest.length < s.rest.length := by
          intro hf₃
          have hro := hro (hf₂ _ (Adds.refl _) hf₃)
          obtain ⟨a, hda⟩ := hro.derives first rfl
          have hlen := hda.consumes.2 (by simp)
          rw [hl₁.rest] at hda hlen
          have hq := hops s₂ (some first) a (hda.consumes.1.terminated ht) (by omega)
            (by rw [hs₃]; exact hf₃)
          rw [hs₃, he] at hq
          obtain ⟨g, hg⟩ := hq.derives e rfl
          exact ⟨a, g, hda, hg, hl₁.raises.trans (hro.raises.trans hq.raises), hlen⟩
        by_cases hlam : (run (isAt .lambda) s₃).1 = true
        · -- a trailing abstraction is the last argument
          have hb := hab s₄
          cases harg : (run (abstraction n) s₄).1 with
          | none =>
            have hrun : run (application (n + 1)) s = (none, (run (abstraction n) s₄).2) := by
              simp [application, hs₁, ha, hfirst, hs₂, he, hs₃, hs₄, hlam, harg]
            rw [hrun] at hf ⊢
            have hadds := ((parses n).2.1 s₄).adds
            obtain ⟨a, g, hda, hdg, hra₃, hlen⟩ := hmore (hl₄.tree ▸ hadds.sticky hf)
            have ht₃ := (hda.consumes.1.trans hdg.consumes.1).terminated ht
            have hlen₃ := hdg.consumes.1.length_le
            obtain ⟨y, v, hy⟩ := List.exists_cons_of_ne_nil ht₃.ne_nil
            have hb := hb (hl₄.rest ▸ ht₃) (by simpa [hl₄.cur, s₃.cur_of_rest hy, isAt_fst s₃ hy] using hlam)
              (by rw [hl₄.rest]; omega) hf
            exact (harg ▸ hb).none_since (hra₃.trans hl₄.raises)
          | some arg =>
            generalize hs₅ : (run (abstraction n) s₄).2 = s₅ at hb
            have hrun : run (application (n + 1)) s = run (onTree (newApp e (some arg))) s₅ := by
              simp [application, hs₁, ha, hfirst, hs₂, he, hs₃, hs₄, hlam, harg, hs₅]
            rw [hrun, onTree_run] at hf ⊢
            have hf₅ := newApp_sticky s₅.tree e (some arg) hf
            have hadds := ((parses n).2.1 s₄).adds
            rw [hs₅] at hadds
            have hf₃ : s₃.tree.failure = none := hl₄.tree ▸ hadds.sticky hf₅
            -- the operands gave an application, since the tree did not fail
            obtain ⟨e, rfl⟩ : ∃ e', e = some e' := by
              cases e with
              | none => exact absurd rfl (hne hf₃)
              | some e => exact ⟨e, rfl⟩
            have ha₆ := pushExpr_spec s₅.tree (.app e arg ((s₅.tree.exprSpan e).cover (s₅.tree.exprSpan arg)))
            rw [← newApp_eq] at ha₆
            obtain ⟨a, g, hda, hdg, hra₃, hlen⟩ := hmore hf₃
            have ht₃ := (hda.consumes.1.trans hdg.consumes.1).terminated ht
            have hlen₃ := hdg.consumes.1.length_le
            obtain ⟨y, v, hy⟩ := List.exists_cons_of_ne_nil ht₃.ne_nil
            have hb := hb (hl₄.rest ▸ ht₃) (by simpa [hl₄.cur, s₃.cur_of_rest hy, isAt_fst s₃ hy] using hlam)
              (by rw [hl₄.rest]; omega) hf₅
            rw [harg] at hb
            obtain ⟨b, hdb⟩ := hb.derives arg rfl
            refine ⟨(hra₃.trans (hl₄.raises.trans hb.raises)).trans (clean_tree _ _).raises,
              by simpa using hb.terminated, fun h => by simp [(ha₆.2.2 hf).1] at h, fun _ _ => ⟨.app g b, ?_⟩⟩
            rw [hl₄.rest] at hdb
            simpa using Derives.trailing hda hdg hdb
        · -- the operands are the whole application
          have hrun : run (application (n + 1)) s = (e, s₄) := by
            simp [application, hs₁, ha, hfirst, hs₂, he, hs₃, hlam, hs₄]
          rw [hrun] at hf ⊢
          obtain ⟨a, g, hda, hdg, hra₃, -⟩ := hmore (hl₄.tree ▸ hf)
          exact ⟨hra₃.trans hl₄.raises, hl₄.rest ▸ (hda.consumes.1.trans hdg.consumes.1).terminated ht,
            (fun h => absurd (congrArg some h) (hne (hl₄.tree ▸ hf))),
            fun _ _ => ⟨g, hl₄.rest ▸ .operands hda hdg⟩⟩
  · -- no operand: a syntax error
    have ha : (run atOperand s).1 = false := by simp [atOperand_fst s hrest, hat]
    have hrun : run (application (n + 1)) s =
        (none, (run (fail DiagCode.expectExpression "expected expression") (run atOperand s).2).2) := by
      simp [application, ha]
    rw [hrun]
    obtain ⟨hfr, hra, hfl⟩ := fail_flags (run atOperand s).2 DiagCode.expectExpression "expected expression" []
    exact Recognized.flag (hl₁.raises.trans hra) (hfr.trans hl₁.rest ▸ ht) (hfl.since hl₁.raises)

theorem abstraction_recognizes {n : Nat} (he : Recognizes fid (fun _ => True) .expr 3 expr n) :
    Recognizes fid (· = .lambda) .abstraction 2 abstraction (n + 1) := by
  intro s ht hlam hn hf
  obtain ⟨x, u, hrest⟩ := List.exists_cons_of_ne_nil ht.ne_nil
  have hx : x.kind = .lambda := by simpa [s.cur_of_rest hrest] using hlam
  obtain ⟨htok, hr₁, hc₁, -⟩ := advance_step s hrest ht (by simp [hx]) (by simp [hx])
  generalize hs₁ : run advance s = r₁ at htok hr₁ hc₁
  obtain ⟨lam, s₁⟩ := r₁
  dsimp only at htok hr₁ hc₁
  subst htok
  have htu := ((hrest ▸ ht).tail (by simp [hx])).2
  obtain ⟨hpr, hpt, hpn, hps⟩ := params_recognizes (n + 1) [] s₁ (hr₁ ▸ htu)
    (by rw [hr₁]; simp [hrest] at hn; omega)
  cases hp : (run (params (n + 1) []) s₁).1 with
  | none =>
    have hrun : run (abstraction (n + 1)) s = (none, (run (params (n + 1) []) s₁).2) := by
      simp [abstraction, hs₁, hp]
    rw [hrun]
    exact Recognized.flag (hc₁.raises.trans hpr) hpt ((hpn hp).since hc₁.raises)
  | some ps =>
    obtain ⟨xs, hxs_eq, hxs⟩ := hps ps hp
    simp only [List.nil_append] at hxs_eq
    subst hxs_eq
    generalize hs₂ : (run (params (n + 1) []) s₁).2 = s₂ at hpr hxs
    rw [hr₁] at hxs
    have ht₂ := hxs.consumes.1.terminated htu
    obtain ⟨c, v, hcv⟩ := List.exists_cons_of_ne_nil ht₂.ne_nil
    have hpk := peek_looked s₂
    have hk : (run peek s₂).1.kind = c.kind := by rw [peek_run, s₂.cur_of_rest hcv]
    by_cases hclose : c.kind = .dot ∨ c.kind = .arrow
    · -- the closing mark, then the body
      have hk' : ¬(¬(run peek s₂).1.kind = .dot ∧ ¬(run peek s₂).1.kind = .arrow) := by
        rw [hk]
        exact fun h => hclose.elim h.1 h.2
      have hce : c.kind ≠ .eof := by rcases hclose with h | h <;> simp [h]
      have hci : c.kind ≠ .invalid := by rcases hclose with h | h <;> simp [h]
      obtain ⟨-, hr₄, hc₄, -⟩ := advance_looked s₂ hpk hcv ht₂ hce hci
      generalize hs₄ : (run advance (run peek s₂).2).2 = s₄ at hr₄ hc₄
      have htv := ((hcv ▸ ht₂).tail hce).2
      have hlen := hxs.consumes.2
      rw [hcv] at hlen
      have hre := he s₄ (hr₄ ▸ htv) trivial (by rw [hr₄]; simp [hrest] at hn hlen; omega)
      have hra₄ : Raises s s₄ := hc₁.raises.trans (hpr.trans hc₄.raises)
      cases hb : (run (expr n) s₄).1 with
      | none =>
        have hrun : run (abstraction (n + 1)) s = (none, (run (expr n) s₄).2) := by
          simp [abstraction, hs₁, hp, hs₂, hk', hs₄, hb]
        rw [hrun] at hf ⊢
        exact (hb ▸ hre hf).none_since hra₄
      | some body =>
        generalize hs₅ : (run (expr n) s₄).2 = s₅ at hre
        rw [hb] at hre
        obtain ⟨ha₆, -, hs₆⟩ := chainOf_spec ps.reverse none [] s₅ fun _ => rfl
        obtain ⟨hc₆, hr₆⟩ := clean_of_frame (chainOf_frame ps.reverse none s₅)
        cases hc : (run (chainOf ps.reverse none) s₅).1 with
        | none =>
          -- a chain of at least one parameter is built unless the tree fails
          have hrun : run (abstraction (n + 1)) s = (none, (run (chainOf ps.reverse none) s₅).2) := by
            simp [abstraction, hs₁, hp, hs₂, hk', hs₄, hb, hs₅, hc]
          rw [hrun] at hf
          obtain ⟨vs, hch, -, -, hnames⟩ := hs₆ hf
          rw [hc] at hch
          simp only [ChainOpt, List.append_nil] at hch
          subst hch
          simp only [List.map_nil, List.reverse_reverse] at hnames
          exact absurd (List.map_eq_nil_iff.1 hnames.symm) hxs.ne_nil
        | some chain =>
          generalize hs₆' : (run (chainOf ps.reverse none) s₅).2 = s₆ at ha₆ hs₆ hc₆ hr₆
          have ha₇ := pushExpr_spec s₆.tree (.abs chain body
            { lam.span.cover (s₆.tree.exprSpan body) with file := s₆.tree.file })
          have hrun : run (abstraction (n + 1)) s = run (onTree (pushExpr (.abs chain body
              { lam.span.cover (s₆.tree.exprSpan body) with file := s₆.tree.file }))) s₆ := by
            simp [abstraction, hs₁, hp, hs₂, hk', hs₄, hb, hs₅, hc, hs₆', onTree_run, newAbs_eq]
          rw [hrun, onTree_run] at hf ⊢
          have hre := hre (ha₆.sticky (ha₇.1.sticky hf))
          obtain ⟨b, hdb⟩ := hre.derives body rfl
          refine ⟨hra₄.trans (hre.raises.trans (hc₆.trans (clean_tree _ _)).raises),
            by simpa [hr₆] using hre.terminated, fun h => by simp [(ha₇.2.2 hf).1] at h,
            fun _ _ => ⟨.lam (ps.map Token.textString) b, ?_⟩⟩
          rw [hrest]
          simpa [hr₆] using Derives.abstraction hx (hcv ▸ hxs) hclose (hr₄ ▸ hdb)
    · -- no closing mark: a syntax error
      have hk' : ¬(run peek s₂).1.kind = .dot ∧ ¬(run peek s₂).1.kind = .arrow := by
        rw [hk]
        exact not_or.1 hclose
      have hrun : run (abstraction (n + 1)) s = (none, (run (fail DiagCode.expectParamsClose
          "expected '.' or '->' after parameters") (run peek s₂).2).2) := by
        simp [abstraction, hs₁, hp, hs₂, hk']
      rw [hrun]
      obtain ⟨hfr, hra, hfl⟩ := fail_flags (run peek s₂).2 DiagCode.expectParamsClose
        "expected '.' or '->' after parameters" []
      have hra₂ : Raises s (run peek s₂).2 := hc₁.raises.trans (hpr.trans hpk.raises)
      exact Recognized.flag (hra₂.trans hra) (hfr.trans hpk.rest ▸ ht₂) (hfl.since hra₂)

theorem expr_recognizes {n : Nat} (hab : Recognizes fid (· = .lambda) .abstraction 2 abstraction n)
    (hap : Recognizes fid (fun _ => True) .application 2 application n) :
    Recognizes fid (fun _ => True) .expr 3 expr (n + 1) := by
  intro s ht _ hn hf
  have hl := isAt_looked s .lambda
  by_cases hlam : s.cur.kind = .lambda
  · have hrun : run (expr (n + 1)) s = run (abstraction n) (run (isAt .lambda) s).2 := by
      simp [expr, isAt_run, hlam]
    rw [hrun] at hf ⊢
    have h := hab _ (hl.rest ▸ ht) (by rw [hl.cur]; exact hlam) (by rw [hl.rest]; omega) hf
    refine ⟨hl.raises.trans h.raises, h.terminated, fun hr => (h.flagged hr).since hl.raises,
      fun i hi => ?_⟩
    obtain ⟨e, hd⟩ := h.derives i hi
    exact ⟨e, hl.rest ▸ .ofAbstraction hd⟩
  · have hrun : run (expr (n + 1)) s = run (application n) (run (isAt .lambda) s).2 := by
      simp [expr, isAt_run, hlam]
    rw [hrun] at hf ⊢
    have h := hap _ (hl.rest ▸ ht) trivial (by rw [hl.rest]; omega) hf
    refine ⟨hl.raises.trans h.raises, h.terminated, fun hr => (h.flagged hr).since hl.raises,
      fun i hi => ?_⟩
    obtain ⟨e, hd⟩ := h.derives i hi
    exact ⟨e, hl.rest ▸ .ofApplication hd⟩

/-- Every expression parser, with enough fuel for the tokens left, reads its phrase or raises a
flag. -/
theorem recognizes : ∀ n, Recognizes fid (fun _ => True) .expr 3 expr n ∧
    Recognizes fid (· = .lambda) .abstraction 2 abstraction n ∧
    Recognizes fid (fun _ => True) .operand 1 operand n ∧ RecognizesMore fid n ∧
    Recognizes fid (fun _ => True) .application 2 application n
  | 0 => ⟨fun _ _ _ h => by omega, fun _ _ _ h => by omega, fun _ _ _ h => by omega,
      fun _ _ _ _ h => by omega, fun _ _ _ h => by omega⟩
  | n + 1 =>
    have ⟨he, hab, hop, hops, hap⟩ := recognizes n
    ⟨expr_recognizes hab hap, abstraction_recognizes he, operand_recognizes he,
      operands_recognizes hop hops, application_recognizes hop hops hab⟩

end Expressions

/-! ### Statements -/

section Statements

open Combinatory.Tree

variable (fid : Nat)

/-- A statement's tail reads a binding, or raises a flag. -/
theorem stmtTail_recognizes (fuel : Nat) (start : Span) (s : ParseState) (ht : Terminated s.rest)
    (hn : 3 * s.rest.length + 3 ≤ fuel) (hf : (run (stmtTail fuel start) s).2.tree.failure = none) :
    Raises s (run (stmtTail fuel start) s).2 ∧ Terminated (run (stmtTail fuel start) s).2.rest ∧
      ((run (stmtTail fuel start) s).1 = none → Flagged s (run (stmtTail fuel start) s).2) ∧
      ∀ j, (run (stmtTail fuel start) s).1 = some j →
        ∃ st, Binding fid s.rest st (run (stmtTail fuel start) s).2.rest := by
  obtain ⟨x, u, hrest⟩ := List.exists_cons_of_ne_nil ht.ne_nil
  have hp := peek_looked s
  by_cases hx : x.kind = .ident
  · -- the name
    obtain ⟨-, hr₁, hc₁, -⟩ := advance_looked s hp hrest ht (by simp [hx]) (by simp [hx])
    generalize hs₁ : (run advance (run peek s).2).2 = s₁ at hr₁ hc₁
    have hexp : run (expect .ident DiagCode.expectIdentifier "expected identifier to bind") s =
        (some x, s₁) := by
      rw [expect_run, if_pos (by rw [s.cur_of_rest hrest, hx]), s.cur_of_rest hrest, hs₁]
    obtain ⟨ha₂, -, hname⟩ := newIdentOf_spec s₁ x none
    have hfr₂ := newIdentOf_frame s₁ x none
    generalize hr₂ : run (newIdentOf x none) s₁ = r₂ at ha₂ hname hfr₂
    obtain ⟨name, s₂⟩ := r₂
    dsimp only at ha₂ hname hfr₂
    have hr₂' : s₂.rest = u := by rw [hfr₂]; simpa using hr₁
    have hc₂ : Clean s s₂ := by rw [hfr₂]; exact hc₁.trans (clean_tree _ _)
    obtain ⟨hu, htu⟩ := (hrest ▸ ht).tail (by simp [hx])
    obtain ⟨y, u', hu'⟩ := List.exists_cons_of_ne_nil hu
    have hp₂ := peek_looked s₂
    by_cases hy : y.kind = .assign
    · -- `=`, then the expression
      obtain ⟨-, hr₃, hc₃, ht₃⟩ := advance_looked s₂ hp₂ (hr₂'.trans hu') (hr₂' ▸ htu) (by simp [hy])
        (by simp [hy])
      generalize hs₃ : (run advance (run peek s₂).2).2 = s₃ at hr₃ hc₃ ht₃
      have hexp₃ : run (expect .assign DiagCode.expectAssign ("expected '=' after " ++ x.textString)) s₂ =
          (some y, s₃) := by
        rw [expect_run, if_pos (by rw [s₂.cur_of_rest (hr₂'.trans hu'), hy]),
          s₂.cur_of_rest (hr₂'.trans hu'), hs₃]
      have htu' := ((hu' ▸ htu).tail (by simp [hy])).2
      have hc₃' := hc₂.trans hc₃
      have hrec : Recognizes fid (fun _ => True) .expr 3 expr fuel := (recognizes fuel).1
      have hre := hrec s₃ (hr₃ ▸ htu') trivial
        (by rw [hr₃]; simp [hrest, hu'] at hn; omega)
      cases he : (run (expr fuel) s₃).1 with
      | none =>
        have hrun : run (stmtTail fuel start) s = (none, (run (expr fuel) s₃).2) := by
          simp [stmtTail, hexp, hr₂, hexp₃, he]
        rw [hrun] at hf ⊢
        have h := he ▸ hre hf
        exact ⟨hc₃'.raises.trans h.raises, h.terminated, fun _ => (h.flagged rfl).since hc₃'.raises, by simp⟩
      | some e =>
        have ha₄ := ((parses fuel).1 s₃).adds
        generalize hs₄ : (run (expr fuel) s₃).2 = s₄ at hre ha₄
        rw [he] at hre
        have hp₄ := peek_looked s₄
        by_cases hz : s₄.cur.kind = .semicolon
        · -- `;`, then the statement record
          have hexp₅ : run (expect .semicolon DiagCode.expectSemicolon "expected ';' after expression") s₄ =
              (some s₄.cur, (run advance (run peek s₄).2).2) := by
            rw [expect_run, if_pos hz]
          generalize hs₅ : (run advance (run peek s₄).2).2 = s₅ at hexp₅
          have ht₅ : s₅.tree = s₄.tree := by rw [← hs₅]; simp [hp₄.tree]
          by_cases hfail : s₅.tree.failure.isSome
          · have hrun : run (stmtTail fuel start) s = (none, s₅) := by
              simp [stmtTail, hexp, hr₂, hexp₃, he, hs₄, hexp₅, onTree_run, newStmt_failed _ hfail]
            rw [hrun] at hf
            simp only at hf
            simp [hf] at hfail
          · have hf₅ : s₅.tree.failure = none := by simpa using hfail
            have hre := hre (ht₅ ▸ hf₅)
            obtain ⟨z, w, hzw⟩ := List.exists_cons_of_ne_nil hre.terminated.ne_nil
            have hz' : z.kind = .semicolon := by rwa [s₄.cur_of_rest hzw] at hz
            obtain ⟨-, hr₅, hc₅, -⟩ := advance_looked s₄ hp₄ hzw hre.terminated (by simp [hz'])
              (by simp [hz'])
            rw [hs₅] at hr₅ hc₅
            obtain ⟨v, rfl⟩ : ∃ v, name = some v :=
              ⟨_, (hname (ht₃ ▸ ha₄.sticky (ht₅ ▸ hf₅))).1⟩
            have hrun : run (stmtTail fuel start) s =
                run (onTree (newStmt (some v) (some e) (start.cover s₄.cur.span))) s₅ := by
              simp [stmtTail, hexp, hr₂, hexp₃, he, hs₄, hexp₅]
            rw [hrun, onTree_run] at hf ⊢
            obtain ⟨-, hst⟩ := newStmt_spec s₅.tree v e (start.cover s₄.cur.span)
            obtain ⟨e', hd⟩ := hre.derives e rfl
            refine ⟨hc₃'.raises.trans (hre.raises.trans (hc₅.trans (clean_tree _ _)).raises),
              by simpa [hr₅] using ((hzw ▸ hre.terminated).tail (by simp [hz'])).2,
              fun h => by simp [(hst hf).1] at h, fun _ _ => ⟨(x.textString, e'), ?_⟩⟩
            rw [hrest, hu']
            simpa [hr₅] using Binding.mk hx hy (hr₃ ▸ hzw ▸ hd) hz'
        · -- no `;`: a syntax error
          have hrun : run (stmtTail fuel start) s = (none, (run (fail DiagCode.expectSemicolon
              "expected ';' after expression") (run peek s₄).2).2) := by
            simp [stmtTail, hexp, hr₂, hexp₃, he, hs₄, expect_run, hz]
          rw [hrun] at hf ⊢
          have hre := hre (by simpa [hp₄.tree] using hf)
          obtain ⟨hfr, hra, hfl⟩ := fail_flags (run peek s₄).2 DiagCode.expectSemicolon
            "expected ';' after expression" []
          have hra₄ : Raises s (run peek s₄).2 := hc₃'.raises.trans (hre.raises.trans hp₄.raises)
          exact ⟨hra₄.trans hra, hfr.trans hp₄.rest ▸ hre.terminated, fun _ => hfl.since hra₄, by simp⟩
    · -- no `=`: a syntax error
      have hrun : run (stmtTail fuel start) s = (none, (run (fail DiagCode.expectAssign
          ("expected '=' after " ++ x.textString)) (run peek s₂).2).2) := by
        simp [stmtTail, hexp, hr₂, expect_run, s₂.cur_of_rest (hr₂'.trans hu'), hy]
      rw [hrun]
      obtain ⟨hfr, hra, hfl⟩ := fail_flags (run peek s₂).2 DiagCode.expectAssign
        ("expected '=' after " ++ x.textString) []
      have hra₂ : Raises s (run peek s₂).2 := hc₂.raises.trans hp₂.raises
      exact ⟨hra₂.trans hra, hfr.trans hp₂.rest ▸ hr₂' ▸ htu, fun _ => hfl.since hra₂, by simp⟩
  · -- no name: a syntax error
    have hrun : run (stmtTail fuel start) s = (none, (run (fail DiagCode.expectIdentifier
        "expected identifier to bind") (run peek s).2).2) := by
      simp [stmtTail, expect_run, s.cur_of_rest hrest, hx]
    rw [hrun]
    obtain ⟨hfr, hra, hfl⟩ := fail_flags (run peek s).2 DiagCode.expectIdentifier
      "expected identifier to bind" []
    exact ⟨hp.raises.trans hra, hfr.trans hp.rest ▸ ht, fun _ => hfl.since hp.raises, by simp⟩

/-- A statement is its tail, read after the `let` if there is one. -/
theorem stmt_run (fuel : Nat) (s : ParseState) :
    run (stmt fuel) s = run (stmtTail fuel s.cur.span)
      (if s.cur.kind = .kwLet then (run advance (run (isAt .kwLet) (run peek s).2).2).2
        else (run (isAt .kwLet) (run peek s).2).2) := by
  have hp : (run peek s).1 = s.cur := by rw [peek_run]
  have hc := (peek_looked s).cur
  by_cases hl : s.cur.kind = .kwLet
  · have hl' : (run (isAt .kwLet) (run peek s).2).1 = true := by simp [isAt_run, hc, hl]
    rw [if_pos hl, ← hp]
    simp only [stmt, stmtTail, run_bind, hl', ↓reduceIte] <;> rfl
  · have hl' : (run (isAt .kwLet) (run peek s).2).1 = false := by simp [isAt_run, hc, hl]
    rw [if_neg hl, ← hp]
    simp only [stmt, stmtTail, run_bind, hl', Bool.false_eq_true, ↓reduceIte] <;> rfl

/-- A statement reads a statement of the grammar, or raises a flag. -/
theorem stmt_recognizes (fuel : Nat) (s : ParseState) (ht : Terminated s.rest)
    (hn : 3 * s.rest.length + 3 ≤ fuel) (hf : (run (stmt fuel) s).2.tree.failure = none) :
    Raises s (run (stmt fuel) s).2 ∧ Terminated (run (stmt fuel) s).2.rest ∧
      ((run (stmt fuel) s).1 = none → Flagged s (run (stmt fuel) s).2) ∧
      ∀ j, (run (stmt fuel) s).1 = some j → ∃ st, Statement fid s.rest st (run (stmt fuel) s).2.rest := by
  obtain ⟨x, u, hrest⟩ := List.exists_cons_of_ne_nil ht.ne_nil
  have hl := (peek_looked s).trans (isAt_looked (run peek s).2 .kwLet)
  rw [stmt_run] at hf ⊢
  by_cases hk : s.cur.kind = .kwLet
  · -- after the `let`
    have hx : x.kind = .kwLet := by rwa [s.cur_of_rest hrest] at hk
    rw [if_pos hk] at hf ⊢
    obtain ⟨-, hr₁, hc₁, -⟩ := advance_looked s hl hrest ht (by simp [hx]) (by simp [hx])
    have htu := ((hrest ▸ ht).tail (by simp [hx])).2
    obtain ⟨hra, hter, hfl, hrd⟩ := stmtTail_recognizes fid fuel s.cur.span _ (hr₁ ▸ htu)
      (by rw [hr₁]; simp [hrest] at hn; omega) hf
    refine ⟨hc₁.raises.trans hra, hter, fun h => (hfl h).since hc₁.raises, fun j hj => ?_⟩
    obtain ⟨st, hb⟩ := hrd j hj
    rw [hr₁] at hb
    rw [hrest]
    exact ⟨st, .withLet hx hb⟩
  · rw [if_neg hk] at hf ⊢
    obtain ⟨hra, hter, hfl, hrd⟩ := stmtTail_recognizes fid fuel s.cur.span _ (hl.rest ▸ ht)
      (by rw [hl.rest]; omega) hf
    refine ⟨hl.raises.trans hra, hter, fun h => (hfl h).since hl.raises, fun j hj => ?_⟩
    obtain ⟨st, hb⟩ := hrd j hj
    rw [hl.rest] at hb
    exact ⟨st, .bare hb⟩

/-- Skipping to just past the next `;` only raises flags, and what is left still ends the file. -/
theorem resync_steady : ∀ (n : Nat) (s : ParseState), Terminated s.rest →
    Raises s (run (resync n) s).2 ∧ Terminated (run (resync n) s).2.rest
  | 0, s, ht => ⟨Raises.refl s, ht⟩
  | n + 1, s, ht => by
    obtain ⟨x, u, hrest⟩ := List.exists_cons_of_ne_nil ht.ne_nil
    have hp := peek_looked s
    have hk : (run peek s).1.kind = x.kind := by rw [peek_run, s.cur_of_rest hrest]
    by_cases he : x.kind = .eof
    · have hrun : run (resync (n + 1)) s = ((), (run peek s).2) := by simp [resync, hk, he]
      rw [hrun]
      exact ⟨hp.raises, hp.rest ▸ ht⟩
    · obtain ⟨hu, htu⟩ := (hrest ▸ ht).tail he
      have hr₁ := advance_rest (run peek s).2 (hp.rest.trans hrest) hu
      have hra₁ : Raises s (run advance (run peek s).2).2 := hp.raises.trans (advance_raises _)
      by_cases hs : x.kind = .semicolon
      · have hrun : run (resync (n + 1)) s = ((), (run advance (run peek s).2).2) := by
          simp [resync, hk, hs]
        rw [hrun]
        exact ⟨hra₁, hr₁ ▸ htu⟩
      · have hrun : run (resync (n + 1)) s = run (resync n) (run advance (run peek s).2).2 := by
          simp [resync, hk, he, hs]
        rw [hrun]
        obtain ⟨ihr, iht⟩ := resync_steady n _ (hr₁ ▸ htu)
        exact ⟨hra₁.trans ihr, iht⟩

theorem stmts_adds : ∀ (n : Nat) (acc : List Nat) (s : ParseState),
    Adds s.tree (run (stmts n acc) s).2.tree
  | 0, _, _ => Adds.refl _
  | n + 1, acc, s => by
    have ht₁ : (run (isAt .eof) s).2.tree = s.tree := by simp
    by_cases he : (run (isAt .eof) s).1 = true
    · have hrun : run (stmts (n + 1) acc) s = (acc, (run (isAt .eof) s).2) := by simp [stmts, he]
      rw [hrun, ht₁]
      exact Adds.refl _
    generalize hs₁ : (run (isAt .eof) s).2 = s₁ at ht₁
    by_cases hstop : (s₁.maxErrors > 0 ∧ s₁.errors ≥ s₁.maxErrors) ∨ s₁.tree.failure.isSome
    · have hrun : run (stmts (n + 1) acc) s = (acc, s₁) := by simp [stmts, he, hs₁, hstop]
      rw [hrun, ht₁]
      exact Adds.refl _
    have hp := (stmt_spec (4 * s₁.tokens.size + 4) s₁).adds
    rw [ht₁] at hp
    cases hst : (run (stmt (4 * s₁.tokens.size + 4)) s₁).1 with
    | some j =>
      have hrun : run (stmts (n + 1) acc) s =
          run (stmts n (acc ++ [j])) (run (stmt (4 * s₁.tokens.size + 4)) s₁).2 := by
        simp [stmts, he, hs₁, hstop, hst]
      rw [hrun]
      exact hp.trans (stmts_adds n _ _)
    | none =>
      have hrun : run (stmts (n + 1) acc) s = run (stmts n acc)
          (run (resync (s₁.tokens.size + 1)) (run (stmt (4 * s₁.tokens.size + 4)) s₁).2).2 := by
        simp [stmts, he, hs₁, hstop, hst]
      rw [hrun]
      exact hp.trans ((resync_tree _ _).symm ▸ stmts_adds n acc _)

/-- The statement loop only raises flags, while the tree does not fail. -/
theorem stmts_raises : ∀ (n : Nat) (acc : List Nat) (s : ParseState), Terminated s.rest →
    (run (stmts n acc) s).2.tree.failure = none → Raises s (run (stmts n acc) s).2
  | 0, _, s, _, _ => Raises.refl s
  | n + 1, acc, s, ht, hf => by
    have hl₁ := isAt_looked s .eof
    by_cases he : (run (isAt .eof) s).1 = true
    · have hrun : run (stmts (n + 1) acc) s = (acc, (run (isAt .eof) s).2) := by simp [stmts, he]
      rw [hrun]
      exact hl₁.raises
    generalize hs₁ : (run (isAt .eof) s).2 = s₁ at hl₁
    by_cases hstop : (s₁.maxErrors > 0 ∧ s₁.errors ≥ s₁.maxErrors) ∨ s₁.tree.failure.isSome
    · have hrun : run (stmts (n + 1) acc) s = (acc, s₁) := by simp [stmts, he, hs₁, hstop]
      rw [hrun]
      exact hl₁.raises
    have hbound : 3 * s₁.rest.length + 3 ≤ 4 * s₁.tokens.size + 4 := by
      have := s₁.length_rest_le
      omega
    cases hst : (run (stmt (4 * s₁.tokens.size + 4)) s₁).1 with
    | some j =>
      have hrun : run (stmts (n + 1) acc) s =
          run (stmts n (acc ++ [j])) (run (stmt (4 * s₁.tokens.size + 4)) s₁).2 := by
        simp [stmts, he, hs₁, hstop, hst]
      rw [hrun] at hf ⊢
      obtain ⟨hra, hter, -, -⟩ := stmt_recognizes 0 _ s₁ (hl₁.rest ▸ ht) hbound
        ((stmts_adds n _ _).sticky hf)
      exact hl₁.raises.trans (hra.trans (stmts_raises n _ _ hter hf))
    | none =>
      have hrun : run (stmts (n + 1) acc) s = run (stmts n acc)
          (run (resync (s₁.tokens.size + 1)) (run (stmt (4 * s₁.tokens.size + 4)) s₁).2).2 := by
        simp [stmts, he, hs₁, hstop, hst]
      rw [hrun] at hf ⊢
      have hf₂ := (resync_tree _ _) ▸ (stmts_adds n _ _).sticky hf
      obtain ⟨hra, hter, -, -⟩ := stmt_recognizes 0 _ s₁ (hl₁.rest ▸ ht) hbound hf₂
      obtain ⟨hra₃, hter₃⟩ := resync_steady (s₁.tokens.size + 1) _ hter
      exact hl₁.raises.trans (hra.trans (hra₃.trans (stmts_raises n _ _ hter₃ hf)))

/-- A statement loop that leaves no flag read a whole sentence: statements up to the end of the
file, given fuel for every token left. -/
theorem stmts_recognizes : ∀ (n : Nat) (acc : List Nat) (s : ParseState), Terminated s.rest →
    s.rest.length ≤ n → (run (stmts n acc) s).2.tree.failure = none →
    (run (stmts n acc) s).2.errors = 0 → (run (stmts n acc) s).2.invalid = false →
    ∃ sts, Sentence fid s.rest sts
  | 0, _, s, ht, hn, _, _, _ => absurd (List.eq_nil_of_length_eq_zero (Nat.le_zero.1 hn)) ht.ne_nil
  | n + 1, acc, s, ht, hn, hf, h0, hi0 => by
    obtain ⟨x, u, hrest⟩ := List.exists_cons_of_ne_nil ht.ne_nil
    have hl₁ := isAt_looked s .eof
    by_cases he : x.kind = .eof
    · -- the end of the file, and nothing after it
      have hu : u = [] := (hrest ▸ ht).eq_nil he
      subst hu
      exact ⟨[], hrest ▸ .eof he⟩
    have he' : (run (isAt .eof) s).1 = false := by simp [isAt_fst s hrest, he]
    generalize hs₁ : (run (isAt .eof) s).2 = s₁ at hl₁
    by_cases hstop : (s₁.maxErrors > 0 ∧ s₁.errors ≥ s₁.maxErrors) ∨ s₁.tree.failure.isSome
    · -- stopping early leaves a flag or a failed tree
      have hrun : run (stmts (n + 1) acc) s = (acc, s₁) := by simp [stmts, he', hs₁, hstop]
      rw [hrun] at hf h0
      simp only at hf h0
      rcases hstop with ⟨hm, hge⟩ | hfs
      · omega
      · simp [hf] at hfs
    have hbound : 3 * s₁.rest.length + 3 ≤ 4 * s₁.tokens.size + 4 := by
      have := s₁.length_rest_le
      omega
    cases hst : (run (stmt (4 * s₁.tokens.size + 4)) s₁).1 with
    | some j =>
      have hrun : run (stmts (n + 1) acc) s =
          run (stmts n (acc ++ [j])) (run (stmt (4 * s₁.tokens.size + 4)) s₁).2 := by
        simp [stmts, he', hs₁, hstop, hst]
      rw [hrun] at hf h0 hi0
      obtain ⟨-, hter, -, hrd⟩ := stmt_recognizes fid _ s₁ (hl₁.rest ▸ ht) hbound
        ((stmts_adds n _ _).sticky hf)
      obtain ⟨st, hst'⟩ := hrd j hst
      rw [hl₁.rest] at hst'
      have hlen := hst'.consumes.2
      obtain ⟨sts, hsts⟩ := stmts_recognizes n _ _ hter (by omega) hf h0 hi0
      exact ⟨st :: sts, .stmt hst' hsts⟩
    | none =>
      -- a failed statement raised a flag, which stays raised
      have hrun : run (stmts (n + 1) acc) s = run (stmts n acc)
          (run (resync (s₁.tokens.size + 1)) (run (stmt (4 * s₁.tokens.size + 4)) s₁).2).2 := by
        simp [stmts, he', hs₁, hstop, hst]
      rw [hrun] at hf h0 hi0
      have hf₂ := (resync_tree _ _) ▸ (stmts_adds n _ _).sticky hf
      obtain ⟨-, hter, hfl, -⟩ := stmt_recognizes fid _ s₁ (hl₁.rest ▸ ht) hbound hf₂
      obtain ⟨hra₃, hter₃⟩ := resync_steady (s₁.tokens.size + 1) _ hter
      have hfl := ((hfl hst).raise hra₃).raise (stmts_raises n _ _ hter₃ hf)
      rcases hfl with h | h
      · omega
      · simp [hi0] at h

end Statements

end Parser

end Combinatory
