import Combinatory.Proofs.Source
import Combinatory.Syntax.Lexer

/-! The grammar of the lambda notation over the lexer's tokens, as relations between the tokens
before a phrase and after it: `Derives fid p ts e ts'` says that phrase `p` read from `ts`
leaves `ts'` and denotes `e`. The tokens that may follow a phrase are `EndsExpr`,
`EndsOperands` and `EndsParams`. -/
namespace Combinatory

namespace Grammar

/-- The source term of an identifier token, with its span in file `fid`. -/
def leaf (fid : Nat) (x : Token) : Term := .var x.textString { x.span with file := fid }

/-- What may follow an expression: a token that starts neither an operand nor an abstraction. -/
def EndsExpr (ts : List Token) : Prop :=
  ∀ x ∈ ts.head?, x.kind ≠ .ident ∧ x.kind ≠ .lparen ∧ x.kind ≠ .lambda

/-- What may follow the operands of an application: a token that starts no operand. -/
def EndsOperands (ts : List Token) : Prop := ∀ x ∈ ts.head?, x.kind ≠ .ident ∧ x.kind ≠ .lparen

/-- What may follow the parameters of an abstraction: neither a comma nor an identifier. -/
def EndsParams (ts : List Token) : Prop := ∀ x ∈ ts.head?, x.kind ≠ .comma ∧ x.kind ≠ .ident

theorem EndsExpr.operands {ts : List Token} (h : EndsExpr ts) : EndsOperands ts :=
  fun x hx => ⟨(h x hx).1, (h x hx).2.1⟩

/-- `Params ts xs ts'`: the parameter identifiers `xs`, read from `ts`, leave `ts'`. -/
inductive Params : List Token → List Token → List Token → Prop
  | last {x : Token} {ts : List Token} : x.kind = .ident → Params (x :: ts) [x] ts
  | next {x : Token} {ts xs ts' : List Token} : x.kind = .ident → Params ts xs ts' →
      Params (x :: ts) (x :: xs) ts'
  | comma {x c : Token} {ts xs ts' : List Token} : x.kind = .ident → c.kind = .comma →
      Params ts xs ts' → Params (x :: c :: ts) (x :: xs) ts'

/-- The phrases of an expression. `more f` is the operands of an application after its first,
each applied in turn onto `f`, the application built so far. -/
inductive Phrase where
  | expr
  | abstraction
  | application
  | operand
  | more (f : Term)

/-- `Derives fid p ts e ts'`: the phrase `p`, read from `ts`, leaves `ts'` and denotes `e`. -/
inductive Derives (fid : Nat) : Phrase → List Token → Term → List Token → Prop
  | abstraction {lam close : Token} {ts₀ ts₁ ts₂ xs : List Token} {b : Term} :
      lam.kind = .lambda → Params ts₀ xs (close :: ts₁) → (close.kind = .dot ∨ close.kind = .arrow) →
      Derives fid .expr ts₁ b ts₂ →
      Derives fid .abstraction (lam :: ts₀) (.lam (xs.map Token.textString) b) ts₂
  | ident {x : Token} {ts : List Token} : x.kind = .ident →
      Derives fid .operand (x :: ts) (leaf fid x) ts
  | paren {lp rp : Token} {ts₀ ts₁ : List Token} {e : Term} : lp.kind = .lparen →
      Derives fid .expr ts₀ e (rp :: ts₁) → rp.kind = .rparen → Derives fid .operand (lp :: ts₀) e ts₁
  | stop {f : Term} {ts : List Token} : Derives fid (.more f) ts f ts
  | more {f a g : Term} {ts₀ ts₁ ts₂ : List Token} : Derives fid .operand ts₀ a ts₁ →
      Derives fid (.more (.app f a)) ts₁ g ts₂ → Derives fid (.more f) ts₀ g ts₂
  | operands {a e : Term} {ts₀ ts₁ ts₂ : List Token} : Derives fid .operand ts₀ a ts₁ →
      Derives fid (.more a) ts₁ e ts₂ → Derives fid .application ts₀ e ts₂
  | trailing {a f b : Term} {ts₀ ts₁ ts₂ ts₃ : List Token} : Derives fid .operand ts₀ a ts₁ →
      Derives fid (.more a) ts₁ f ts₂ → Derives fid .abstraction ts₂ b ts₃ →
      Derives fid .application ts₀ (.app f b) ts₃
  | ofAbstraction {ts₀ ts₁ : List Token} {e : Term} : Derives fid .abstraction ts₀ e ts₁ →
      Derives fid .expr ts₀ e ts₁
  | ofApplication {ts₀ ts₁ : List Token} {e : Term} : Derives fid .application ts₀ e ts₁ →
      Derives fid .expr ts₀ e ts₁

/-- The name, `=`, the expression and `;` of a statement. -/
inductive Binding (fid : Nat) : List Token → String × Term → List Token → Prop
  | mk {x eq semi : Token} {ts₀ ts₁ : List Token} {e : Term} : x.kind = .ident → eq.kind = .assign →
      Derives fid .expr ts₀ e (semi :: ts₁) → semi.kind = .semicolon →
      Binding fid (x :: eq :: ts₀) (x.textString, e) ts₁

/-- A statement: a binding, after an optional `let`. -/
inductive Statement (fid : Nat) : List Token → String × Term → List Token → Prop
  | bare {ts₀ ts₁ : List Token} {st : String × Term} : Binding fid ts₀ st ts₁ → Statement fid ts₀ st ts₁
  | withLet {kw : Token} {ts₀ ts₁ : List Token} {st : String × Term} : kw.kind = .kwLet →
      Binding fid ts₀ st ts₁ → Statement fid (kw :: ts₀) st ts₁

/-- A whole token list is a program: statements, then the end of the file and nothing after it.
The statements' names and terms are listed in source order. -/
inductive Sentence (fid : Nat) : List Token → List (String × Term) → Prop
  | eof {e : Token} : e.kind = .eof → Sentence fid [e] []
  | stmt {ts₀ ts₁ : List Token} {st : String × Term} {sts : List (String × Term)} :
      Statement fid ts₀ st ts₁ → Sentence fid ts₁ sts → Sentence fid ts₀ (st :: sts)

/-! ### Where phrases start and end -/

/-- The tokens end with the end of the file, and only there: what the lexer gives. -/
def Terminated (ts : List Token) : Prop :=
  ∃ u e, ts = u ++ [e] ∧ e.kind = .eof ∧ ∀ x ∈ u, x.kind ≠ .eof

/-- `ts` is `ts'` after some tokens, none of them the end of the file. -/
def Consumes (ts ts' : List Token) : Prop := ∃ u, ts = u ++ ts' ∧ ∀ x ∈ u, x.kind ≠ .eof

variable {fid : Nat} {ts ts' ts'' xs : List Token} {x : Token} {e f : Term}

namespace Terminated

theorem ne_nil (h : Terminated ts) : ts ≠ [] := by
  obtain ⟨u, e, rfl, -, -⟩ := h
  simp

theorem cons (h : Terminated ts) (hx : x.kind ≠ .eof) : Terminated (x :: ts) := by
  obtain ⟨u, e, rfl, he, hne⟩ := h
  refine ⟨x :: u, e, rfl, he, fun y hy => ?_⟩
  rcases List.mem_cons.1 hy with rfl | hy
  · exact hx
  · exact hne y hy

/-- Before the end of the file there is another token. -/
theorem tail (h : Terminated (x :: ts)) (hx : x.kind ≠ .eof) : ts ≠ [] ∧ Terminated ts := by
  obtain ⟨u, e, hu, he, hne⟩ := h
  cases u with
  | nil =>
    simp only [List.nil_append, List.cons.injEq] at hu
    exact absurd (hu.1 ▸ he) hx
  | cons y u =>
    simp only [List.cons_append, List.cons.injEq] at hu
    obtain ⟨rfl, rfl⟩ := hu
    exact ⟨by simp, u, e, rfl, he, fun z hz => hne z (List.mem_cons_of_mem _ hz)⟩

/-- The end of the file is the last token. -/
theorem eq_nil (h : Terminated (x :: ts)) (hx : x.kind = .eof) : ts = [] := by
  obtain ⟨u, e, hu, -, hne⟩ := h
  cases u with
  | nil =>
    simp only [List.nil_append, List.cons.injEq] at hu
    exact hu.2
  | cons y u =>
    simp only [List.cons_append, List.cons.injEq] at hu
    exact absurd (hu.1 ▸ hx) (hne y (by simp))

end Terminated

namespace Consumes

theorem refl (ts : List Token) : Consumes ts ts := ⟨[], rfl, by simp⟩

theorem trans (h₁ : Consumes ts ts') (h₂ : Consumes ts' ts'') : Consumes ts ts'' := by
  obtain ⟨u, rfl, hu⟩ := h₁
  obtain ⟨v, rfl, hv⟩ := h₂
  exact ⟨u ++ v, by simp, fun y hy => (List.mem_append.1 hy).elim (hu y) (hv y)⟩

theorem cons (hx : x.kind ≠ .eof) (h : Consumes ts ts') : Consumes (x :: ts) ts' := by
  obtain ⟨u, rfl, hu⟩ := h
  refine ⟨x :: u, rfl, fun y hy => ?_⟩
  rcases List.mem_cons.1 hy with rfl | hy
  · exact hx
  · exact hu y hy

theorem length_le (h : Consumes ts ts') : ts'.length ≤ ts.length := by
  obtain ⟨u, rfl, -⟩ := h
  simp

/-- What is left after tokens other than the end of the file still ends with it. -/
theorem terminated (h : Consumes ts ts') (ht : Terminated ts) : Terminated ts' := by
  obtain ⟨u, rfl, hu⟩ := h
  induction u with
  | nil => exact ht
  | cons y u ih =>
    exact ih (fun z hz => hu z (List.mem_cons_of_mem _ hz)) (ht.tail (hu y (by simp))).2

end Consumes

/-- Parameters are at least one identifier. -/
theorem Params.consumes (h : Params ts xs ts') : Consumes ts ts' ∧ ts'.length < ts.length := by
  induction h with
  | last hx => exact ⟨(Consumes.refl _).cons (by simp [hx]), by simp⟩
  | next hx _ ih => exact ⟨ih.1.cons (by simp [hx]), by simp; omega⟩
  | comma hx hc _ ih => exact ⟨(ih.1.cons (by simp [hc])).cons (by simp [hx]), by simp; omega⟩

theorem Params.ne_nil (h : Params ts xs ts') : xs ≠ [] := by
  cases h <;> simp

theorem Params.head (h : Params ts xs ts') : ∃ y u, ts = y :: u ∧ y.kind = .ident := by
  cases h with
  | last hx | next hx _ | comma hx _ _ => exact ⟨_, _, rfl, hx⟩

/-- A phrase reads tokens other than the end of the file, and all but `more` read some. -/
theorem Derives.consumes {p : Phrase} (h : Derives fid p ts e ts') :
    Consumes ts ts' ∧ ((∀ g, p ≠ .more g) → ts'.length < ts.length) := by
  induction h with
  | abstraction hl hp hc _ ih =>
    have hpc := hp.consumes.1.trans (ih.1.cons (by rcases hc with hc | hc <;> simp [hc]))
    exact ⟨hpc.cons (by simp [hl]), fun _ => by have := hpc.length_le; simp; omega⟩
  | ident hx => exact ⟨(Consumes.refl _).cons (by simp [hx]), fun _ => by simp⟩
  | paren hl _ hr ih =>
    have hpr := ih.1.trans ((Consumes.refl _).cons (by simp [hr]))
    exact ⟨hpr.cons (by simp [hl]), fun _ => by have := hpr.length_le; simp; omega⟩
  | stop => exact ⟨Consumes.refl _, fun h => absurd rfl (h _)⟩
  | more _ _ iha ihm => exact ⟨iha.1.trans ihm.1, fun h => absurd rfl (h _)⟩
  | operands _ _ iha ihm =>
    exact ⟨iha.1.trans ihm.1, fun _ => by have := iha.2 (by simp); have := ihm.1.length_le; omega⟩
  | trailing _ _ _ iha ihm ihb =>
    exact ⟨(iha.1.trans ihm.1).trans ihb.1,
      fun _ => by have := iha.2 (by simp); have := ihm.1.length_le; have := ihb.1.length_le; omega⟩
  | ofAbstraction _ ih | ofApplication _ ih => exact ⟨ih.1, fun _ => ih.2 (by simp)⟩

/-- A statement reads at least its name, `=` and `;`, none of them the end of the file. -/
theorem Statement.consumes {st : String × Term} (h : Statement fid ts st ts') :
    Consumes ts ts' ∧ ts'.length < ts.length := by
  have hb : ∀ {ts ts'}, Binding fid ts st ts' → Consumes ts ts' ∧ ts'.length < ts.length := by
    intro ts ts' hb
    cases hb with
    | @mk x eq semi ts₀ ts₁ e hx heq hd hs =>
      have hc : Consumes (eq :: ts₀) _ :=
        (hd.consumes.1.trans ((Consumes.refl _).cons (by simp [hs]))).cons (by simp [heq])
      exact ⟨hc.cons (by simp [hx]), by have := hc.length_le; simp only [List.length_cons] at this ⊢; omega⟩
  cases h with
  | bare hb' => exact hb hb'
  | withLet hk hb' =>
    have h := hb hb'
    exact ⟨h.1.cons (by simp [hk]), by simp; omega⟩

theorem Derives.operand_head (h : Derives fid .operand ts e ts') :
    ∃ y u, ts = y :: u ∧ (y.kind = .ident ∨ y.kind = .lparen) := by
  cases h with
  | ident hx => exact ⟨_, _, rfl, .inl hx⟩
  | paren hl _ _ => exact ⟨_, _, rfl, .inr hl⟩

theorem Derives.abstraction_head (h : Derives fid .abstraction ts e ts') :
    ∃ y u, ts = y :: u ∧ y.kind = .lambda := by
  cases h with
  | abstraction hl _ _ _ => exact ⟨_, _, rfl, hl⟩

theorem Derives.application_head (h : Derives fid .application ts e ts') :
    ∃ y u, ts = y :: u ∧ (y.kind = .ident ∨ y.kind = .lparen) := by
  cases h with
  | operands ha _ | trailing ha _ _ => exact ha.operand_head

theorem Binding.head {st : String × Term} (h : Binding fid ts st ts') :
    ∃ y u, ts = y :: u ∧ y.kind = .ident := by
  cases h with
  | mk hx _ _ _ => exact ⟨_, _, rfl, hx⟩

theorem Statement.head {st : String × Term} (h : Statement fid ts st ts') :
    ∃ y u, ts = y :: u ∧ (y.kind = .kwLet ∨ y.kind = .ident) := by
  cases h with
  | bare hb =>
    obtain ⟨y, u, rfl, hy⟩ := hb.head
    exact ⟨y, u, rfl, .inr hy⟩
  | withLet hk _ => exact ⟨_, _, rfl, .inl hk⟩

end Grammar

/-! ### The lexer's tokens are terminated -/

namespace Lexer

open Grammar

theorem punct_ne_eof (g : Glyph) : (punct? g).getD .invalid ≠ .eof := by
  unfold punct?
  split <;> simp

theorem token_ne_eof (g : Glyph) (rest : List Glyph) : (token (g :: rest)).1 ≠ .eof := by
  by_cases hs : isIdentStart g
  · simp [token, hs]
  · cases rest with
    | nil => simpa [token, hs] using punct_ne_eof g
    | cons h more =>
      by_cases ha : isChar '-' g = true ∧ isChar '>' h = true
      · simp [token, hs, ha]
      · simpa [token, hs, ha] using punct_ne_eof g

/-- A piece of text that is a token is never the end of the file. -/
theorem piece_ne_eof {g : Glyph} {rest : List Glyph} {k : TokenKind}
    (h : (piece (g :: rest)).1 = .token k) : k ≠ .eof := by
  unfold piece at h
  split at h
  · simp at h
  · simp only [Piece.token.injEq] at h
    exact h ▸ token_ne_eof g rest

theorem keyword_ne_eof (text : List UInt8) : keyword text ≠ .eof := by
  unfold keyword
  split <;> simp

/-- The lexer's tokens end with one end-of-file token. -/
theorem run_terminated (file : Nat) (gs : List Glyph) (off : Nat) (held : List Trivia) :
    Terminated (run file gs off held) := by
  fun_induction run file gs off held with
  | case1 => exact ⟨[], _, rfl, rfl, by simp⟩
  | case2 off held g rest n k hk taken stop ih => simpa [hk] using ih
  | case3 off held g rest n k hk taken stop ih =>
    simp only [hk]
    refine ih.cons ?_
    split
    · exact keyword_ne_eof _
    · exact piece_ne_eof hk
end Lexer

theorem SourceFile.tokens_terminated (f : SourceFile) : Grammar.Terminated f.tokens :=
  Lexer.run_terminated _ _ _ _

end Combinatory
