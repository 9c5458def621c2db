import Combinatory.Proofs.Shape

/-! Source terms with the spans of their records (`Located`), which the currying pass moves.
`Located.curry` is currying on such terms; forgetting the spans takes it to `Term.curry`
(`Located.erase_curry`). -/
namespace Combinatory

/-- A parameter as its records give it: its name, the span of its identifier and the span of
its token. -/
structure Param where
  name : String
  ident : Span
  token : Span
  deriving DecidableEq, Repr, Inhabited

/-- The parameter once its identifier spans its own token. -/
def Param.shrink (q : Param) : Param := { q with ident := q.token }

@[simp] theorem Param.shrink_name (q : Param) : q.shrink.name = q.name := rfl

@[simp] theorem Param.shrink_token (q : Param) : q.shrink.token = q.token := rfl

/-- A source term with the span of each of its records. -/
inductive Located where
  | var (x : String) (span : Span)
  | app (f a : Located) (span : Span)
  | lam (params : List Param) (body : Located) (span : Span)
  deriving DecidableEq, Repr, Inhabited

namespace Located

/-- One abstraction per parameter of `ps` around `b`, the first outermost, each spanning its
parameter's token. -/
def wraps (ps : List Param) (b : Located) : Located :=
  ps.foldr (fun q acc => lam [q] acc q.token) b

/-- Currying: `λx₁,…,xₙ.E` becomes `λx₁.λx₂.…λxₙ.E`, `E` curried. The outer abstraction keeps
its span, each new one spans its parameter's token, and every parameter's identifier spans its
token. -/
def curry : Located → Located
  | var x sp => var x sp
  | app f a sp => app f.curry a.curry sp
  | lam [] b _ => b.curry
  | lam (p :: qs) b sp => lam [p.shrink] (wraps (qs.map Param.shrink) b.curry) sp

/-- The source term, the spans of applications, abstractions and parameters forgotten. -/
def erase : Located → Term
  | var x sp => .var x sp
  | app f a _ => .app f.erase a.erase
  | lam ps b _ => .lam (ps.map (·.name)) b.erase

theorem erase_wraps (ps : List Param) (b : Located) :
    (wraps ps b).erase = (ps.map (·.name)).foldr (fun x acc => .lam [x] acc) b.erase := by
  induction ps with
  | nil => rfl
  | cons q ps ih => simp [wraps,erase,← ih]

/-- Currying what the records say is currying the source term. -/
theorem erase_curry (l : Located) : l.curry.erase = l.erase.curry := by
  induction l with
  | var x sp => rfl
  | app f a _ ihf iha => simp [curry,erase,Term.curry,ihf,iha]
  | lam ps b _ ih =>
    cases ps with
    | nil => simp [curry,erase,Term.curry,ih]
    | cons p qs => simp [curry,erase,erase_wraps,Term.curry,Function.comp_def,ih]

end Located

namespace Tree

/-- Parameter `v` as the records of `t` give it. -/
def param (t : Tree) (v : Nat) : Param :=
  ⟨t.name v, (t.ident v).span, (t.token (t.ident v).token).span⟩

/-- The located term at expression `i`, following at most `fuel` records. -/
def locatedAux (t : Tree) : Nat → Nat → Located
  | 0, _ => .var "" ⟨0, 0, 0⟩
  | fuel + 1, i =>
    match t.expr i with
    | .ref v sp => .var (t.name v) sp
    | .app l r sp => .app (t.locatedAux fuel l) (t.locatedAux fuel r) sp
    | .abs p b sp => .lam ((t.chain p).map t.param) (t.locatedAux fuel b) sp

/-- The located term at expression `i`. -/
def located (t : Tree) (i : Nat) : Located := t.locatedAux (t.exprs.size + 1) i

/-- Identifier `v` as the parser leaves it: its token is a record of the tree and spans a place
of the tree's file, and when `v` ends its chain it spans that token. -/
def Spanned (t : Tree) (v : Nat) : Prop :=
  (t.ident v).token < t.tokens.size ∧ (t.token (t.ident v).token).span.file = t.file ∧
    ((t.ident v).next = none → (t.ident v).span = (t.token (t.ident v).token).span)

/-- Every identifier of the tree is as the parser leaves it. -/
def SpansTokens (t : Tree) : Prop := ∀ v < t.idents.size, t.Spanned v

end Tree

namespace Shape

/-- The located term a shape holds in tree `t`. -/
def located (t : Tree) : Shape → Located
  | ref i v => .var (t.name v) (t.exprSpan i)
  | app i l r => .app (l.located t) (r.located t) (t.exprSpan i)
  | abs i ps b => .lam (ps.map t.param) (b.located t) (t.exprSpan i)

theorem erase_located (t : Tree) (sh : Shape) : (sh.located t).erase = sh.term t := by
  induction sh with
  | ref i v => rfl
  | app i l r ihl ihr => simp [located,term,Located.erase,ihl,ihr]
  | abs i ps b ih => simp [located,term,Located.erase,ih,Tree.param]

end Shape

namespace Tree

theorem locatedAux_of_realizes {t : Tree} {sh : Shape} (h : t.Realizes sh) (hl : sh.Linear) :
    ∀ fuel, sh.depth ≤ fuel → t.locatedAux fuel sh.root = sh.located t := by
  induction h with
  | @ref i v sp _ he _ =>
    intro fuel hf
    obtain ⟨fuel, rfl⟩ : ∃ f, fuel = f + 1 := ⟨fuel - 1, by simp [Shape.depth] at hf; omega⟩
    simp [locatedAux,he,Shape.located,exprSpan,Expr.span]
  | app _ he _ _ ihl ihr =>
    intro fuel hf
    obtain ⟨fuel, rfl⟩ : ∃ f, fuel = f + 1 := ⟨fuel - 1, by simp [Shape.depth] at hf; omega⟩
    simp only [Shape.depth] at hf
    simp only [locatedAux,Shape.root_app,he,Shape.located,ihl hl.left fuel (by omega),
      ihr hl.right fuel (by omega),exprSpan,Expr.span]
  | abs _ he hc _ ih =>
    intro fuel hf
    obtain ⟨fuel, rfl⟩ : ∃ f, fuel = f + 1 := ⟨fuel - 1, by simp [Shape.depth] at hf; omega⟩
    simp only [Shape.depth] at hf
    simp only [locatedAux,Shape.root_abs,he,Shape.located,chain_of_chainAt hc hl.chain,
      ih hl.body fuel (by omega),exprSpan,Expr.span]

/-- The walk with the fuel the code gives it reads the whole located term of a linear shape. -/
theorem located_eq {t : Tree} {sh : Shape} (h : t.Realizes sh) (hl : sh.Linear) :
    t.located sh.root = sh.located t :=
  locatedAux_of_realizes h hl _ (Nat.le_succ_of_le (h.depth_le hl))

end Tree

end Combinatory
