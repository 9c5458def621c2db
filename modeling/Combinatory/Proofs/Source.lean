import Combinatory.Proofs.Bracket
import Combinatory.Source.File

/-! Source terms and the converter on them (`Term.compile`): what a compiled term denotes
(`interp_compile`), which leaves stay free (`hasFree_compile`) and which references it holds
(`refs_compile`). -/
namespace Combinatory

/-- A source term: a reference by name, with the span of its record, an application, or an
abstraction over its parameter names, outermost first. -/
inductive Term where
  | var (x : String) (span : Span)
  | app (f a : Term)
  | lam (params : List String) (body : Term)
  deriving DecidableEq, Repr, Inhabited

namespace Term

/-- Every abstraction written with one parameter per `λ`: `λx,y,z.E` becomes `λx.λy.λz.E`. -/
def curry : Term → Term
  | var x sp => var x sp
  | app f a => app f.curry a.curry
  | lam ps b => ps.foldr (fun x acc => lam [x] acc) b.curry

/-- The references that no enclosing parameter binds (besides the names `bound`), in order,
with their spans. -/
def freeRefs : List String → Term → List (String × Span)
  | bound, var x sp => if x ∈ bound then [] else [(x, sp)]
  | bound, app f a => freeRefs bound f ++ freeRefs bound a
  | bound, lam ps b => freeRefs (bound ++ ps) b

/-- The λ-term of a source term under the binders `Γ` (innermost first), a name that nothing
binds denoting `σ` of it. -/
def toLam (σ : String → Lam) : List String → Term → Lam
  | Γ, var x _ => Lam.lookup Γ σ x
  | Γ, app f a => .app (toLam σ Γ f) (toLam σ Γ a)
  | Γ, lam ps b => Lam.lams ps.length (toLam σ (ps.reverse ++ Γ) b)

/-- The converter on a term, given how a top-level name resolves (the compiled term it points
at and its statement) and the parameters in scope, outermost first: the combinator term and
the references reported as used before being defined, in order. -/
def compile (res : String → Option (Nat × Nat)) : List String → Term → Comb × List (String × Span)
  | pending, var x sp =>
    if x ∈ pending then (.free x, [])
    else match res x with
      | some (tgt, j) => (.ref tgt j, [])
      | none => (.free x, [(x, sp)])
  | pending, app f a =>
    (.app (compile res pending f).1 (compile res pending a).1,
      (compile res pending f).2 ++ (compile res pending a).2)
  | pending, lam ps b =>
    (ps.foldr Comb.abstract (compile res (pending ++ ps) b).1, (compile res (pending ++ ps) b).2)

variable (res : String → Option (Nat × Nat))

theorem compile_lam_curry (ps : List String) (b : Term) (pending : List String) :
    compile res pending (ps.foldr (fun x acc => lam [x] acc) b) =
      (ps.foldr Comb.abstract (compile res (pending ++ ps) b).1, (compile res (pending ++ ps) b).2) := by
  induction ps generalizing pending with
  | nil => simp
  | cons x ps ih =>
    simp only [List.foldr_cons,compile,ih]
    simp

/-- Currying changes nothing the converter produces. -/
theorem compile_curry (e : Term) (pending : List String) :
    compile res pending e.curry = compile res pending e := by
  induction e generalizing pending with
  | var _ _ => rfl
  | app f a ihf iha => simp [curry,compile,ihf,iha]
  | lam ps b ih => rw [curry,compile_lam_curry,ih,compile]

/-- The references reported are the free ones that do not resolve. -/
theorem errs_compile (e : Term) (pending : List String) :
    (compile res pending e).2 = (e.freeRefs pending).filter (fun o => (res o.1).isNone) := by
  induction e generalizing pending with
  | var x sp =>
    by_cases h : x ∈ pending
    · simp [compile,freeRefs,h]
    · cases hr : res x <;> simp [compile,freeRefs,h,hr]
  | app f a ihf iha => simp [compile,freeRefs,ihf,iha]
  | lam ps b ih => simp [compile,freeRefs,ih]

theorem links_abstracts (ps : List String) (c : Comb) :
    (ps.foldr Comb.abstract c).links = c.links := by
  induction ps with
  | nil => rfl
  | cons x ps ih => rw [List.foldr_cons,Comb.links_abstract,ih]

/-- Each free reference that resolves becomes a reference to what it resolves to, in order. -/
theorem links_compile (e : Term) (pending : List String) :
    (compile res pending e).1.links = (e.freeRefs pending).filterMap (fun o => res o.1) := by
  induction e generalizing pending with
  | var x sp =>
    by_cases h : x ∈ pending
    · simp [compile,freeRefs,h,Comb.links]
    · cases hr : res x <;> simp [compile,freeRefs,h,hr,Comb.links]
  | app f a ihf iha => simp [compile,freeRefs,Comb.links,ihf,iha]
  | lam ps b ih => simp [compile,freeRefs,links_abstracts,ih]

/-- Each free reference that resolves becomes a reference to its statement, in order. -/
theorem refs_compile (e : Term) (pending : List String) :
    (compile res pending e).1.refs = (e.freeRefs pending).filterMap (fun o => (res o.1).map (·.2)) := by
  rw [Comb.refs_eq_map_links,links_compile,List.map_filterMap]

theorem hasFree_abstracts (ps : List String) (c : Comb) (y : String) :
    (ps.foldr Comb.abstract c).hasFree y = (c.hasFree y && !ps.contains y) := by
  induction ps with
  | nil => simp
  | cons x ps ih =>
    rw [List.foldr_cons,Comb.hasFree_abstract,ih]
    by_cases h : y = x <;> simp [h]

/-- A leaf left free names a parameter in scope or a reference reported as used before being
defined. -/
theorem hasFree_compile (e : Term) (pending : List String) (y : String)
    (h : (compile res pending e).1.hasFree y = true) :
    y ∈ pending ∨ ∃ sp, (y, sp) ∈ (compile res pending e).2 := by
  induction e generalizing pending with
  | var x sp =>
    by_cases hx : x ∈ pending
    · simp only [compile,hx,if_true,Comb.hasFree,decide_eq_true_eq] at h
      exact .inl (h ▸ hx)
    · cases hr : res x with
      | some r => simp [compile,hx,hr,Comb.hasFree] at h
      | none =>
        simp only [compile,hx,hr,if_false,Comb.hasFree,decide_eq_true_eq] at h
        subst h
        exact .inr ⟨sp,by simp [compile,hx,hr]⟩
  | app f a ihf iha =>
    simp only [compile,Comb.hasFree,Bool.or_eq_true] at h
    rcases h with h | h
    · rcases ihf pending h with h' | ⟨sp,h'⟩
      · exact .inl h'
      · exact .inr ⟨sp,by simp [compile,h']⟩
    · rcases iha pending h with h' | ⟨sp,h'⟩
      · exact .inl h'
      · exact .inr ⟨sp,by simp [compile,h']⟩
  | lam ps b ih =>
    simp only [compile,hasFree_abstracts,Bool.and_eq_true,Bool.not_eq_true'] at h
    rcases ih (pending ++ ps) h.1 with h' | ⟨sp,h'⟩
    · rcases List.mem_append.1 h' with h'' | h''
      · exact .inl h''
      · exact absurd h'' (by simpa using h.2)
    · exact .inr ⟨sp,h'⟩

/-- A free reference names none of the names bound around it. -/
theorem not_mem_of_mem_freeRefs {e : Term} {bound : List String} {o : String × Span}
    (h : o ∈ e.freeRefs bound) : o.1 ∉ bound := by
  induction e generalizing bound with
  | var x sp =>
    by_cases hx : x ∈ bound
    · simp [freeRefs,hx] at h
    · simp only [freeRefs,hx,if_false,List.mem_singleton] at h
      subst h
      exact hx
  | app f a ihf iha => exact (List.mem_append.1 h).elim ihf iha
  | lam ps b ih => exact fun hb => ih h (List.mem_append_left _ hb)

/-- A reference reported as used before being defined stays a free leaf of the compiled term. -/
theorem hasFree_of_mem_errs (e : Term) (pending : List String) {o : String × Span}
    (h : o ∈ (compile res pending e).2) : (compile res pending e).1.hasFree o.1 = true := by
  induction e generalizing pending with
  | var x sp =>
    by_cases hx : x ∈ pending
    · simp [compile,hx] at h
    · cases hr : res x with
      | some r => simp [compile,hx,hr] at h
      | none =>
        simp only [compile,hx,hr,if_false,List.mem_singleton] at h ⊢
        subst h
        simp [Comb.hasFree]
  | app f a ihf iha =>
    simp only [compile,List.mem_append] at h
    simp only [compile,Comb.hasFree,Bool.or_eq_true]
    exact h.imp (ihf pending) (iha pending)
  | lam ps b ih =>
    simp only [compile] at h ⊢
    -- the reference is free in the body, so it names none of the abstraction's parameters
    have hps : o.1 ∉ pending ++ ps := by
      rw [errs_compile] at h
      exact not_mem_of_mem_freeRefs (List.mem_filter.1 h).1
    rw [hasFree_abstracts,ih _ h]
    simpa using fun hp => hps (List.mem_append_right _ hp)

section Denote

variable {ρ : Nat → Lam}

/-- What a top-level name denotes: the term of the statement it resolves to, or the name itself
when it resolves to none. -/
def resolved (ρ : Nat → Lam) (x : String) : Lam :=
  match res x with
  | some (_, j) => ρ j
  | none => .fvar x

theorem lookup_of_mem {Γ : List String} {x : String} (h : x ∈ Γ) (σ σ' : String → Lam) :
    Lam.lookup Γ σ x = Lam.lookup Γ σ' x := by
  have hx : Γ.idxOf? x ≠ none := by simpa using h
  simp only [Lam.lookup]
  cases hi : Γ.idxOf? x with
  | none => exact absurd hi hx
  | some i => rfl

theorem lookup_of_not_mem {Γ : List String} {x : String} (h : x ∉ Γ) (σ : String → Lam) :
    Lam.lookup Γ σ x = σ x := by
  have hx : Γ.idxOf? x = none := by simpa using h
  simp [Lam.lookup,hx]

theorem interp_abstracts (hρ : Comb.Closed ρ) (ps : List String) (c : Comb) (Γ : List String) :
    Lam.Conv ((ps.foldr Comb.abstract c).interp ρ Γ)
      (Lam.lams ps.length (c.interp ρ (ps.reverse ++ Γ))) := by
  induction ps generalizing Γ with
  | nil => exact Lam.Conv.refl _
  | cons x ps ih =>
    refine (Comb.interp_abstract hρ x _ Γ).trans (Lam.Conv.lam ?_)
    simpa using ih (x :: Γ)

/-- The converter is correct: when it reports nothing, the compiled term denotes the source
term, each parameter by its innermost binder and each other name by the statement it
resolves to. -/
theorem interp_compile (hρ : Comb.Closed ρ) (e : Term) (pending : List String)
    (h : (compile res pending e).2 = []) :
    Lam.Conv ((compile res pending e).1.interp ρ pending.reverse)
      (e.toLam (resolved res ρ) pending.reverse) := by
  induction e generalizing pending with
  | var x sp =>
    by_cases hx : x ∈ pending
    · simp only [compile,hx,if_true,Comb.interp,toLam]
      rw [lookup_of_mem (List.mem_reverse.2 hx) _ (resolved res ρ)]
      exact Lam.Conv.refl _
    · cases hr : res x with
      | some r =>
        simp only [compile,hx,hr,if_false,Comb.interp,toLam]
        rw [lookup_of_not_mem (by simpa using hx),resolved,hr]
        exact Lam.Conv.refl _
      | none => simp [compile,hx,hr] at h
  | app f a ihf iha =>
    simp only [compile,List.append_eq_nil_iff] at h
    exact (ihf pending h.1).app (iha pending h.2)
  | lam ps b ih =>
    simp only [compile] at h ⊢
    refine (interp_abstracts hρ ps _ _).trans (Lam.Conv.lams ?_ _)
    simpa using ih (pending ++ ps) h

end Denote

end Term

end Combinatory
