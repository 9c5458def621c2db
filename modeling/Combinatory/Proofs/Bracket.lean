import Combinatory.Proofs.Lambda

/-! Combinator terms read back from the store as trees, and bracket abstraction on them.
The abstraction of `x` from a term is proved to denote, in the λ-calculus, the λ over `x` of
the term (`interp_abstract`), to remove exactly the free leaves named `x`
(`hasFree_abstract`) and to keep every reference in order (`links_abstract`). -/
namespace Combinatory

namespace Lam

/-- The variable a name denotes under the binders `Γ` (innermost first): the index of its
innermost binder, or `σ x` when nothing binds it. -/
def lookup (Γ : List String) (σ : String → Lam) (x : String) : Lam :=
  match Γ.idxOf? x with
  | some i => bvar i
  | none => σ x

theorem lookup_cons (y : String) (Γ : List String) (σ : String → Lam) (x : String) :
    lookup (y :: Γ) σ x =
      if y = x then bvar 0 else match Γ.idxOf? x with
        | some i => bvar (i + 1)
        | none => σ x := by
  simp only [lookup,List.idxOf?_cons,beq_iff_eq]
  by_cases h : y = x
  · simp [h]
  · cases Γ.idxOf? x <;> simp [h]

/-- Past a binder of another name, a name denotes its old variable moved up, when the names
that nothing binds denote closed terms. -/
theorem lookup_cons_of_ne {y x : String} (h : y ≠ x) (Γ : List String) (σ : String → Lam)
    (hσ : (σ x).lift = σ x) : lookup (y :: Γ) σ x = (lookup Γ σ x).lift := by
  rw [lookup_cons,if_neg h,lookup]
  cases Γ.idxOf? x <;> simp [hσ] <;> rfl

@[simp] theorem lookup_cons_self (x : String) (Γ : List String) (σ : String → Lam) :
    lookup (x :: Γ) σ x = bvar 0 := by
  simp [lookup_cons]

/-- `n` nested abstractions around `b`. -/
def lams : Nat → Lam → Lam
  | 0, b => b
  | n + 1, b => lam (lams n b)

theorem Conv.lams {b b' : Lam} (h : Conv b b') (n : Nat) : Conv (Lam.lams n b) (Lam.lams n b') := by
  induction n with
  | zero => exact h
  | succ n ih => exact ih.lam

end Lam

/-- A combinator term read back from the store: a reference keeps the node it points at and
the statement it names, a free leaf its name. -/
inductive Comb where
  | s
  | k
  | app (f a : Comb)
  | ref (target stmt : Nat)
  | free (x : String)
  deriving DecidableEq, Repr, Inhabited

namespace Comb

/-- Whether a free leaf named `x` occurs; references are not followed. -/
def hasFree (x : String) : Comb → Bool
  | free y => decide (y = x)
  | app f a => f.hasFree x || a.hasFree x
  | _ => false

/-- The statements referenced, in pre-order. -/
def refs : Comb → List Nat
  | app f a => f.refs ++ a.refs
  | ref _ j => [j]
  | _ => []

/-- The references as pairs of the node pointed at and the statement, in pre-order. -/
def links : Comb → List (Nat × Nat)
  | app f a => f.links ++ a.links
  | ref t j => [(t, j)]
  | _ => []

theorem refs_eq_map_links (c : Comb) : c.refs = c.links.map Prod.snd := by
  induction c with
  | app f a ihf iha => simp [refs,links,ihf,iha]
  | _ => rfl

/-- The identity, `S K K`. -/
def I : Comb := app (app s k) k

/-- Removes the free leaves named `x`: `K E` when there is none, `S K K` for the leaf itself,
`E` for `E x` with no `x` in `E`, and `S` of the two sides otherwise. -/
def abstract (x : String) : Comb → Comb
  | free y => if y = x then I else app k (free y)
  | app f a =>
    if (app f a).hasFree x = false then app k (app f a)
    else if a = free x ∧ f.hasFree x = false then f
    else app (app s (abstract x f)) (abstract x a)
  | c => app k c

@[simp] theorem abstract_free_self (x : String) : (free x).abstract x = I := by
  simp [abstract]

theorem abstract_app_of_hasFree_false {x : String} {f a : Comb}
    (h : (app f a).hasFree x = false) : (app f a).abstract x = app k (app f a) := by
  rw [abstract,if_pos h]

theorem abstract_app_eta {x : String} {f : Comb} (hf : f.hasFree x = false) :
    (app f (free x)).abstract x = f := by
  have h : (app f (free x)).hasFree x = true := by simp [hasFree]
  rw [abstract,if_neg (by simp [h]),if_pos ⟨rfl,hf⟩]

theorem abstract_app_S {x : String} {f a : Comb} (h : (app f a).hasFree x = true)
    (heta : ¬(a = free x ∧ f.hasFree x = false)) :
    (app f a).abstract x = app (app s (f.abstract x)) (a.abstract x) := by
  rw [abstract,if_neg (by simp [h]),if_neg heta]

/-- Abstracting a name that does not occur gives the constant function. -/
theorem abstract_of_hasFree_false {x : String} {c : Comb} (h : c.hasFree x = false) :
    c.abstract x = app k c := by
  cases c with
  | free y =>
    have hy : y ≠ x := fun e => by simp [hasFree,e] at h
    simp [abstract,hy]
  | app f a => exact abstract_app_of_hasFree_false h
  | s | k | ref _ _ => rfl

/-- The λ-term of a combinator term under the binders `Γ`: a reference denotes `ρ` of its
statement, a free leaf the variable of its name, or itself when nothing binds it. -/
def interp (ρ : Nat → Lam) (Γ : List String) : Comb → Lam
  | s => Lam.S
  | k => Lam.K
  | app f a => .app (f.interp ρ Γ) (a.interp ρ Γ)
  | ref _ j => ρ j
  | free x => Lam.lookup Γ .fvar x

section Interp

variable {ρ : Nat → Lam}

/-- Every reference denotes a closed term. -/
def Closed (ρ : Nat → Lam) : Prop := ∀ j, Lam.ClosedAt 0 (ρ j)

/-- Under no binder a term denotes a closed λ-term. -/
theorem closedAt_interp_nil (hρ : Closed ρ) (c : Comb) : Lam.ClosedAt 0 (c.interp ρ []) := by
  induction c with
  | s => exact Lam.closedAt_S
  | k => exact Lam.closedAt_K
  | app f a ihf iha => exact ⟨ihf,iha⟩
  | ref _ j => exact hρ j
  | free x => simp [interp,Lam.lookup]

/-- A term without the leaf `x` denotes under a new binder `x` what it denoted before,
moved up. -/
theorem interp_cons_of_hasFree_false (hρ : Closed ρ) {x : String} {c : Comb}
    (hc : c.hasFree x = false) (Γ : List String) :
    c.interp ρ (x :: Γ) = (c.interp ρ Γ).lift := by
  induction c with
  | s => exact (Lam.lift_of_closed Lam.closedAt_S).symm
  | k => exact (Lam.lift_of_closed Lam.closedAt_K).symm
  | app f a ihf iha =>
    simp only [hasFree,Bool.or_eq_false_iff] at hc
    simp only [interp,ihf hc.1,iha hc.2]
    rfl
  | ref _ j => exact (Lam.lift_of_closed (hρ j)).symm
  | free y =>
    have hne : x ≠ y := fun h => by simp [hasFree,h] at hc
    exact Lam.lookup_cons_of_ne hne Γ _ rfl

/-- `K E` denotes the constant function of what `E` denotes. -/
theorem conv_interp_K (hρ : Closed ρ) {x : String} {c : Comb} (hc : c.hasFree x = false)
    (Γ : List String) :
    Lam.Conv ((app k c).interp ρ Γ) (.lam (c.interp ρ (x :: Γ))) := by
  rw [interp_cons_of_hasFree_false hρ hc]
  exact Lam.conv_K_app _

/-- Bracket abstraction: the abstraction of `x` from `c` denotes the λ over `x` of what `c`
denotes, so that applied to any argument it behaves as `c` with `x` put for that argument. -/
theorem interp_abstract (hρ : Closed ρ) (x : String) (c : Comb) (Γ : List String) :
    Lam.Conv ((c.abstract x).interp ρ Γ) (.lam (c.interp ρ (x :: Γ))) := by
  induction c with
  | s => exact conv_interp_K hρ rfl Γ
  | k => exact conv_interp_K hρ rfl Γ
  | ref _ _ => exact conv_interp_K hρ rfl Γ
  | free y =>
    by_cases h : y = x
    · subst h
      simpa [abstract,I,interp] using Lam.conv_SKK
    · simpa [abstract,h] using conv_interp_K (x := x) hρ (c := free y) (by simp [hasFree,h]) Γ
  | app f a ihf iha =>
    by_cases hfree : (app f a).hasFree x = false
    · rw [abstract_app_of_hasFree_false hfree]
      exact conv_interp_K hρ hfree Γ
    by_cases heta : a = free x ∧ f.hasFree x = false
    · -- η: `E x` with no `x` in `E` is `E`
      obtain ⟨rfl,hf⟩ := heta
      rw [abstract_app_eta hf,interp,interp_cons_of_hasFree_false hρ hf,interp,
        Lam.lookup_cons_self]
      exact (Lam.Conv.eta _).symm
    · rw [abstract_app_S (by simpa using hfree) heta]
      refine (Lam.conv_S_app _ _).trans (Lam.Conv.lam ?_)
      exact ((ihf.lift.appL _).trans (Lam.conv_lift_lam_app _)).app
        ((iha.lift.appL _).trans (Lam.conv_lift_lam_app _))

end Interp

@[simp] theorem hasFree_I (y : String) : I.hasFree y = false := rfl

/-- Abstraction removes the leaves of its name and no other. -/
theorem hasFree_abstract (x y : String) (c : Comb) :
    (c.abstract x).hasFree y = (c.hasFree y && !decide (y = x)) := by
  induction c with
  | s | k | ref _ _ => simp [abstract,hasFree]
  | free z =>
    rw [abstract]
    by_cases h : z = x
    · subst h
      by_cases hy : z = y
      · subst hy; simp
      · simp [hasFree,hy]
    · by_cases hy : z = y
      · subst hy; simp [hasFree,h]
      · simp [hasFree,h,hy]
  | app f a ihf iha =>
    by_cases hfree : (app f a).hasFree x = false
    · rw [abstract_app_of_hasFree_false hfree]
      by_cases hy : y = x
      · subst hy; simpa [hasFree] using hfree
      · simp [hasFree,hy]
    by_cases heta : a = free x ∧ f.hasFree x = false
    · obtain ⟨rfl,hf⟩ := heta
      rw [abstract_app_eta hf]
      by_cases hy : y = x
      · subst hy; simp [hf]
      · simp [hasFree,hy,Ne.symm hy]
    · rw [abstract_app_S (by simpa using hfree) heta]
      simp only [hasFree,ihf,iha]
      cases f.hasFree y <;> cases a.hasFree y <;> simp

/-- Abstraction keeps every reference, in order. -/
theorem links_abstract (x : String) (c : Comb) : (c.abstract x).links = c.links := by
  induction c with
  | s | k | ref _ _ => simp [abstract,links]
  | free z => by_cases h : z = x <;> simp [abstract,h,links,I]
  | app f a ihf iha =>
    by_cases hfree : (app f a).hasFree x = false
    · rw [abstract_app_of_hasFree_false hfree]
      rfl
    by_cases heta : a = free x ∧ f.hasFree x = false
    · obtain ⟨rfl,hf⟩ := heta
      simp [abstract_app_eta hf,links]
    · rw [abstract_app_S (by simpa using hfree) heta]
      simp [links,ihf,iha]

end Comb

end Combinatory
