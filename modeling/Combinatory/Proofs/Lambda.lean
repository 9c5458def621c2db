import Mathlib.Logic.Basic

/-! The untyped λ-calculus that combinator terms and source programs are read into: bound
variables by de Bruijn index, free ones by name, simultaneous renaming and substitution, and
βη-conversion as the least congruence holding β and η. The laws of `S` and `K` used by
bracket abstraction are derived here once. -/
namespace Combinatory

/-- λ-terms: bound variables by index, free variables by name. -/
inductive Lam where
  | bvar (i : Nat)
  | fvar (x : String)
  | app (f a : Lam)
  | lam (b : Lam)
  deriving DecidableEq, Repr, Inhabited

namespace Lam

/-- A renaming moved under one binder. -/
def upRen (ρ : Nat → Nat) : Nat → Nat
  | 0 => 0
  | n + 1 => ρ n + 1

def rename (ρ : Nat → Nat) : Lam → Lam
  | bvar i => bvar (ρ i)
  | fvar x => fvar x
  | app f a => app (f.rename ρ) (a.rename ρ)
  | lam b => lam (b.rename (upRen ρ))

/-- Every loose index moved up by one. -/
def lift (t : Lam) : Lam := t.rename Nat.succ

/-- A substitution moved under one binder. -/
def upSub (σ : Nat → Lam) : Nat → Lam
  | 0 => bvar 0
  | n + 1 => (σ n).lift

def subst (σ : Nat → Lam) : Lam → Lam
  | bvar i => σ i
  | fvar x => fvar x
  | app f a => app (f.subst σ) (a.subst σ)
  | lam b => lam (b.subst (upSub σ))

/-- The substitution sending index 0 to `a` and `n + 1` to `σ n`. -/
def scons (a : Lam) (σ : Nat → Lam) : Nat → Lam
  | 0 => a
  | n + 1 => σ n

/-- The body of a β-redex with its argument put in place of index 0. -/
def inst (b a : Lam) : Lam := b.subst (scons a bvar)

theorem rename_comp (t : Lam) (ρ₁ ρ₂ : Nat → Nat) :
    (t.rename ρ₁).rename ρ₂ = t.rename (fun n => ρ₂ (ρ₁ n)) := by
  induction t generalizing ρ₁ ρ₂ with
  | bvar _ | fvar _ => rfl
  | app f a ihf iha => simp [rename,ihf,iha]
  | lam b ih =>
    simp only [rename,ih]
    congr 2
    funext n
    cases n <;> rfl

theorem subst_rename (t : Lam) (ρ : Nat → Nat) (σ : Nat → Lam) :
    (t.rename ρ).subst σ = t.subst (fun n => σ (ρ n)) := by
  induction t generalizing ρ σ with
  | bvar _ | fvar _ => rfl
  | app f a ihf iha => simp [rename,subst,ihf,iha]
  | lam b ih =>
    simp only [rename,subst,ih]
    congr 2
    funext n
    cases n <;> rfl

theorem rename_subst (t : Lam) (σ : Nat → Lam) (ρ : Nat → Nat) :
    (t.subst σ).rename ρ = t.subst (fun n => (σ n).rename ρ) := by
  induction t generalizing σ ρ with
  | bvar _ | fvar _ => rfl
  | app f a ihf iha => simp [rename,subst,ihf,iha]
  | lam b ih =>
    simp only [rename,subst,ih]
    congr 2
    funext n
    cases n with
    | zero => rfl
    | succ n =>
      simp only [upSub,lift,rename_comp]
      rfl

/-- Substituting variables for variables is renaming. -/
theorem subst_bvar_comp (t : Lam) (ρ : Nat → Nat) :
    t.subst (fun n => bvar (ρ n)) = t.rename ρ := by
  induction t generalizing ρ with
  | bvar _ | fvar _ => rfl
  | app f a ihf iha => simp [rename,subst,ihf,iha]
  | lam b ih =>
    simp only [rename,subst,← ih]
    congr 2
    funext n
    cases n <;> rfl

theorem subst_bvar (t : Lam) : t.subst bvar = t := by
  have h := subst_bvar_comp t id
  have hid : ∀ s : Lam, s.rename id = s := fun s => by
    induction s with
    | bvar _ | fvar _ => rfl
    | app f a ihf iha => simp [rename,ihf,iha]
    | lam b ih =>
      have hup : upRen id = id := by funext n; cases n <;> rfl
      simp [rename,hup,ih]
  simpa [hid] using h

theorem lift_lift_eq_rename (t : Lam) : t.lift.lift = t.rename (· + 2) := by
  simp [lift,rename_comp]

/-- A β-step commutes with renaming. -/
theorem rename_inst (b a : Lam) (ρ : Nat → Nat) :
    (b.inst a).rename ρ = (b.rename (upRen ρ)).inst (a.rename ρ) := by
  simp only [inst,rename_subst,subst_rename]
  congr 1
  funext n
  cases n <;> rfl

theorem lift_rename_upRen (f : Lam) (ρ : Nat → Nat) :
    f.lift.rename (upRen ρ) = (f.rename ρ).lift := by
  simp only [lift,rename_comp]
  rfl

/-- A term lifted past one binder and applied to that binder's variable gives itself back. -/
theorem inst_rename_upRen_succ (t : Lam) : (t.rename (upRen Nat.succ)).inst (bvar 0) = t := by
  simp only [inst,subst_rename]
  have h : (fun n => scons (bvar 0) bvar (upRen Nat.succ n)) = bvar := by
    funext n
    cases n <;> rfl
  rw [h,subst_bvar]

/-- Loose indices all below `n`. -/
def ClosedAt : Nat → Lam → Prop
  | n, bvar i => i < n
  | _, fvar _ => True
  | n, app f a => ClosedAt n f ∧ ClosedAt n a
  | n, lam b => ClosedAt (n + 1) b

@[simp] theorem closedAt_bvar (n i : Nat) : ClosedAt n (bvar i) ↔ i < n := Iff.rfl
@[simp] theorem closedAt_fvar (n : Nat) (x : String) : ClosedAt n (fvar x) := trivial
@[simp] theorem closedAt_app (n : Nat) (f a : Lam) :
    ClosedAt n (app f a) ↔ ClosedAt n f ∧ ClosedAt n a := Iff.rfl
@[simp] theorem closedAt_lam (n : Nat) (b : Lam) : ClosedAt n (lam b) ↔ ClosedAt (n + 1) b :=
  Iff.rfl

/-- A renaming that fixes the indices below `n` fixes a term closed at `n`. -/
theorem rename_closedAt {n : Nat} {t : Lam} (ht : ClosedAt n t) (ρ : Nat → Nat)
    (hρ : ∀ i < n, ρ i = i) : t.rename ρ = t := by
  induction t generalizing n ρ with
  | bvar i => simp [rename,hρ i ht]
  | fvar _ => rfl
  | app f a ihf iha => simp [rename,ihf ht.1 ρ hρ,iha ht.2 ρ hρ]
  | lam b ih =>
    simp only [rename]
    rw [ih ht]
    intro i hi
    cases i with
    | zero => rfl
    | succ i => simp [upRen,hρ i (by omega)]

/-- A closed term is not moved by lifting. -/
theorem lift_of_closed {t : Lam} (ht : ClosedAt 0 t) : t.lift = t :=
  rename_closedAt ht _ (by simp)

/-- βη-conversion: the least congruence holding β and η. -/
inductive Conv : Lam → Lam → Prop
  | refl (t : Lam) : Conv t t
  | symm {t u : Lam} : Conv t u → Conv u t
  | trans {t u v : Lam} : Conv t u → Conv u v → Conv t v
  | beta (b a : Lam) : Conv (app (lam b) a) (b.inst a)
  | eta (f : Lam) : Conv (lam (app f.lift (bvar 0))) f
  | app {f f' a a' : Lam} : Conv f f' → Conv a a' → Conv (app f a) (app f' a')
  | lam {b b' : Lam} : Conv b b' → Conv (lam b) (lam b')

namespace Conv

theorem appL {f f' : Lam} (a : Lam) (h : Conv f f') : Conv (.app f a) (.app f' a) :=
  h.app (refl a)

theorem appR (f : Lam) {a a' : Lam} (h : Conv a a') : Conv (.app f a) (.app f a') :=
  (refl f).app h

/-- Conversion survives every renaming of the loose indices. -/
theorem rename {t u : Lam} (h : Conv t u) (ρ : Nat → Nat) : Conv (t.rename ρ) (u.rename ρ) := by
  induction h generalizing ρ with
  | refl t => exact refl _
  | symm _ ih => exact (ih ρ).symm
  | trans _ _ ih₁ ih₂ => exact (ih₁ ρ).trans (ih₂ ρ)
  | beta b a =>
    rw [rename_inst]
    exact beta _ _
  | eta f =>
    simp only [Lam.rename]
    rw [lift_rename_upRen]
    exact eta _
  | app _ _ ihf iha => exact (ihf ρ).app (iha ρ)
  | lam _ ih => exact (ih _).lam

theorem lift {t u : Lam} (h : Conv t u) : Conv t.lift u.lift := h.rename _

end Conv

/-- `K = λx y. x`. -/
def K : Lam := lam (lam (bvar 1))

/-- `S = λf g x. f x (g x)`. -/
def S : Lam := lam (lam (lam (app (app (bvar 2) (bvar 0)) (app (bvar 1) (bvar 0)))))

theorem closedAt_K : ClosedAt 0 K := by simp [K]

theorem closedAt_S : ClosedAt 0 S := by simp [S]

/-- `K e` is the constant function of `e`. -/
theorem conv_K_app (e : Lam) : Conv (app K e) (lam e.lift) := Conv.beta _ _

/-- `S a b` is the function applying `a` to its argument and that to `b` of its argument. -/
theorem conv_S_app (a b : Lam) :
    Conv (app (app S a) b) (lam (app (app a.lift (bvar 0)) (app b.lift (bvar 0)))) := by
  have h₁ : Conv (app S a)
      (lam (lam (app (app a.lift.lift (bvar 0)) (app (bvar 1) (bvar 0))))) := Conv.beta _ _
  refine (h₁.appL b).trans ?_
  have h₂ : a.lift.lift.subst (upSub (scons b bvar)) = a.lift := by
    rw [lift_lift_eq_rename,subst_rename,lift,← subst_bvar_comp]
    rfl
  have h₃ := Conv.beta (lam (app (app a.lift.lift (bvar 0)) (app (bvar 1) (bvar 0)))) b
  simpa only [inst,subst,upSub,scons,h₂] using h₃

/-- `S K K` is the identity. -/
theorem conv_SKK : Conv (app (app S K) K) (lam (bvar 0)) := by
  refine (conv_S_app K K).trans (Conv.lam ?_)
  rw [lift_of_closed closedAt_K]
  have h : Conv (app K (bvar 0)) (lam (bvar 1)) := conv_K_app _
  exact (h.appL _).trans (Conv.beta _ _)

/-- A λ lifted past a binder and applied to that binder's variable is its body. -/
theorem conv_lift_lam_app (b : Lam) : Conv (app (lam b).lift (bvar 0)) b := by
  have h := Conv.beta (b.rename (upRen Nat.succ)) (bvar 0)
  rwa [inst_rename_upRen_succ] at h

end Lam

end Combinatory
