import Combinatory.Proofs.Convert
import Mathlib.Logic.Relation

/-! Weak reduction of combinator terms. Bracket abstraction undoes application up to weak
reduction (`abstract_app_reduces`), and `abstract` on the store builds that abstraction
without throwing (`abstract_node_spec`). -/
namespace Combinatory

namespace Comb

/-- One contraction of weak reduction, in any application context. -/
inductive Step : Comb → Comb → Prop
  | k (a b : Comb) : Step (app (app k a) b) a
  | s (f g z : Comb) : Step (app (app (app s f) g) z) (app (app f z) (app g z))
  | appL {f f' : Comb} (a : Comb) : Step f f' → Step (app f a) (app f' a)
  | appR (f : Comb) {a a' : Comb} : Step a a' → Step (app f a) (app f a')

/-- Weak reduction: any number of contractions. -/
def Reduces (c c' : Comb) : Prop := Relation.ReflTransGen Step c c'

namespace Reduces

@[refl] theorem refl (c : Comb) : Reduces c c := Relation.ReflTransGen.refl

theorem single {c c' : Comb} (h : Step c c') : Reduces c c' := Relation.ReflTransGen.single h

theorem trans {c₁ c₂ c₃ : Comb} (h₁ : Reduces c₁ c₂) (h₂ : Reduces c₂ c₃) : Reduces c₁ c₃ :=
  Relation.ReflTransGen.trans h₁ h₂

theorem head {c₁ c₂ c₃ : Comb} (h₁ : Step c₁ c₂) (h₂ : Reduces c₂ c₃) : Reduces c₁ c₃ :=
  Relation.ReflTransGen.head h₁ h₂

theorem appL {f f' : Comb} (a : Comb) (h : Reduces f f') : Reduces (app f a) (app f' a) := by
  induction h with
  | refl => rfl
  | tail _ step ih => exact ih.trans (single (.appL a step))

theorem appR (f : Comb) {a a' : Comb} (h : Reduces a a') : Reduces (app f a) (app f a') := by
  induction h with
  | refl => rfl
  | tail _ step ih => exact ih.trans (single (.appR f step))

theorem app {f f' a a' : Comb} (hf : Reduces f f') (ha : Reduces a a') :
    Reduces (app f a) (app f' a') :=
  (hf.appL a).trans (ha.appR f')

end Reduces

/-- `c` with `u` put for each free leaf named `x`; references are not entered. -/
def subst : Comb → String → Comb → Comb
  | free y, x, u => if y = x then u else free y
  | app f a, x, u => app (f.subst x u) (a.subst x u)
  | c, _, _ => c

/-- Putting a term for a name that does not occur changes nothing. -/
theorem subst_of_hasFree_false {x : String} (u : Comb) {c : Comb} (h : c.hasFree x = false) :
    c.subst x u = c := by
  induction c with
  | free y =>
    have hy : y ≠ x := fun e => by simp [hasFree,e] at h
    simp [subst,hy]
  | app f a ihf iha =>
    simp only [hasFree,Bool.or_eq_false_iff] at h
    rw [subst,ihf h.1,iha h.2]
  | s | k | ref _ _ => rfl

/-- `S K K` is the identity: `S K K u` reduces to `u` in two contractions. -/
theorem I_app_reduces (u : Comb) : Reduces (app I u) u :=
  Reduces.head (.s k k u) (Reduces.single (.k u (app k u)))

/-- `K c` applied to anything reduces to `c`. -/
theorem K_app_reduces (c u : Comb) : Reduces (app (app k c) u) c := Reduces.single (.k c u)

/-- Bracket abstraction, operationally: the abstraction of `x` from `c` applied to `u`
reduces to `c` with `u` in place of `x`. The induction is on `c`; an application splits
into the three rules of the cascade, `K` when `x` does not occur, η when the argument is the
leaf `x`, and `S` otherwise. -/
theorem abstract_app_reduces (x : String) (c u : Comb) :
    Reduces (app (c.abstract x) u) (c.subst x u) := by
  induction c with
  | s | k | ref _ _ => exact K_app_reduces _ u
  | free y =>
    by_cases h : y = x
    · subst h
      simpa [subst] using I_app_reduces u
    · simpa [abstract,subst,h] using K_app_reduces (free y) u
  | app f a ihf iha =>
    by_cases hfree : (app f a).hasFree x = false
    · rw [abstract_app_of_hasFree_false hfree,subst_of_hasFree_false u hfree]
      exact K_app_reduces _ u
    by_cases heta : a = free x ∧ f.hasFree x = false
    · -- η: nothing to contract, `f` has no `x` to replace
      obtain ⟨rfl,hf⟩ := heta
      rw [abstract_app_eta hf]
      simp [subst,subst_of_hasFree_false u hf]
      rfl
    · rw [abstract_app_S (by simpa using hfree) heta]
      exact Reduces.head (.s _ _ u) (Reduces.app ihf iha)

end Comb

namespace Bracket

/-- Bracket abstraction on the store throws nothing and only grows the store; when no
allocation failed its result holds a term with no free leaf `x` which, applied to any `u`,
reduces to `t` with `u` put for `x`. -/
theorem abstract_node_spec {s : ConvertState} {i : Nat} {t : Comb} (x : String) (sp : Span)
    (hv : s.store.Valid) (ht : s.store.Reads i t) :
    ∃ r st', run (abstract x sp (2 * s.store.nodes.size + 2) (some i)) s =
        (.ok r, { s with store := st' }) ∧ s.store.Grows st' ∧
      (st'.failure = none → ∃ n t', r = some n ∧ st'.Reads n t' ∧
        t'.hasFree x = false ∧ (∀ y, y ≠ x → t'.hasFree y = t.hasFree y) ∧
        t'.links = t.links ∧ ∀ u, Comb.Reduces (.app t' u) (t.subst x u)) := by
  have hi : i < 2 * s.store.nodes.size + 2 := by have := ht.lt; omega
  obtain ⟨r,st',hrun,hg,-,hres⟩ := abstract_spec x sp t _ hv ht hi
  refine ⟨r,st',hrun,hg,fun hf => ?_⟩
  obtain ⟨n,rfl,hn⟩ := hres hf
  refine ⟨n,t.abstract x,rfl,hn,by simp [Comb.hasFree_abstract],fun y hy => ?_,
    Comb.links_abstract x t,Comb.abstract_app_reduces x t⟩
  simp [Comb.hasFree_abstract,hy]

/-- A store over one identifier `x`, holding `x` at node 0, the shared `K` at node 1 and
`K x` at node 2. -/
def sampleStore : Store :=
  ⟨{ (default : Tree) with tokens := #[⟨"x",1,1,2,⟨0,0,1⟩⟩], idents := #[⟨0,none,⟨0,0,1⟩⟩] },
    #[.free 0,.k,.app 1 0],none,some 1,none⟩

theorem sampleStore_reads : sampleStore.Reads 2 (.app .k (.free "x")) :=
  .app (by decide) rfl (by decide) (by decide) (.k (by decide) rfl)
    (.free (v := 0) (by decide) rfl)

theorem abstract_node_spec_sample :
    sampleStore.Valid ∧ sampleStore.Reads 2 (.app .k (.free "x")) ∧
    ∃ r st', run (abstract "x" default (2 * sampleStore.nodes.size + 2) (some 2))
        { (default : ConvertState) with store := sampleStore } =
        (.ok r, { (default : ConvertState) with store := st' }) ∧ sampleStore.Grows st' ∧
      (st'.failure = none → ∃ n t', r = some n ∧ st'.Reads n t' ∧
        t'.hasFree "x" = false ∧
        (∀ y, y ≠ "x" → t'.hasFree y = (Comb.app .k (.free "x")).hasFree y) ∧
        t'.links = (Comb.app .k (.free "x")).links ∧
        ∀ u, Comb.Reduces (.app t' u) ((Comb.app .k (.free "x")).subst "x" u)) := by
  have hv : sampleStore.Valid := ⟨fun _ h => by simp [sampleStore] at h,
    fun i h => by cases h; exact .k (by decide) rfl⟩
  exact ⟨hv,sampleStore_reads,
    abstract_node_spec (s := { (default : ConvertState) with store := sampleStore }) "x" default
      hv sampleStore_reads⟩

end Bracket

end Combinatory
