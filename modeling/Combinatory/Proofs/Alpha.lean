import Mathlib.Data.List.Forall2
import Combinatory.Proofs.Sharing

/-! Renaming the parameters of a program changes nothing the converter produces: α-equivalent
terms (`Term.Alpha`) compile to terms of one shape (`Term.Alpha.compile`), so programs with the
same statement names and α-equivalent bodies convert to isomorphic forests
(`convert_alpha_isomorphic`). -/
namespace Combinatory

namespace Comb

/-- Two combinator terms of one shape, their free leaves related by `L` and their references
(node and statement) by `R`. -/
inductive Rel (L : String → String → Prop) (R : Nat × Nat → Nat × Nat → Prop) : Comb → Comb → Prop
  | s : Rel L R s s
  | k : Rel L R k k
  | app {f a f' a' : Comb} : Rel L R f f' → Rel L R a a' → Rel L R (app f a) (app f' a')
  | ref {n j n' j' : Nat} : R (n, j) (n', j') → Rel L R (ref n j) (ref n' j')
  | free {x y : String} : L x y → Rel L R (free x) (free y)

namespace Rel

variable {L L' : String → String → Prop} {R : Nat × Nat → Nat × Nat → Prop}

theorem identity : Rel L R I I := .app (.app .s .k) .k

theorem mono (hL : ∀ x y, L x y → L' x y) {c c' : Comb} (h : Rel L R c c') : Rel L' R c c' := by
  induction h with
  | s => exact .s
  | k => exact .k
  | app _ _ ihf iha => exact .app ihf iha
  | ref hr => exact .ref hr
  | free hxy => exact .free (hL _ _ hxy)

/-- Where a leaf is related to `y` exactly when it is `x`, both terms have the leaf or neither. -/
theorem hasFree_eq {x y : String} (hxy : ∀ z w, L z w → (z = x ↔ w = y)) {c c' : Comb}
    (h : Rel L R c c') : c.hasFree x = c'.hasFree y := by
  induction h with
  | app _ _ ihf iha => simp [hasFree,ihf,iha]
  | free hzw => simp [hasFree,hxy _ _ hzw]
  | _ => rfl

/-- Without the leaf `x`, only leaves other than `x` need to be related. -/
theorem restrict {x : String} (hL : ∀ z w, L z w → z ≠ x → L' z w) {c c' : Comb}
    (h : Rel L R c c') (hc : c.hasFree x = false) : Rel L' R c c' := by
  induction h with
  | s => exact .s
  | k => exact .k
  | app _ _ ihf iha =>
    simp only [hasFree,Bool.or_eq_false_iff] at hc
    exact .app (ihf hc.1) (iha hc.2)
  | ref hr => exact .ref hr
  | free hzw =>
    refine .free (hL _ _ hzw fun he => ?_)
    simp [hasFree,he] at hc

/-- Abstracting `x` on one side and `y` on the other keeps terms of one shape, when a leaf is
related to `y` exactly when it is `x` and the other related leaves stay related after. -/
theorem abstract {x y : String} (hxy : ∀ z w, L z w → (z = x ↔ w = y))
    (hL : ∀ z w, L z w → z ≠ x → L' z w) {c c' : Comb} (h : Rel L R c c') :
    Rel L' R (c.abstract x) (c'.abstract y) := by
  induction h with
  | s => exact .app .k .s
  | k => exact .app .k .k
  | ref hr => exact .app .k (.ref hr)
  | @free z w hzw =>
    by_cases hz : z = x
    · obtain rfl : w = y := (hxy _ _ hzw).1 hz
      subst hz
      simpa using identity
    · have hw : w ≠ y := fun hw => hz ((hxy _ _ hzw).2 hw)
      simpa [Comb.abstract,hz,hw] using (Rel.app .k (.free (hL _ _ hzw hz)) : Rel L' R _ _)
  | @app f a f' a' hf ha ihf iha =>
    have hfree := hasFree_eq hxy (Rel.app hf ha)
    by_cases h0 : (Comb.app f a).hasFree x = false
    · rw [abstract_app_of_hasFree_false h0,abstract_app_of_hasFree_false (hfree ▸ h0)]
      exact .app .k (restrict hL (.app hf ha) h0)
    -- the η rule applies on both sides or on neither
    have heta : (a = Comb.free x ∧ f.hasFree x = false) ↔
        (a' = Comb.free y ∧ f'.hasFree y = false) := by
      rw [hasFree_eq hxy hf]
      constructor
      · rintro ⟨rfl,hf'⟩
        cases ha with
        | free hw => exact ⟨by rw [(hxy _ _ hw).1 rfl],hf'⟩
      · rintro ⟨rfl,hf'⟩
        cases ha with
        | free hw => exact ⟨by rw [(hxy _ _ hw).2 rfl],hf'⟩
    by_cases h1 : a = Comb.free x ∧ f.hasFree x = false
    · obtain ⟨ha',hf'⟩ := heta.1 h1
      rw [h1.1,abstract_app_eta h1.2,ha',abstract_app_eta hf']
      exact restrict hL hf h1.2
    · have h0' : (Comb.app f' a').hasFree y = true := by simpa [hfree] using h0
      rw [abstract_app_S (by simpa using h0) h1,abstract_app_S h0' (heta.not.1 h1)]
      exact .app (.app .s ihf) iha

end Rel

end Comb

namespace Term

/-- Names that correspond under the parameters `Γ₁` and `Γ₂` in scope, outermost first: bound by
parameters at the same depth, or bound by none and equal. -/
def Corr (Γ₁ Γ₂ : List String) (x y : String) : Prop :=
  Γ₁.reverse.idxOf? x = Γ₂.reverse.idxOf? y ∧ (x ∉ Γ₁ → x = y)

namespace Corr

variable {Γ₁ Γ₂ : List String} {x y z w : String}

theorem mem_iff (h : Corr Γ₁ Γ₂ x y) : x ∈ Γ₁ ↔ y ∈ Γ₂ := by
  have hnone : Γ₁.reverse.idxOf? x = none ↔ Γ₂.reverse.idxOf? y = none := by rw [h.1]
  exact not_iff_not.1 (by simpa [List.idxOf?_eq_none_iff] using hnone)

theorem eq_of_nil (h : Corr [] [] x y) : x = y := h.2 List.not_mem_nil

/-- The innermost parameters correspond to each other only. -/
theorem concat_iff (h : Corr (Γ₁ ++ [x]) (Γ₂ ++ [y]) z w) : z = x ↔ w = y := by
  have h₁ := h.1
  simp only [List.reverse_append,List.reverse_cons,List.reverse_nil,List.nil_append,
    List.singleton_append,List.idxOf?_cons,beq_iff_eq] at h₁
  -- a name bound outside the innermost parameter sits at a positive depth
  have hpos (o : Option Nat) : Option.map (· + 1) o ≠ some 0 := by cases o <;> simp
  by_cases hz : x = z <;> by_cases hw : y = w
  · exact iff_of_true hz.symm hw.symm
  · rw [if_pos hz,if_neg hw] at h₁
    exact absurd h₁.symm (hpos _)
  · rw [if_neg hz,if_pos hw] at h₁
    exact absurd h₁ (hpos _)
  · exact iff_of_false (Ne.symm hz) (Ne.symm hw)

/-- Past the innermost parameters, names correspond as they did outside them. -/
theorem of_concat (h : Corr (Γ₁ ++ [x]) (Γ₂ ++ [y]) z w) (hz : z ≠ x) : Corr Γ₁ Γ₂ z w := by
  have hw : w ≠ y := fun hw => hz ((concat_iff h).2 hw)
  have h₁ := h.1
  simp only [List.reverse_append,List.reverse_cons,List.reverse_nil,List.nil_append,
    List.singleton_append,List.idxOf?_cons,beq_iff_eq,Ne.symm hz,Ne.symm hw,if_false] at h₁
  refine ⟨Option.map_injective (fun a b => Nat.succ.inj) h₁,fun hn => h.2 ?_⟩
  simp [hn,hz]

end Corr

/-- α-equivalence of source terms under the parameters `Γ₁` and `Γ₂` in scope, outermost first:
one shape, corresponding references (the spans of their records aside), and abstractions over as
many parameters. -/
inductive Alpha : List String → List String → Term → Term → Prop
  | var {Γ₁ Γ₂ : List String} {x y : String} {sp sp' : Span} :
      Corr Γ₁ Γ₂ x y → Alpha Γ₁ Γ₂ (var x sp) (var y sp')
  | app {Γ₁ Γ₂ : List String} {f a f' a' : Term} :
      Alpha Γ₁ Γ₂ f f' → Alpha Γ₁ Γ₂ a a' → Alpha Γ₁ Γ₂ (app f a) (app f' a')
  | lam {Γ₁ Γ₂ ps ps' : List String} {b b' : Term} : ps.length = ps'.length →
      Alpha (Γ₁ ++ ps) (Γ₂ ++ ps') b b' → Alpha Γ₁ Γ₂ (lam ps b) (lam ps' b')

/-- Every term is α-equivalent to itself. -/
theorem Alpha.refl : ∀ (Γ : List String) (e : Term), Alpha Γ Γ e e
  | _, Term.var _ _ => .var ⟨rfl,fun _ => rfl⟩
  | Γ, Term.app f a => .app (refl Γ f) (refl Γ a)
  | Γ, Term.lam ps b => .lam rfl (refl (Γ ++ ps) b)

example : Alpha [] [] (lam ["x","y"] (var "x" ⟨0,8,9⟩)) (lam ["a","b"] (var "a" ⟨0,8,9⟩)) :=
  .lam rfl (.var ⟨rfl,by simp⟩)

/-- α-equivalent terms denote the same λ-term. -/
theorem Alpha.toLam_eq (σ : String → Lam) {Γ₁ Γ₂ : List String} {e₁ e₂ : Term}
    (h : Alpha Γ₁ Γ₂ e₁ e₂) : e₁.toLam σ Γ₁.reverse = e₂.toLam σ Γ₂.reverse := by
  induction h with
  | @var Γ₁ Γ₂ x y _ _ hxy =>
    rw [toLam,toLam,Lam.lookup,Lam.lookup,hxy.1]
    cases hi : Γ₂.reverse.idxOf? y with
    | some i => rfl
    | none =>
      have hx : x ∉ Γ₁ := by simpa using List.idxOf?_eq_none_iff.1 (hxy.1.trans hi)
      simp [hxy.2 hx]
  | app _ _ ihf iha => rw [toLam,toLam,ihf,iha]
  | lam hlen _ ih =>
    rw [List.reverse_append,List.reverse_append] at ih
    rw [toLam,toLam,hlen,ih]

/-- α-equivalent terms have the same free references, by name and in order. -/
theorem Alpha.freeRefs_names {Γ₁ Γ₂ : List String} {e₁ e₂ : Term} (h : Alpha Γ₁ Γ₂ e₁ e₂) :
    (e₁.freeRefs Γ₁).map Prod.fst = (e₂.freeRefs Γ₂).map Prod.fst := by
  induction h with
  | @var Γ₁ Γ₂ x y _ _ hxy =>
    by_cases hx : x ∈ Γ₁
    · simp [freeRefs,hx,hxy.mem_iff.1 hx]
    · have hy : y ∉ Γ₂ := fun hy => hx (hxy.mem_iff.2 hy)
      obtain rfl := hxy.2 hx
      simp [freeRefs,hx,hy]
  | app _ _ ihf iha => simp [freeRefs,ihf,iha]
  | lam _ _ ih => simpa [freeRefs] using ih

end Term

namespace Comb.Rel

variable {R : Nat × Nat → Nat × Nat → Prop}

/-- Abstracting the parameters of corresponding abstractions, innermost first, relates the
leaves as the names outside them correspond. -/
theorem abstracts : ∀ {Γ₁ Γ₂ : List String} (ps₁ ps₂ : List String), ps₁.length = ps₂.length →
    ∀ {c c' : Comb}, Rel (Term.Corr (Γ₁ ++ ps₁) (Γ₂ ++ ps₂)) R c c' →
      Rel (Term.Corr Γ₁ Γ₂) R (ps₁.foldr Comb.abstract c) (ps₂.foldr Comb.abstract c')
  | _, _, [], [], _, _, _, h => by simpa using h
  | _, _, [], _ :: _, hlen, _, _, _ => by simp at hlen
  | _, _, _ :: _, [], hlen, _, _, _ => by simp at hlen
  | Γ₁, Γ₂, x :: ps₁, y :: ps₂, hlen, _, _, h => by
    -- the innermost parameters are abstracted first, with the outer ones still in scope
    have ih := @abstracts (Γ₁ ++ [x]) (Γ₂ ++ [y]) ps₁ ps₂ (by simpa using hlen) _ _
      (by simpa using h)
    exact ih.abstract (fun _ _ => Term.Corr.concat_iff) (fun _ _ => Term.Corr.of_concat)

end Comb.Rel

namespace Term

/-- α-equivalent terms, names that nothing binds resolving alike on both sides, compile to terms
of one shape: leaves correspond and references are related as their resolutions. -/
theorem Alpha.compile {res₁ res₂ : String → Option (Nat × Nat)} {R : Nat × Nat → Nat × Nat → Prop}
    (hres : ∀ x, Option.Rel R (res₁ x) (res₂ x)) {Γ₁ Γ₂ : List String} {e₁ e₂ : Term}
    (h : Alpha Γ₁ Γ₂ e₁ e₂) :
    Comb.Rel (Corr Γ₁ Γ₂) R (Term.compile res₁ Γ₁ e₁).1 (Term.compile res₂ Γ₂ e₂).1 := by
  induction h with
  | @var Γ₁ Γ₂ x y _ _ hxy =>
    by_cases hx : x ∈ Γ₁
    · simp only [Term.compile,hx,hxy.mem_iff.1 hx,if_true]
      exact .free hxy
    · have hy : y ∉ Γ₂ := fun hy => hx (hxy.mem_iff.2 hy)
      obtain rfl := hxy.2 hx
      simp only [Term.compile,hx,hy,if_false]
      -- the name resolves alike on both sides
      have hr := hres x
      revert hr
      cases res₁ x <;> cases res₂ x <;> intro hr <;> cases hr
      · exact .free hxy
      · exact .ref ‹_›
  | app _ _ ihf iha => exact .app ihf iha
  | lam hlen _ ih => exact Comb.Rel.abstracts _ _ hlen ih

end Term

/-- Two lists naming their elements alike, position by position, find the last of a name at one
position. -/
theorem lastNamed_forall₂ {β γ : Type} {f : β → String} {g : γ → String} {xs : List β}
    {ys : List γ} (h : List.Forall₂ (fun a b => f a = g b) xs ys) (x : String) :
    Option.Rel (fun a b => ∃ k : Nat, xs[k]? = some a ∧ ys[k]? = some b)
      (lastNamed f xs x) (lastNamed g ys x) := by
  induction h with
  | nil => exact .none
  | @cons a b xs ys hab _ ih =>
    rw [lastNamed_cons,lastNamed_cons,← hab]
    match lastNamed f xs x, lastNamed g ys x, ih with
    | none, none, .none =>
      by_cases hx : f a = x
      · simpa [hx] using Option.Rel.some (r := fun a' b' => ∃ k : Nat, (a :: xs)[k]? = some a' ∧
          (b :: ys)[k]? = some b') ⟨0,rfl,rfl⟩
      · simp [hx]
    | some _, some _, .some ⟨k,hk₁,hk₂⟩ => exact .some ⟨k + 1,hk₁,hk₂⟩

namespace Tree

/-- Two programs alike but for their parameters: statements pairwise of the same name, with
α-equivalent bodies. -/
def Alpha (t₁ : Tree) (p₁ : Nat) (t₂ : Tree) (p₂ : Nat) : Prop :=
  List.Forall₂ (fun j₁ j₂ => t₁.stmtName j₁ = t₂.stmtName j₂ ∧
      Term.Alpha [] [] (t₁.term (t₁.stmt j₁).expr) (t₂.term (t₂.stmt j₂).expr))
    (t₁.programStmts p₁) (t₂.programStmts p₂)

/-- Every program is α-equivalent to itself. -/
theorem Alpha.refl (t : Tree) (p : Nat) : t.Alpha p t p :=
  List.forall₂_same.2 fun _ _ => ⟨rfl,Term.Alpha.refl _ _⟩

variable {t₁ t₂ : Tree}

/-- Statements with α-equivalent bodies, after statements of the same names, report references
of the same names. -/
theorem unboundRefs_names {P₁ P₂ : List Nat} (hP : P₁.map t₁.stmtName = P₂.map t₂.stmtName)
    {j₁ j₂ : Nat} (hj : Term.Alpha [] [] (t₁.term (t₁.stmt j₁).expr) (t₂.term (t₂.stmt j₂).expr)) :
    (t₁.unboundRefs P₁ j₁).map Prod.fst = (t₂.unboundRefs P₂ j₂).map Prod.fst := by
  have hbound : (fun x => (lastNamed t₁.stmtName P₁ x).isNone) =
      fun x => (lastNamed t₂.stmtName P₂ x).isNone := by
    funext x
    rw [Bool.eq_iff_iff,Option.isNone_iff_eq_none,Option.isNone_iff_eq_none,
      lastNamed_eq_none_iff_not_mem,lastNamed_eq_none_iff_not_mem,hP]
  have hfilter (t : Tree) (P : List Nat) (j : Nat) : (t.unboundRefs P j).map Prod.fst =
      (((t.term (t.stmt j).expr).freeRefs []).map Prod.fst).filter
        fun x => (lastNamed t.stmtName P x).isNone := by
    rw [unboundRefs,List.filter_map]
    rfl
  rw [hfilter,hfilter,hj.freeRefs_names,hbound]

theorem unboundAfter_names {R₁ R₂ : List Nat}
    (h : List.Forall₂ (fun j₁ j₂ => t₁.stmtName j₁ = t₂.stmtName j₂ ∧
      Term.Alpha [] [] (t₁.term (t₁.stmt j₁).expr) (t₂.term (t₂.stmt j₂).expr)) R₁ R₂) :
    ∀ {P₁ P₂ : List Nat}, P₁.map t₁.stmtName = P₂.map t₂.stmtName →
      (t₁.unboundAfter P₁ R₁).map Prod.fst = (t₂.unboundAfter P₂ R₂).map Prod.fst := by
  induction h with
  | nil => intros; rfl
  | @cons j₁ j₂ _ _ hj _ ih =>
    intro P₁ P₂ hP
    rw [unboundAfter,unboundAfter,List.map_append,List.map_append,unboundRefs_names hP hj.2,
      @ih (P₁ ++ [j₁]) (P₂ ++ [j₂]) (by simp [hP,hj.1])]

/-- After as many statements of two converted programs whose roots are named alike, position by
position, a name resolves in both to the roots at one position, or in neither. -/
theorem Converted.resolveAfter_rel {L₁ L₂ : List Nat} {rep₁ rep₂ rep₁' rep₂' : Reporter}
    {roots₁ roots₂ : List Root} {st₁ st₂ : Store} (hc₁ : t₁.Converted L₁ rep₁ roots₁ st₁ rep₁')
    (hc₂ : t₂.Converted L₂ rep₂ roots₂ st₂ rep₂')
    (hnames : List.Forall₂ (fun r₁ r₂ : Root => t₁.stmtName r₁.stmt = t₂.stmtName r₂.stmt)
      roots₁ roots₂) (i : Nat) (x : String) :
    Option.Rel (fun q₁ q₂ => ∃ k, ∃ (hk₁ : k < roots₁.length) (hk₂ : k < roots₂.length),
        q₁ = (roots₁[k].node, roots₁[k].stmt) ∧ q₂ = (roots₂[k].node, roots₂[k].stmt))
      (t₁.resolveAfter st₁ (L₁.take i) x) (t₂.resolveAfter st₂ (L₂.take i) x) := by
  rw [hc₁.resolveAfter_take,hc₂.resolveAfter_take]
  dsimp only
  match lastNamed (fun r : Root => t₁.stmtName r.stmt) (roots₁.take i) x,
    lastNamed (fun r : Root => t₂.stmtName r.stmt) (roots₂.take i) x,
    lastNamed_forall₂ (List.forall₂_take i hnames) x with
  | none, none, .none => exact .none
  | some _, some _, .some ⟨k,hk₁,hk₂⟩ =>
    -- a root among the first `i` sits at a position below `i` in both forests
    have hki : k < i := by
      by_contra hn
      rw [List.getElem?_take,if_neg hn] at hk₁
      cases hk₁
    rw [List.getElem?_take,if_pos hki] at hk₁ hk₂
    obtain ⟨hlt₁,rfl⟩ := List.getElem?_eq_some_iff.1 hk₁
    obtain ⟨hlt₂,rfl⟩ := List.getElem?_eq_some_iff.1 hk₂
    exact .some ⟨k,hlt₁,hlt₂,rfl,rfl⟩

variable {p₁ p₂ : Nat} {table₁ table₂ : NameMap Nat}

/-- Conversion is invariant under renaming of parameters: two programs with the same statement
names and α-equivalent bodies convert to forests of one shape, with references at the same
places to corresponding roots, and report the same names as used before being defined. -/
theorem convert_alpha_isomorphic (ht₁ : t₁.ParsedProgram p₁) (ht₂ : t₂.ParsedProgram p₂)
    (hcurry₁ : (t₁.curry p₁).failure = none) (hcurry₂ : (t₂.curry p₂).failure = none)
    (htable₁ : ∀ x, table₁.get? x = lastNamed t₁.stmtName (t₁.programStmts p₁) x)
    (htable₂ : ∀ x, table₂.get? x = lastNamed t₂.stmtName (t₂.programStmts p₂) x)
    (halpha : t₁.Alpha p₁ t₂ p₂) (rep₁ rep₂ : Reporter) :
    ∀ roots₁ st₁ rep₁' roots₂ st₂ rep₂',
      (Store.ofTree (t₁.curry p₁)).convert p₁ table₁ rep₁ = (.ok roots₁, st₁, rep₁') →
      (Store.ofTree (t₂.curry p₂)).convert p₂ table₂ rep₂ = (.ok roots₂, st₂, rep₂') →
      roots₁.length = roots₂.length ∧
      (∀ i (h₁ : i < roots₁.length) (h₂ : i < roots₂.length),
        Comb.Rel (· = ·) (fun q₁ q₂ => ∃ k, ∃ (hk₁ : k < roots₁.length) (hk₂ : k < roots₂.length),
            q₁ = (roots₁[k].node, roots₁[k].stmt) ∧ q₂ = (roots₂[k].node, roots₂[k].stmt))
          (st₁.comb roots₁[i].node) (st₂.comb roots₂[i].node)) ∧
      rep₁' = Bracket.reportUses rep₁ (t₁.unboundAfter [] (t₁.programStmts p₁)) ∧
      rep₂' = Bracket.reportUses rep₂ (t₂.unboundAfter [] (t₂.programStmts p₂)) ∧
      (t₁.unboundAfter [] (t₁.programStmts p₁)).map Prod.fst =
        (t₂.unboundAfter [] (t₂.programStmts p₂)).map Prod.fst := by
  intro roots₁ st₁ rep₁' roots₂ st₂ rep₂' hconv₁ hconv₂
  have hc₁ := ht₁.converted hcurry₁ htable₁ hconv₁
  have hc₂ := ht₂.converted hcurry₂ htable₂ hconv₂
  have hlen : roots₁.length = roots₂.length := by rw [hc₁.length,hc₂.length,halpha.length_eq]
  -- the roots name their statements alike, position by position
  have hnames : List.Forall₂ (fun r₁ r₂ : Root => t₁.stmtName r₁.stmt = t₂.stmtName r₂.stmt)
      roots₁ roots₂ := by
    have h := halpha.imp fun _ _ h => h.1
    rw [← hc₁.stmts,← hc₂.stmts,List.forall₂_map_left_iff,List.forall₂_map_right_iff] at h
    exact h
  refine ⟨hlen,fun i h₁ h₂ => ?_,hc₁.reporter,hc₂.reporter,unboundAfter_names halpha rfl⟩
  have hbody : Term.Alpha [] [] (t₁.term (t₁.stmt roots₁[i].stmt).expr)
      (t₂.term (t₂.stmt roots₂[i].stmt).expr) := by
    rw [hc₁.stmt h₁ (hc₁.length ▸ h₁),hc₂.stmt h₂ (hc₂.length ▸ h₂)]
    exact (halpha.get (hc₁.length ▸ h₁) (hc₂.length ▸ h₂)).2
  rw [Store.comb_of_reads (hc₁.reads i h₁),Store.comb_of_reads (hc₂.reads i h₂)]
  exact (hbody.compile (hc₁.resolveAfter_rel hc₂ hnames i)).mono fun _ _ h => h.eq_of_nil

section Relex

/-! Renaming the lexemes of a tree's tokens keeps its layout. -/

variable {t t' : Tree} (hsize : t'.tokens.size = t.tokens.size) (hid : t'.idents = t.idents)
include hsize hid

theorem Named.relex {v : Nat} (h : t.Named v) : t'.Named v := by
  simpa [Named,ident,hid,hsize] using h

theorem ChainAt.relex {p : Nat} {ps : List Nat} (h : t.ChainAt p ps) : t'.ChainAt p ps := by
  have hident : ∀ v, t'.ident v = t.ident v := fun v => by simp [ident,hid]
  induction h with
  | last hn hnext => exact .last (hn.relex hsize hid) (by rw [hident]; exact hnext)
  | cons hn hnext _ ih => exact .cons (hn.relex hsize hid) (by rw [hident]; exact hnext) ih

theorem Realizes.relex (hex : t'.exprs = t.exprs) {sh : Shape} (h : t.Realizes sh) : t'.Realizes sh := by
  have hexpr : ∀ i, t'.expr i = t.expr i := fun i => by simp [expr,hex]
  induction h with
  | ref hi he hn => exact .ref (hex ▸ hi) ((hexpr _).trans he) (hn.relex hsize hid)
  | app hi he _ _ ihl ihr => exact .app (hex ▸ hi) ((hexpr _).trans he) ihl ihr
  | abs hi he hc _ ih => exact .abs (hex ▸ hi) ((hexpr _).trans he) (hc.relex hsize hid) ih

/-- A parsed program stays one when only the lexemes of its tokens change. -/
theorem ParsedProgram.relex (hex : t'.exprs = t.exprs) (hst : t'.stmts = t.stmts)
    (hprog : t'.programs = t.programs) {p : Nat} (h : t.ParsedProgram p) : t'.ParsedProgram p := by
  have hL : t'.programStmts p = t.programStmts p := by
    simp only [programStmts,programStmts_go_congr hst,hst,hprog]
  have hstmt : ∀ j, t'.stmt j = t.stmt j := fun j => by simp only [Tree.stmt,hst]
  obtain ⟨shape,hlaid⟩ := h.laidOut
  refine ⟨hL ▸ h.nodup,fun j hj => ?_,shape,⟨fun j hj => ?_,fun j hj => ?_,hL ▸ hlaid.exprs,
    hL ▸ hlaid.params⟩⟩
  · rw [hL] at hj
    exact ⟨hst ▸ (h.stmt j hj).1,hstmt j ▸ (h.stmt j hj).2⟩
  · exact (hlaid.realizes j (hL ▸ hj)).relex hsize hid hex
  · rw [hstmt]
    exact hlaid.root j (hL ▸ hj)

end Relex

/-- The sample with its parameters renamed: `i = λy.y; k = λy,x.y; s = k i;`. -/
def swappedTree : Tree :=
  { sampleTree with
    tokens := #[⟨"i",1,1,2,⟨0,0,1⟩⟩,⟨"y",1,7,8,⟨0,6,7⟩⟩,⟨"y",1,9,10,⟨0,8,9⟩⟩,⟨"k",1,12,13,⟨0,11,12⟩⟩,
      ⟨"y",1,18,19,⟨0,17,18⟩⟩,⟨"x",1,20,21,⟨0,19,20⟩⟩,⟨"y",1,22,23,⟨0,21,22⟩⟩,⟨"s",1,25,26,⟨0,24,25⟩⟩,
      ⟨"k",1,29,30,⟨0,28,29⟩⟩,⟨"i",1,31,32,⟨0,30,31⟩⟩] }

theorem sampleTree_alpha_swapped : sampleTree.Alpha 0 swappedTree 0 := by
  have hL₁ : sampleTree.programStmts 0 = [0,1,2] := by decide +kernel
  have hL₂ : swappedTree.programStmts 0 = [0,1,2] := by decide +kernel
  -- `λx.x` against `λy.y`, and `λx,y.x` against `λy,x.y`
  have hi : Term.Alpha [] [] (sampleTree.term (sampleTree.stmt 0).expr)
      (swappedTree.term (swappedTree.stmt 0).expr) := by
    have h₁ : sampleTree.term (sampleTree.stmt 0).expr = .lam ["x"] (.var "x" ⟨0,8,9⟩) := by
      decide +kernel
    have h₂ : swappedTree.term (swappedTree.stmt 0).expr = .lam ["y"] (.var "y" ⟨0,8,9⟩) := by
      decide +kernel
    rw [h₁,h₂]
    exact .lam rfl (.var ⟨by decide,by decide⟩)
  have hk : Term.Alpha [] [] (sampleTree.term (sampleTree.stmt 1).expr)
      (swappedTree.term (swappedTree.stmt 1).expr) := by
    have h₁ : sampleTree.term (sampleTree.stmt 1).expr = .lam ["x","y"] (.var "x" ⟨0,21,22⟩) := by
      decide +kernel
    have h₂ : swappedTree.term (swappedTree.stmt 1).expr = .lam ["y","x"] (.var "y" ⟨0,21,22⟩) := by
      decide +kernel
    rw [h₁,h₂]
    exact .lam rfl (.var ⟨by decide,by decide⟩)
  have hs : Term.Alpha [] [] (sampleTree.term (sampleTree.stmt 2).expr)
      (swappedTree.term (swappedTree.stmt 2).expr) := by
    have h₂ : swappedTree.term (swappedTree.stmt 2).expr = sampleTree.term (sampleTree.stmt 2).expr := by
      decide +kernel
    rw [h₂]
    exact Term.Alpha.refl _ _
  unfold Alpha
  rw [hL₁,hL₂]
  exact .cons ⟨by decide +kernel,hi⟩ (.cons ⟨by decide +kernel,hk⟩ (.cons ⟨by decide +kernel,hs⟩ .nil))

theorem convert_alpha_isomorphic_swapped :
    sampleTree.ParsedProgram 0 ∧ swappedTree.ParsedProgram 0 ∧
      (sampleTree.curry 0).failure = none ∧ (swappedTree.curry 0).failure = none ∧
      (∀ x, sampleTable.get? x = lastNamed sampleTree.stmtName (sampleTree.programStmts 0) x) ∧
      (∀ x, sampleTable.get? x = lastNamed swappedTree.stmtName (swappedTree.programStmts 0) x) ∧
      sampleTree.Alpha 0 swappedTree 0 ∧
      ∀ roots₁ st₁ rep₁' roots₂ st₂ rep₂',
        (Store.ofTree (sampleTree.curry 0)).convert 0 sampleTable sampleReporter =
          (.ok roots₁, st₁, rep₁') →
        (Store.ofTree (swappedTree.curry 0)).convert 0 sampleTable sampleReporter =
          (.ok roots₂, st₂, rep₂') →
        roots₁.length = roots₂.length ∧
        (∀ i (h₁ : i < roots₁.length) (h₂ : i < roots₂.length),
          Comb.Rel (· = ·) (fun q₁ q₂ => ∃ k, ∃ (hk₁ : k < roots₁.length) (hk₂ : k < roots₂.length),
              q₁ = (roots₁[k].node, roots₁[k].stmt) ∧ q₂ = (roots₂[k].node, roots₂[k].stmt))
            (st₁.comb roots₁[i].node) (st₂.comb roots₂[i].node)) ∧
        rep₁' = Bracket.reportUses sampleReporter (sampleTree.unboundAfter [] (sampleTree.programStmts 0)) ∧
        rep₂' = Bracket.reportUses sampleReporter (swappedTree.unboundAfter [] (swappedTree.programStmts 0)) ∧
        (sampleTree.unboundAfter [] (sampleTree.programStmts 0)).map Prod.fst =
          (swappedTree.unboundAfter [] (swappedTree.programStmts 0)).map Prod.fst :=
  -- only the lexemes differ, so the swapped tree keeps the sample's layout and statement names
  have hswapped : swappedTree.ParsedProgram 0 := 
    ParsedProgram.relex (by rfl) (by rfl) (by rfl) (by rfl) (by rfl) sampleTree_parsed
  have hcurry₁ : (sampleTree.curry 0).failure = none := by decide +kernel
  have hcurry₂ : (swappedTree.curry 0).failure = none := by decide +kernel
  have htable₂ : ∀ x, sampleTable.get? x = lastNamed swappedTree.stmtName (swappedTree.programStmts 0) x :=
    fun x => (sampleTable_spec x).trans (lastNamed_congr _ (by decide +kernel) x)
  ⟨sampleTree_parsed,hswapped,hcurry₁,hcurry₂,sampleTable_spec,htable₂,sampleTree_alpha_swapped,
    convert_alpha_isomorphic sampleTree_parsed hswapped hcurry₁ hcurry₂ sampleTable_spec htable₂
      sampleTree_alpha_swapped sampleReporter sampleReporter⟩


end Tree

end Combinatory
