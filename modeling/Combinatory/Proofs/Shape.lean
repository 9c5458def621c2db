import Combinatory.Proofs.Source
import Combinatory.Tree.Basic

/-! Where a source term lies in a syntax tree: a `Shape` names the records of a term, and
`Tree.Realizes` says a tree holds it. The walks over a linear shape read its term
(`Tree.term_eq`), and a tree that keeps its records keeps the shape (`Realizes.keep`). -/
namespace Combinatory

/-- The records a source term is laid out in. -/
inductive Shape where
  | ref (rec ident : Nat)
  | app (rec : Nat) (l r : Shape)
  | abs (rec : Nat) (params : List Nat) (body : Shape)
  deriving DecidableEq, Repr, Inhabited

namespace Shape

/-- The record of the outermost expression. -/
def root : Shape → Nat
  | ref i _ | app i _ _ | abs i _ _ => i

/-- The expression records, in pre-order. -/
def exprs : Shape → List Nat
  | ref i _ => [i]
  | app i l r => i :: (l.exprs ++ r.exprs)
  | abs i _ b => i :: b.exprs

/-- The identifiers of the parameter chains. -/
def params : Shape → List Nat
  | ref _ _ => []
  | app _ l r => l.params ++ r.params
  | abs _ ps b => ps ++ b.params

/-- The longest path of expression records. -/
def depth : Shape → Nat
  | ref _ _ => 1
  | app _ l r => max l.depth r.depth + 1
  | abs _ _ b => b.depth + 1

/-- No record is used twice: the shape is a tree in the arena. -/
def Linear (sh : Shape) : Prop := sh.exprs.Nodup ∧ sh.params.Nodup

/-- Every abstraction binds one parameter. -/
def Curried : Shape → Prop
  | ref _ _ => True
  | app _ l r => l.Curried ∧ r.Curried
  | abs _ ps b => ps.length = 1 ∧ b.Curried

/-- The source term a shape holds in tree `t`. -/
def term (t : Tree) : Shape → Term
  | ref i v => .var (t.name v) (t.exprSpan i)
  | app _ l r => .app (l.term t) (r.term t)
  | abs _ ps b => .lam (ps.map t.name) (b.term t)

@[simp] theorem root_ref (i v : Nat) : (ref i v).root = i := rfl
@[simp] theorem root_app (i : Nat) (l r : Shape) : (app i l r).root = i := rfl
@[simp] theorem root_abs (i : Nat) (ps : List Nat) (b : Shape) : (abs i ps b).root = i := rfl

theorem root_mem_exprs (sh : Shape) : sh.root ∈ sh.exprs := by
  cases sh <;> simp [root,exprs]

theorem depth_le_length (sh : Shape) : sh.depth ≤ sh.exprs.length := by
  induction sh with
  | ref _ _ => simp [depth,exprs]
  | app _ l r ihl ihr => simp only [depth,exprs,List.length_cons,List.length_append]; omega
  | abs _ _ b ih => simp only [depth,exprs,List.length_cons]; omega

theorem Linear.left {i : Nat} {l r : Shape} (h : (app i l r).Linear) : l.Linear :=
  ⟨((List.nodup_cons.1 h.1).2.sublist (List.sublist_append_left _ _)),
    h.2.sublist (List.sublist_append_left _ _)⟩

theorem Linear.right {i : Nat} {l r : Shape} (h : (app i l r).Linear) : r.Linear :=
  ⟨((List.nodup_cons.1 h.1).2.sublist (List.sublist_append_right _ _)),
    h.2.sublist (List.sublist_append_right _ _)⟩

theorem Linear.body {i : Nat} {ps : List Nat} {b : Shape} (h : (abs i ps b).Linear) : b.Linear :=
  ⟨(List.nodup_cons.1 h.1).2,h.2.sublist (List.sublist_append_right _ _)⟩

theorem Linear.chain {i : Nat} {ps : List Nat} {b : Shape} (h : (abs i ps b).Linear) : ps.Nodup :=
  h.2.sublist (List.sublist_append_left _ _)

end Shape

namespace Tree

/-- Identifier `v` and its token are records of the tree. -/
def Named (t : Tree) (v : Nat) : Prop := v < t.idents.size ∧ (t.ident v).token < t.tokens.size

/-- The parameter chain starting at identifier `p` links the identifiers `ps`, in order. -/
inductive ChainAt (t : Tree) : Nat → List Nat → Prop
  | last {p : Nat} : t.Named p → (t.ident p).next = none → t.ChainAt p [p]
  | cons {p q : Nat} {qs : List Nat} : t.Named p → (t.ident p).next = some q → t.ChainAt q qs →
      t.ChainAt p (p :: qs)

/-- The records of `t` hold the shape. -/
inductive Realizes (t : Tree) : Shape → Prop
  | ref {i v : Nat} {sp : Span} : i < t.exprs.size → t.expr i = .ref v sp → t.Named v →
      t.Realizes (.ref i v)
  | app {i : Nat} {sp : Span} {l r : Shape} : i < t.exprs.size → t.expr i = .app l.root r.root sp →
      t.Realizes l → t.Realizes r → t.Realizes (.app i l r)
  | abs {i p : Nat} {sp : Span} {ps : List Nat} {b : Shape} : i < t.exprs.size →
      t.expr i = .abs p b.root sp → t.ChainAt p ps → t.Realizes b → t.Realizes (.abs i ps b)

/-- The source term at expression `i`, following at most `fuel` records. -/
def termAux (t : Tree) : Nat → Nat → Term
  | 0, _ => .var "" ⟨0, 0, 0⟩
  | fuel + 1, i =>
    match t.expr i with
    | .ref v sp => .var (t.name v) sp
    | .app l r _ => .app (t.termAux fuel l) (t.termAux fuel r)
    | .abs p b _ => .lam ((t.chain p).map t.name) (t.termAux fuel b)

/-- The source term at expression `i`. -/
def term (t : Tree) (i : Nat) : Term := t.termAux (t.exprs.size + 1) i

theorem ChainAt.head {t : Tree} {p : Nat} {ps : List Nat} (h : t.ChainAt p ps) :
    ∃ qs, ps = p :: qs := by
  cases h <;> exact ⟨_,rfl⟩

theorem ChainAt.named {t : Tree} {p : Nat} {ps : List Nat} (h : t.ChainAt p ps) :
    ∀ v ∈ ps, t.Named v := by
  induction h with
  | last hp _ => simpa using hp
  | cons hp _ _ ih => simpa [hp] using ih

theorem chainFrom_of_chainAt {t : Tree} {p : Nat} {ps : List Nat} (h : t.ChainAt p ps) :
    ∀ fuel, ps.length ≤ fuel → t.chainFrom fuel (some p) = ps := by
  induction h with
  | last _ hn =>
    intro fuel hf
    obtain ⟨fuel, rfl⟩ : ∃ f, fuel = f + 1 := ⟨fuel - 1, by simp at hf; omega⟩
    cases fuel <;> simp [chainFrom,hn]
  | cons _ hn _ ih =>
    intro fuel hf
    obtain ⟨fuel, rfl⟩ : ∃ f, fuel = f + 1 := ⟨fuel - 1, by simp at hf; omega⟩
    simp only [chainFrom,hn,ih fuel (by simp at hf; omega)]

theorem length_le_of_nodup {l : List Nat} {n : Nat} (hl : l.Nodup) (h : ∀ x ∈ l, x < n) :
    l.length ≤ n := by
  have hsub : l ⊆ List.range n := fun x hx => List.mem_range.2 (h x hx)
  simpa using hl.length_le_of_subset hsub

/-- A chain of distinct identifiers is read whole. -/
theorem chain_of_chainAt {t : Tree} {p : Nat} {ps : List Nat} (h : t.ChainAt p ps)
    (hn : ps.Nodup) : t.chain p = ps :=
  chainFrom_of_chainAt h _ (Nat.le_succ_of_le (length_le_of_nodup hn fun v hv => (h.named v hv).1))

theorem Realizes.exprs_lt {t : Tree} {sh : Shape} (h : t.Realizes sh) :
    ∀ i ∈ sh.exprs, i < t.exprs.size := by
  induction h with
  | ref hi _ _ => simpa [Shape.exprs] using hi
  | app hi _ _ _ ihl ihr =>
    intro j hj
    simp only [Shape.exprs,List.mem_cons,List.mem_append] at hj
    rcases hj with rfl | hj | hj
    · exact hi
    · exact ihl j hj
    · exact ihr j hj
  | abs hi _ _ _ ih =>
    intro j hj
    simp only [Shape.exprs,List.mem_cons] at hj
    rcases hj with rfl | hj
    · exact hi
    · exact ih j hj

theorem Realizes.root_lt {t : Tree} {sh : Shape} (h : t.Realizes sh) : sh.root < t.exprs.size :=
  h.exprs_lt _ sh.root_mem_exprs

/-- A linear shape is no deeper than the tree has expression records. -/
theorem Realizes.depth_le {t : Tree} {sh : Shape} (h : t.Realizes sh) (hl : sh.Linear) :
    sh.depth ≤ t.exprs.size :=
  Nat.le_trans sh.depth_le_length (length_le_of_nodup hl.1 h.exprs_lt)

theorem termAux_of_realizes {t : Tree} {sh : Shape} (h : t.Realizes sh) (hl : sh.Linear) :
    ∀ fuel, sh.depth ≤ fuel → t.termAux fuel sh.root = sh.term t := by
  induction h with
  | @ref i v sp _ he _ =>
    intro fuel hf
    obtain ⟨fuel, rfl⟩ : ∃ f, fuel = f + 1 := ⟨fuel - 1, by simp [Shape.depth] at hf; omega⟩
    simp [termAux,he,Shape.term,exprSpan,Expr.span]
  | app _ he _ _ ihl ihr =>
    intro fuel hf
    obtain ⟨fuel, rfl⟩ : ∃ f, fuel = f + 1 := ⟨fuel - 1, by simp [Shape.depth] at hf; omega⟩
    simp only [Shape.depth] at hf
    simp only [termAux,Shape.root_app,he,Shape.term,ihl hl.left fuel (by omega),
      ihr hl.right fuel (by omega)]
  | abs _ he hc _ ih =>
    intro fuel hf
    obtain ⟨fuel, rfl⟩ : ∃ f, fuel = f + 1 := ⟨fuel - 1, by simp [Shape.depth] at hf; omega⟩
    simp only [Shape.depth] at hf
    simp only [termAux,Shape.root_abs,he,Shape.term,chain_of_chainAt hc hl.chain,
      ih hl.body fuel (by omega)]

/-- The walk with the fuel the code gives it reads the whole term of a linear shape. -/
theorem term_eq {t : Tree} {sh : Shape} (h : t.Realizes sh) (hl : sh.Linear) :
    t.term sh.root = sh.term t :=
  termAux_of_realizes h hl _ (Nat.le_succ_of_le (h.depth_le hl))

/-- `t'` holds what `t` holds at the records of `sh`: its expressions and the links of its
chains; and every named identifier of `t` is one of `t'`, with its name. -/
structure Keeps (t t' : Tree) (sh : Shape) : Prop where
  expr : ∀ i ∈ sh.exprs, i < t.exprs.size → i < t'.exprs.size ∧ t'.expr i = t.expr i
  next : ∀ v ∈ sh.params, v < t.idents.size → (t'.ident v).next = (t.ident v).next
  named : ∀ v, t.Named v → t'.Named v ∧ t'.name v = t.name v

theorem Keeps.mono {t t' : Tree} {sh sh' : Shape} (h : Keeps t t' sh)
    (he : ∀ i ∈ sh'.exprs, i ∈ sh.exprs) (hp : ∀ v ∈ sh'.params, v ∈ sh.params) :
    Keeps t t' sh' :=
  ⟨fun i hi => h.expr i (he i hi),fun v hv => h.next v (hp v hv),h.named⟩

theorem ChainAt.keep {t t' : Tree} {p : Nat} {ps : List Nat} (h : t.ChainAt p ps)
    (hn : ∀ v ∈ ps, v < t.idents.size → (t'.ident v).next = (t.ident v).next)
    (hnamed : ∀ v, t.Named v → t'.Named v ∧ t'.name v = t.name v) :
    t'.ChainAt p ps ∧ ps.map t'.name = ps.map t.name := by
  induction h with
  | last hp hnx =>
    refine ⟨.last (hnamed _ hp).1 ?_,by simp [(hnamed _ hp).2]⟩
    rw [hn _ (by simp) hp.1,hnx]
  | cons hp hnx _ ih =>
    obtain ⟨ih₁,ih₂⟩ := ih fun v hv => hn v (by simp [hv])
    refine ⟨.cons (hnamed _ hp).1 ?_ ih₁,by simp [(hnamed _ hp).2,ih₂]⟩
    rw [hn _ (by simp) hp.1,hnx]

/-- The frame rule: a tree that keeps the records of a shape holds the shape and its term. -/
theorem Realizes.keep {t t' : Tree} {sh : Shape} (h : t.Realizes sh) (hk : Keeps t t' sh) :
    t'.Realizes sh ∧ sh.term t' = sh.term t := by
  induction h with
  | ref hi he hv =>
    obtain ⟨hi',he'⟩ := hk.expr _ (by simp [Shape.exprs]) hi
    exact ⟨.ref hi' (he'.trans he) (hk.named _ hv).1,
      by simp [Shape.term,(hk.named _ hv).2,exprSpan,he']⟩
  | app hi he _ _ ihl ihr =>
    obtain ⟨hi',he'⟩ := hk.expr _ (by simp [Shape.exprs]) hi
    obtain ⟨hl,tl⟩ := ihl (hk.mono (by simp +contextual [Shape.exprs]) (by simp +contextual [Shape.params]))
    obtain ⟨hr,tr⟩ := ihr (hk.mono (by simp +contextual [Shape.exprs]) (by simp +contextual [Shape.params]))
    exact ⟨.app hi' (he'.trans he) hl hr,by simp [Shape.term,tl,tr]⟩
  | abs hi he hc _ ih =>
    obtain ⟨hi',he'⟩ := hk.expr _ (by simp [Shape.exprs]) hi
    obtain ⟨hc',tc⟩ := hc.keep (fun v hv => hk.next v (by simp [Shape.params,hv])) hk.named
    obtain ⟨hb,tb⟩ := ih (hk.mono (by simp +contextual [Shape.exprs]) (by simp +contextual [Shape.params]))
    exact ⟨.abs hi' (he'.trans he) hc' hb,by simp [Shape.term,tc,tb]⟩

/-- `t'` only adds tokens, identifiers and expressions to those of `t`. -/
def Grows (t t' : Tree) : Prop :=
  (∃ ext, t'.tokens = t.tokens ++ ext) ∧ (∃ ext, t'.idents = t.idents ++ ext) ∧
    ∃ ext, t'.exprs = t.exprs ++ ext

theorem Grows.refl (t : Tree) : Grows t t :=
  ⟨⟨#[],by simp⟩,⟨#[],by simp⟩,⟨#[],by simp⟩⟩

theorem Grows.trans {t₁ t₂ t₃ : Tree} (h₁ : Grows t₁ t₂) (h₂ : Grows t₂ t₃) :
    Grows t₁ t₃ := by
  obtain ⟨⟨a,ha⟩,⟨b,hb⟩,⟨c,hc⟩⟩ := h₁
  obtain ⟨⟨a',ha'⟩,⟨b',hb'⟩,⟨c',hc'⟩⟩ := h₂
  exact ⟨⟨a ++ a',by simp [ha',ha]⟩,⟨b ++ b',by simp [hb',hb]⟩,⟨c ++ c',by simp [hc',hc]⟩⟩

theorem getD_append_left {α : Type} {xs ext : Array α} {i : Nat} (d : α) (h : i < xs.size) :
    (xs ++ ext)[i]?.getD d = xs[i]?.getD d := by
  rw [Array.getElem?_append_left h]

theorem Grows.named {t t' : Tree} (h : Grows t t') (v : Nat) (hv : t.Named v) :
    t'.Named v ∧ t'.name v = t.name v := by
  obtain ⟨⟨a,ha⟩,⟨b,hb⟩,-⟩ := h
  have hi : t'.ident v = t.ident v := by simp only [ident,hb,getD_append_left _ hv.1]
  have htok : t'.token (t.ident v).token = t.token (t.ident v).token := by
    simp only [token,ha,getD_append_left _ hv.2]
  refine ⟨⟨by simp [hb]; have := hv.1; omega,by rw [hi,ha]; simp; have := hv.2; omega⟩,?_⟩
  simp [name,hi,htok]

/-- A tree that only grows keeps every shape it held. -/
theorem Grows.keeps {t t' : Tree} (h : Grows t t') (sh : Shape) : Keeps t t' sh := by
  refine ⟨fun i _ hi => ?_,fun v _ => ?_,h.named⟩
  · obtain ⟨c,hc⟩ := h.2.2
    exact ⟨by simp [hc]; omega,by simp only [expr,hc,getD_append_left _ hi]⟩
  · obtain ⟨b,hb⟩ := h.2.1
    intro hv
    simp only [ident,hb,getD_append_left _ hv]

/-- A tree with the same tokens, identifiers and expressions holds the same shapes. -/
theorem Realizes.of_records {t t' : Tree} {sh : Shape} (h : t.Realizes sh)
    (htok : t'.tokens = t.tokens) (hid : t'.idents = t.idents) (hex : t'.exprs = t.exprs) :
    t'.Realizes sh ∧ sh.term t' = sh.term t :=
  h.keep (Grows.keeps ⟨⟨#[],by simp [htok]⟩,⟨#[],by simp [hid]⟩,⟨#[],by simp [hex]⟩⟩ sh)

end Tree

end Combinatory
