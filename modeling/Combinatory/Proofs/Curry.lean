import Combinatory.Proofs.Located
import Combinatory.Proofs.State
import Combinatory.Tree.Curry

/-! Currying in place. `Tree.Frame` bounds what a step may change, each operation of the pass is
given by what it changes (`detach_spec`, `newAbs_spec`, `wrap_spec`), and every statement then
holds the curried term of what it held (`curry_spec`). -/
namespace Combinatory

open Pass

namespace Shape

/-- One abstraction per parameter of `ps` around `b`, the first outermost. The abstraction of
a parameter with `k` parameters after it is record `base + k`: currying allocates them
innermost first. -/
def wrap (base : Nat) : List Nat → Shape → Shape
  | [], b => b
  | p :: ps, b => abs (base + ps.length) [p] (wrap base ps b)

variable (base : Nat)

theorem root_wrap_congr {b b' : Shape} (h : b'.root = b.root) :
    ∀ ps, (wrap base ps b').root = (wrap base ps b).root
  | [] => h
  | _ :: _ => rfl

theorem params_wrap (ps : List Nat) (b : Shape) : (wrap base ps b).params = ps ++ b.params := by
  induction ps with
  | nil => rfl
  | cons p ps ih => simp [wrap,params,ih]

theorem mem_exprs_wrap {ps : List Nat} {b : Shape} {i : Nat} :
    i ∈ (wrap base ps b).exprs ↔ (base ≤ i ∧ i < base + ps.length) ∨ i ∈ b.exprs := by
  induction ps with
  | nil =>
    simp only [wrap,List.length_nil,Nat.add_zero]
    exact ⟨.inr,fun h => h.elim (fun h => absurd h.2 (Nat.not_lt.2 h.1)) id⟩
  | cons p ps ih =>
    simp only [wrap,exprs,List.mem_cons,ih,List.length_cons]
    by_cases hm : i ∈ b.exprs <;> simp only [hm,or_true,or_false] <;> omega

/-- The new records are distinct, and distinct from the body's when none of those lies
among them. -/
theorem nodup_exprs_wrap (ps : List Nat) {b : Shape} (hb : b.exprs.Nodup)
    (hout : ∀ i ∈ b.exprs, ¬ (base ≤ i ∧ i < base + ps.length)) : (wrap base ps b).exprs.Nodup := by
  induction ps with
  | nil => exact hb
  | cons p ps ih =>
    simp only [wrap,exprs,List.nodup_cons]
    refine ⟨fun h => ?_,ih fun i hi h => hout i hi (by simp; omega)⟩
    rcases (mem_exprs_wrap base).1 h with h | h
    · omega
    · exact hout _ h (by simp)

theorem curried_wrap (ps : List Nat) (b : Shape) : (wrap base ps b).Curried ↔ b.Curried := by
  induction ps with
  | nil => rfl
  | cons p ps ih => simp [wrap,Curried,ih]

theorem term_wrap (t : Tree) (ps : List Nat) (b : Shape) :
    (wrap base ps b).term t = (ps.map t.name).foldr (fun x acc => .lam [x] acc) (b.term t) := by
  induction ps with
  | nil => rfl
  | cons p ps ih => simp [wrap,term,ih]

/-- How deep the currying pass walks: an abstraction over `n` parameters is `n` levels, one
for each abstraction it becomes. -/
def curryDepth : Shape → Nat
  | ref _ _ => 1
  | app _ l r => max l.curryDepth r.curryDepth + 1
  | abs _ ps b => b.curryDepth + ps.length

theorem curryDepth_le (sh : Shape) : sh.curryDepth ≤ sh.exprs.length + sh.params.length := by
  induction sh with
  | ref _ _ => simp [curryDepth,exprs,params]
  | app _ l r ihl ihr =>
    simp only [curryDepth,exprs,params,List.length_cons,List.length_append]; omega
  | abs _ ps b ih => simp only [curryDepth,exprs,params,List.length_cons,List.length_append]; omega

end Shape

namespace Tree

/-- The statements of a program are read from the statement records alone. -/
theorem programStmts_go_congr {t t' : Tree} (h : t'.stmts = t.stmts) :
    ∀ fuel s, programStmts.go t' fuel s = programStmts.go t fuel s
  | 0, _ => rfl
  | _ + 1, none => rfl
  | fuel + 1, some s => by simp only [programStmts.go,Tree.stmt,h,programStmts_go_congr h fuel]

/-- `t'` is `t` changed only at the expression records `E` and at the links and spans of the
identifiers `V`, with expression records added: tokens, statements and programs are kept, and
so is a failure of `t`. -/
structure Frame (t t' : Tree) (E V : Nat → Prop) : Prop where
  tokens : t'.tokens = t.tokens
  idents : t'.idents.size = t.idents.size
  token : ∀ v, (t'.ident v).token = (t.ident v).token
  ident : ∀ v, ¬ V v → t'.ident v = t.ident v
  size : t.exprs.size ≤ t'.exprs.size
  expr : ∀ i < t.exprs.size, ¬ E i → t'.expr i = t.expr i
  stmts : t'.stmts = t.stmts
  programs : t'.programs = t.programs
  sticky : t'.failure = none → t.failure = none
  file : t'.file = t.file
  crash : t'.crash = t.crash

namespace Frame

variable {t t₁ t₂ : Tree} {E E' V V' : Nat → Prop}

theorem refl (t : Tree) (E V : Nat → Prop) : Frame t t E V :=
  ⟨rfl,rfl,fun _ => rfl,fun _ _ => rfl,Nat.le_refl _,fun _ _ _ => rfl,rfl,rfl,id,rfl,rfl⟩

theorem trans (h₁ : Frame t t₁ E V) (h₂ : Frame t₁ t₂ E' V') :
    Frame t t₂ (fun i => E i ∨ E' i) (fun v => V v ∨ V' v) where
  tokens := h₂.tokens.trans h₁.tokens
  idents := h₂.idents.trans h₁.idents
  token v := (h₂.token v).trans (h₁.token v)
  ident v hv := (h₂.ident v fun h => hv (.inr h)).trans (h₁.ident v fun h => hv (.inl h))
  size := Nat.le_trans h₁.size h₂.size
  expr i hi hE := (h₂.expr i (Nat.lt_of_lt_of_le hi h₁.size) fun h => hE (.inr h)).trans
    (h₁.expr i hi fun h => hE (.inl h))
  stmts := h₂.stmts.trans h₁.stmts
  programs := h₂.programs.trans h₁.programs
  sticky h := h₁.sticky (h₂.sticky h)
  file := h₂.file.trans h₁.file
  crash := h₂.crash.trans h₁.crash

theorem mono (h : Frame t t₁ E V) (hE : ∀ i, E i → E' i) (hV : ∀ v, V v → V' v) :
    Frame t t₁ E' V' :=
  { h with
    ident := fun v hv => h.ident v fun h' => hv (hV v h')
    expr := fun i hi hE' => h.expr i hi fun h' => hE' (hE i h') }

theorem name (h : Frame t t₁ E V) (v : Nat) : t₁.name v = t.name v := by
  simp only [Tree.name,Tree.token,h.tokens,h.token]

theorem named (h : Frame t t₁ E V) {v : Nat} (hv : t.Named v) : t₁.Named v :=
  ⟨h.idents ▸ hv.1,by rw [h.token,h.tokens]; exact hv.2⟩

/-- A step that changes no record of a shape keeps it. -/
theorem keeps (h : Frame t t₁ E V) {sh : Shape} (hE : ∀ i ∈ sh.exprs, ¬ E i)
    (hV : ∀ v ∈ sh.params, ¬ V v) : Keeps t t₁ sh where
  expr i hi hlt := ⟨Nat.lt_of_lt_of_le hlt h.size,h.expr i hlt (hE i hi)⟩
  next v hv _ := by rw [h.ident v (hV v hv)]
  named _ hv := ⟨h.named hv,h.name _⟩

theorem programStmts (h : Frame t t₁ E V) (p : Nat) : t₁.programStmts p = t.programStmts p := by
  simp only [Tree.programStmts,programStmts_go_congr h.stmts,h.stmts,h.programs]

theorem stmt (h : Frame t t₁ E V) (j : Nat) : t₁.stmt j = t.stmt j := by
  simp only [Tree.stmt,h.stmts]

theorem stmtName (h : Frame t t₁ E V) (j : Nat) : t₁.stmtName j = t.stmtName j := by
  simp only [Tree.stmtName,h.stmt,h.name]

theorem param_shrink (h : Frame t t₁ E V) (v : Nat) : (t₁.param v).shrink = (t.param v).shrink := by
  simp only [Tree.param,Param.shrink,h.name,Tree.token,h.tokens,h.token]

/-- An identifier the step leaves alone reads as the same parameter. -/
theorem param (h : Frame t t₁ E V) {v : Nat} (hv : ¬ V v) : t₁.param v = t.param v := by
  simp only [Tree.param,h.name,Tree.token,h.ident v hv,h.tokens]

theorem spanned (h : Frame t t₁ E V) {v : Nat} (hv : ¬ V v) (hs : t.Spanned v) : t₁.Spanned v := by
  simp only [Tree.Spanned,Tree.token,h.ident v hv,h.tokens,h.file]
  exact hs

/-- A step that changes no record of a shape keeps its located term. -/
theorem located (h : Frame t t₁ E V) {sh : Shape} (hr : t.Realizes sh)
    (hE : ∀ i ∈ sh.exprs, ¬ E i) (hV : ∀ v ∈ sh.params, ¬ V v) : sh.located t₁ = sh.located t := by
  induction hr with
  | @ref i _ _ hi _ _ =>
    simp [Shape.located,h.name,Tree.exprSpan,h.expr i hi (hE i (by simp [Shape.exprs]))]
  | @app i _ l r hi _ _ _ ihl ihr =>
    rw [Shape.located,Shape.located,
      ihl (fun j hj => hE j (by simp [Shape.exprs,hj])) (fun v hv => hV v (by simp [Shape.params,hv])),
      ihr (fun j hj => hE j (by simp [Shape.exprs,hj])) (fun v hv => hV v (by simp [Shape.params,hv])),
      Tree.exprSpan,Tree.exprSpan,h.expr i hi (hE i (by simp [Shape.exprs]))]
  | @abs i _ _ ps b hi _ _ _ ih =>
    rw [Shape.located,Shape.located,
      ih (fun j hj => hE j (by simp [Shape.exprs,hj])) (fun v hv => hV v (by simp [Shape.params,hv])),
      Tree.exprSpan,Tree.exprSpan,h.expr i hi (hE i (by simp [Shape.exprs])),
      List.map_congr_left fun v hv => h.param (hV v (by simp [Shape.params,hv]))]

/-- Currying the operator of a linear application keeps the operand. -/
theorem keeps_right {i : Nat} {l r : Shape}
    (h : Frame t t₁ (· ∈ l.exprs) (· ∈ l.params)) (hlin : (Shape.app i l r).Linear) :
    Keeps t t₁ r := by
  obtain ⟨hnd,hpnd⟩ := hlin
  rw [Shape.exprs,List.nodup_cons,List.nodup_append] at hnd
  rw [Shape.params,List.nodup_append] at hpnd
  exact h.keeps (fun j hj hjl => hnd.2.2.2 j hjl j hj rfl) fun v hv hvl => hpnd.2.2 v hvl v hv rfl

/-- Abstractions over `qs` that a step leaves alone still wrap a body that the step rewrote
in place. -/
theorem rewrap (h : Frame t t₁ E V) {base : Nat} {b b' : Shape} (hb : t₁.Realizes b')
    (hr : b'.root = b.root) : ∀ {qs : List Nat}, t.Realizes (b.wrap base qs) →
      (∀ k < qs.length, ¬ E (base + k)) → (∀ v ∈ qs, ¬ V v) → t₁.Realizes (b'.wrap base qs)
  | [], _, _, _ => hb
  | q :: qs, hw, hE, hV => by
    cases hw with
    | @abs _ p₀ sp _ _ hi he hc hin =>
      obtain ⟨_,hq⟩ := hc.head
      cases hq
      have he' : t₁.expr (base + qs.length) = .abs q (b'.wrap base qs).root sp := by
        rw [h.expr _ hi (hE _ (by simp)),he,Shape.root_wrap_congr base hr qs]
      exact .abs (Nat.lt_of_lt_of_le hi h.size) he'
        (hc.keep (fun v hv _ => by rw [h.ident v (hV v (by simp_all))])
          fun v hv => ⟨h.named hv,h.name v⟩).1
        (rewrap h hb hr hin (fun k hk => hE k (by simp; omega)) fun v hv => hV v (by simp [hv]))

end Frame

/-- The abstractions currying adds around a body over the parameters `ps`, the innermost at
record `base`: each spans its parameter's token, and so does the parameter's identifier. -/
def WrapSpans (t : Tree) (base : Nat) : List Nat → Prop
  | [] => True
  | q :: qs => t.exprSpan (base + qs.length) = (t.token (t.ident q).token).span ∧
      (t.ident q).span = (t.token (t.ident q).token).span ∧ t.WrapSpans base qs

/-- The located term of the abstractions currying adds. -/
theorem located_wrap {t : Tree} {base : Nat} {b : Shape} : ∀ {ps : List Nat}, t.WrapSpans base ps →
    (b.wrap base ps).located t = Located.wraps (ps.map fun q => (t.param q).shrink) (b.located t)
  | [], _ => rfl
  | q :: qs, ⟨hs,hi,hrest⟩ => by
    have hq : t.param q = (t.param q).shrink := by simp only [Tree.param,Param.shrink,hi]
    simp only [Shape.wrap,Shape.located,located_wrap hrest,List.map_cons,List.map_nil,Located.wraps,
      List.foldr_cons,Param.shrink_token,hs]
    rw [← hq]
    rfl

theorem WrapSpans.frame {t t₁ : Tree} {E V : Nat → Prop} (h : Frame t t₁ E V) {base : Nat} :
    ∀ {ps : List Nat}, t.WrapSpans base ps →
      (∀ k < ps.length, base + k < t.exprs.size ∧ ¬ E (base + k)) → (∀ v ∈ ps, ¬ V v) →
      t₁.WrapSpans base ps
  | [], _, _, _ => trivial
  | q :: qs, ⟨hs,hi,hrest⟩, hE, hV => by
    obtain ⟨hlt,hk⟩ := hE qs.length (by simp)
    refine ⟨?_,?_,WrapSpans.frame h hrest (fun k hk' => hE k (by simp; omega))
      fun v hv => hV v (by simp [hv])⟩
    · rw [Tree.exprSpan,h.expr _ hlt hk,← Tree.exprSpan,hs]
      simp only [Tree.token,h.tokens,h.token]
    · simp only [Tree.token,h.tokens,h.ident q (hV q (by simp))]
      exact hi

theorem Realizes.params_named {sh : Shape} {t : Tree} (h : t.Realizes sh) :
    ∀ v ∈ sh.params, t.Named v := by
  induction h with
  | ref => simp [Shape.params]
  | app _ _ _ _ ihl ihr =>
    intro v hv
    simp only [Shape.params,List.mem_append] at hv
    exact hv.elim (ihl v) (ihr v)
  | abs _ _ hc _ ih =>
    intro v hv
    simp only [Shape.params,List.mem_append] at hv
    exact hv.elim (hc.named v) (ih v)

/-- The fuel the pass gives a statement covers the walk over a linear shape. -/
theorem Realizes.curryDepth_le {sh : Shape} {t : Tree} (h : t.Realizes sh) (hl : sh.Linear) :
    sh.curryDepth ≤ t.exprs.size + t.idents.size :=
  Nat.le_trans sh.curryDepth_le (Nat.add_le_add (length_le_of_nodup hl.1 h.exprs_lt)
    (length_le_of_nodup hl.2 fun v hv => (h.params_named v hv).1))

theorem ChainAt.next_of_single {t : Tree} {p : Nat} (h : t.ChainAt p [p]) :
    (t.ident p).next = none := by
  cases h with
  | last _ hn => exact hn
  | cons _ _ hc => nomatch hc

/-- The statements `L` hold their expressions in the shapes `shape j`, no record of one
shape being a record of another or used twice in one. -/
structure LaidOut (t : Tree) (L : List Nat) (shape : Nat → Shape) : Prop where
  realizes : ∀ j ∈ L, t.Realizes (shape j)
  root : ∀ j ∈ L, (shape j).root = (t.stmt j).expr
  exprs : (L.flatMap fun j => (shape j).exprs).Nodup
  params : (L.flatMap fun j => (shape j).params).Nodup

section LaidOut

variable {t t₁ : Tree} {j : Nat} {L : List Nat} {shape : Nat → Shape}

theorem LaidOut.linear (h : t.LaidOut (j :: L) shape) : (shape j).Linear :=
  ⟨(List.nodup_append.1 (List.flatMap_cons ▸ h.exprs)).1,
    (List.nodup_append.1 (List.flatMap_cons ▸ h.params)).1⟩

/-- A later statement's shape shares no record and no identifier with the first one's. -/
theorem LaidOut.disjoint (h : t.LaidOut (j :: L) shape) {k : Nat} (hk : k ∈ L) :
    (∀ i ∈ (shape k).exprs, ¬ i ∈ (shape j).exprs) ∧
      ∀ v ∈ (shape k).params, ¬ v ∈ (shape j).params := by
  have hE := List.nodup_append.1 (List.flatMap_cons ▸ h.exprs)
  have hV := List.nodup_append.1 (List.flatMap_cons ▸ h.params)
  exact ⟨fun i hi hi' => hE.2.2 i hi' i (List.mem_flatMap.2 ⟨k,hk,hi⟩) rfl,
    fun v hv hv' => hV.2.2 v hv' v (List.mem_flatMap.2 ⟨k,hk,hv⟩) rfl⟩

/-- The later statements keep their shapes through a step that changes records of the first
one's only. -/
theorem LaidOut.tail (h : t.LaidOut (j :: L) shape)
    (hf : Frame t t₁ (· ∈ (shape j).exprs) (· ∈ (shape j).params)) :
    t₁.LaidOut L shape ∧ ∀ k ∈ L, (shape k).term t₁ = (shape k).term t := by
  have hE := (List.nodup_append.1 (List.flatMap_cons ▸ h.exprs))
  have hV := (List.nodup_append.1 (List.flatMap_cons ▸ h.params))
  have hkeep : ∀ k ∈ L, (t.Realizes (shape k) → t₁.Realizes (shape k)) ∧
      (shape k).term t₁ = (shape k).term t := fun k hk =>
    have hk' := (h.realizes k (List.mem_cons_of_mem _ hk)).keep
      (hf.keeps (h.disjoint hk).1 (h.disjoint hk).2)
    ⟨fun _ => hk'.1,hk'.2⟩
  refine ⟨⟨fun k hk => (hkeep k hk).1 (h.realizes k (List.mem_cons_of_mem _ hk)),fun k hk => ?_,
    hE.2.1,hV.2.1⟩,fun k hk => (hkeep k hk).2⟩
  rw [h.root k (List.mem_cons_of_mem _ hk),hf.stmt]

theorem LaidOut.linear_of_mem : ∀ {L : List Nat}, t.LaidOut L shape → ∀ k ∈ L, (shape k).Linear
  | [], _, _, hk => nomatch hk
  | _ :: _, h, k, hk => (List.mem_cons.1 hk).elim (fun e => e ▸ h.linear)
      fun hk => LaidOut.linear_of_mem (h.tail (Frame.refl t _ _)).1 k hk

end LaidOut

section Ops

variable (t : Tree)

/-- Cutting the chain after `i` changes identifier `i` alone and returns the link it cut. -/
theorem detach_spec (i : Nat) :
    (run (detach i) t).1 = (t.ident i).next ∧ (run (detach i) t).2.exprs = t.exprs ∧
      Frame t (run (detach i) t).2 (fun _ => False) (· = i) ∧
      ((run (detach i) t).2.ident i).next = none := by
  cases hn : (t.ident i).next with
  | none =>
    have hrun : run (detach i) t = (none, t) := by simp [detach,hn]
    rw [hrun]
    exact ⟨rfl,rfl,Frame.refl t _ _,hn⟩
  | some n =>
    have hi : i < t.idents.size :=
      if h : i < t.idents.size then h else by simp only [Tree.ident,Array.getElem?_eq_none (Nat.le_of_not_lt h)] at hn; cases hn
    have hrun : run (detach i) t = (some n, { t with idents := t.idents.modify i fun d =>
        { d with next := none, span := (t.token (t.ident i).token).span } }) := by
      simp [detach,hn]
    rw [hrun]
    refine ⟨rfl,rfl,⟨rfl,by simp,fun v => ?_,fun v hv => ?_,Nat.le_refl _,fun _ _ _ => rfl,rfl,rfl,id,rfl,
      rfl⟩,?_⟩
    · simp only [Tree.ident,Array.getElem?_modify]
      split <;> cases t.idents[v]? <;> rfl
    · simp only [Tree.ident,Array.getElem?_modify,Ne.symm hv,if_false]
    · simp [Tree.ident,Array.getElem_modify,hi]

/-- A new abstraction record is added at the end, unless the tree failed or fails now. -/
theorem newAbs_spec (sp : Span) (p b : Nat) :
    Frame t (run (newAbs sp (some p) (some b)) t).2 (fun _ => False) (fun _ => False) ∧
      (∀ r, (run (newAbs sp (some p) (some b)) t).1 = some r →
        (run (newAbs sp (some p) (some b)) t).2.failure = none) ∧
      ((run (newAbs sp (some p) (some b)) t).2.failure = none →
        (run (newAbs sp (some p) (some b)) t).1 = some t.exprs.size ∧
        (run (newAbs sp (some p) (some b)) t).2.exprs =
          t.exprs.push (.abs p b { sp with file := t.file })) := by
  by_cases hf : t.failure.isSome
  · have hf' : t.failure ≠ none := by simpa [Option.isSome_iff_ne_none] using hf
    have hrun : run (newAbs sp (some p) (some b)) t = (none, t) := by simp [newAbs,hf]
    rw [hrun]
    exact ⟨Frame.refl t _ _,by simp,fun h => absurd h hf'⟩
  · have hf' : t.failure = none := by simpa using hf
    cases ha : t.arena.alloc exprSize.toUInt64 with
    | ok a =>
      have hrun : run (newAbs sp (some p) (some b)) t = (some t.exprs.size,
          { t with arena := a.1, exprs := t.exprs.push (.abs p b { sp with file := t.file }) }) := by
        simp [newAbs,pushExpr,charge,hf,ha]
      rw [hrun]
      refine ⟨⟨rfl,rfl,fun _ => rfl,fun _ _ => rfl,by simp,fun i hi _ => ?_,rfl,rfl,id,rfl,rfl⟩,
        fun _ _ => hf',fun _ => ⟨rfl,rfl⟩⟩
      simp [Tree.expr,Array.getElem?_push,Nat.ne_of_lt hi]
    | error e =>
      have hrun : run (newAbs sp (some p) (some b)) t = (none, { t with failure := some e }) := by
        simp [newAbs,pushExpr,charge,hf,ha]
      rw [hrun]
      exact ⟨⟨rfl,rfl,fun _ => rfl,fun _ _ => rfl,Nat.le_refl _,fun _ _ _ => rfl,rfl,rfl,
        fun h => by simp at h,rfl,rfl⟩,by simp,fun h => by simp at h⟩

/-- Pointing abstraction `i` at new parameters and body changes record `i` alone. -/
theorem setAbs_spec {i p' b' : Nat} {sp : Span} (he : t.expr i = .abs p' b' sp) (p b : Nat) :
    Frame t (run (setAbs i p b) t).2 (· = i) (fun _ => False) ∧
      (run (setAbs i p b) t).2.exprs.size = t.exprs.size ∧
      (run (setAbs i p b) t).2.expr i = .abs p b sp := by
  have hi : i < t.exprs.size :=
    if h : i < t.exprs.size then h else by simp only [Tree.expr,Array.getElem?_eq_none (Nat.le_of_not_lt h)] at he; cases he
  simp only [setAbs,run_modify,he]
  refine ⟨⟨rfl,rfl,fun _ => rfl,fun _ _ => rfl,by simp,fun j _ hj => ?_,rfl,rfl,id,rfl,rfl⟩,by simp,?_⟩
  · simp [Tree.expr,Array.getElem?_modify,Ne.symm hj]
  · simp [Tree.expr,Array.getElem_modify,hi]

/-- A chain that ends at `i` is left as it is. -/
theorem detach_of_none {i : Nat} (hn : (t.ident i).next = none) : run (detach i) t = (none, t) := by
  simp [detach,hn]

/-- An identifier cut from its chain spans its own token. -/
theorem detach_span {i n : Nat} (hn : (t.ident i).next = some n) :
    ((run (detach i) t).2.ident i).span = (t.token (t.ident i).token).span := by
  have hi : i < t.idents.size :=
    if h : i < t.idents.size then h else by simp only [Tree.ident,Array.getElem?_eq_none (Nat.le_of_not_lt h)] at hn; cases hn
  have hrun : run (detach i) t = (some n, { t with idents := t.idents.modify i fun d =>
      { d with next := none, span := (t.token (t.ident i).token).span } }) := by
    simp [detach,hn]
  rw [hrun]
  simp [Tree.ident,Array.getElem_modify,hi]

/-- A new abstraction over a parameter whose identifier spans its token, a place of the tree's
file, spans that token too. -/
theorem newAbs_spans {p b : Nat} (hsp : (t.ident p).span = (t.token (t.ident p).token).span)
    (hfile : (t.token (t.ident p).token).span.file = t.file)
    (hf : (run (newAbs (t.ident p).span (some p) (some b)) t).2.failure = none) :
    (run (newAbs (t.ident p).span (some p) (some b)) t).2.WrapSpans t.exprs.size [p] := by
  obtain ⟨hfr,-,hok⟩ := newAbs_spec t (t.ident p).span p b
  have hex := (hok hf).2
  have hid : (run (newAbs (t.ident p).span (some p) (some b)) t).2.ident p = t.ident p := hfr.ident p id
  refine ⟨?_,?_,trivial⟩
  · simp only [Tree.exprSpan,Tree.expr,hex,List.length_nil,Nat.add_zero,Array.getElem?_push_size,
      Option.getD_some,Expr.span,hid,Tree.token,hfr.tokens]
    rw [hsp,← hfile]
    rfl
  · simp only [hid,Tree.token,hfr.tokens]
    exact hsp

variable {t}

/-- A new abstraction over a parameter that ends its chain holds the abstraction over it. -/
theorem realizes_newAbs {p : Nat} {b : Shape} (sp : Span) (hb : t.Realizes b) (hp : t.Named p)
    (hn : (t.ident p).next = none) (hf : (run (newAbs sp (some p) (some b.root)) t).2.failure = none) :
    (run (newAbs sp (some p) (some b.root)) t).2.Realizes (.abs t.exprs.size [p] b) := by
  obtain ⟨hfr,-,hok⟩ := newAbs_spec t sp p b.root
  have hex := (hok hf).2
  have he : (run (newAbs sp (some p) (some b.root)) t).2.expr t.exprs.size =
      .abs p b.root { sp with file := t.file } := by
    simp [Tree.expr,hex]
  exact .abs (by simp [hex]) he (.last (hfr.named hp) (by rw [hfr.ident p id,hn]))
    (hb.keep (hfr.keeps (fun _ _ h => h) fun _ _ h => h)).1

/-- Cutting the chain after `p` keeps the rest of the chain and any shape without `p`. -/
theorem detach_keeps {p q : Nat} {qs : List Nat} {b : Shape} (hc : t.ChainAt q qs) (hpq : p ∉ qs)
    (hb : t.Realizes b) (hpb : p ∉ b.params) :
    (run (detach p) t).2.ChainAt q qs ∧ (run (detach p) t).2.Realizes b ∧
      b.term (run (detach p) t).2 = b.term t := by
  obtain ⟨-,-,hfr,-⟩ := detach_spec t p
  refine ⟨(hc.keep (fun v hv _ => by rw [hfr.ident v fun h => hpq (h ▸ hv)])
    fun v hv => ⟨hfr.named hv,hfr.name v⟩).1,hb.keep (hfr.keeps (fun _ _ h => h) ?_)⟩
  intro v hv h
  exact hpb (h ▸ hv)

end Ops

end Tree

namespace Curry

open Combinatory.Tree

/-- What wrapping body `b` in abstractions over the chain `ps` leaves: only the chain's
identifiers are changed and records added; there is a result only if nothing failed; and if
nothing failed, the abstractions stand at the new records. -/
structure Wrapped (t : Tree) (out : Option Nat × Tree) (ps : List Nat) (b : Shape) : Prop where
  frame : Frame t out.2 (fun _ => False) (· ∈ ps)
  ok : ∀ a, out.1 = some a → out.2.failure = none
  root : out.2.failure = none → out.1 = some (b.wrap t.exprs.size ps).root
  size : out.2.failure = none → out.2.exprs.size = t.exprs.size + ps.length
  realizes : out.2.failure = none → out.2.Realizes (b.wrap t.exprs.size ps)
  spans : out.2.failure = none → (∀ v ∈ ps, t.Spanned v) → out.2.WrapSpans t.exprs.size ps

theorem wrap_spec {b : Shape} (ps : List Nat) :
    ∀ {t : Tree} {p : Nat} (fuel : Nat), t.ChainAt p ps → ps.Nodup → ps.length ≤ fuel →
      t.Realizes b → (∀ v ∈ ps, v ∉ b.params) → Wrapped t (run (wrap fuel p b.root) t) ps b := by
  induction ps with
  | nil => intro t p fuel hc; nomatch hc
  | cons p qs ih =>
  intro t p₀ fuel hc hnd hfuel hb hdis
  obtain ⟨fuel, rfl⟩ : ∃ f, fuel = f + 1 := ⟨fuel - 1, by simp at hfuel; omega⟩
  cases hc with
  | last hp hn =>
    have hrun : run (wrap (fuel + 1) p b.root) t =
        run (newAbs (t.ident p).span (some p) (some b.root)) t := by
      simp [wrap,detach_of_none t hn]
    rw [hrun]
    obtain ⟨hfr,hok,hsucc⟩ := newAbs_spec t (t.ident p).span p b.root
    exact ⟨hfr.mono (fun _ h => h.elim) (fun _ h => h.elim),hok,
      fun hf => by simpa [Shape.wrap] using (hsucc hf).1,fun hf => by simp [(hsucc hf).2],
      fun hf => by simpa [Shape.wrap] using realizes_newAbs _ hb hp hn hf,
      fun hf hsp => newAbs_spans t ((hsp p (by simp)).2.2 hn) (hsp p (by simp)).2.1 hf⟩
  | @cons _ q _ hp hn hc =>
    obtain ⟨hd₁,hdex,hdfr,hdn⟩ := detach_spec t p
    have hpq : p ∉ qs := (List.nodup_cons.1 hnd).1
    obtain ⟨hc₁,hb₁,-⟩ := detach_keeps hc hpq hb (hdis p (by simp))
    have hw := ih fuel hc₁ (List.nodup_cons.1 hnd).2 (by simp at hfuel; omega) hb₁
      fun v hv => hdis v (by simp [hv])
    rcases hrw : run (wrap fuel q b.root) (run (detach p) t).2 with ⟨w,t₂⟩
    rw [hrw] at hw
    have hframe := hdfr.trans hw.frame
    cases w with
    | none =>
      have hrun : run (wrap (fuel + 1) p b.root) t = (none, t₂) := by
        simp only [wrap,run_bind,hd₁,hn,hrw]; rfl
      rw [hrun]
      exact ⟨hframe.mono (fun _ h => by simp at h) (fun _ h => List.mem_cons.2 h),
        by simp,fun hf => absurd (hw.root hf) (by simp),fun hf => absurd (hw.root hf) (by simp),
        fun hf => absurd (hw.root hf) (by simp),fun hf _ => absurd (hw.root hf) (by simp)⟩
    | some a =>
      have hrun : run (wrap (fuel + 1) p b.root) t =
          run (newAbs (t₂.ident p).span (some p) (some a)) t₂ := by
        simp only [wrap,run_bind,hd₁,hn,hrw]; rfl
      rw [hrun]
      obtain ⟨hnfr,hok,hsucc⟩ := newAbs_spec t₂ (t₂.ident p).span p a
      refine ⟨(hframe.trans hnfr).mono (fun _ h => by simp at h)
        (fun _ h => List.mem_cons.2 (h.resolve_right id)),hok,fun hf => ?_,fun hf => ?_,fun hf => ?_,
        fun hf hsp => ?_⟩
      all_goals
        have hf₂ := hnfr.sticky hf
        have ha : a = (b.wrap t.exprs.size qs).root := by simpa [hdex] using hw.root hf₂
        have hsz : t₂.exprs.size = t.exprs.size + qs.length := by simpa [hdex] using hw.size hf₂
      · simp [(hsucc hf).1,Shape.wrap,hsz]
      · simp [(hsucc hf).2,hsz]; omega
      · have hn₂ : (t₂.ident p).next = none := by rw [hw.frame.ident p hpq,hdn]
        have hr := realizes_newAbs (t₂.ident p).span (by simpa [hdex] using hw.realizes hf₂)
          (hw.frame.named (hdfr.named hp)) hn₂ (ha ▸ hf)
        rw [← ha,hsz] at hr
        simpa [Shape.wrap] using hr
      · -- the identifier cut from the chain spans its token, and so does the abstraction over it
        have hwf : Frame (run (detach p) t).2 t₂ (fun _ => False) (· ∈ qs) := hw.frame
        have hid₂ : t₂.ident p = (run (detach p) t).2.ident p := hwf.ident p hpq
        have htok₂ : t₂.token (t₂.ident p).token = t.token (t.ident p).token := by
          simp only [Tree.token,hid₂,hwf.tokens,hdfr.tokens,hdfr.token]
        have hnew := newAbs_spans t₂ (p := p) (b := a) (by rw [htok₂,hid₂,detach_span t hn])
          (by rw [htok₂,hwf.file,hdfr.file]; exact (hsp p (by simp)).2.1) hf
        have hrest := WrapSpans.frame hnfr
          (hw.spans hf₂ fun v hv => hdfr.spanned (fun h => hpq (h ▸ hv)) (hsp v (by simp [hv])))
          (fun k hk => ⟨by rw [hw.size hf₂]; omega,id⟩) (fun _ _ h => h)
        rw [hdex] at hrest
        rw [hsz] at hnew
        exact ⟨hnew.1,hnew.2.1,hrest⟩

section Steps

variable {t : Tree} {i fuel : Nat} {sp : Span}

theorem expr_ref {v : Nat} (he : t.expr i = .ref v sp) : run (expr (fuel + 1) i) t = ((), t) := by
  simp [expr,he]

theorem expr_app {l r : Nat} (he : t.expr i = .app l r sp) :
    run (expr (fuel + 1) i) t = run (expr fuel r) (run (expr fuel l) t).2 := by
  simp [expr,he]

/-- An abstraction over one parameter is walked through. -/
theorem expr_abs_last {p b : Nat} (he : t.expr i = .abs p b sp) (hn : (t.ident p).next = none) :
    run (expr (fuel + 1) i) t = run (expr fuel b) t := by
  simp [expr,he,detach_of_none t hn]

/-- An abstraction over several parameters: the chain is cut after the first, the rest wrapped
around the body, and the abstraction pointed at the wrapping, which is walked next. -/
theorem expr_abs_cons {p q b : Nat} (he : t.expr i = .abs p b sp) (hn : (t.ident p).next = some q) :
    run (expr (fuel + 1) i) t =
      match run (wrap ((run (detach p) t).2.idents.size + 1) q b) (run (detach p) t).2 with
      | (none, t₂) => ((), t₂)
      | (some a, t₂) => run (expr fuel a) (run (setAbs i p a) t₂).2 := by
  obtain ⟨hd,-⟩ := detach_spec t p
  rcases hw : run (wrap ((run (detach p) t).2.idents.size + 1) q b) (run (detach p) t).2 with
    ⟨_ | a,t₂⟩ <;> simp only [expr,run_bind,run_get,he,hd,hn,hw] <;> rfl

/-- Abstractions that currying already made are walked through to their body. -/
theorem expr_wrap {b : Shape} {base : Nat} : ∀ (qs : List Nat) {t : Tree} (fuel : Nat),
    t.Realizes (b.wrap base qs) →
      run (expr (fuel + qs.length) (b.wrap base qs).root) t = run (expr fuel b.root) t
  | [], _, _, _ => rfl
  | q :: qs, t, fuel, h => by
    cases h with
    | abs _ he hc hb =>
      obtain ⟨_,hq⟩ := hc.head
      cases hq
      rw [show fuel + (q :: qs).length = fuel + qs.length + 1 by simp; omega,Shape.wrap,
        Shape.root_abs,expr_abs_last he hc.next_of_single,expr_wrap qs fuel hb]

end Steps

/-- What currying made of shape `sh`, read in the tree `t` before and `t'` after: a curried
linear shape at the same root holding the curried term, laid out in records of `sh` and
records added since `t`. -/
structure Curries (t t' : Tree) (sh sh' : Shape) : Prop where
  realizes : t'.Realizes sh'
  linear : sh'.Linear
  curried : sh'.Curried
  root : sh'.root = sh.root
  term : sh'.term t' = (sh.term t).curry
  exprs : ∀ i ∈ sh'.exprs, i ∈ sh.exprs ∨ t.exprs.size ≤ i
  params : ∀ v ∈ sh'.params, v ∈ sh.params
  located : (∀ v ∈ sh.params, t.Spanned v) → sh'.located t' = (sh.located t).curry

theorem Curries.app {t t₁ t₂ : Tree} {i : Nat} {l r l' r' : Shape}
    (ht : t.Realizes (.app i l r)) (hlin : (Shape.app i l r).Linear)
    (hfl : Frame t t₁ (· ∈ l.exprs) (· ∈ l.params)) (hl : Curries t t₁ l l')
    (hfr : Frame t₁ t₂ (· ∈ r.exprs) (· ∈ r.params)) (hr : Curries t₁ t₂ r r') :
    Curries t t₂ (.app i l r) (.app i l' r') := by
  have hkr := hfl.keeps_right hlin
  obtain ⟨hnd,hpnd⟩ := hlin
  rw [Shape.exprs,List.nodup_cons,List.mem_append,not_or,List.nodup_append] at hnd
  rw [Shape.params,List.nodup_append] at hpnd
  obtain ⟨⟨hil,hir⟩,-,-,hlr⟩ := hnd
  have hlt := ht.exprs_lt
  simp only [Shape.exprs,List.mem_cons,List.mem_append] at hlt
  cases ht with
  | @app _ sp _ _ hi he _ hrr =>
  have hl₁ : ∀ j ∈ l'.exprs, j < t₁.exprs.size := hl.realizes.exprs_lt
  have ht₁ : t.exprs.size ≤ t₁.exprs.size := hfl.size
  -- the records of `l'` are those of `l` or younger than `t`: none is a record of `r`
  have hEl : ∀ j ∈ l'.exprs, ¬ j ∈ r.exprs := fun j hj hjr => (hl.exprs j hj).elim
    (fun h => hlr j h j hjr rfl) fun h => absurd (hlt j (.inr (.inr hjr))) (by omega)
  have hVl : ∀ v ∈ l'.params, ¬ v ∈ r.params := fun v hv hvr => hpnd.2.2 v (hl.params v hv) v hvr rfl
  have hkl := hl.realizes.keep (hfr.keeps hEl hVl)
  have he₂ : t₂.expr i = .app l'.root r'.root sp := by
    rw [hfr.expr i (Nat.lt_of_lt_of_le hi ht₁) hir,hfl.expr i hi hil,he,hl.root,hr.root]
  refine ⟨.app (Nat.lt_of_lt_of_le hi (Nat.le_trans ht₁ hfr.size)) he₂ hkl.1 hr.realizes,⟨?_,?_⟩,
    ⟨hl.curried,hr.curried⟩,rfl,?_,?_,?_,fun hsp => ?_⟩
  · rw [Shape.exprs,List.nodup_cons,List.mem_append,List.nodup_append]
    refine ⟨fun h => h.elim (fun h => ?_) (fun h => ?_),hl.linear.1,hr.linear.1,fun j hj k hk hjk => ?_⟩
    · exact (hl.exprs i h).elim hil fun h => by omega
    · exact (hr.exprs i h).elim hir fun h => by omega
    · subst hjk
      have := hl₁ j hj
      rcases hl.exprs j hj with h₁ | h₁ <;> rcases hr.exprs j hk with h₂ | h₂
      · exact hlr j h₁ j h₂ rfl
      · have := hlt j (.inr (.inl h₁)); omega
      · have := hlt j (.inr (.inr h₂)); omega
      · omega
  · rw [Shape.params,List.nodup_append]
    exact ⟨hl.linear.2,hr.linear.2,fun v hv w hw => hpnd.2.2 v (hl.params v hv) w (hr.params w hw)⟩
  · simp only [Shape.term,Term.curry,hkl.2,hl.term,hr.term,(hrr.keep hkr).2]
  · intro j hj
    simp only [Shape.exprs,List.mem_cons,List.mem_append] at hj ⊢
    rcases hj with rfl | hj | hj
    · exact .inl (.inl rfl)
    · exact (hl.exprs j hj).imp (fun h => .inr (.inl h)) id
    · exact (hr.exprs j hj).imp (fun h => .inr (.inr h)) (Nat.le_trans ht₁)
  · intro v hv
    simp only [Shape.params,List.mem_append] at hv ⊢
    exact hv.imp (hl.params v) (hr.params v)
  · -- the operand's records and chains are none of the operator's
    have hEr : ∀ j ∈ r.exprs, ¬ j ∈ l.exprs := fun j hj hjl => hlr j hjl j hj rfl
    have hVr : ∀ v ∈ r.params, ¬ v ∈ l.params := fun v hv hvl => hpnd.2.2 v hvl v hv rfl
    have hspl : ∀ v ∈ l.params, t.Spanned v := fun v hv => hsp v (by simp [Shape.params,hv])
    have hspr : ∀ v ∈ r.params, t₁.Spanned v := fun v hv =>
      hfl.spanned (hVr v hv) (hsp v (by simp [Shape.params,hv]))
    simp only [Shape.located,hfr.located hl.realizes hEl hVl,hl.located hspl,hr.located hspr,
      hfl.located hrr hEr hVr,Tree.exprSpan,he₂,he,Expr.span,Located.curry]

theorem Curries.abs {t t₃ t₄ : Tree} {i p : Nat} {qs : List Nat} {sp : Span} {b b' : Shape}
    {E₃ V₃ : Nat → Prop}
    (ht : t.Realizes (.abs i (p :: qs) b)) (hlin : (Shape.abs i (p :: qs) b).Linear)
    (he₀ : t.expr i = .abs p b.root sp) (hsize : t₃.exprs.size = t.exprs.size + qs.length)
    (he : t₃.expr i = .abs p (b.wrap t.exprs.size qs).root sp)
    (hp : t₃.Named p) (hn : (t₃.ident p).next = none)
    (hw : t₃.Realizes (b.wrap t.exprs.size qs))
    (hft : Frame t t₃ E₃ V₃) (hbE : ∀ j ∈ b.exprs, ¬ E₃ j) (hbV : ∀ v ∈ b.params, ¬ V₃ v)
    (hsp : (∀ v ∈ p :: qs, t.Spanned v) → (t₃.ident p).span = (t₃.token (t₃.ident p).token).span ∧
      t₃.WrapSpans t.exprs.size qs)
    (hfb : Frame t₃ t₄ (· ∈ b.exprs) (· ∈ b.params)) (hb : Curries t₃ t₄ b b') :
    Curries t t₄ (.abs i (p :: qs) b) (.abs i [p] (b'.wrap t.exprs.size qs)) := by
  have hb₀ : t.Realizes b := by
    cases ht with
    | abs _ _ _ hb₀ => exact hb₀
  have hbt : b.term t₃ = b.term t := (hb₀.keep (hft.keeps hbE hbV)).2
  obtain ⟨hnd,hpnd⟩ := hlin
  rw [Shape.exprs,List.nodup_cons] at hnd
  rw [Shape.params,List.cons_append,List.nodup_cons,List.mem_append,not_or,List.nodup_append] at hpnd
  obtain ⟨⟨hpq,hpb⟩,hqs,-,hqb⟩ := hpnd
  have hlt := ht.exprs_lt
  simp only [Shape.exprs,List.mem_cons] at hlt
  have hi : i < t.exprs.size := hlt i (.inl rfl)
  -- the body's records are older than `t`, or younger than the new abstractions
  have hb' : ∀ j ∈ b'.exprs, j < t.exprs.size ∨ t.exprs.size + qs.length ≤ j := fun j hj =>
    (hb.exprs j hj).imp (fun h => hlt j (.inr h)) (hsize ▸ id)
  have hname : t₄.name = t.name := funext fun v => (hfb.name v).trans (hft.name v)
  have he₄ : t₄.expr i = .abs p (b'.wrap t.exprs.size qs).root sp := by
    rw [hfb.expr i (by omega) hnd.1,he,Shape.root_wrap_congr _ hb.root]
  refine ⟨.abs (Nat.lt_of_lt_of_le (Nat.lt_of_lt_of_le hi (by omega)) hfb.size) he₄
    (.last (hfb.named hp) ?_) ?_,⟨?_,?_⟩,⟨rfl,(Shape.curried_wrap _ _ _).2 hb.curried⟩,rfl,?_,?_,?_,
    fun hs => ?_⟩
  · rw [hfb.ident p hpb,hn]
  · refine hfb.rewrap hb.realizes hb.root hw (fun k _ hkb => ?_) fun v hv hvb => hqb v hv v hvb rfl
    have := hlt _ (.inr hkb)
    omega
  · rw [Shape.exprs,List.nodup_cons,Shape.mem_exprs_wrap]
    refine ⟨fun h => h.elim (fun h => by omega) fun h => (hb.exprs i h).elim hnd.1 fun h => by omega,
      Shape.nodup_exprs_wrap _ qs hb.linear.1 fun j hj h => ?_⟩
    rcases hb' j hj with h' | h' <;> omega
  · rw [Shape.params,Shape.params_wrap,List.singleton_append,List.nodup_cons,List.mem_append,
      List.nodup_append]
    exact ⟨not_or.2 ⟨hpq,fun h => hpb (hb.params p h)⟩,hqs,hb.linear.2,
      fun a ha c hc => hqb a ha c (hb.params c hc)⟩
  · simp only [Shape.term,Shape.term_wrap,hname,hb.term,hbt,Term.curry,List.map_cons,List.map_nil,
      List.foldr_cons]
  · intro j hj
    rw [Shape.exprs,List.mem_cons,Shape.mem_exprs_wrap] at hj
    rw [Shape.exprs,List.mem_cons]
    rcases hj with rfl | h | h
    · exact .inl (.inl rfl)
    · exact .inr h.1
    · exact (hb.exprs j h).imp .inr fun h => by omega
  · intro v hv
    rw [Shape.params,Shape.params_wrap,List.singleton_append] at hv
    rw [Shape.params,List.cons_append]
    simp only [List.mem_cons,List.mem_append] at hv ⊢
    exact hv.imp id fun h => h.imp id (hb.params v)
  · obtain ⟨hpsp,hws⟩ := hsp fun v hv => hs v (List.mem_append_left _ hv)
    -- the new abstractions are records of neither the body nor its chains
    have hws₄ : t₄.WrapSpans t.exprs.size qs := WrapSpans.frame hfb hws
      (fun k hk => ⟨by omega,fun hkb => by have := hlt _ (.inr hkb); omega⟩)
      fun v hv hvb => hqb v hv v hvb rfl
    have hp₄ : t₄.param p = (t.param p).shrink := by
      have hpsp₄ : (t₄.ident p).span = (t₄.token (t₄.ident p).token).span := by
        simp only [Tree.token,hfb.ident p hpb,hfb.tokens]
        exact hpsp
      rw [← (hft.trans hfb).param_shrink p]
      simp only [Tree.param,Param.shrink,hpsp₄]
    have hbs : ∀ v ∈ b.params, t₃.Spanned v := fun v hv =>
      hft.spanned (hbV v hv) (hs v (List.mem_append_right _ hv))
    simp only [Shape.located,located_wrap hws₄,hb.located hbs,hft.located hb₀ hbE hbV,Tree.exprSpan,
      he₄,he₀,Expr.span,List.map_cons,List.map_nil,hp₄,Located.curry,List.map_map,Function.comp_def,
      (hft.trans hfb).param_shrink]

/-- Currying an expression laid out in a linear shape changes no record outside the shape and,
unless an allocation fails, lays out the curried term in a curried linear shape at the same
root. -/
theorem expr_spec (sh : Shape) : ∀ {t : Tree} (fuel : Nat), t.Realizes sh → sh.Linear →
    sh.curryDepth ≤ fuel →
    Frame t (run (expr fuel sh.root) t).2 (· ∈ sh.exprs) (· ∈ sh.params) ∧
      ((run (expr fuel sh.root) t).2.failure = none →
        ∃ sh', Curries t (run (expr fuel sh.root) t).2 sh sh') := by
  induction sh with
  | ref i v =>
    intro t fuel ht hl hf
    obtain ⟨fuel, rfl⟩ : ∃ f, fuel = f + 1 := ⟨fuel - 1, by simp [Shape.curryDepth] at hf; omega⟩
    cases ht with
    | ref hi he hv =>
    rw [Shape.root_ref,expr_ref he]
    exact ⟨Frame.refl t _ _,fun _ => ⟨.ref i v,.ref hi he hv,hl,trivial,rfl,rfl,fun _ h => .inl h,
      fun _ h => h,fun _ => rfl⟩⟩
  | app i l r ihl ihr =>
    intro t fuel ht hl hf
    obtain ⟨fuel, rfl⟩ : ∃ f, fuel = f + 1 := ⟨fuel - 1, by simp [Shape.curryDepth] at hf; omega⟩
    simp only [Shape.curryDepth] at hf
    have ht' := ht
    cases ht' with
    | app _ he hlr hrr =>
    rw [Shape.root_app,expr_app he]
    obtain ⟨hfl,hsl⟩ := ihl fuel hlr hl.left (by omega)
    obtain ⟨hfr,hsr⟩ := ihr fuel (hrr.keep (hfl.keeps_right hl)).1 hl.right (by omega)
    refine ⟨(hfl.trans hfr).mono (fun _ h => List.mem_cons_of_mem _ (List.mem_append.2 h))
      (fun _ h => List.mem_append.2 h),fun hf => ?_⟩
    obtain ⟨l',hl'⟩ := hsl (hfr.sticky hf)
    obtain ⟨r',hr'⟩ := hsr hf
    exact ⟨_,Curries.app ht hl hfl hl' hfr hr'⟩
  | abs i ps b ih =>
    intro t fuel ht hl hf
    have ht' := ht
    cases ht' with
    | @abs _ p sp _ _ _ he hc hb =>
    obtain ⟨qs,rfl⟩ := hc.head
    simp only [Shape.curryDepth,List.length_cons] at hf
    obtain ⟨fuel, rfl⟩ : ∃ f, fuel = f + 1 := ⟨fuel - 1, by omega⟩
    have hmono : ∀ j, j ∈ b.exprs → j ∈ (Shape.abs i (p :: qs) b).exprs :=
      fun _ h => List.mem_cons_of_mem _ h
    rw [Shape.root_abs]
    cases hc with
    | last hp hn =>
      rw [expr_abs_last he hn]
      obtain ⟨hfb,hsb⟩ := ih fuel hb hl.body (by omega)
      refine ⟨hfb.mono hmono (fun _ h => List.mem_append_right _ h),fun hf => ?_⟩
      obtain ⟨b',hb'⟩ := hsb hf
      exact ⟨_,Curries.abs ht hl he rfl he hp hn hb (Frame.refl t (fun _ => False) (fun _ => False))
        (fun _ _ h => h) (fun _ _ h => h) (fun hs => ⟨(hs p (by simp)).2.2 hn,trivial⟩) hfb hb'⟩
    | @cons _ q _ hp hn hc =>
      rw [expr_abs_cons he hn]
      have hnd := hl.chain
      have hpq : p ∉ qs := (List.nodup_cons.1 hnd).1
      have hpb : ∀ v ∈ p :: qs, v ∉ b.params := fun v hv hvb =>
        (List.nodup_append.1 hl.2).2.2 v hv v hvb rfl
      obtain ⟨-,hdex,hdfr,hdn⟩ := detach_spec t p
      obtain ⟨hc₁,hb₁,-⟩ := detach_keeps hc hpq hb (hpb p (by simp))
      have hlen : qs.length ≤ (run (detach p) t).2.idents.size + 1 :=
        Nat.le_succ_of_le (length_le_of_nodup (List.nodup_cons.1 hnd).2
          fun v hv => (hc₁.named v hv).1)
      have hw := wrap_spec qs _ hc₁ (List.nodup_cons.1 hnd).2 hlen hb₁
        fun v hv => hpb v (by simp [hv])
      rcases hrw : run (wrap ((run (detach p) t).2.idents.size + 1) q b.root) (run (detach p) t).2
        with ⟨w,t₂⟩
      rw [hrw] at hw
      have hframe : Frame t t₂ (· ∈ (Shape.abs i (p :: qs) b).exprs)
          (· ∈ (Shape.abs i (p :: qs) b).params) :=
        (hdfr.trans hw.frame).mono (fun _ h => by simp at h)
          (fun _ h => List.mem_append_left _ (List.mem_cons.2 h))
      cases w with
      | none => exact ⟨hframe,fun hf => absurd (hw.root hf) (by simp)⟩
      | some a =>
        have hf₂ := hw.ok a rfl
        have ha : a = (b.wrap t.exprs.size qs).root := by simpa [hdex] using hw.root hf₂
        subst ha
        have hi : i < t.exprs.size := ht.root_lt
        -- record `i` is still the abstraction, so `setAbs` rewrites it
        have he₂ : t₂.expr i = .abs p b.root sp := by
          rw [(hdfr.trans hw.frame).expr i hi (fun h => by simp at h),he]
        obtain ⟨hsfr,hssize,hse⟩ := setAbs_spec t₂ he₂ p (b.wrap t.exprs.size qs).root
        have hib : i ∉ b.exprs := (List.nodup_cons.1 hl.1).1
        have hft₃ := (hdfr.trans hw.frame).trans hsfr
        -- the new abstractions and the body are not record `i`, which alone was changed
        have hw₃ := (hw.realizes hf₂).keep (hsfr.keeps (fun j hj h => by
          rw [hdex,Shape.mem_exprs_wrap] at hj
          rcases hj with hj | hj
          · omega
          · exact hib (h ▸ hj)) fun _ _ h => h)
        rw [hdex] at hw₃
        -- so far only record `i` and the chain's identifiers changed
        have hft₃' : Frame t (run (setAbs i p (b.wrap t.exprs.size qs).root) t₂).2 (· = i)
            (· ∈ p :: qs) :=
          hft₃.mono (fun _ h => h.elim (fun h => h.elim False.elim False.elim) id)
            fun _ h => h.elim (fun h => h.elim (fun h => h ▸ List.mem_cons_self)
              (List.mem_cons_of_mem _)) False.elim
        have hbE : ∀ j ∈ b.exprs, ¬ j = i := fun j hj h => hib (h ▸ hj)
        have hbV : ∀ v ∈ b.params, ¬ v ∈ p :: qs := fun v hv h => hpb v h hv
        have hb₃ := hb.keep (hft₃'.keeps hbE hbV)
        have hfe : fuel = fuel - qs.length + qs.length := by omega
        dsimp only
        rw [hfe,expr_wrap qs _ hw₃.1]
        obtain ⟨hfb,hsb⟩ := ih (fuel - qs.length) hb₃.1 hl.body (by omega)
        refine ⟨(hft₃.trans hfb).mono (fun j h => ?_) (fun v h => ?_),fun hf => ?_⟩
        · rcases h with ((h | h) | h) | h
          · exact h.elim
          · exact h.elim
          · exact List.mem_cons.2 (.inl h)
          · exact List.mem_cons_of_mem _ h
        · rcases h with ((h | h) | h) | h
          · exact List.mem_append_left _ (List.mem_cons.2 (.inl h))
          · exact List.mem_append_left _ (List.mem_cons_of_mem _ h)
          · exact h.elim
          · exact List.mem_append_right _ h
        obtain ⟨b',hb'⟩ := hsb hf
        have hn₃ : (((run (setAbs i p (b.wrap t.exprs.size qs).root) t₂).2).ident p).next = none := by
          rw [hsfr.ident p id,hw.frame.ident p hpq,hdn]
        have hsize : ((run (setAbs i p (b.wrap t.exprs.size qs).root) t₂).2).exprs.size =
            t.exprs.size + qs.length := by
          rw [hssize,hw.size hf₂,hdex]
        refine ⟨_,Curries.abs ht hl he hsize hse (hft₃.named hp) hn₃ hw₃.1 hft₃' hbE hbV
          (fun hs => ⟨?_,?_⟩) hfb hb'⟩
        -- the first parameter was cut from its chain, the others wrapped
        · have hwf : Frame (run (detach p) t).2 t₂ (fun _ => False) (· ∈ qs) := hw.frame
          simp only [Tree.token,hsfr.ident p id,hwf.ident p hpq,hsfr.tokens,hwf.tokens,hdfr.tokens,
            hdfr.token,detach_span t hn]
        · have hws := hw.spans hf₂ fun v hv =>
            hdfr.spanned (fun h => hpq (h ▸ hv)) (hs v (List.mem_cons_of_mem _ hv))
          rw [hdex] at hws
          exact WrapSpans.frame hsfr hws (fun k hk => ⟨by rw [hw.size hf₂,hdex]; omega,by omega⟩)
            fun _ _ h => h

theorem Curries.keep {t t₁ t₂ : Tree} {sh sh' : Shape} {E V : Nat → Prop} (h : Curries t t₁ sh sh')
    (hf : Frame t₁ t₂ E V) (hE : ∀ i ∈ sh'.exprs, ¬ E i) (hV : ∀ v ∈ sh'.params, ¬ V v) :
    Curries t t₂ sh sh' :=
  have hk := h.realizes.keep (hf.keeps hE hV)
  { h with
    realizes := hk.1
    term := hk.2.trans h.term
    located := fun hs => (hf.located h.realizes hE hV).trans (h.located hs) }

theorem Curries.since {t t₁ t₂ : Tree} {sh sh' : Shape} (h : Curries t₁ t₂ sh sh')
    (hsize : t.exprs.size ≤ t₁.exprs.size) (hterm : sh.term t₁ = sh.term t)
    (hloc : sh.located t₁ = sh.located t) (hsp : ∀ v ∈ sh.params, t.Spanned v → t₁.Spanned v) :
    Curries t t₂ sh sh' :=
  { h with
    term := h.term.trans (by rw [hterm])
    exprs := fun i hi => (h.exprs i hi).imp id (Nat.le_trans hsize)
    located := fun hs => (h.located fun v hv => hsp v hv (hs v hv)).trans (by rw [hloc]) }

theorem stmts_cons (j : Nat) (L : List Nat) (t : Tree) :
    run (stmts (j :: L)) t =
      if (run (expr (t.exprs.size + t.idents.size + 1) (t.stmt j).expr) t).2.failure.isNone then
        run (stmts L) (run (expr (t.exprs.size + t.idents.size + 1) (t.stmt j).expr) t).2
      else ((), (run (expr (t.exprs.size + t.idents.size + 1) (t.stmt j).expr) t).2) := by
  simp only [stmts,run_bind,run_get]
  split <;> simp_all

/-- Currying the statements `L` in order changes only records of their shapes and, unless an
allocation fails, leaves each statement's shape curried. -/
theorem stmts_spec : ∀ (L : List Nat) {t : Tree} {shape : Nat → Shape}, t.LaidOut L shape →
    Frame t (run (stmts L) t).2 (· ∈ L.flatMap fun j => (shape j).exprs)
      (· ∈ L.flatMap fun j => (shape j).params) ∧
    ((run (stmts L) t).2.failure = none → ∀ j ∈ L, ∃ sh', Curries t (run (stmts L) t).2 (shape j) sh')
  | [], t, _, _ => ⟨Frame.refl t _ _,fun _ _ hj => nomatch hj⟩
  | j :: L, t, shape, h => by
    have hj : j ∈ j :: L := List.mem_cons_self
    have hfuel : (shape j).curryDepth ≤ t.exprs.size + t.idents.size + 1 :=
      Nat.le_succ_of_le ((h.realizes j hj).curryDepth_le h.linear)
    obtain ⟨hf₁,hs₁⟩ := expr_spec (shape j) _ (h.realizes j hj) h.linear hfuel
    rw [h.root j hj] at hf₁ hs₁
    obtain ⟨hlt,hterm⟩ := h.tail hf₁
    have hE := List.nodup_append.1 (List.flatMap_cons ▸ h.exprs)
    have hV := List.nodup_append.1 (List.flatMap_cons ▸ h.params)
    have hmono : ∀ (f : Nat → List Nat) (i : Nat), i ∈ f j ∨ i ∈ L.flatMap f → i ∈ (j :: L).flatMap f :=
      fun f i h => by rw [List.flatMap_cons,List.mem_append]; exact h
    rw [stmts_cons]
    split
    case isTrue hok =>
      obtain ⟨hf₂,hs₂⟩ := stmts_spec L hlt
      refine ⟨(hf₁.trans hf₂).mono (hmono fun k => (shape k).exprs) (hmono fun k => (shape k).params),
        fun hf k hk => ?_⟩
      rcases List.mem_cons.1 hk with rfl | hk
      · obtain ⟨sh',hsh'⟩ := hs₁ (hf₂.sticky hf)
        -- the records of the curried first shape are its own or new: no later statement's
        refine ⟨sh',hsh'.keep hf₂ (fun i hi hiL => ?_) fun v hv hvL => ?_⟩
        · obtain ⟨k,hk,hik⟩ := List.mem_flatMap.1 hiL
          rcases hsh'.exprs i hi with h' | h'
          · exact hE.2.2 i h' i hiL rfl
          · have := (h.realizes k (List.mem_cons_of_mem _ hk)).exprs_lt i hik
            omega
        · exact hV.2.2 v (hsh'.params v hv) v hvL rfl
      · obtain ⟨sh',hsh'⟩ := hs₂ hf k hk
        obtain ⟨hkE,hkV⟩ := h.disjoint hk
        exact ⟨sh',hsh'.since hf₁.size (hterm k hk)
          (hf₁.located (h.realizes k (List.mem_cons_of_mem _ hk)) hkE hkV)
          fun v hv => hf₁.spanned (hkV v hv)⟩
    case isFalse hfail =>
      refine ⟨hf₁.mono (fun i h => hmono (fun k => (shape k).exprs) i (.inl h))
        (fun v h => hmono (fun k => (shape k).params) v (.inl h)),fun hf => ?_⟩
      exact absurd (Option.isNone_iff_eq_none.2 hf) hfail

end Curry

namespace Tree

/-- Currying a program whose statements lay out their expressions in disjoint shapes: only
records of those shapes change, so statements, programs and names are kept; and unless an
allocation fails, each statement holds the curried term of what it held, laid out in a
curried linear shape at its root. -/
theorem curry_spec {t : Tree} {p : Nat} {shape : Nat → Shape}
    (h : t.LaidOut (t.programStmts p) shape) :
    Frame t (t.curry p) (· ∈ (t.programStmts p).flatMap fun j => (shape j).exprs)
      (· ∈ (t.programStmts p).flatMap fun j => (shape j).params) ∧
    ((t.curry p).failure = none → ∀ j ∈ t.programStmts p, ∃ sh, (t.curry p).Realizes sh ∧
      sh.root = (t.stmt j).expr ∧ sh.Linear ∧ sh.Curried ∧
      sh.term (t.curry p) = (t.term (t.stmt j).expr).curry) := by
  rw [show t.curry p = (run (Curry.stmts (t.programStmts p)) t).2 from rfl]
  obtain ⟨hf,hs⟩ := Curry.stmts_spec _ h
  refine ⟨hf,fun hok j hj => ?_⟩
  obtain ⟨sh,hsh⟩ := hs hok j hj
  refine ⟨sh,hsh.realizes,hsh.root.trans (h.root j hj),hsh.linear,hsh.curried,?_⟩
  rw [hsh.term,← h.root j hj,term_eq (h.realizes j hj) (h.linear_of_mem j hj)]

/-- Currying a program laid out as above in a tree whose identifiers are as the parser leaves
them: unless an allocation fails, each statement holds the curried located term of what it
held. -/
theorem curry_located {t : Tree} {p : Nat} {shape : Nat → Shape}
    (h : t.LaidOut (t.programStmts p) shape) (hspans : t.SpansTokens)
    (hok : (t.curry p).failure = none) :
    ∀ j ∈ t.programStmts p,
      (t.curry p).located (t.stmt j).expr = (t.located (t.stmt j).expr).curry := by
  rw [show t.curry p = (run (Curry.stmts (t.programStmts p)) t).2 from rfl] at hok ⊢
  obtain ⟨-,hs⟩ := Curry.stmts_spec _ h
  intro j hj
  obtain ⟨sh,hsh⟩ := hs hok j hj
  have hspj : ∀ v ∈ (shape j).params, t.Spanned v := fun v hv =>
    hspans v ((h.realizes j hj).params_named v hv).1
  have hl := located_eq hsh.realizes hsh.linear
  have hr := located_eq (h.realizes j hj) (h.linear_of_mem j hj)
  rw [hsh.root,h.root j hj] at hl
  rw [h.root j hj] at hr
  rw [hl,hsh.located hspj,hr]

end Tree

end Combinatory
