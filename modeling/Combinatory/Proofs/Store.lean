import Combinatory.Proofs.Bracket
import Combinatory.Combinator.Store

/-! What the nodes of a combinator store hold (`Store.Reads`). Each operation that builds a
node is specified once (`newNode_spec`, `sComb_spec`, `app_spec`, ...): the store only grows and
the result holds the expected term unless an allocation failed. -/
namespace Combinatory

namespace Store

/-- Node `n` holds term `c`; the operands of an application and the target of a reference
are older nodes. -/
inductive Reads (st : Store) : Nat → Comb → Prop
  | s {n : Nat} : n < st.nodes.size → st.node n = .s → st.Reads n .s
  | k {n : Nat} : n < st.nodes.size → st.node n = .k → st.Reads n .k
  | app {n l r : Nat} {a b : Comb} : n < st.nodes.size → st.node n = .app l r → l < n → r < n →
      st.Reads l a → st.Reads r b → st.Reads n (.app a b)
  | ref {n t j : Nat} : n < st.nodes.size → st.node n = .ref t j → t < n → st.Reads n (.ref t j)
  | free {n v : Nat} : n < st.nodes.size → st.node n = .free v → st.Reads n (.free (st.tree.name v))

/-- The term at node `n`, following at most `fuel` nodes. -/
def combAux (st : Store) : Nat → Nat → Comb
  | 0, _ => .free ""
  | fuel + 1, n =>
    match st.node n with
    | .s => .s
    | .k => .k
    | .app l r => .app (st.combAux fuel l) (st.combAux fuel r)
    | .ref t j => .ref t j
    | .free v => .free (st.tree.name v)

/-- The term at node `n`. -/
def comb (st : Store) (n : Nat) : Comb := st.combAux (st.nodes.size + 1) n

/-- The shared `S` and `K`, once made, are nodes holding `S` and `K`. -/
structure Valid (st : Store) : Prop where
  s : ∀ i, st.sNode = some i → st.Reads i .s
  k : ∀ i, st.kNode = some i → st.Reads i .k

/-- `st'` adds nodes to `st`, keeps the records, the failure and the complaint of its tree,
and has failed if `st` had. -/
structure Grows (st st' : Store) : Prop where
  nodes : ∃ ext, st'.nodes = st.nodes ++ ext
  tokens : st'.tree.tokens = st.tree.tokens
  idents : st'.tree.idents = st.tree.idents
  exprs : st'.tree.exprs = st.tree.exprs
  stmts : st'.tree.stmts = st.tree.stmts
  sticky : st'.failure = none → st.failure = none
  treeFailure : st'.tree.failure = st.tree.failure
  crash : st'.tree.crash = st.tree.crash

theorem Grows.refl (st : Store) : Grows st st :=
  ⟨⟨#[],by simp⟩,rfl,rfl,rfl,rfl,id,rfl,rfl⟩

theorem Grows.trans {st₁ st₂ st₃ : Store} (h₁ : Grows st₁ st₂) (h₂ : Grows st₂ st₃) :
    Grows st₁ st₃ := by
  obtain ⟨⟨a,ha⟩,ht₁,hi₁,he₁,hs₁,hf₁,hx₁,hc₁⟩ := h₁
  obtain ⟨⟨b,hb⟩,ht₂,hi₂,he₂,hs₂,hf₂,hx₂,hc₂⟩ := h₂
  exact ⟨⟨a ++ b,by simp [hb,ha]⟩,ht₂.trans ht₁,hi₂.trans hi₁,he₂.trans he₁,hs₂.trans hs₁,hf₁ ∘ hf₂,
    hx₂.trans hx₁,hc₂.trans hc₁⟩

theorem Grows.name {st st' : Store} (h : Grows st st') : st'.tree.name = st.tree.name := by
  funext v
  simp [Tree.name,Tree.token,Tree.ident,h.tokens,h.idents]

theorem Reads.lt {st : Store} {n : Nat} {c : Comb} (h : st.Reads n c) : n < st.nodes.size := by
  cases h <;> assumption

theorem Grows.node {st st' : Store} (h : Grows st st') {n : Nat} (hn : n < st.nodes.size) :
    st'.node n = st.node n := by
  obtain ⟨ext,he⟩ := h.nodes
  simp only [Store.node,he,Array.getElem?_append_left hn]

theorem Grows.size_le {st st' : Store} (h : Grows st st') : st.nodes.size ≤ st'.nodes.size := by
  obtain ⟨ext,he⟩ := h.nodes
  simp [he]

/-- A store that grows keeps every term it held. -/
theorem Reads.grow {st st' : Store} {n : Nat} {c : Comb} (h : st.Reads n c) (hg : Grows st st') :
    st'.Reads n c := by
  induction h with
  | s hn he => exact .s (Nat.lt_of_lt_of_le hn hg.size_le) ((hg.node hn).trans he)
  | k hn he => exact .k (Nat.lt_of_lt_of_le hn hg.size_le) ((hg.node hn).trans he)
  | app hn he hl hr _ _ ihl ihr =>
    exact .app (Nat.lt_of_lt_of_le hn hg.size_le) ((hg.node hn).trans he) hl hr ihl ihr
  | ref hn he ht => exact .ref (Nat.lt_of_lt_of_le hn hg.size_le) ((hg.node hn).trans he) ht
  | free hn he =>
    rw [← hg.name]
    exact .free (Nat.lt_of_lt_of_le hn hg.size_le) ((hg.node hn).trans he)

/-- What a node holds depends only on the nodes and on the names of the tree. -/
theorem Reads.congr {st st' : Store} (hn : st'.nodes = st.nodes)
    (hname : st'.tree.name = st.tree.name) {n : Nat} {c : Comb} (h : st.Reads n c) :
    st'.Reads n c := by
  have hnode : ∀ i, st'.node i = st.node i := fun i => by simp [Store.node,hn]
  induction h with
  | s hi he => exact .s (hn ▸ hi) ((hnode _).trans he)
  | k hi he => exact .k (hn ▸ hi) ((hnode _).trans he)
  | app hi he hl hr _ _ ihl ihr => exact .app (hn ▸ hi) ((hnode _).trans he) hl hr ihl ihr
  | ref hi he ht => exact .ref (hn ▸ hi) ((hnode _).trans he) ht
  | free hi he =>
    rw [← hname]
    exact .free (hn ▸ hi) ((hnode _).trans he)

theorem Valid.congr {st st' : Store} (h : st.Valid) (hn : st'.nodes = st.nodes)
    (hname : st'.tree.name = st.tree.name) (hs : st'.sNode = st.sNode)
    (hk : st'.kNode = st.kNode) : st'.Valid :=
  ⟨fun i hi => (h.s i (hs ▸ hi)).congr hn hname,fun i hi => (h.k i (hk ▸ hi)).congr hn hname⟩

theorem Valid.grow {st st' : Store} (h : st.Valid) (hg : Grows st st') (hs : st'.sNode = st.sNode)
    (hk : st'.kNode = st.kNode) : st'.Valid :=
  ⟨fun i hi => (h.s i (hs ▸ hi)).grow hg,fun i hi => (h.k i (hk ▸ hi)).grow hg⟩

/-- What a run of a store operation from `st` promises: the store grows and stays valid, and
when no allocation failed the result is a node holding `c`. -/
def Builds (st : Store) (r : Option Nat) (st' : Store) (c : Comb) : Prop :=
  Grows st st' ∧ st'.Valid ∧ (st'.failure = none → ∃ n, r = some n ∧ st'.Reads n c)

theorem builds_of_failure {st : Store} (hv : st.Valid) (hf : st.failure.isSome) (c : Comb) :
    Builds st none st c :=
  ⟨Grows.refl st,hv,fun h => by simp [h] at hf⟩

theorem Builds.of_reads {st : Store} {n : Nat} {c : Comb} (hv : st.Valid) (h : st.Reads n c) :
    Builds st (some n) st c :=
  ⟨Grows.refl st,hv,fun _ => ⟨n,rfl,h⟩⟩

/-- A term built earlier is still held by a later store. -/
theorem Builds.later {st st₁ st₂ : Store} {r : Option Nat} {c : Comb} (h : Builds st r st₁ c)
    (hg : Grows st₁ st₂) (hv : st₂.Valid) : Builds st₂ r st₂ c := by
  refine ⟨Grows.refl st₂,hv,fun hf => ?_⟩
  obtain ⟨n,hn,hr⟩ := h.2.2 (hg.sticky hf)
  exact ⟨n,hn,hr.grow hg⟩

theorem Builds.of_grows {st st₁ st₂ : Store} {r : Option Nat} {c : Comb} (hg : Grows st st₁)
    (h : Builds st₁ r st₂ c) : Builds st r st₂ c :=
  ⟨hg.trans h.1,h.2⟩

/-! ### The walks read the term a node holds -/

theorem containsFreeAux_of_reads {st : Store} {n : Nat} {c : Comb} (h : st.Reads n c) (x : String) :
    ∀ fuel, n < fuel → st.containsFreeAux x fuel n = c.hasFree x := by
  induction h with
  | s _ he | k _ he | ref _ he =>
    intro fuel hf
    obtain ⟨fuel, rfl⟩ : ∃ f, fuel = f + 1 := ⟨fuel - 1, by omega⟩
    simp [containsFreeAux,he,Comb.hasFree]
  | free _ he =>
    intro fuel hf
    obtain ⟨fuel, rfl⟩ : ∃ f, fuel = f + 1 := ⟨fuel - 1, by omega⟩
    simp [containsFreeAux,he,Comb.hasFree]
  | app _ he hl hr _ _ ihl ihr =>
    intro fuel hf
    obtain ⟨fuel, rfl⟩ : ∃ f, fuel = f + 1 := ⟨fuel - 1, by omega⟩
    simp only [containsFreeAux,he,Comb.hasFree,ihl fuel (by omega),ihr fuel (by omega)]

theorem containsFree_of_reads {st : Store} {n : Nat} {c : Comb} (h : st.Reads n c) (x : String) :
    st.containsFree n x = c.hasFree x :=
  containsFreeAux_of_reads h x _ (Nat.lt_succ_of_lt h.lt)

theorem refsAux_of_reads {st : Store} {n : Nat} {c : Comb} (h : st.Reads n c) :
    ∀ fuel, n < fuel → st.refsAux fuel n = c.refs := by
  induction h with
  | s _ he | k _ he | ref _ he | free _ he =>
    intro fuel hf
    obtain ⟨fuel, rfl⟩ : ∃ f, fuel = f + 1 := ⟨fuel - 1, by omega⟩
    simp [refsAux,he,Comb.refs]
  | app _ he hl hr _ _ ihl ihr =>
    intro fuel hf
    obtain ⟨fuel, rfl⟩ : ∃ f, fuel = f + 1 := ⟨fuel - 1, by omega⟩
    simp only [refsAux,he,Comb.refs,ihl fuel (by omega),ihr fuel (by omega)]

theorem refs_of_reads {st : Store} {n : Nat} {c : Comb} (h : st.Reads n c) : st.refs n = c.refs :=
  refsAux_of_reads h _ (Nat.lt_succ_of_lt h.lt)

theorem combAux_of_reads {st : Store} {n : Nat} {c : Comb} (h : st.Reads n c) :
    ∀ fuel, n < fuel → st.combAux fuel n = c := by
  induction h with
  | s _ he | k _ he | ref _ he | free _ he =>
    intro fuel hf
    obtain ⟨fuel, rfl⟩ : ∃ f, fuel = f + 1 := ⟨fuel - 1, by omega⟩
    simp [combAux,he]
  | app _ he hl hr _ _ ihl ihr =>
    intro fuel hf
    obtain ⟨fuel, rfl⟩ : ∃ f, fuel = f + 1 := ⟨fuel - 1, by omega⟩
    simp only [combAux,he,ihl fuel (by omega),ihr fuel (by omega)]

theorem comb_of_reads {st : Store} {n : Nat} {c : Comb} (h : st.Reads n c) : st.comb n = c :=
  combAux_of_reads h _ (Nat.lt_succ_of_lt h.lt)

/-- The walk over reference nodes reads the references of the term the walk over nodes reads. -/
theorem linksAux_eq (st : Store) : ∀ fuel n, st.linksAux fuel n = (st.combAux fuel n).links
  | 0, _ => rfl
  | fuel + 1, n => by
    cases h : st.node n <;> simp [linksAux,combAux,h,Comb.links,linksAux_eq st fuel]

theorem links_of_reads {st : Store} {n : Nat} {c : Comb} (h : st.Reads n c) :
    st.links n = c.links := by
  rw [links,linksAux_eq,← comb,comb_of_reads h]

/-- A node that holds a term holds only that one. -/
theorem Reads.unique {st : Store} {n : Nat} {c c' : Comb} (h : st.Reads n c) (h' : st.Reads n c') :
    c = c' :=
  (comb_of_reads h).symm.trans (comb_of_reads h')

/-! ### The operations that build nodes -/

/-- `newNode n` grows the store, leaves the shared nodes alone, and either fails or pushes
`n` and returns its index. -/
theorem newNode_spec (n : Node) (st : Store) :
    Grows st ((newNode n).run st).2 ∧ ((newNode n).run st).2.sNode = st.sNode ∧
      ((newNode n).run st).2.kNode = st.kNode ∧
      (∀ i, ((newNode n).run st).1 = some i →
        i = st.nodes.size ∧ ((newNode n).run st).2.nodes = st.nodes.push n) ∧
      (((newNode n).run st).2.failure = none → ((newNode n).run st).1.isSome) := by
  cases hf : st.failure.isSome
  · cases ha : st.tree.arena.alloc nodeSize.toUInt64 with
    | ok p =>
      have : (newNode n).run st =
          (some st.nodes.size,
            { st with tree := { st.tree with arena := p.1 }, nodes := st.nodes.push n }) := by
        simp [newNode,hf,ha]; rfl
      rw [this]
      refine ⟨⟨⟨#[n],by simp⟩,rfl,rfl,rfl,rfl,fun _ => by simpa using hf,rfl,rfl⟩,rfl,rfl,?_,
        fun _ => rfl⟩
      intro i hi
      exact ⟨(Option.some.inj hi).symm,rfl⟩
    | error e =>
      have : (newNode n).run st = (none, { st with failure := some e }) := by
        simp [newNode,hf,ha]; rfl
      rw [this]
      exact ⟨⟨⟨#[],by simp⟩,rfl,rfl,rfl,rfl,fun h => by simp at h,rfl,rfl⟩,rfl,rfl,fun _ h => by simp at h,
        fun h => by simp at h⟩
  · have : (newNode n).run st = (none, st) := by simp [newNode,hf]; rfl
    rw [this]
    refine ⟨Grows.refl st,rfl,rfl,fun _ h => by simp at h,fun h => ?_⟩
    rw [show st.failure = none from h] at hf
    cases hf

theorem node_push_self {st st' : Store} {n : Node} (h : st'.nodes = st.nodes.push n) :
    st'.node st.nodes.size = n ∧ st.nodes.size < st'.nodes.size := by
  simp [Store.node,h]

/-- A new node holds `c` when its kind and operands are those of `c`. -/
theorem newNode_builds {st : Store} (hv : st.Valid) (n : Node) (c : Comb)
    (hc : ∀ st' : Store, Grows st st' → st'.nodes = st.nodes.push n → st'.Reads st.nodes.size c) :
    Builds st ((newNode n).run st).1 ((newNode n).run st).2 c := by
  obtain ⟨hg,hs,hk,hsome,hok⟩ := newNode_spec n st
  refine ⟨hg,hv.grow hg hs hk,fun hf => ?_⟩
  obtain ⟨i,hi⟩ := Option.isSome_iff_exists.1 (hok hf)
  obtain ⟨rfl,h⟩ := hsome i hi
  exact ⟨_,hi,hc _ hg h⟩

theorem ref_spec {st : Store} (hv : st.Valid) {t : Nat} (ht : t < st.nodes.size) (j : Nat) :
    Builds st ((ref (some t) j).run st).1 ((ref (some t) j).run st).2 (.ref t j) := by
  cases hf : st.failure.isSome
  · have hrun : (ref (some t) j).run st = (newNode (.ref t j)).run st := by simp [ref,hf]
    rw [hrun]
    exact newNode_builds hv _ _ fun _ _ h => .ref (node_push_self h).2 (node_push_self h).1 ht
  · have hrun : (ref (some t) j).run st = (none, st) := by simp [ref,hf]; rfl
    rw [hrun]
    exact builds_of_failure hv (by simp [hf]) _

theorem freeLeaf_spec {st : Store} (hv : st.Valid) (v : Nat) :
    Builds st ((freeLeaf v).run st).1 ((freeLeaf v).run st).2 (.free (st.tree.name v)) :=
  newNode_builds hv _ _ fun _ hg h => by
    rw [← hg.name]
    exact .free (node_push_self h).2 (node_push_self h).1

/-- Building on a result that did not come keeps the failure that stopped it. -/
theorem app_of_failure (l r : Option Nat) {st : Store} (hf : st.failure.isSome) :
    (app l r).run st = (none, st) := by
  simp [app,hf]; rfl

/-- An application of two terms built one after the other holds their application. -/
theorem app_spec {st st₁ st₂ : Store} {r₁ r₂ : Option Nat} {a b : Comb}
    (h₁ : Builds st r₁ st₁ a) (h₂ : Builds st₁ r₂ st₂ b) :
    Builds st ((app r₁ r₂).run st₂).1 ((app r₁ r₂).run st₂).2 (.app a b) := by
  cases hf : st₂.failure with
  | some e =>
    rw [app_of_failure r₁ r₂ (by simp [hf])]
    exact ⟨h₁.1.trans h₂.1,h₂.2.1,fun h => by simp [hf] at h⟩
  | none =>
    obtain ⟨l,rfl,hl⟩ := h₁.2.2 (h₂.1.sticky hf)
    obtain ⟨r,rfl,hr⟩ := h₂.2.2 hf
    have hrun : (app (some l) (some r)).run st₂ = (newNode (.app l r)).run st₂ := by
      simp [app,hf]
    have hl' := hl.grow h₂.1
    have h := newNode_builds h₂.2.1 (.app l r) (.app a b) fun _ hg h =>
      .app (node_push_self h).2 (node_push_self h).1 hl'.lt hr.lt (hl'.grow hg) (hr.grow hg)
    rw [hrun]
    exact ⟨h₁.1.trans (h₂.1.trans h.1),h.2⟩

/-- Recording a shared combinator changes no node. -/
theorem grows_shared (st : Store) (s k : Option Nat) :
    Grows st { st with sNode := s, kNode := k } :=
  ⟨⟨#[],by simp⟩,rfl,rfl,rfl,rfl,id,rfl,rfl⟩

theorem sComb_spec {st : Store} (hv : st.Valid) :
    Builds st (sComb.run st).1 (sComb.run st).2 .s ∧ (sComb.run st).2.kNode = st.kNode := by
  cases hs : st.sNode with
  | some i =>
    have : sComb.run st = (some i, st) := by simp [sComb,hs]; rfl
    rw [this]
    exact ⟨Builds.of_reads hv (hv.s i hs),rfl⟩
  | none =>
    have hrun : sComb.run st = (((newNode .s).run st).1,
        { ((newNode .s).run st).2 with sNode := ((newNode .s).run st).1 }) := by
      simp [sComb,hs]; rfl
    obtain ⟨hg,-,hk,hsome,hok⟩ := newNode_spec .s st
    rw [hrun]
    generalize (newNode .s).run st = p at hg hk hsome hok
    obtain ⟨r,st'⟩ := p
    have hgs := grows_shared st' r st'.kNode
    have hreads : ∀ i, r = some i → { st' with sNode := r }.Reads i .s := fun i hi => by
      obtain ⟨rfl,h⟩ := hsome i hi
      exact (Reads.s (node_push_self h).2 (node_push_self h).1).grow hgs
    refine ⟨⟨hg.trans hgs,⟨hreads,fun i hi => (hv.k i (hk.symm.trans hi)).grow (hg.trans hgs)⟩,
      fun hf => ?_⟩,hk⟩
    obtain ⟨i,hi⟩ := Option.isSome_iff_exists.1 (hok hf)
    exact ⟨i,hi,hreads i hi⟩

theorem kComb_spec {st : Store} (hv : st.Valid) :
    Builds st (kComb.run st).1 (kComb.run st).2 .k ∧ (kComb.run st).2.sNode = st.sNode := by
  cases hk : st.kNode with
  | some i =>
    have : kComb.run st = (some i, st) := by simp [kComb,hk]; rfl
    rw [this]
    exact ⟨Builds.of_reads hv (hv.k i hk),rfl⟩
  | none =>
    have hrun : kComb.run st = (((newNode .k).run st).1,
        { ((newNode .k).run st).2 with kNode := ((newNode .k).run st).1 }) := by
      simp [kComb,hk]; rfl
    obtain ⟨hg,hs,-,hsome,hok⟩ := newNode_spec .k st
    rw [hrun]
    generalize (newNode .k).run st = p at hg hs hsome hok
    obtain ⟨r,st'⟩ := p
    have hgs := grows_shared st' st'.sNode r
    have hreads : ∀ i, r = some i → { st' with kNode := r }.Reads i .k := fun i hi => by
      obtain ⟨rfl,h⟩ := hsome i hi
      exact (Reads.k (node_push_self h).2 (node_push_self h).1).grow hgs
    refine ⟨⟨hg.trans hgs,⟨fun i hi => (hv.s i (hs.symm.trans hi)).grow (hg.trans hgs),hreads⟩,
      fun hf => ?_⟩,hs⟩
    obtain ⟨i,hi⟩ := Option.isSome_iff_exists.1 (hok hf)
    exact ⟨i,hi,hreads i hi⟩

/-- `identity` builds `S K K`. -/
theorem identity_spec {st : Store} (hv : st.Valid) :
    Builds st (identity.run st).1 (identity.run st).2 Comb.I := by
  -- the run of the `do` block is the four runs one after the other, by definition
  have h₁ := (sComb_spec hv).1
  have h₂ := (kComb_spec h₁.2.1).1
  have h₃ := app_spec h₁ h₂
  exact app_spec h₃ (kComb_spec h₃.2.1).1

end Store

end Combinatory
