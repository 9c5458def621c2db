import Combinatory.Proofs.Store
import Combinatory.Proofs.Framing
import Mathlib.Data.List.Nodup

/-! Building the artifact of a forest. The artifact holds one entry for each node below a root
(`Store.Under`), operands and targets before their users (`Table`); `emit` and the roots loop
keep that (`emit_spec`, `emitRoots_spec`), so the artifact of a `Forest` is built
(`toArtifact_eq`). -/

namespace Combinatory

namespace Store

variable {st : Store}

/-- Node `m` lies below node `n`: it is `n`, or lies below an operand of the application at
`n`. References are not followed. -/
inductive Under (st : Store) : Nat → Nat → Prop
  | refl (n : Nat) : st.Under n n
  | left {n l r m : Nat} : st.node n = .app l r → st.Under l m → st.Under n m
  | right {n l r m : Nat} : st.node n = .app l r → st.Under r m → st.Under n m

/-- What lies below an application: the node itself, and what lies below either operand. -/
theorem under_app_iff {n l r m : Nat} (hn : st.node n = .app l r) :
    st.Under n m ↔ m = n ∨ st.Under l m ∨ st.Under r m := by
  constructor
  · intro h
    cases h with
    | refl => exact .inl rfl
    | left hn' h' =>
      rw [hn] at hn'
      cases hn'
      exact .inr (.inl h')
    | right hn' h' =>
      rw [hn] at hn'
      cases hn'
      exact .inr (.inr h')
  · rintro (rfl | h | h)
    · exact .refl _
    · exact .left hn h
    · exact .right hn h

/-- Below a node that is no application lies only the node itself. -/
theorem under_of_not_app {n m : Nat} (h : ∀ l r, st.node n ≠ .app l r) :
    st.Under n m ↔ m = n := by
  constructor
  · intro hu
    cases hu with
    | refl => rfl
    | left he _ | right he _ => exact absurd he (h _ _)
  · rintro rfl
    exact .refl _

/-- Below a node holding a term lie older nodes holding its subterms, with fewer links. -/
theorem Reads.under {n : Nat} {c : Comb} (h : st.Reads n c) {m : Nat} (hm : st.Under n m) :
    m ≤ n ∧ ∃ c', st.Reads m c' ∧ c'.links ⊆ c.links := by
  induction hm generalizing c with
  | refl => exact ⟨Nat.le_refl _, c, h, List.Subset.refl _⟩
  | left hn _ ih =>
    cases h with
    | app _ he hl _ hra _ =>
      rw [hn] at he
      cases he
      obtain ⟨hle, c', hc', hsub⟩ := ih hra
      exact ⟨by omega, c', hc', fun q hq => by simp [Comb.links, hsub hq]⟩
    | s _ he | k _ he | ref _ he | free _ he => rw [hn] at he; cases he
  | right hn _ ih =>
    cases h with
    | app _ he _ hr _ hrb =>
      rw [hn] at he
      cases he
      obtain ⟨hle, c', hc', hsub⟩ := ih hrb
      exact ⟨by omega, c', hc', fun q hq => by simp [Comb.links, hsub hq]⟩
    | s _ he | k _ he | ref _ he | free _ he => rw [hn] at he; cases he

/-- A reference below a node holding a term is one of the term's links. -/
theorem Reads.link_of_under {n : Nat} {c : Comb} (h : st.Reads n c) {m t j : Nat}
    (hm : st.Under n m) (hr : st.node m = .ref t j) : (t, j) ∈ c.links := by
  obtain ⟨-, c', hc', hsub⟩ := h.under hm
  cases hc' with
  | ref _ he => rw [hr] at he; cases he; exact hsub (by simp [Comb.links])
  | s _ he | k _ he | app _ he | free _ he => rw [hr] at he; cases he

/-- The artifact entry of node `n`, given the entry index `ix` of each node and the root index
`ri` of each statement. -/
def entry (st : Store) (ix ri : Nat → Nat) (n : Nat) : ArtNode :=
  match st.node n with
  | .s => ⟨1, 0, 0, []⟩
  | .k => ⟨2, 0, 0, []⟩
  | .app l r => ⟨3, ix l, ix r, []⟩
  | .ref t j => ⟨4, ix t, ri j, []⟩
  | .free v => ⟨5, 0, 0, (st.tree.name v).toUTF8.toList⟩

/-- Entries of kind 1 and 2 are the `S` and `K` nodes. -/
theorem entry_kind {ix ri : Nat → Nat} {n : Nat} :
    ((st.entry ix ri n).kind = 1 → st.node n = .s) ∧
      ((st.entry ix ri n).kind = 2 → st.node n = .k) := by
  unfold entry
  split <;> simp_all

/-- An entry reads the indices of the operands or target only. -/
theorem entry_congr {ix ix' : Nat → Nat} (ri : Nat → Nat) {n : Nat}
    (happ : ∀ l r, st.node n = .app l r → ix' l = ix l ∧ ix' r = ix r)
    (href : ∀ t j, st.node n = .ref t j → ix' t = ix t) :
    st.entry ix' ri n = st.entry ix ri n := by
  unfold entry
  split
  · rfl
  · rfl
  · rename_i l r he
    rw [(happ l r he).1, (happ l r he).2]
  · rename_i t j he
    rw [href t j he]
  · rfl

/-- Roots over a store as the converter leaves them: distinct statements, each root holding a
term whose references point at earlier roots, and each root bound to its statement's name. -/
structure Forest (st : Store) (roots : List Root) : Prop where
  nodup : (roots.map (·.stmt)).Nodup
  reads : ∀ k (hk : k < roots.length), ∃ c, st.Reads roots[k].node c ∧
    ∀ q ∈ c.links, ∃ r ∈ roots.take k, q = (r.node, r.stmt)
  ident : ∀ r ∈ roots, r.ident = (st.tree.stmt r.stmt).var

/-- A reference below a root points at the root of the statement it names. -/
theorem Forest.ref_of_below {R : List Root} (hF : st.Forest R) {m t j : Nat}
    (hm : ∃ r ∈ R, st.Under r.node m) (he : st.node m = .ref t j) :
    ∃ k, ∃ hk : k < R.length, R[k].stmt = j ∧ R[k].node = t := by
  obtain ⟨r, hr, hu⟩ := hm
  obtain ⟨k₀, hk₀, rfl⟩ := List.mem_iff_getElem.1 hr
  obtain ⟨c, hc, hlinks⟩ := hF.reads k₀ hk₀
  obtain ⟨r', hr', heq⟩ := hlinks _ (hc.link_of_under hu he)
  obtain ⟨k, hk, rfl⟩ := List.mem_iff_getElem.1 (List.mem_of_mem_take hr')
  simp only [Prod.mk.injEq] at heq
  exact ⟨k, hk, heq.2.symm, heq.1.symm⟩

end Store

namespace Artifact

variable {st : Store}

/-- The index of the root of statement `j` among `roots`. -/
def rootOf (roots : List Root) (j : Nat) : Nat := roots.findIdx (·.stmt = j)

/-- Roots of distinct statements: two roots at different positions have different statements. -/
theorem stmt_ne_of_ne {roots : List Root} (hnd : (roots.map (·.stmt)).Nodup) {i k : Nat}
    (hi : i < roots.length) (hk : k < roots.length) (hik : i ≠ k) :
    roots[i].stmt ≠ roots[k].stmt := fun he =>
  hik ((List.Nodup.of_map _ hnd).getElem_inj_iff.1
    (List.inj_on_of_nodup_map hnd (List.getElem_mem hi) (List.getElem_mem hk) he))

theorem rootOf_getElem {roots : List Root} (hnd : (roots.map (·.stmt)).Nodup) {k : Nat}
    (hk : k < roots.length) : rootOf roots roots[k].stmt = k := by
  rw [rootOf, List.findIdx_eq hk]
  refine ⟨by simp, fun i hi => ?_⟩
  simpa using stmt_ne_of_ne hnd (by omega) hk (by omega)

/-- The state after node `i` is appended with entry `e`, as `emit` appends it. -/
def BuildState.push (s : BuildState) (i : Nat) (e : ArtNode) : BuildState :=
  { s with nodes := s.nodes.push e, index := s.index.set! i (some s.nodes.size) }

/-! ### One node -/

section Emit

variable (fuel : Nat) {i : Nat} {s : BuildState}

theorem emit_memo {idx : Nat} (h : s.index[i]? = some (some idx)) :
    (emit st (fuel + 1) i).run s = .ok (idx, s) := by
  simp [emit, h]
  rfl

/-- A node without operands or target is appended with its entry. -/
theorem emit_leaf (ix ri : Nat → Nat) (h : s.index[i]? = some none)
    (happ : ∀ l r, st.node i ≠ .app l r) (href : ∀ t j, st.node i ≠ .ref t j) :
    (emit st (fuel + 1) i).run s = .ok (s.nodes.size, s.push i (st.entry ix ri i)) := by
  cases hn : st.node i with
  | app l r => exact absurd hn (happ l r)
  | ref t j => exact absurd hn (href t j)
  | s | k | free v =>
    simp [emit, h, hn, Store.entry]
    rfl

theorem emit_app {l r il ir : Nat} {s₁ s₂ : BuildState} (h : s.index[i]? = some none)
    (hn : st.node i = .app l r) (hl : (emit st fuel l).run s = .ok (il, s₁))
    (hr : (emit st fuel r).run s₁ = .ok (ir, s₂)) :
    (emit st (fuel + 1) i).run s = .ok (s₂.nodes.size, s₂.push i ⟨3, il, ir, []⟩) := by
  rw [emit]
  simp only [StateT.run_bind, StateT.run_get, pure_bind, ok_bind, h, hn, hl, hr, StateT.run_pure,
    StateT.run_set]
  rfl

/-- A reference is appended only once its target is emitted and its statement's root is
known. -/
theorem emit_ref {t j it kr : Nat} (h : s.index[i]? = some none) (hn : st.node i = .ref t j)
    (ht : s.index[t]?.join = some it) (hj : s.roots.lookup j = some kr) :
    (emit st (fuel + 1) i).run s = .ok (s.nodes.size, s.push i ⟨4, it, kr, []⟩) := by
  simp [emit, h, hn, ht, hj]
  rfl

end Emit

/-! ### The table of emitted nodes -/

/-- A build state that has emitted the nodes `order`, in that order: the slot of each node holds
its position in `order` once it is emitted, the table holds the entries of the emitted nodes,
and the operands and the target of an emitted node were emitted before it. -/
structure Table (st : Store) (R : List Root) (order : List Nat) (s : BuildState) : Prop where
  size : s.index.size = st.nodes.size
  index : ∀ m < st.nodes.size,
    s.index[m]? = some (if m ∈ order then some (order.idxOf m) else none)
  nodes : s.nodes.toList = order.map (st.entry order.idxOf (rootOf R))
  nodup : order.Nodup
  lt : ∀ m ∈ order, m < st.nodes.size
  app : ∀ m ∈ order, ∀ l r, st.node m = .app l r →
    l ∈ order ∧ r ∈ order ∧ order.idxOf l < order.idxOf m ∧ order.idxOf r < order.idxOf m
  ref : ∀ m ∈ order, ∀ t j, st.node m = .ref t j →
    t ∈ order ∧ order.idxOf t < order.idxOf m

variable {R : List Root} {order : List Nat} {s : BuildState}

theorem Table.init (R : List Root) (roots : List (Nat × Nat)) :
    Table st R [] ⟨Array.replicate st.nodes.size none, roots, #[]⟩ where
  size := by simp
  index m hm := by simp [hm]
  nodes := rfl
  nodup := List.nodup_nil
  lt _ h := nomatch h
  app _ h := nomatch h
  ref _ h := nomatch h

theorem Table.size_nodes (hT : Table st R order s) : s.nodes.size = order.length := by
  simpa using congrArg List.length hT.nodes

theorem Table.slot_of_mem (hT : Table st R order s) {m : Nat} (hm : m ∈ order) :
    s.index[m]? = some (some (order.idxOf m)) := by
  rw [hT.index m (hT.lt m hm), if_pos hm]

theorem Table.slot_of_not_mem (hT : Table st R order s) {m : Nat} (hm : m ∉ order)
    (hlt : m < st.nodes.size) : s.index[m]? = some none := by
  rw [hT.index m hlt, if_neg hm]

/-- Whatever lies below an emitted node was emitted. -/
theorem Table.mem_of_under (hT : Table st R order s) {n m : Nat} (hn : n ∈ order)
    (hu : st.Under n m) : m ∈ order := by
  induction hu with
  | refl => exact hn
  | left he _ ih => exact ih (hT.app _ hn _ _ he).1
  | right he _ ih => exact ih (hT.app _ hn _ _ he).2.1

/-- Appending a node whose operands and target were emitted. -/
theorem Table.push (hT : Table st R order s) {n : Nat} (hn : n ∉ order) (hlt : n < st.nodes.size)
    (happ : ∀ l r, st.node n = .app l r → l ∈ order ∧ r ∈ order)
    (href : ∀ t j, st.node n = .ref t j → t ∈ order) :
    Table st R (order ++ [n]) (s.push n (st.entry order.idxOf (rootOf R) n)) := by
  -- positions of the nodes emitted before do not move
  have hpos : ∀ m ∈ order, (order ++ [n]).idxOf m = order.idxOf m :=
    fun m hm => List.idxOf_append_of_mem hm
  have hlast : (order ++ [n]).idxOf n = order.length := by
    rw [List.idxOf_append_of_notMem hn, List.idxOf_cons_self, Nat.add_zero]
  have hentry : ∀ m, (∀ l r, st.node m = .app l r → l ∈ order ∧ r ∈ order) →
      (∀ t j, st.node m = .ref t j → t ∈ order) →
      st.entry (order ++ [n]).idxOf (rootOf R) m = st.entry order.idxOf (rootOf R) m :=
    fun m ha hr => Store.entry_congr _
      (fun l r he => ⟨hpos l (ha l r he).1, hpos r (ha l r he).2⟩)
      (fun t j he => hpos t (hr t j he))
  constructor
  case size => simp [BuildState.push, hT.size]
  case index =>
    intro m hm
    simp only [BuildState.push, Array.set!_eq_setIfInBounds, Array.getElem?_setIfInBounds, hT.size]
    by_cases hmn : n = m
    · subst hmn
      simp [hlt, hlast, hT.size_nodes]
    · rw [if_neg hmn, hT.index m hm]
      by_cases hmo : m ∈ order
      · simp [hmo, hpos m hmo]
      · simp [hmo, Ne.symm hmn]
  case nodes =>
    rw [BuildState.push, Array.toList_push, hT.nodes, List.map_append, List.map_singleton,
      hentry n happ href]
    congr 1
    exact List.map_congr_left fun m hm =>
      (hentry m (fun l r he => ⟨(hT.app m hm l r he).1, (hT.app m hm l r he).2.1⟩)
        (fun t j he => (hT.ref m hm t j he).1)).symm
  case nodup =>
    refine List.nodup_append.2 ⟨hT.nodup, List.nodup_singleton n, fun a ha b hb hab => hn ?_⟩
    rw [← List.mem_singleton.1 hb, ← hab]
    exact ha
  case lt =>
    intro m hm
    rcases List.mem_append.1 hm with hm | hm
    · exact hT.lt m hm
    · rw [List.mem_singleton.1 hm]
      exact hlt
  case app =>
    intro m hm l r he
    rcases List.mem_append.1 hm with hm | hm
    · obtain ⟨hl, hr, hil, hir⟩ := hT.app m hm l r he
      rw [hpos l hl, hpos r hr, hpos m hm]
      exact ⟨List.mem_append_left _ hl, List.mem_append_left _ hr, hil, hir⟩
    · rw [List.mem_singleton.1 hm] at he ⊢
      obtain ⟨hl, hr⟩ := happ l r he
      rw [hpos l hl, hpos r hr, hlast]
      exact ⟨List.mem_append_left _ hl, List.mem_append_left _ hr, List.idxOf_lt_length_of_mem hl,
        List.idxOf_lt_length_of_mem hr⟩
  case ref =>
    intro m hm t j he
    rcases List.mem_append.1 hm with hm | hm
    · obtain ⟨ht, hit⟩ := hT.ref m hm t j he
      rw [hpos t ht, hpos m hm]
      exact ⟨List.mem_append_left _ ht, hit⟩
    · rw [List.mem_singleton.1 hm] at he ⊢
      have ht := href t j he
      rw [hpos t ht, hlast]
      exact ⟨List.mem_append_left _ ht, List.idxOf_lt_length_of_mem ht⟩

/-- What emitting node `n` from the state `s` with `fuel` does: it appends the nodes below `n`
not emitted yet, operands first, leaves the roots alone, and gives the position of `n`. -/
def Emits (st : Store) (R : List Root) (order : List Nat) (s : BuildState) (n fuel : Nat) : Prop :=
  ∃ new s', (emit st fuel n).run s = .ok ((order ++ new).idxOf n, s') ∧
    Table st R (order ++ new) s' ∧ s'.roots = s.roots ∧
    ∀ m, m ∈ order ++ new ↔ m ∈ order ∨ st.Under n m

/-- A node emitted before is found in its slot. -/
theorem Emits.of_mem (hT : Table st R order s) {n : Nat} (hn : n ∈ order) (fuel : Nat) :
    Emits st R order s n (fuel + 1) := by
  refine ⟨[], s, ?_, by simpa using hT, rfl, fun m => ?_⟩
  · rw [List.append_nil, emit_memo fuel (hT.slot_of_mem hn)]
  · simpa using fun hu => hT.mem_of_under hn hu

/-- A node appended after the nodes `order'` emitted below it. -/
theorem Emits.of_push {order' : List Nat} {s' : BuildState} (hT' : Table st R order' s')
    {n fuel : Nat}
    (hn : n ∉ order') (hlt : n < st.nodes.size)
    (happ : ∀ l r, st.node n = .app l r → l ∈ order' ∧ r ∈ order')
    (href : ∀ t j, st.node n = .ref t j → t ∈ order')
    (hrun : (emit st fuel n).run s =
      .ok (s'.nodes.size, s'.push n (st.entry order'.idxOf (rootOf R) n)))
    (hext : ∃ new, order' = order ++ new) (hroots : s'.roots = s.roots)
    (hmem : ∀ m, m ∈ order' ∨ m = n ↔ m ∈ order ∨ st.Under n m) :
    Emits st R order s n fuel := by
  obtain ⟨new, rfl⟩ := hext
  refine ⟨new ++ [n], s'.push n (st.entry (order ++ new).idxOf (rootOf R) n), ?_,
    by simpa using hT'.push hn hlt happ href, hroots, fun m => ?_⟩
  · rw [hrun, ← List.append_assoc, List.idxOf_append_of_notMem hn, List.idxOf_cons_self,
      Nat.add_zero, hT'.size_nodes]
  · rw [← hmem m, ← List.append_assoc, List.mem_append, List.mem_singleton]

/-- A node without operands or target that was not emitted is appended. -/
theorem Emits.leaf (hT : Table st R order s) {n : Nat} (hlt : n < st.nodes.size)
    (happ : ∀ l r, st.node n ≠ .app l r) (href : ∀ t j, st.node n ≠ .ref t j) (fuel : Nat) :
    Emits st R order s n (fuel + 1) := by
  by_cases hn : n ∈ order
  · exact .of_mem hT hn fuel
  refine .of_push hT hn hlt (fun l r he => absurd he (happ l r))
    (fun t j he => absurd he (href t j))
    (emit_leaf fuel _ _ (hT.slot_of_not_mem hn hlt) happ href) ⟨[], by simp⟩ rfl fun m => ?_
  rw [Store.under_of_not_app happ]

/-- Emitting node `n`, which holds `c`, with fuel past `n`, from a state where the links of `c`
point at emitted nodes whose statements have known roots. -/
theorem emit_spec {n : Nat} {c : Comb} (hn : st.Reads n c) :
    ∀ {order : List Nat} {s : BuildState} {fuel : Nat}, Table st R order s →
      (∀ q ∈ c.links, q.1 ∈ order ∧ s.roots.lookup q.2 = some (rootOf R q.2)) →
      n < fuel →
      Emits st R order s n fuel := by
  induction hn with
  | s hlt he | k hlt he | free hlt he =>
    intro order s fuel hT _ hf
    obtain ⟨fuel, rfl⟩ : ∃ f, fuel = f + 1 := ⟨fuel - 1, by omega⟩
    exact .leaf hT hlt (fun _ _ h => by rw [he] at h; cases h)
      (fun _ _ h => by rw [he] at h; cases h) fuel
  | @ref n t j hlt he htn =>
    intro order s fuel hT hlinks hf
    obtain ⟨fuel, rfl⟩ : ∃ f, fuel = f + 1 := ⟨fuel - 1, by omega⟩
    by_cases hn : n ∈ order
    · exact .of_mem hT hn fuel
    obtain ⟨ht, hj⟩ := hlinks (t, j) (by simp [Comb.links])
    have hnot : ∀ l r, st.node n ≠ .app l r := fun _ _ h => by rw [he] at h; cases h
    refine .of_push hT hn hlt (fun l r h => absurd h (hnot l r)) (fun t' j' h => ?_) ?_
      ⟨[], by simp⟩ rfl
      fun m => by rw [Store.under_of_not_app hnot]
    · rw [he] at h
      cases h
      exact ht
    · rw [emit_ref fuel (hT.slot_of_not_mem hn hlt) he (by rw [hT.slot_of_mem ht]; rfl) hj]
      simp [Store.entry, he]
  | @app n l r a b hlt he hl hr _ _ ihl ihr =>
    intro order s fuel hT hlinks hf
    obtain ⟨fuel, rfl⟩ : ∃ f, fuel = f + 1 := ⟨fuel - 1, by omega⟩
    by_cases hn : n ∈ order
    · exact .of_mem hT hn fuel
    -- the left operand, then the right one, then the node itself
    obtain ⟨new₁, s₁, h₁, hT₁, hroots₁, hmem₁⟩ := @ihl _ _ fuel hT
      (fun q hq => hlinks q (by simp [Comb.links, hq])) (by omega)
    obtain ⟨new₂, s₂, h₂, hT₂, hroots₂, hmem₂⟩ := @ihr _ _ fuel hT₁
      (fun q hq => by
        obtain ⟨h₁, h₂⟩ := hlinks q (by simp [Comb.links, hq])
        exact ⟨List.mem_append_left _ h₁, hroots₁ ▸ h₂⟩) (by omega)
    have hl₂ : l ∈ order ++ new₁ ++ new₂ :=
      List.mem_append_left _ ((hmem₁ l).2 (.inr (.refl l)))
    have hr₂ : r ∈ order ++ new₁ ++ new₂ := (hmem₂ r).2 (.inr (.refl r))
    -- nothing below an operand is the node itself, which is younger
    have hn₂ : n ∉ order ++ new₁ ++ new₂ := by
      rw [hmem₂, hmem₁]
      rintro ((hn' | hu) | hu)
      · exact hn hn'
      · obtain ⟨hle, -⟩ := ‹st.Reads l a›.under hu
        omega
      · obtain ⟨hle, -⟩ := ‹st.Reads r b›.under hu
        omega
    refine .of_push hT₂ hn₂ hlt (fun l' r' h => ?_) (fun t j h => by rw [he] at h; cases h) ?_
      ⟨new₁ ++ new₂, by simp⟩ (hroots₂.trans hroots₁) fun m => ?_
    · rw [he] at h
      cases h
      exact ⟨hl₂, hr₂⟩
    · rw [emit_app fuel (hT.slot_of_not_mem hn hlt) he h₁ h₂]
      have hil : (order ++ new₁).idxOf l = (order ++ new₁ ++ new₂).idxOf l :=
        (List.idxOf_append_of_mem ((hmem₁ l).2 (.inr (.refl l)))).symm
      simp [Store.entry, he, hil]
    · rw [hmem₂, hmem₁, Store.under_app_iff he]
      constructor
      · rintro (((hm | hm) | hm) | rfl)
        · exact .inl hm
        · exact .inr (.inr (.inl hm))
        · exact .inr (.inr (.inr hm))
        · exact .inr (.inl rfl)
      · rintro (hm | rfl | hm | hm)
        · exact .inl (.inl (.inl hm))
        · exact .inr rfl
        · exact .inl (.inl (.inr hm))
        · exact .inl (.inr hm)

/-! ### The roots -/

theorem Table.withRoots (hT : Table st R order s) (roots : List (Nat × Nat)) :
    Table st R order { s with roots := roots } :=
  ⟨hT.size, hT.index, hT.nodes, hT.nodup, hT.lt, hT.app, hT.ref⟩

/-- The build after the first `k` roots: their nodes and everything below them emitted, and
each of their statements mapped to its root. -/
structure Done (st : Store) (R : List Root) (k : Nat) (order : List Nat) (s : BuildState) :
    Prop where
  table : Table st R order s
  roots : ∀ r ∈ R.take k, s.roots.lookup r.stmt = some (rootOf R r.stmt)
  below : ∀ m, m ∈ order ↔ ∃ r ∈ R.take k, st.Under r.node m

theorem Done.init (R : List Root) :
    Done st R 0 [] ⟨Array.replicate st.nodes.size none, [], #[]⟩ where
  table := Table.init R []
  roots _ h := by simp at h
  below _ := by simp

/-- Emitting the next root, `R[k]`: its statement is then mapped to it. -/
theorem Done.next {k : Nat} (hF : st.Forest R) (hD : Done st R k order s) (hk : k < R.length) :
    ∃ new s', (emit st (st.nodes.size + 1) R[k].node).run s =
        .ok ((order ++ new).idxOf R[k].node, s') ∧
      Done st R (k + 1) (order ++ new) { s' with roots := (R[k].stmt, k) :: s'.roots } := by
  obtain ⟨c, hc, hlinks⟩ := hF.reads k hk
  obtain ⟨new, s', hrun, hT, hroots, hmem⟩ := emit_spec hc hD.table (fun q hq => by
    obtain ⟨r, hr, rfl⟩ := hlinks q hq
    exact ⟨(hD.below _).2 ⟨r, hr, .refl _⟩, hD.roots r hr⟩) (Nat.lt_succ_of_lt hc.lt)
  have htake : R.take (k + 1) = R.take k ++ [R[k]] := List.take_succ_eq_append_getElem hk
  refine ⟨new, s', hrun, hT.withRoots _, fun r hr => ?_, fun m => ?_⟩
  · rw [htake, List.mem_append, List.mem_singleton] at hr
    rcases hr with hr | rfl
    · -- an earlier root has another statement
      have hne : (r.stmt == R[k].stmt) = false := by
        obtain ⟨i, hi, rfl⟩ := List.mem_iff_getElem.1 hr
        have hik : i < k := by simp at hi; omega
        rw [List.getElem_take]
        exact beq_eq_false_iff_ne.2 (stmt_ne_of_ne hF.nodup (by omega) hk (by omega))
      simp [List.lookup_cons, hne, hroots, hD.roots r hr]
    · simp [rootOf_getElem hF.nodup hk]
  · rw [hmem, hD.below, htake]
    simp only [List.mem_append, List.mem_singleton]
    constructor
    · rintro (⟨r, hr, hu⟩ | hu)
      · exact ⟨r, .inl hr, hu⟩
      · exact ⟨R[k], .inr rfl, hu⟩
    · rintro ⟨r, hr | rfl, hu⟩
      · exact .inl ⟨r, hr, hu⟩
      · exact .inr hu

/-- The roots loop from root `k` on: every root's node is emitted, and the roots of the
artifact name each root's identifier and give the position of its node. -/
theorem emitRoots_spec (hF : st.Forest R) : ∀ (rs : List Root) (k : Nat) {order : List Nat}
    {s : BuildState}, rs = R.drop k → Done st R k order s →
    ∃ order' s', (emitRoots st k rs).run s =
        .ok (rs.map fun r => ⟨(st.tree.name r.ident).toUTF8.toList, order'.idxOf r.node⟩,
          s') ∧
      Done st R R.length order' s' ∧ ∃ new, order' = order ++ new
  | [], k, order, s, hrs, hD => by
    have hk : R.length ≤ k := by
      have := congrArg List.length hrs
      simp at this
      omega
    have htake : R.take k = R.take R.length := by rw [List.take_of_length_le hk, List.take_length]
    exact ⟨order, s, rfl, ⟨hD.table, htake ▸ hD.roots, htake ▸ hD.below⟩, [], by simp⟩
  | r :: rest, k, order, s, hrs, hD => by
    have hk : k < R.length := by
      have := congrArg List.length hrs
      simp at this
      omega
    have h₀ : R[k]? = some r := by
      have := congrArg (·[0]?) hrs
      simpa [List.getElem?_drop] using this.symm
    obtain ⟨_, hr⟩ := List.getElem?_eq_some_iff.1 h₀
    obtain ⟨new, s₁, hrun, hD₁⟩ := hD.next hF hk
    rw [hr] at hrun hD₁
    obtain ⟨order', s', hrun', hD', new', hext⟩ := emitRoots_spec hF rest (k + 1)
      (by rw [List.drop_add_one_eq_tail_drop, ← hrs]; rfl) hD₁
    refine ⟨order', s', ?_, hD', new ++ new', by rw [hext, List.append_assoc]⟩
    have hpos : order'.idxOf r.node = (order ++ new).idxOf r.node := by
      rw [hext]
      exact List.idxOf_append_of_mem ((hD₁.below r.node).2
        ⟨r, by rw [List.take_succ_eq_append_getElem hk, hr]; simp, .refl _⟩)
    simp only [emitRoots, StateT.run_bind, hrun, ok_bind, StateT.run_modify, pure_bind, hrun',
      StateT.run_pure, List.map_cons, hpos]
    rfl

/-- Building the artifact of a forest succeeds: its nodes are the entries of the nodes below the
roots, in the order they are emitted, and its roots name each root's identifier and give the
position of its node. -/
theorem toArtifact_eq (hF : st.Forest R) (source : String) :
    ∃ order s, st.toArtifact R source = .ok ⟨schemaVersion, source.toUTF8.toList,
        order.map (st.entry order.idxOf (rootOf R)),
        R.map fun r => ⟨(st.tree.name r.ident).toUTF8.toList, order.idxOf r.node⟩⟩ ∧
      Done st R R.length order s := by
  obtain ⟨order, s, hrun, hD, -⟩ := emitRoots_spec hF R 0 (by simp) (Done.init R)
  refine ⟨order, s, ?_, hD⟩
  simp only [Store.toArtifact, StateT.run] at hrun ⊢
  rw [hrun, ← hD.table.nodes]
  rfl

end Artifact

end Combinatory
