import Combinatory.Proofs.Convert

/-! The converter keeps its combinators shared. A store `Shares` when its only `S` node is the
one recorded as the shared `S`, and likewise for `K`: `sComb` makes a node only when none is
recorded, and every other operation makes nodes of other kinds. Each converter step keeps this
(`Bracket.KeepsShared`), composed along the `do` blocks of the converter, so a whole conversion
ends with one `S` node and one `K` node at most (`Store.convert_shares`). -/

namespace Combinatory

namespace Store

/-- Every `S` node of the store is the shared `S`, and every `K` node the shared `K`. -/
structure Shares (st : Store) : Prop where
  s : ∀ i < st.nodes.size, st.node i = .s → st.sNode = some i
  k : ∀ i < st.nodes.size, st.node i = .k → st.kNode = some i

theorem Shares.s_unique {st : Store} (h : st.Shares) {i j : Nat} (hi : i < st.nodes.size)
    (hj : j < st.nodes.size) (hsi : st.node i = .s) (hsj : st.node j = .s) : i = j :=
  Option.some.inj ((h.s i hi hsi).symm.trans (h.s j hj hsj))

theorem Shares.k_unique {st : Store} (h : st.Shares) {i j : Nat} (hi : i < st.nodes.size)
    (hj : j < st.nodes.size) (hki : st.node i = .k) (hkj : st.node j = .k) : i = j :=
  Option.some.inj ((h.k i hi hki).symm.trans (h.k j hj hkj))

/-- Sharing is about the nodes and the two shared indices only. -/
theorem Shares.congr {st st' : Store} (h : st.Shares) (hn : st'.nodes = st.nodes)
    (hs : st'.sNode = st.sNode) (hk : st'.kNode = st.kNode) : st'.Shares := by
  have hnode : st'.node = st.node := by
    funext i
    simp [node, hn]
  exact ⟨fun i hi he => hs ▸ h.s i (hn ▸ hi) (hnode ▸ he),
    fun i hi he => hk ▸ h.k i (hn ▸ hi) (hnode ▸ he)⟩

theorem shares_ofTree (t : Tree) : (ofTree t).Shares :=
  ⟨fun _ hi => by simp [ofTree] at hi, fun _ hi => by simp [ofTree] at hi⟩

/-- Node `i` of a store one node longer: an old node, or the new one. -/
theorem node_of_push {st st' : Store} {n : Node} (h : st'.nodes = st.nodes.push n) {i : Nat}
    (hi : i < st'.nodes.size) :
    (i < st.nodes.size ∧ st'.node i = st.node i) ∨ (i = st.nodes.size ∧ st'.node i = n) := by
  rw [h, Array.size_push] at hi
  by_cases hlt : i < st.nodes.size
  · exact .inl ⟨hlt, by simp [node, h, Array.getElem?_push, Nat.ne_of_lt hlt]⟩
  · exact .inr ⟨by omega, by simp [node, h, show i = st.nodes.size by omega]⟩

/-- `newNode` either fails and keeps the nodes, or pushes its node. -/
theorem newNode_cases (n : Node) (st : Store) :
    (((newNode n).run st).1 = none ∧ ((newNode n).run st).2.nodes = st.nodes) ∨
      (((newNode n).run st).1 = some st.nodes.size ∧
        ((newNode n).run st).2.nodes = st.nodes.push n) := by
  cases hf : st.failure.isSome
  · cases ha : st.tree.arena.alloc nodeSize.toUInt64 with
    | ok p => exact .inr (by simp [newNode, hf, ha]; exact ⟨rfl, rfl⟩)
    | error e => exact .inl (by simp [newNode, hf, ha]; exact ⟨rfl, rfl⟩)
  · exact .inl (by simp [newNode, hf]; exact ⟨rfl, rfl⟩)

/-- A node of another kind than the new one was there before. -/
theorem newNode_old {n m : Node} (hm : m ≠ n) (st : Store) {i : Nat}
    (hi : i < ((newNode n).run st).2.nodes.size) (he : ((newNode n).run st).2.node i = m) :
    i < st.nodes.size ∧ st.node i = m := by
  rcases newNode_cases n st with ⟨-, hn⟩ | ⟨-, hn⟩
  · exact ⟨hn ▸ hi, by simpa [node, hn] using he⟩
  · rcases node_of_push hn hi with ⟨hlt, heq⟩ | ⟨-, heq⟩
    · exact ⟨hlt, heq ▸ he⟩
    · exact absurd (he.symm.trans heq) hm

/-- In a store that had no node of its kind, the new node is the only one. -/
theorem newNode_fresh {n : Node} {st : Store} (hnone : ∀ i < st.nodes.size, st.node i ≠ n)
    {i : Nat} (hi : i < ((newNode n).run st).2.nodes.size)
    (he : ((newNode n).run st).2.node i = n) : ((newNode n).run st).1 = some i := by
  rcases newNode_cases n st with ⟨-, hn⟩ | ⟨hr, hn⟩
  · exact absurd (show st.node i = n by simpa [node, hn] using he) (hnone i (hn ▸ hi))
  · rcases node_of_push hn hi with ⟨hlt, heq⟩ | ⟨rfl, -⟩
    · exact absurd (heq ▸ he) (hnone i hlt)
    · exact hr

/-- A node that is neither `S` nor `K` keeps the combinators shared. -/
theorem shares_newNode {st : Store} (h : st.Shares) {n : Node} (hs : n ≠ .s) (hk : n ≠ .k) :
    ((newNode n).run st).2.Shares := by
  obtain ⟨-, hsn, hkn, -, -⟩ := newNode_spec n st
  constructor
  · intro i hi he
    obtain ⟨hlt, he'⟩ := newNode_old (Ne.symm hs) st hi he
    rw [hsn]
    exact h.s i hlt he'
  · intro i hi he
    obtain ⟨hlt, he'⟩ := newNode_old (Ne.symm hk) st hi he
    rw [hkn]
    exact h.k i hlt he'

/-- Stopping the program changes no node. -/
theorem shares_refuse {st : Store} (h : st.Shares) (msg : String) : ((refuse msg).run st).2.Shares :=
  h.congr rfl rfl rfl

theorem shares_ref {st : Store} (h : st.Shares) (t : Option Nat) (j : Nat) :
    ((ref t j).run st).2.Shares := by
  cases hf : st.failure.isSome
  · cases t with
    | none =>
      rw [show (ref none j).run st = (refuse "sk: reference without target").run st by
        simp [ref,hf]]
      exact shares_refuse h _
    | some t =>
      rw [show (ref (some t) j).run st = (newNode (.ref t j)).run st by simp [ref,hf]]
      exact shares_newNode h (by simp) (by simp)
  · rw [show (ref t j).run st = (none, st) by simp [ref,hf]; rfl]
    exact h

theorem shares_freeLeaf {st : Store} (h : st.Shares) (v : Nat) : ((freeLeaf v).run st).2.Shares :=
  shares_newNode h (by simp) (by simp)

/-- An application missing an operand builds nothing: it stops the program, unless an
allocation failed before. -/
theorem app_missing {l r : Option Nat} (h : l = none ∨ r = none) {st : Store}
    (hf : st.failure.isSome = false) :
    (app l r).run st = (refuse "sk: application with a missing operand").run st := by
  rcases h with rfl | rfl
  · simp [app,hf]
  · cases l <;> simp [app,hf]

theorem shares_app {st : Store} (h : st.Shares) (l r : Option Nat) :
    ((app l r).run st).2.Shares := by
  cases hf : st.failure.isSome
  · rcases l with _ | l
    · rw [app_missing (.inl rfl) hf]
      exact shares_refuse h _
    rcases r with _ | r
    · rw [app_missing (.inr rfl) hf]
      exact shares_refuse h _
    rw [show (app (some l) (some r)).run st = (newNode (.app l r)).run st by
      simp [app, hf]]
    exact shares_newNode h (by simp) (by simp)
  · rw [app_of_failure l r hf]
    exact h

/-- Asking for `S` finds the shared node, or, when there is none and so no `S` node at all,
makes its one new node the shared one. -/
theorem shares_sComb {st : Store} (h : st.Shares) : (sComb.run st).2.Shares := by
  cases hs : st.sNode with
  | some i =>
    have hrun : sComb.run st = (some i, st) := by simp [sComb, hs]; rfl
    rw [hrun]
    exact h
  | none =>
    have hrun : sComb.run st = (((newNode .s).run st).1,
        { ((newNode .s).run st).2 with sNode := ((newNode .s).run st).1 }) := by
      simp [sComb, hs]; rfl
    have hnone : ∀ i < st.nodes.size, st.node i ≠ .s := fun i hi he => by
      simpa [hs] using h.s i hi he
    obtain ⟨-, -, hkn, -, -⟩ := newNode_spec .s st
    rw [hrun]
    constructor
    · exact fun i hi he => newNode_fresh hnone hi he
    · intro i hi he
      obtain ⟨hlt, he'⟩ := newNode_old (by simp) st hi he
      exact hkn.trans (h.k i hlt he')

/-- Asking for `K` finds the shared node, or makes its one new node the shared one. -/
theorem shares_kComb {st : Store} (h : st.Shares) : (kComb.run st).2.Shares := by
  cases hk : st.kNode with
  | some i =>
    have hrun : kComb.run st = (some i, st) := by simp [kComb, hk]; rfl
    rw [hrun]
    exact h
  | none =>
    have hrun : kComb.run st = (((newNode .k).run st).1,
        { ((newNode .k).run st).2 with kNode := ((newNode .k).run st).1 }) := by
      simp [kComb, hk]; rfl
    have hnone : ∀ i < st.nodes.size, st.node i ≠ .k := fun i hi he => by
      simpa [hk] using h.k i hi he
    obtain ⟨-, hsn, -, -, -⟩ := newNode_spec .k st
    rw [hrun]
    constructor
    · intro i hi he
      obtain ⟨hlt, he'⟩ := newNode_old (by simp) st hi he
      exact hsn.trans (h.s i hlt he')
    · exact fun i hi he => newNode_fresh hnone hi he

theorem shares_identity {st : Store} (h : st.Shares) : (identity.run st).2.Shares :=
  -- the run of the `do` block is the four runs one after the other, by definition
  shares_app (shares_kComb (shares_app (shares_kComb (shares_sComb h)) _ _)) _ _

end Store

namespace Bracket

variable {α β : Type}

/-- The converter step keeps the shared combinators shared. -/
def KeepsShared (x : ConvertM α) : Prop := ∀ s, s.store.Shares → (run x s).2.store.Shares

theorem KeepsShared.pure (a : α) : KeepsShared (Pure.pure a : ConvertM α) := fun _ h => h

theorem KeepsShared.get : KeepsShared (MonadState.get : ConvertM ConvertState) := fun _ h => h

theorem KeepsShared.bind {x : ConvertM α} {f : α → ConvertM β} (hx : KeepsShared x)
    (hf : ∀ a, KeepsShared (f a)) : KeepsShared (x >>= f) := by
  intro s hs
  have h := hx s hs
  rw [run_bind]
  rcases hr : run x s with ⟨_ | a, s'⟩
  · rw [hr] at h
    exact h
  · rw [hr] at h
    exact hf a s' h

theorem KeepsShared.store {f : StateM Store α}
    (hf : ∀ st : Store, st.Shares → (f.run st).2.Shares) : KeepsShared (onStore f) :=
  fun s h => hf s.store h

theorem KeepsShared.ite {c : Prop} [Decidable c] {x y : ConvertM α} (hx : KeepsShared x)
    (hy : KeepsShared y) : KeepsShared (if c then x else y) := by
  split
  · exact hx
  · exact hy

theorem KeepsShared.throw (u : Unreachable) : KeepsShared (throw u : ConvertM α) := fun _ h => h

theorem KeepsShared.sComb : KeepsShared (onStore Store.sComb) :=
  .store fun _ h => Store.shares_sComb h

theorem KeepsShared.kComb : KeepsShared (onStore Store.kComb) :=
  .store fun _ h => Store.shares_kComb h

theorem KeepsShared.app (l r : Option Nat) : KeepsShared (onStore (Store.app l r)) :=
  .store fun _ h => Store.shares_app h l r

theorem KeepsShared.ref (t : Option Nat) (j : Nat) : KeepsShared (onStore (Store.ref t j)) :=
  .store fun _ h => Store.shares_ref h t j

theorem KeepsShared.refuse (msg : String) : KeepsShared (onStore (Store.refuse msg)) :=
  .store fun _ h => Store.shares_refuse h msg

theorem KeepsShared.freeLeaf (v : Nat) : KeepsShared (onStore (Store.freeLeaf v)) :=
  .store fun _ h => Store.shares_freeLeaf h v

theorem KeepsShared.identity : KeepsShared (onStore Store.identity) :=
  .store fun _ h => Store.shares_identity h

theorem KeepsShared.modify {f : ConvertState → ConvertState}
    (hf : ∀ s : ConvertState, s.store.Shares → (f s).store.Shares) :
    KeepsShared (modify f : ConvertM Unit) := hf

theorem keepsShared_resolve (x : String) : KeepsShared (resolve x) := fun s h => by
  rw [run_resolve]
  exact h

theorem keepsShared_ident (v : Nat) (sp : Span) : KeepsShared (ident v sp) := by
  unfold ident
  refine .bind .get fun s => ?_
  dsimp only
  refine .ite (.freeLeaf v) (.bind (keepsShared_resolve _) fun r => ?_)
  split
  · exact .bind .get fun _ => .ref _ _
  · exact .bind (.modify fun _ h => h) fun _ => .freeLeaf v

theorem keepsShared_abstract (name : String) (sp : Span) :
    ∀ fuel t, KeepsShared (abstract name sp fuel t)
  | 0, _ => .pure _
  | fuel + 1, t => by
    unfold abstract
    refine .bind .get fun s => ?_
    dsimp only
    refine .ite (.pure _) ?_
    split
    · -- `K E` when the name is not free, else one case for each kind of node
      refine .ite (.bind .kComb fun _ => .app _ _) ?_
      split
      · exact .identity
      · exact .ite (.pure _) (.bind (keepsShared_abstract name sp fuel _) fun _ =>
          .bind (keepsShared_abstract name sp fuel _) fun _ =>
          .bind .sComb fun _ => .bind (.app _ _) fun _ => .app _ _)
      · exact .throw _
    · exact .refuse _

theorem keepsShared_compile : ∀ fuel i, KeepsShared (compile fuel i)
  | 0, _ => .pure _
  | fuel + 1, i => by
    unfold compile
    refine .bind .get fun s => ?_
    dsimp only
    split
    · exact keepsShared_ident _ _
    · exact .bind (keepsShared_compile fuel _) fun _ => .bind (keepsShared_compile fuel _) fun _ =>
        .app _ _
    · refine .ite (.throw _) (.bind (.modify fun _ h => h) fun _ => ?_)
      exact .bind (keepsShared_compile fuel _) fun _ => .bind (.modify fun _ h => h) fun _ =>
        .bind .get fun _ => keepsShared_abstract _ _ _ _

theorem keepsShared_stmts : ∀ L acc, KeepsShared (stmts L acc)
  | [], _ => .pure _
  | j :: L, acc => by
    unfold stmts
    refine .bind .get fun s => .bind (keepsShared_compile _ _) fun _ => .bind .get fun s' => ?_
    dsimp only
    split
    · exact .pure _
    · -- recording the compiled term changes the tree only
      exact .bind (.modify fun _ h => h.congr rfl rfl rfl) fun _ => keepsShared_stmts L _

end Bracket

/-- A conversion keeps the combinators shared: every `S` node of the store it ends with is the
shared `S`, and every `K` node the shared `K`. -/
theorem Store.convert_shares {store : Store} (h : store.Shares) (prog : Nat) (table : NameMap Nat)
    (rep : Reporter) : (store.convert prog table rep).2.1.Shares := by
  simp only [Store.convert]
  split
  · exact h
  · split
    rename_i a _ _ _ _ hrun
    -- the statement loop runs on the store with the roots charged, which has the same nodes
    have hs := Bracket.keepsShared_stmts (store.tree.programStmts prog) []
      ⟨{ store with tree := { store.tree with arena := a } }, table,
        ⟨[], NameMap.roundPow2 (max table.size 1), Dyadic.ofFloat 0.75⟩, [], rep⟩
      (h.congr rfl rfl rfl)
    rw [Bracket.run, hrun] at hs
    split <;> exact hs

end Combinatory
