import Combinatory.Proofs.Emission
import Combinatory.Proofs.SharedNodes
import Combinatory.Proofs.Denotation
import Combinatory.Proofs.ArenaLayout

/-! A converted program flattens faithfully: the artifact of a `Forest` is valid
(`Done.validate`), each root renders as its node does in the store (`Done.format`), and `S` and
`K` have one entry each at most (`Done.kind_once`). -/

namespace Combinatory

namespace Artifact

variable {st : Store} {R : List Root} {order : List Nat} {s : BuildState}

/-! ### Validity -/

theorem forIn_yield {β : Type} (l : List β) (g : β → Except ArtifactError (ForInStep PUnit))
    (h : ∀ x ∈ l, g x = .ok (.yield PUnit.unit)) :
    forIn l PUnit.unit (fun x _ => g x) = .ok PUnit.unit := by
  induction l with
  | nil => rfl
  | cons x l ih =>
    rw [List.forIn_cons, h x List.mem_cons_self]
    exact ih fun y hy => h y (List.mem_cons_of_mem _ hy)

/-- An artifact of the schema version whose nodes pass their checks and whose roots point into
the table is valid. -/
theorem validate_eq_ok {a : Artifact} (hs : a.schema = schemaVersion)
    (hn : ∀ i e, a.nodes[i]? = some e → a.checkNode i e = .ok ())
    (hr : ∀ r ∈ a.roots, 0 ≤ r.node ∧ r.node < a.nodes.length) : a.validate = .ok () := by
  unfold validate
  rw [hs, if_neg (not_not.2 rfl), forIn_yield _ _ fun ⟨e, i⟩ hx => by
    simp only
    rw [hn i e (List.mem_zipIdx_iff_getElem?.1 hx)]
    rfl]
  simp only [ok_bind]
  rw [forIn_yield _ _ fun ⟨r, i⟩ hx => by
    have := hr r (List.mem_of_getElem? (List.mem_zipIdx_iff_getElem?.1 hx))
    simp only
    rw [if_neg (by omega)]
    rfl]
  rfl

theorem Done.mem_iff (hD : Done st R R.length order s) (m : Nat) :
    m ∈ order ↔ ∃ r ∈ R, st.Under r.node m := by
  rw [hD.below, List.take_length]

/-- Each entry of the flattened forest passes its check: operands and targets point backwards,
and a reference names the root whose node it points at. -/
theorem Done.checkNode (hF : st.Forest R) (hD : Done st R R.length order s) {a : Artifact}
    (ha : a.roots = R.map fun r => ⟨(st.tree.name r.ident).toUTF8.toList, order.idxOf r.node⟩)
    {i : Nat} {e : ArtNode} (he : (order.map (st.entry order.idxOf (rootOf R)))[i]? = some e) :
    a.checkNode i e = .ok () := by
  obtain ⟨m, hm, rfl⟩ :
      ∃ m, order[i]? = some m ∧ st.entry order.idxOf (rootOf R) m = e := by
    simpa using he
  obtain ⟨hi, rfl⟩ := List.getElem?_eq_some_iff.1 hm
  have hidx : order.idxOf order[i] = i := hD.table.nodup.idxOf_getElem i hi
  have hmem : order[i] ∈ order := List.getElem_mem hi
  unfold Store.entry
  split
  · rfl
  · rfl
  · rename_i l r hn
    obtain ⟨-, -, hl, hr⟩ := hD.table.app _ hmem l r hn
    rw [hidx] at hl hr
    simp only [Artifact.checkNode]
    rw [if_neg (by omega)]
  · rename_i t j hn
    obtain ⟨-, ht⟩ := hD.table.ref _ hmem t j hn
    rw [hidx] at ht
    obtain ⟨k, hk, hkj, hkt⟩ := hF.ref_of_below ((hD.mem_iff _).1 hmem) hn
    have hroot : rootOf R j = k := hkj ▸ rootOf_getElem hF.nodup hk
    simp only [Artifact.checkNode, ha, hroot, Int.toNat_natCast, List.getElem?_map,
      List.getElem?_eq_getElem hk, Option.map_some, hkt, List.length_map]
    rw [if_neg (by simp; omega)]
  · rfl

/-- The flattened forest is valid. -/
theorem Done.validate (hF : st.Forest R) (hD : Done st R R.length order s) (source : List UInt8) :
    (⟨schemaVersion, source, order.map (st.entry order.idxOf (rootOf R)),
      R.map fun r => ⟨(st.tree.name r.ident).toUTF8.toList, order.idxOf r.node⟩⟩ :
        Artifact).validate = .ok () := by
  refine validate_eq_ok rfl (fun i e he => hD.checkNode hF rfl he) fun r hr => ?_
  obtain ⟨r', hr', rfl⟩ := List.mem_map.1 hr
  have hmem : r'.node ∈ order := (hD.mem_iff _).2 ⟨r', hr', .refl _⟩
  have := List.idxOf_lt_length_of_mem hmem
  simp only [List.length_map]
  omega

/-! ### Rendering -/

theorem getElem?_map_idxOf {β : Type} {order : List Nat} {m : Nat} (hm : m ∈ order)
    (f : Nat → β) :
    (order.map f)[order.idxOf m]? = some (f m) := by
  simp [List.getElem?_map, List.getElem?_idxOf hm]

/-- Each node below the roots renders in the flattened forest as it does in the store: the walk
follows one entry for each node, and a reference shows the name of the root it points at. -/
theorem Done.formatAux (hF : st.Forest R) (hD : Done st R R.length order s) {a : Artifact}
    (hn : a.nodes = order.map (st.entry order.idxOf (rootOf R)))
    (hr : a.roots = R.map fun r => ⟨(st.tree.name r.ident).toUTF8.toList, order.idxOf r.node⟩)
    {n : Nat} {c : Comb} (hc : st.Reads n c) :
    ∀ {f f' : Nat} (paren : Bool), n ∈ order → order.idxOf n ≤ f → n ≤ f' →
      a.formatAux (f + 1) (order.idxOf n) paren =
        (st.formatAux (f' + 1) n paren).toUTF8.toList := by
  induction hc with
  | s _ he | k _ he =>
    intro f f' paren hm _ _
    simp only [Artifact.formatAux, hn, getElem?_map_idxOf hm, Store.entry, he, Store.formatAux]
    rw [Region.toList_eq]
    rfl
  | @app n l r _ _ _ he hl hr _ _ ihl ihr =>
    intro f f' paren hm hf hf'
    obtain ⟨hlm, hrm, hil, hir⟩ := hD.table.app _ hm l r he
    -- the operands sit strictly below, so both walks have fuel left for them
    obtain ⟨g, rfl⟩ : ∃ g, f = g + 1 := ⟨f - 1, by omega⟩
    obtain ⟨g', rfl⟩ : ∃ g', f' = g' + 1 := ⟨f' - 1, by omega⟩
    rw [Artifact.formatAux, Store.formatAux]
    simp only [hn, getElem?_map_idxOf hm, Store.entry, he, Int.toNat_natCast]
    rw [@ihl g g' false hlm (by omega) (by omega), @ihr g g' true hrm (by omega) (by omega)]
    cases paren <;> simp [Region.toList_eq] <;> rfl
  | @ref n t j _ he _ =>
    intro f f' paren hm _ _
    obtain ⟨k, hk, rfl, -⟩ := hF.ref_of_below ((hD.mem_iff _).1 hm) he
    simp only [Artifact.formatAux, hn, getElem?_map_idxOf hm, Store.entry, he, Store.formatAux,
      hr, rootOf_getElem hF.nodup hk, Int.toNat_natCast, List.getElem?_map,
      List.getElem?_eq_getElem hk, Option.map_some, Option.getD_some, Tree.stmtName,
      ← hF.ident _ (List.getElem_mem hk)]
  | free _ he =>
    intro f f' paren hm _ _
    simp only [Artifact.formatAux, hn, getElem?_map_idxOf hm, Store.entry, he, Store.formatAux]

/-- Every root of the flattened forest renders as its node does in the store. -/
theorem Done.format (hF : st.Forest R) (hD : Done st R R.length order s) {a : Artifact}
    (hn : a.nodes = order.map (st.entry order.idxOf (rootOf R)))
    (hr : a.roots = R.map fun r => ⟨(st.tree.name r.ident).toUTF8.toList, order.idxOf r.node⟩)
    {k : Nat} (hk : k < R.length) : a.format k = (st.format R[k].node).toUTF8.toList := by
  obtain ⟨c, hc, -⟩ := hF.reads k hk
  have hm : R[k].node ∈ order := (hD.mem_iff _).2 ⟨R[k], List.getElem_mem hk, .refl _⟩
  have hlt := List.idxOf_lt_length_of_mem hm
  have hsize := hc.lt
  simp only [Artifact.format, hr, List.getElem?_map, List.getElem?_eq_getElem hk, Option.map_some,
    Int.toNat_natCast, hn, List.length_map]
  exact hD.formatAux hF hn hr hc false hm (by omega) (by omega)

theorem length_le_one_of_nodup {l : List Nat} (hl : l.Nodup) (h : ∀ a ∈ l, ∀ b ∈ l, a = b) :
    l.length ≤ 1 := by
  cases l with
  | nil => simp
  | cons a l' =>
    rw [← List.count_eq_length.2 fun b hb => h a List.mem_cons_self b hb, hl.count]
    split <;> omega

/-- Entries of a kind that only one node of the store can have occur at most once. -/
theorem Done.kind_le_one {k : Nat} (hD : Done st R k order s) {κ : Nat} {n : Node}
    (hkind : ∀ m, (st.entry order.idxOf (rootOf R) m).kind = κ → st.node m = n)
    (huniq : ∀ i j, i < st.nodes.size → j < st.nodes.size →
      st.node i = n → st.node j = n → i = j) :
    ((order.map (st.entry order.idxOf (rootOf R))).filter (·.kind = κ)).length ≤ 1 := by
  rw [List.filter_map, List.length_map]
  refine length_le_one_of_nodup (hD.table.nodup.filter _) fun a ha b hb => ?_
  simp only [List.mem_filter, Function.comp_apply, decide_eq_true_eq] at ha hb
  exact huniq a b (hD.table.lt _ ha.1) (hD.table.lt _ hb.1) (hkind a ha.2) (hkind b hb.2)

/-- With its combinators shared, a store flattens to at most one `S` entry and one `K` entry. -/
theorem Done.kind_once {k : Nat} (hD : Done st R k order s) (hs : st.Shares) :
    ((order.map (st.entry order.idxOf (rootOf R))).filter (·.kind = 1)).length ≤ 1 ∧
      ((order.map (st.entry order.idxOf (rootOf R))).filter (·.kind = 2)).length ≤ 1 :=
  ⟨hD.kind_le_one (fun _ => Store.entry_kind.1) fun _ _ => hs.s_unique,
    hD.kind_le_one (fun _ => Store.entry_kind.2) fun _ _ => hs.k_unique⟩

/-- Flattening the forest `R` of `st` into `a`: one entry for each node reachable from a root,
children before parents, references pointing at the roots they name, and every root rendering
as its node does in the store. -/
structure Flattens (st : Store) (R : List Root) (order : List Nat) (a : Artifact) : Prop where
  nodes : a.nodes = order.map (st.entry order.idxOf (rootOf R))
  roots : a.roots = R.map fun r => ⟨(st.tree.name r.ident).toUTF8.toList, order.idxOf r.node⟩
  nodup : order.Nodup
  reach : ∀ m, m ∈ order ↔ ∃ r ∈ R, st.Under r.node m
  app : ∀ m ∈ order, ∀ l r, st.node m = .app l r →
    order.idxOf l < order.idxOf m ∧ order.idxOf r < order.idxOf m
  ref : ∀ m ∈ order, ∀ t j, st.node m = .ref t j →
    ∃ k, ∃ hk : k < R.length, R[k].stmt = j ∧ R[k].node = t ∧ rootOf R j = k
  format : ∀ k (hk : k < R.length), a.format k = (st.format R[k].node).toUTF8.toList

theorem Done.flattens (hF : st.Forest R) (hD : Done st R R.length order s) (source : List UInt8) :
    Flattens st R order ⟨schemaVersion, source, order.map (st.entry order.idxOf (rootOf R)),
      R.map fun r => ⟨(st.tree.name r.ident).toUTF8.toList, order.idxOf r.node⟩⟩ where
  nodes := rfl
  roots := rfl
  nodup := hD.table.nodup
  reach := hD.mem_iff
  app m hm l r he := (hD.table.app m hm l r he).2.2
  ref m hm t j he := by
    obtain ⟨k, hk, rfl, rfl⟩ := hF.ref_of_below ((hD.mem_iff _).1 hm) he
    exact ⟨k, hk, rfl, rfl, rootOf_getElem hF.nodup hk⟩
  format _ hk := hD.format hF rfl rfl hk

end Artifact

namespace Tree

variable {t : Tree} {p : Nat} {table : NameMap Nat}

/-- The roots of a conversion carry the identifiers their statements bind. -/
theorem ParsedProgram.convert_idents (h : t.ParsedProgram p) (hf : (t.curry p).failure = none)
    (htable : ∀ x, table.get? x = lastNamed t.stmtName (t.programStmts p) x) {rep rep' : Reporter}
    {roots : List Root} {st : Store}
    (hconv : (Store.ofTree (t.curry p)).convert p table rep = (.ok roots, st, rep')) :
    ∀ r ∈ roots, r.ident = (st.tree.stmt r.stmt).var ∧
      st.tree.name r.ident = t.stmtName r.stmt := by
  obtain ⟨hL, hname, hconvertible, -⟩ := h.curry hf
  rcases Bracket.convert_spec (hL ▸ hconvertible) (fun x => by rw [htable, hL, hname]) rep with
    ⟨e, he, -⟩ | ⟨x, e, he, -⟩ | ⟨roots', s, hok, -, hloop, hst⟩ <;> rw [hconv] at *
  · cases he
  · cases he
  · cases hok
    obtain ⟨rfl, -⟩ := Prod.mk.inj hst
    intro r hr
    have hvar := (hloop.stmt r.stmt).1
    refine ⟨(hloop.ident r hr).trans hvar.symm, ?_⟩
    rw [hloop.name, hloop.ident r hr, ← hname]
    rfl

/-- A converted program is a forest: each root holds a term whose references point at earlier
roots, and carries the identifier its statement binds. -/
theorem Converted.forest {L : List Nat} {rep rep' : Reporter} {roots : List Root} {st : Store}
    (h : t.Converted L rep roots st rep') (hnd : L.Nodup)
    (hid : ∀ r ∈ roots, r.ident = (st.tree.stmt r.stmt).var) : st.Forest roots where
  nodup := h.stmts ▸ hnd
  reads k hk := ⟨_, h.reads k hk, fun q hq => by
    obtain ⟨k', hk', hlt, rfl⟩ := h.link hk hq
    exact ⟨roots[k'], List.mem_take_iff_getElem.2 ⟨k', by omega, rfl⟩, rfl⟩⟩
  ident r hr := hid r hr

/-- A converted program flattens into a valid artifact holding every node reachable from a root
once, `S` and `K` at most once each, and every root rendering as its node does in the store. -/
theorem converted_forest_flattens (ht : t.ParsedProgram p) (hcurry : (t.curry p).failure = none)
    (htable : ∀ x, table.get? x = lastNamed t.stmtName (t.programStmts p) x) (rep : Reporter)
    (source : String) :
    ∀ roots st rep', (Store.ofTree (t.curry p)).convert p table rep = (.ok roots, st, rep') →
      ∃ order art, st.toArtifact roots source = .ok art ∧ art.validate = .ok () ∧
        Artifact.Flattens st roots order art ∧
        (art.nodes.filter (·.kind = 1)).length ≤ 1 ∧
        (art.nodes.filter (·.kind = 2)).length ≤ 1 ∧
        art.roots.map (·.name) = (t.programStmts p).map fun j => (t.stmtName j).toUTF8.toList := by
  intro roots st rep' hconv
  have hc := ht.converted hcurry htable hconv
  have hid := ht.convert_idents hcurry htable hconv
  have hF := hc.forest ht.nodup fun r hr => (hid r hr).1
  have hs : st.Shares := by
    have := Store.convert_shares (Store.shares_ofTree (t.curry p)) p table rep
    rw [hconv] at this
    exact this
  obtain ⟨order, s, hbuild, hD⟩ := Artifact.toArtifact_eq hF source
  refine ⟨order, _, hbuild, hD.validate hF _, hD.flattens hF _, (hD.kind_once hs).1,
    (hD.kind_once hs).2, ?_⟩
  rw [List.map_map, ← hc.stmts, List.map_map]
  exact List.map_congr_left fun r hr => by simp only [Function.comp_apply, (hid r hr).2]

theorem converted_forest_flattens_sample :
    sampleTree.ParsedProgram 0 ∧ (sampleTree.curry 0).failure = none ∧
      (∀ x, sampleTable.get? x = lastNamed sampleTree.stmtName (sampleTree.programStmts 0) x) ∧
      (Store.ofTree (sampleTree.curry 0)).convert 0 sampleTable sampleReporter =
        (.ok sampleRoots, sampleRun.2.1, sampleRun.2.2) ∧
      ∃ order art, sampleRun.2.1.toArtifact sampleRoots "" = .ok art ∧ art.validate = .ok () ∧
        Artifact.Flattens sampleRun.2.1 sampleRoots order art ∧
        (art.nodes.filter (·.kind = 1)).length ≤ 1 ∧
        (art.nodes.filter (·.kind = 2)).length ≤ 1 ∧
        art.roots.map (·.name) =
          (sampleTree.programStmts 0).map fun j => (sampleTree.stmtName j).toUTF8.toList :=
  ⟨sampleTree_parsed, by decide +kernel, sampleTable_spec, sampleRun_eq,
    converted_forest_flattens sampleTree_parsed (by decide +kernel) sampleTable_spec sampleReporter ""
      _ _ _ sampleRun_eq⟩

end Tree

end Combinatory
