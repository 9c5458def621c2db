import Combinatory.Proofs.Denotation

/-! Name resolution shares compiled terms. The converter points each reference of a statement at
the compiled root of the last earlier statement of that name: the node itself, not a copy of the
term below it. A reference that no earlier statement binds is reported and left as a free leaf,
and each statement's compiled term is recorded exactly once, as its root. -/
namespace Combinatory

namespace Tree

variable {t : Tree} {L : List Nat} {rep rep' : Reporter} {roots : List Root} {st : Store}

/-- After the roots before position `i`, a name resolves to the last of them bound to it: to its
node and its statement. -/
theorem Converted.resolveAfter_take (h : t.Converted L rep roots st rep') (i : Nat) :
    t.resolveAfter st (L.take i) = fun x =>
      (lastNamed (fun r : Root => t.stmtName r.stmt) (roots.take i) x).map
        fun r => (r.node, r.stmt) := by
  funext x
  rw [resolveAfter,← h.stmts,← List.map_take,lastNamed_map,Option.map_map]
  simp only [Function.comp_def]
  cases hr : lastNamed (fun r : Root => t.stmtName r.stmt) (roots.take i) x with
  | none => rfl
  | some r =>
    have hmem := List.mem_of_mem_take (lastNamed_spec _ hr).1
    simp only [Option.map_some,h.compiled r hmem,Option.getD_some]

variable {p : Nat} {table : NameMap Nat}

/-- Name resolution in the converter: a successful conversion has one root per statement, each
statement's compiled slot holds its root, and the reference nodes below root `i` point, in
source order, at the last earlier statements binding their names. -/
theorem convert_shares_compiled_roots (ht : t.ParsedProgram p) (hcurry : (t.curry p).failure = none)
    (htable : ∀ x, table.get? x = lastNamed t.stmtName (t.programStmts p) x) (rep : Reporter) :
    ∀ roots st rep', (Store.ofTree (t.curry p)).convert p table rep = (.ok roots, st, rep') →
      roots.map (·.stmt) = t.programStmts p ∧ (roots.map (·.stmt)).Nodup ∧
      (∀ r ∈ roots, ((t.curry p).stmt r.stmt).compiled = none ∧
        (st.tree.stmt r.stmt).compiled = some r.node) ∧
      (∀ i (hi : i < roots.length), st.links roots[i].node =
        ((t.term (t.stmt roots[i].stmt).expr).freeRefs []).filterMap fun o =>
          (lastNamed (fun r : Root => t.stmtName r.stmt) (roots.take i) o.1).map
            fun r => (r.node, r.stmt)) ∧
      rep' = Bracket.reportUses rep (t.unboundAfter [] (t.programStmts p)) ∧
      ∀ i (hi : i < roots.length), ∀ o ∈ t.unboundRefs ((t.programStmts p).take i) roots[i].stmt,
        st.containsFree roots[i].node o.1 = true := by
  intro roots st rep' hconv
  have hc := ht.converted hcurry htable hconv
  have hfresh := (ht.curry hcurry).2.2.1.fresh
  refine ⟨hc.stmts,hc.stmts ▸ ht.nodup,
    fun r hr => ⟨hfresh _ (hc.stmts ▸ List.mem_map_of_mem hr),hc.compiled r hr⟩,
    fun i hi => ?_,hc.reporter,fun i hi o ho => ?_⟩
  · rw [Store.links_of_reads (hc.reads i hi),Term.links_compile,hc.resolveAfter_take]
  · rw [Store.containsFree_of_reads (hc.reads i hi)]
    rw [← errs_resolveAfter st] at ho
    exact Term.hasFree_of_mem_errs _ _ [] ho

theorem convert_shares_compiled_roots_sample :
    sampleTree.ParsedProgram 0 ∧ (sampleTree.curry 0).failure = none ∧
      (∀ x, sampleTable.get? x = lastNamed sampleTree.stmtName (sampleTree.programStmts 0) x) ∧
      ∀ roots st rep', (Store.ofTree (sampleTree.curry 0)).convert 0 sampleTable sampleReporter =
          (.ok roots, st, rep') →
        roots.map (·.stmt) = sampleTree.programStmts 0 ∧ (roots.map (·.stmt)).Nodup ∧
        (∀ r ∈ roots, ((sampleTree.curry 0).stmt r.stmt).compiled = none ∧
          (st.tree.stmt r.stmt).compiled = some r.node) ∧
        (∀ i (hi : i < roots.length), st.links roots[i].node =
          ((sampleTree.term (sampleTree.stmt roots[i].stmt).expr).freeRefs []).filterMap fun o =>
            (lastNamed (fun r : Root => sampleTree.stmtName r.stmt) (roots.take i) o.1).map
              fun r => (r.node, r.stmt)) ∧
        rep' = Bracket.reportUses sampleReporter (sampleTree.unboundAfter [] (sampleTree.programStmts 0)) ∧
        ∀ i (hi : i < roots.length),
          ∀ o ∈ sampleTree.unboundRefs ((sampleTree.programStmts 0).take i) roots[i].stmt,
            st.containsFree roots[i].node o.1 = true :=
  ⟨sampleTree_parsed,by decide +kernel,sampleTable_spec,
    convert_shares_compiled_roots sampleTree_parsed (by decide +kernel) sampleTable_spec sampleReporter⟩

end Tree

end Combinatory
