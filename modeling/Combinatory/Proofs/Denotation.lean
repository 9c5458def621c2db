import Combinatory.Proofs.Pipeline

/-! What a compiled program denotes (`Store.lam`). Bracket abstraction is correct end to end:
the compiled term of each statement is βη-convertible to its source body
(`compiled_conv_source`). -/
namespace Combinatory

namespace Store

/-- The λ-term of the term at node `n`, following at most `fuel` nodes: a reference denotes
the term at the node it points at, a free leaf the free variable of its name. -/
def lamAux (st : Store) : Nat → Nat → Lam
  | 0, _ => .fvar ""
  | fuel + 1, n =>
    match st.node n with
    | .s => Lam.S
    | .k => Lam.K
    | .app l r => .app (st.lamAux fuel l) (st.lamAux fuel r)
    | .ref t _ => st.lamAux fuel t
    | .free v => .fvar (st.tree.name v)

/-- The λ-term of the term at node `n`. -/
def lam (st : Store) (n : Nat) : Lam := st.lamAux (st.nodes.size + 1) n

/-- The λ-term of statement `j` once converted: that of its compiled term. -/
def stmtLam (st : Store) (j : Nat) : Lam := st.lam ((st.tree.stmt j).compiled.getD 0)

/-- Every node denotes a term without loose indices. -/
theorem closedAt_lamAux (st : Store) : ∀ fuel n, Lam.ClosedAt 0 (st.lamAux fuel n)
  | 0, _ => trivial
  | fuel + 1, n => by
    simp only [lamAux]
    split
    · exact Lam.closedAt_S
    · exact Lam.closedAt_K
    · exact ⟨closedAt_lamAux st fuel _,closedAt_lamAux st fuel _⟩
    · exact closedAt_lamAux st fuel _
    · trivial

/-- A node holding `c` denotes the λ-term of `c`, when each reference of `c` points at a node
denoting what `ρ` gives for its statement. -/
theorem lamAux_of_reads {st : Store} {n : Nat} {c : Comb} (h : st.Reads n c) {ρ : Nat → Lam}
    (hρ : ∀ q ∈ c.links, ∀ fuel, q.1 < fuel → st.lamAux fuel q.1 = ρ q.2) :
    ∀ fuel, n < fuel → st.lamAux fuel n = c.interp ρ [] := by
  induction h with
  | s _ he | k _ he =>
    intro fuel hf
    obtain ⟨fuel,rfl⟩ : ∃ f, fuel = f + 1 := ⟨fuel - 1,by omega⟩
    simp [lamAux,he,Comb.interp]
  | free _ he =>
    intro fuel hf
    obtain ⟨fuel,rfl⟩ : ∃ f, fuel = f + 1 := ⟨fuel - 1,by omega⟩
    simp [lamAux,he,Comb.interp,Lam.lookup]
  | ref _ he ht =>
    intro fuel hf
    obtain ⟨fuel,rfl⟩ : ∃ f, fuel = f + 1 := ⟨fuel - 1,by omega⟩
    simp only [lamAux,he,Comb.interp]
    exact hρ (_, _) (by simp [Comb.links]) fuel (by dsimp only; omega)
  | app _ he hl hr _ _ ihl ihr =>
    intro fuel hf
    obtain ⟨fuel,rfl⟩ : ∃ f, fuel = f + 1 := ⟨fuel - 1,by omega⟩
    simp only [lamAux,he,Comb.interp]
    rw [ihl (fun q hq => hρ q (by simp [Comb.links,hq])) fuel (by omega),
      ihr (fun q hq => hρ q (by simp [Comb.links,hq])) fuel (by omega)]

/-- What a name denotes in a statement after the statements `P` of tree `t`: the λ-term of the
last of them that binds it, or its free variable when none does. -/
def scope (st : Store) (t : Tree) (P : List Nat) (x : String) : Lam :=
  ((lastNamed t.stmtName P x).map st.stmtLam).getD (.fvar x)

end Store

namespace Tree

variable {t : Tree} {L : List Nat} {rep rep' : Reporter} {roots : List Root} {st : Store}

/-- Each reference in a converted statement points at the compiled term of an earlier one. -/
theorem Converted.link (h : t.Converted L rep roots st rep') {i : Nat} (hi : i < roots.length)
    {q : Nat × Nat}
    (hq : q ∈ ((t.term (t.stmt roots[i].stmt).expr).compile (t.resolveAfter st (L.take i)) []).1.links) :
    ∃ k, ∃ hk : k < roots.length, k < i ∧ q = (roots[k].node, roots[k].stmt) := by
  rw [Term.links_compile] at hq
  obtain ⟨o,-,ho⟩ := List.mem_filterMap.1 hq
  obtain ⟨j,hj,rfl⟩ := Option.map_eq_some_iff.1 ho
  obtain ⟨k,hk,rfl⟩ := List.mem_take_iff_getElem.1 (lastNamed_spec _ hj).1
  have hkL : k < roots.length := by
    have := congrArg List.length h.stmts
    simp only [List.length_map] at this
    omega
  have hstmt : roots[k].stmt = L[k] := by simp [← h.stmts]
  refine ⟨k,hkL,by omega,?_⟩
  rw [← hstmt,h.compiled _ (List.getElem_mem hkL)]
  rfl

/-- The root of each converted statement denotes the λ-term of its compiled term, each reference
denoting what the statement it names denotes. -/
theorem Converted.lamAux (h : t.Converted L rep roots st rep') :
    ∀ i (hi : i < roots.length), ∀ fuel, roots[i].node < fuel → st.lamAux fuel roots[i].node =
      ((t.term (t.stmt roots[i].stmt).expr).compile (t.resolveAfter st (L.take i)) []).1.interp
        st.stmtLam [] := by
  intro i
  induction i using Nat.strongRecOn with
  | ind i ih =>
    intro hi
    -- a reference points at the root of an earlier statement, which the induction gives
    refine Store.lamAux_of_reads (h.reads i hi) fun q hq fuel hf => ?_
    obtain ⟨k,hk,hki,rfl⟩ := h.link hi hq
    have hlt := (h.reads k hk).lt
    rw [ih k hki hk fuel hf,Store.stmtLam,h.compiled _ (List.getElem_mem hk),Option.getD_some,
      Store.lam,ih k hki hk _ (by omega)]

theorem Converted.lam (h : t.Converted L rep roots st rep') {i : Nat} (hi : i < roots.length) :
    st.lam roots[i].node =
      ((t.term (t.stmt roots[i].stmt).expr).compile (t.resolveAfter st (L.take i)) []).1.interp
        st.stmtLam [] :=
  h.lamAux i hi _ (Nat.lt_succ_of_lt (h.reads i hi).lt)

/-- Bracket abstraction is correct: for a parsed, curried program converted without reporting a
reference used before being defined, the root of each statement denotes a λ-term βη-convertible
to its source body, each other name denoting the last statement before it that binds it. -/
theorem compiled_conv_source {p : Nat} (ht : t.ParsedProgram p) (hcurry : (t.curry p).failure = none)
    {table : NameMap Nat} (htable : ∀ x, table.get? x = lastNamed t.stmtName (t.programStmts p) x)
    (hrep : rep.KeepsAll)
    (hconv : (Store.ofTree (t.curry p)).convert p table rep = (.ok roots, st, rep'))
    (hquiet : rep'.bag.count DiagCode.usedBeforeDefined = rep.bag.count DiagCode.usedBeforeDefined) :
    roots.map (·.stmt) = t.programStmts p ∧
      ∀ i (hi : i < roots.length), Lam.Conv (st.lam roots[i].node)
        ((t.term (t.stmt roots[i].stmt).expr).toLam (st.scope t ((t.programStmts p).take i)) []) := by
  have hc := ht.converted hcurry htable hconv
  -- a keeping reporter counts what was reported, so nothing was
  have hnone : t.unboundAfter [] (t.programStmts p) = [] := by
    have hcount := Bracket.count_reportUses hrep (t.unboundAfter [] (t.programStmts p))
    rw [← hc.reporter,hquiet] at hcount
    exact List.eq_nil_of_length_eq_zero (by omega)
  refine ⟨hc.stmts,fun i hi => ?_⟩
  have hL : i < (t.programStmts p).length := hc.length ▸ hi
  have herrs : ((t.term (t.stmt roots[i].stmt).expr).compile
      (t.resolveAfter st ((t.programStmts p).take i)) []).2 = [] := by
    rw [errs_resolveAfter]
    refine List.eq_nil_iff_forall_not_mem.2 fun o ho => ?_
    have hmem := mem_unboundAfter t [] (t.programStmts p) i hL (o := o)
      (by simpa [← hc.stmt hi hL] using ho)
    rw [hnone] at hmem
    cases hmem
  have hscope : Term.resolved (t.resolveAfter st ((t.programStmts p).take i)) st.stmtLam =
      st.scope t ((t.programStmts p).take i) := by
    funext x
    simp only [Term.resolved,resolveAfter,Store.scope]
    cases lastNamed t.stmtName ((t.programStmts p).take i) x <;> rfl
  rw [hc.lam hi,← hscope]
  exact Term.interp_compile _ (fun j => Store.closedAt_lamAux st _ _) _ [] herrs

end Tree

/-! ### A sample program

The program `i = λx.x; k = λx,y.x; s = k i;` as the parser lays it out, with the table the check
builds for it; converting it makes `k` the combinator `K` itself. -/

/-- An arena of 64 KiB in one region. -/
def sampleArena : Arena := match Arena.packed 65536 16 0 with
  | .ok a => a
  | .error _ => default

/-- The records of `i = λx.x; k = λx,y.x; s = k i;`. -/
def sampleTree : Tree where
  arena := sampleArena
  file := 0
  tokens := #[⟨"i",1,1,2,⟨0,0,1⟩⟩,⟨"x",1,7,8,⟨0,6,7⟩⟩,⟨"x",1,9,10,⟨0,8,9⟩⟩,⟨"k",1,12,13,⟨0,11,12⟩⟩,
    ⟨"x",1,18,19,⟨0,17,18⟩⟩,⟨"y",1,20,21,⟨0,19,20⟩⟩,⟨"x",1,22,23,⟨0,21,22⟩⟩,⟨"s",1,25,26,⟨0,24,25⟩⟩,
    ⟨"k",1,29,30,⟨0,28,29⟩⟩,⟨"i",1,31,32,⟨0,30,31⟩⟩]
  idents := #[⟨0,none,⟨0,0,1⟩⟩,⟨1,none,⟨0,6,7⟩⟩,⟨2,none,⟨0,8,9⟩⟩,⟨3,none,⟨0,11,12⟩⟩,
    ⟨4,some 5,⟨0,17,18⟩⟩,⟨5,none,⟨0,19,20⟩⟩,⟨6,none,⟨0,21,22⟩⟩,⟨7,none,⟨0,24,25⟩⟩,
    ⟨8,none,⟨0,28,29⟩⟩,⟨9,none,⟨0,30,31⟩⟩]
  exprs := #[.ref 2 ⟨0,8,9⟩,.abs 1 0 ⟨0,4,9⟩,.ref 6 ⟨0,21,22⟩,.abs 4 2 ⟨0,15,22⟩,.ref 8 ⟨0,28,29⟩,
    .ref 9 ⟨0,30,31⟩,.app 4 5 ⟨0,28,31⟩]
  stmts := #[⟨0,1,some 1,⟨0,0,10⟩,none⟩,⟨3,3,some 2,⟨0,11,23⟩,none⟩,⟨7,6,none,⟨0,24,32⟩,none⟩]
  programs := #[⟨some 0,"m"⟩]
  failure := none
  crash := none

theorem sampleTree_parsed : sampleTree.ParsedProgram 0 := by
  have hL : sampleTree.programStmts 0 = [0,1,2] := by decide +kernel
  refine ⟨by rw [hL]; decide,by rw [hL]; decide,fun j => match j with
    | 0 => .abs 1 [1] (.ref 0 2)
    | 1 => .abs 3 [4,5] (.ref 2 6)
    | _ => .app 6 (.ref 4 8) (.ref 5 9),?_,?_,?_,?_⟩
  · rw [hL]
    intro j hj
    simp only [List.mem_cons,List.not_mem_nil,or_false] at hj
    rcases hj with rfl | rfl | rfl
    · exact .abs (by decide) rfl (.last ⟨by decide,by decide⟩ rfl)
        (.ref (by decide) rfl ⟨by decide,by decide⟩)
    · exact .abs (by decide) rfl (.cons ⟨by decide,by decide⟩ rfl (.last ⟨by decide,by decide⟩ rfl))
        (.ref (by decide) rfl ⟨by decide,by decide⟩)
    · exact .app (by decide) rfl (.ref (by decide) rfl ⟨by decide,by decide⟩)
        (.ref (by decide) rfl ⟨by decide,by decide⟩)
  all_goals rw [hL]; decide

/-- The table of the sample: each name to its statement. -/
def sampleTable : NameMap Nat := ⟨[("i",0),("k",1),("s",2)],4,.finite false 3 (-2)⟩

theorem sampleTable_spec (x : String) :
    sampleTable.get? x = lastNamed sampleTree.stmtName (sampleTree.programStmts 0) x := by
  have hL : sampleTree.programStmts 0 = [0,1,2] := by decide +kernel
  have h0 : sampleTree.stmtName 0 = "i" := by decide +kernel
  have h1 : sampleTree.stmtName 1 = "k" := by decide +kernel
  have h2 : sampleTree.stmtName 2 = "s" := by decide +kernel
  rw [hL]
  simp only [lastNamed,NameMap.get?,sampleTable,List.reverse_cons,List.reverse_nil,List.nil_append,
    List.cons_append,List.find?_cons,h0,h1,h2]
  by_cases hs : x = "s"
  · subst hs
    decide
  by_cases hk : x = "k"
  · subst hk
    decide
  by_cases hi : x = "i"
  · subst hi
    decide
  simp [Ne.symm hs,Ne.symm hk,Ne.symm hi]

/-- A reporter keeping every diagnostic. -/
def sampleReporter : Reporter := Reporter.toBag (Bag.empty 0) false

/-- Converting the curried sample. -/
def sampleRun : Except ConvertError (List Root) × Store × Reporter :=
  (Store.ofTree (sampleTree.curry 0)).convert 0 sampleTable sampleReporter

/-- The roots of the sample: `k` is the shared `K`. -/
def sampleRoots : List Root := [⟨0,0,4⟩,⟨1,3,2⟩,⟨2,7,9⟩]

theorem sampleRun_eq : (Store.ofTree (sampleTree.curry 0)).convert 0 sampleTable sampleReporter =
    (.ok sampleRoots, sampleRun.2.1, sampleRun.2.2) := by
  have h1 : sampleRun.1 = .ok sampleRoots := by decide +kernel
  show sampleRun = _
  rw [← h1]

theorem compiled_conv_source_sample :
    sampleRoots.map (·.stmt) = sampleTree.programStmts 0 ∧
      ∀ i (hi : i < sampleRoots.length), Lam.Conv (sampleRun.2.1.lam sampleRoots[i].node)
        ((sampleTree.term (sampleTree.stmt sampleRoots[i].stmt).expr).toLam
          (sampleRun.2.1.scope sampleTree ((sampleTree.programStmts 0).take i)) []) :=
  Tree.compiled_conv_source sampleTree_parsed (by decide +kernel) sampleTable_spec ⟨rfl,rfl,by decide⟩
    sampleRun_eq (by decide +kernel)

end Combinatory
