import Combinatory.Proofs.Flatten

/-! Rendering an artifact read from a file. Validation makes every operand point backwards
(`Artifact.validate_spec`), so every node renders (`Artifact.Renders`) and rendering a root
follows indices in range only and stops (`Artifact.format_renders`). -/
namespace Combinatory

namespace Artifact

/-- How node `i` renders, inside parentheses when `paren` holds and it is an application,
following only nodes and roots that exist: the rendering of a node that leads out of the tables
is not defined. A node of an unknown kind renders as a question mark. -/
inductive Renders (a : Artifact) : Nat → Bool → List UInt8 → Prop
  | s {i : Nat} {paren : Bool} {n : ArtNode} :
      a.nodes[i]? = some n → n.kind = 1 → Renders a i paren [83]
  | k {i : Nat} {paren : Bool} {n : ArtNode} :
      a.nodes[i]? = some n → n.kind = 2 → Renders a i paren [75]
  | app {i : Nat} {paren : Bool} {n : ArtNode} {l r : List UInt8} :
      a.nodes[i]? = some n → n.kind = 3 → 0 ≤ n.a → 0 ≤ n.b →
      Renders a n.a.toNat false l → Renders a n.b.toNat true r →
      Renders a i paren (if paren then [40] ++ (l ++ [32] ++ r) ++ [41] else l ++ [32] ++ r)
  | ref {i : Nat} {paren : Bool} {n : ArtNode} {root : ArtRoot} :
      a.nodes[i]? = some n → n.kind = 4 → 0 ≤ n.b → a.roots[n.b.toNat]? = some root →
      Renders a i paren root.name
  | free {i : Nat} {paren : Bool} {n : ArtNode} :
      a.nodes[i]? = some n → n.kind = 5 → Renders a i paren n.name
  | other {i : Nat} {paren : Bool} {n : ArtNode} :
      a.nodes[i]? = some n → n.kind ∉ [1, 2, 3, 4, 5] → Renders a i paren "?".toUTF8.toList

variable {a : Artifact}

/-- A node renders in one way at most. -/
theorem Renders.unique {i : Nat} {paren : Bool} {out out' : List UInt8} (h : Renders a i paren out)
    (h' : Renders a i paren out') : out = out' := by
  induction h generalizing out' with
  | s hn hk => cases h' <;> simp_all
  | k hn hk => cases h' <;> simp_all
  | app hn hk _ _ _ _ ihl ihr =>
    cases h' with
    | app hn' _ _ _ hl' hr' =>
      obtain rfl := Option.some.inj (hn.symm.trans hn')
      rw [ihl hl', ihr hr']
    | _ => simp_all
  | ref hn hk _ hr =>
    cases h' with
    | ref hn' _ _ hr' =>
      obtain rfl := Option.some.inj (hn.symm.trans hn')
      obtain rfl := Option.some.inj (hr.symm.trans hr')
      rfl
    | _ => simp_all
  | free hn hk =>
    cases h' with
    | free hn' _ => rw [Option.some.inj (hn.symm.trans hn')]
    | _ => simp_all
  | other hn hk =>
    cases h' with
    | other => rfl
    | _ => simp_all

/-! ### What validation guarantees -/

theorem exists_of_bind_eq_ok {ε α β : Type} {x : Except ε α} {f : α → Except ε β} {b : β}
    (h : x >>= f = .ok b) : ∃ v, x = .ok v ∧ f v = .ok b := by
  cases x with
  | error e => cases h
  | ok v => exact ⟨v, rfl, h⟩

/-- A loop that finishes has had every step go on. -/
theorem forIn_eq_ok {β : Type} {l : List β} {g : β → Except ArtifactError (ForInStep PUnit)}
    (hg : ∀ x, g x ≠ .ok (.done PUnit.unit))
    (h : forIn l PUnit.unit (fun x _ => g x) = .ok PUnit.unit) :
    ∀ x ∈ l, g x = .ok (.yield PUnit.unit) := by
  induction l with
  | nil => simp
  | cons y l ih =>
    rw [List.forIn_cons] at h
    cases hy : g y with
    | error e =>
      rw [hy] at h
      cases h
    | ok step =>
      cases step with
      | done u => exact absurd hy (hg y)
      | yield u =>
        rw [hy] at h
        intro x hx
        rcases List.mem_cons.1 hx with rfl | hx
        · exact hy
        · exact ih h x hx

/-- A valid artifact has its schema version, every node passes its check, and every root points
into the table. -/
theorem validate_spec (h : a.validate = .ok ()) :
    a.schema = schemaVersion ∧ (∀ i n, a.nodes[i]? = some n → a.checkNode i n = .ok ()) ∧
      ∀ r ∈ a.roots, 0 ≤ r.node ∧ r.node < a.nodes.length := by
  unfold validate at h
  simp only [bind, Except.bind] at h
  split_ifs at h with hs
  split at h
  · cases h
  rename_i hn
  split at h
  · cases h
  rename_i hr
  refine ⟨not_not.1 hs, fun i n hi => ?_, fun r hmem => ?_⟩
  · -- the loop over the nodes went on past node `i`, so its check passed
    have hstep := forIn_eq_ok (fun x => by split <;> simp [pure, Except.pure]) hn (n, i)
      (List.mem_zipIdx_iff_getElem?.2 hi)
    cases hc : a.checkNode i n with
    | error e => simp [hc] at hstep
    | ok u => rfl
  · obtain ⟨i, hi⟩ := List.getElem?_of_mem hmem
    have hstep := forIn_eq_ok (fun x => by split <;> simp [pure, Except.pure]) hr (r, i)
      (List.mem_zipIdx_iff_getElem?.2 hi)
    by_cases hbad : r.node < 0 ∨ r.node ≥ a.nodes.length
    · simp [hbad] at hstep
    · omega

/-- An application that passes its check has operands before it. -/
theorem checkNode_app {i : Nat} {n : ArtNode} (h : a.checkNode i n = .ok ()) (hk : n.kind = 3) :
    0 ≤ n.a ∧ n.a < i ∧ 0 ≤ n.b ∧ n.b < i := by
  unfold checkNode at h
  rw [hk] at h
  by_cases hbad : n.a < 0 ∨ n.a ≥ i ∨ n.b < 0 ∨ n.b ≥ i
  · simp [hbad] at h
  · omega

/-- A reference that passes its check names a root in range. -/
theorem checkNode_ref {i : Nat} {n : ArtNode} (h : a.checkNode i n = .ok ()) (hk : n.kind = 4) :
    0 ≤ n.b ∧ n.b < a.roots.length := by
  unfold checkNode at h
  rw [hk] at h
  by_cases hbad : n.a < 0 ∨ n.a ≥ i ∨ n.b < 0 ∨ n.b ≥ a.roots.length ∨
      (a.roots[n.b.toNat]?).map (·.node) ≠ some n.a
  · simp only [hbad, if_true] at h
    cases h
  · omega

/-- A payload read into an artifact is returned only once it has passed validation. -/
theorem validate_of_read {x : Except ArtifactError ByteArray}
    (h : (do
      let body ← x
      let a ← match unpack body with
        | .ok a => pure a
        | .error e => throw (ArtifactError.corrupt e)
      a.validate
      return a) = .ok a) : a.validate = .ok () := by
  obtain ⟨body, -, h⟩ := exists_of_bind_eq_ok h
  dsimp only at h
  split at h
  · obtain ⟨u, -, h⟩ := exists_of_bind_eq_ok h
    obtain ⟨v, hv, h⟩ := exists_of_bind_eq_ok h
    cases h
    exact hv
  · cases h

/-- Every artifact read from a file passed validation. -/
theorem validate_of_decode {data : ByteArray} (h : decode data = .ok a) : a.validate = .ok () := by
  unfold decode at h
  dsimp only at h
  -- each header check that fails throws
  split at h
  · cases h
  split at h
  · cases h
  split at h
  · cases h
  by_cases hs : (if word32 data 9 ≠ 0 then word32 data 9 else word32 data 5) > data.size - headerSize
  · rw [if_pos hs] at h
    cases h
  rw [if_neg hs] at h
  -- the body, decompressed when packed, is read and validated
  split at h <;> exact validate_of_read h

/-! ### Rendering -/

/-- In a valid artifact, every node renders, and `formatAux` with more fuel than the node's
index computes its rendering. -/
theorem formatAux_renders (hv : a.validate = .ok ()) :
    ∀ j, j < a.nodes.length → ∀ fuel, j < fuel → ∀ paren,
      Renders a j paren (a.formatAux fuel j paren) := by
  obtain ⟨-, hnodes, -⟩ := validate_spec hv
  intro j
  -- the operands of a node come before it, so strong induction on the index carries the walk
  induction j using Nat.strongRecOn with
  | ind j ih =>
    intro hj fuel hfuel paren
    obtain ⟨f, rfl⟩ : ∃ f, fuel = f + 1 := ⟨fuel - 1, by omega⟩
    have hn : a.nodes[j]? = some a.nodes[j] := List.getElem?_eq_getElem hj
    have hc := hnodes j _ hn
    rw [formatAux, hn]
    dsimp only
    split
    · exact .s hn ‹_›
    · exact .k hn ‹_›
    · rename_i hk
      obtain ⟨h0, hlt⟩ := checkNode_ref hc hk
      have hr : a.roots[a.nodes[j].b.toNat]? = some a.roots[a.nodes[j].b.toNat] :=
        List.getElem?_eq_getElem (by omega)
      rw [hr]
      exact .ref hn hk h0 hr
    · exact .free hn ‹_›
    · rename_i hk
      obtain ⟨ha0, hal, hb0, hbl⟩ := checkNode_app hc hk
      exact .app hn hk ha0 hb0 (ih _ (by omega) (by omega) f (by omega) false)
        (ih _ (by omega) (by omega) f (by omega) true)
    · exact .other hn (by simp_all)

/-- Rendering a root of an artifact that passed validation, or that reading a file returned,
follows only nodes and roots that exist and stops: the root's node renders, in exactly one way,
and that rendering is what `format` gives. -/
theorem format_renders (h : a.validate = .ok () ∨ ∃ data, decode data = .ok a) {i : Nat}
    (hi : i < a.roots.length) :
    ∃ r, a.roots[i]? = some r ∧ 0 ≤ r.node ∧
      ∀ out, Renders a r.node.toNat false out ↔ out = a.format i := by
  have hv : a.validate = .ok () := h.elim id fun ⟨_, hd⟩ => validate_of_decode hd
  obtain ⟨-, -, hroots⟩ := validate_spec hv
  have hr : a.roots[i]? = some a.roots[i] := List.getElem?_eq_getElem hi
  obtain ⟨h0, hlt⟩ := hroots _ (List.getElem_mem hi)
  have hren := formatAux_renders hv a.roots[i].node.toNat (by omega) (a.nodes.length + 1)
    (by omega) false
  have hfmt : a.format i = a.formatAux (a.nodes.length + 1) a.roots[i].node.toNat false := by
    simp only [format, hr]
  refine ⟨_, hr, h0, fun out => ⟨fun ho => ?_, fun ho => ?_⟩⟩
  · rw [hfmt]
    exact ho.unique hren
  · rw [ho, hfmt]
    exact hren

/-- The one root of the artifact of `f = K S` renders. -/
theorem format_renders_sample :
    (sampleArtifact.validate = .ok () ∨ ∃ data, decode data = .ok sampleArtifact) ∧
      0 < sampleArtifact.roots.length ∧
      ∃ r, sampleArtifact.roots[0]? = some r ∧ 0 ≤ r.node ∧
        ∀ out, Renders sampleArtifact r.node.toNat false out ↔ out = sampleArtifact.format 0 :=
  ⟨.inl rfl, by decide, format_renders (.inl rfl) (by decide)⟩

end Artifact

end Combinatory
