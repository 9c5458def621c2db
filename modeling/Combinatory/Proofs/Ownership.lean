import Combinatory.Proofs.Chaining
import Mathlib.Algebra.Order.Group.Multiset
import Mathlib.Tactic.Abel

/-! Maps that own their values. Each call gives back exactly the values it takes out of the map
(`Refines.perform_conserves`), so every inserted value is released once, by the call that takes
it out (`ChainedMap.releases_inserted_once`). -/
namespace Combinatory

namespace MapCall

variable {α : Type}

/-- The value a call hands to the map: the one an insertion stores. -/
def inserted : MapCall α → List α
  | .insert _ v => [v]
  | _ => []

/-- The values a call gives back to the owner, read off its answer: the value an insertion
replaced, the value a removal dropped, every value an emptying dropped. Lookups give back
nothing. -/
def released : MapCall α → MapAnswer α → List α
  | .insert _ _, .value v => v.toList
  | .erase _, .value v => v.toList
  | .free, .released vs => vs
  | _, _ => []

/-- Answers that agree give back the same values, up to order. -/
theorem released_perm (call : MapCall α) {a b : MapAnswer α} (h : MapAnswer.Agrees a b) :
    (call.released a).Perm (call.released b) := by
  cases a <;> cases b <;> simp only [MapAnswer.Agrees, reduceCtorEq] at h
  case value.value v w => rw [h]
  case present.present v w => rw [h]
  case released.released vs ws => cases call <;> simp [released, h]

end MapCall

section Values

variable {α : Type}

/-- Rebinding the one entry of `k`, whose value is `old`, trades `old` for `v` among the
values. -/
theorem values_rebind {l : List (String × α)} (h : DistinctKeys l) {k : String} {old : α}
    (hk : lookup l k = some old) (v : α) :
    (((l.map (rebind k v)).map Prod.snd : List α) : Multiset α) + {old} =
      ((l.map Prod.snd : List α) : Multiset α) + {v} := by
  induction l with
  | nil => simp at hk
  | cons e l ih =>
    simp only [DistinctKeys, List.map_cons, List.nodup_cons] at h
    rw [lookup_cons] at hk
    by_cases he : e.1 = k
    · -- the entry of `k` is this one, and no later entry is named `k`
      have hrest : k ∉ l.map Prod.fst := he ▸ h.1
      have hold : e.2 = old := by simpa [he] using hk
      simp only [List.map_cons, rebind, he, if_true, map_rebind_of_not_mem v hrest, hold,
        ← Multiset.cons_coe]
      rw [← Multiset.singleton_add, ← Multiset.singleton_add]
      abel
    · have ih' := ih h.2 (by simpa [he] using hk)
      simp only [List.map_cons, rebind, he, if_false, ← Multiset.cons_coe, Multiset.cons_add, ih']

/-- Dropping the one entry of `k`, whose value is `old`, takes `old` out of the values. -/
theorem values_filter {l : List (String × α)} (h : DistinctKeys l) {k : String} {old : α}
    (hk : lookup l k = some old) :
    ((((l.filter (·.1 ≠ k)).map Prod.snd : List α)) : Multiset α) + {old} =
      ((l.map Prod.snd : List α) : Multiset α) := by
  induction l with
  | nil => simp at hk
  | cons e l ih =>
    simp only [DistinctKeys, List.map_cons, List.nodup_cons] at h
    rw [lookup_cons] at hk
    by_cases he : e.1 = k
    · have hrest : k ∉ l.map Prod.fst := he ▸ h.1
      have hold : e.2 = old := by simpa [he] using hk
      -- past this entry, the filter keeps everything
      have hkeep : l.filter (·.1 ≠ k) = l := by
        refine List.filter_eq_self.2 fun x hx => ?_
        simpa using fun hxk : x.1 = k => hrest (List.mem_map.2 ⟨x, hx, hxk⟩)
      simp only [List.filter_cons, he, ne_eq, not_true_eq_false, decide_false, hkeep,
        Bool.false_eq_true, if_false, List.map_cons, hold, ← Multiset.cons_coe,
        ← Multiset.singleton_add]
      abel
    · have ih' := ih h.2 (by simpa [he] using hk)
      simp only [List.filter_cons, he, ne_eq, not_false_eq_true, decide_true, if_true,
        List.map_cons, ← Multiset.cons_coe, Multiset.cons_add, ih']

end Values

namespace NameMap

variable {α : Type}

/-- On a finite map with distinct names, each call stores what it is handed and gives back what
it takes out: the values after the call and the values it gives back are the values before and
the value it is handed. -/
theorem perform_conserves {m : NameMap α} (h : DistinctKeys m.entries) (call : MapCall α) :
    (((m.perform call).1.entries.map Prod.snd : List α) : Multiset α) +
        (call.released (m.perform call).2 : Multiset α) =
      ((m.entries.map Prod.snd : List α) : Multiset α) + call.inserted := by
  cases call with
  | insert k v =>
    cases hk : m.get? k with
    | some old =>
      simp only [perform, insert, hk, MapCall.released, MapCall.inserted, Option.toList_some]
      exact values_rebind h hk v
    | none =>
      simp only [perform, insert, hk, MapCall.released, MapCall.inserted, Option.toList_none,
        Multiset.coe_nil, add_zero, List.map_append, List.map_cons, List.map_nil]
      rw [← Multiset.coe_add]
  | erase k =>
    cases hk : m.get? k with
    | some old =>
      simp only [perform, erase, hk, MapCall.released, MapCall.inserted, Option.toList_some,
        Multiset.coe_singleton, Multiset.coe_nil, add_zero]
      exact values_filter h hk
    | none => simp [perform, erase, hk, MapCall.released, MapCall.inserted]
  | get k => simp [perform, MapCall.released, MapCall.inserted]
  | contains k => simp [perform, MapCall.released, MapCall.inserted]
  | free => simp [perform, free, MapCall.released, MapCall.inserted]

end NameMap

namespace ChainedMap

variable {α : Type} (hash : String → UInt64)

/-- The values a chained map stores, in bucket order. -/
def values (m : ChainedMap α) : List α := m.toList.map (·.2)

/-- The values a run of calls gives back to the owner, call after call. -/
def releases (m : ChainedMap α) (calls : List (MapCall α)) : List α :=
  (List.zipWith MapCall.released calls (m.replay hash calls).2).flatten

@[simp] theorem releases_nil (m : ChainedMap α) : m.releases hash [] = [] := rfl

theorem releases_cons (m : ChainedMap α) (call : MapCall α) (calls : List (MapCall α)) :
    m.releases hash (call :: calls) =
      call.released (m.perform hash call).2 ++ (m.perform hash call).1.releases hash calls := rfl

@[simp] theorem values_empty (n : Nat) (t : Dyadic) : (empty n t : ChainedMap α).values = [] := by
  simp [values, empty]

variable {hash} {c : ChainedMap α} {m : NameMap α}

/-- A refining chained map stores the values of the finite map. -/
theorem Refines.values_eq (h : Refines hash c m) :
    (c.values : Multiset α) = ((m.entries.map Prod.snd : List α) : Multiset α) :=
  Multiset.coe_eq_coe.2 (h.perm.map _)

/-- Each call on a chained map gives back exactly the values it takes out. -/
theorem Refines.perform_conserves (h : Refines hash c m) (call : MapCall α) :
    ((c.perform hash call).1.values : Multiset α) + call.released (c.perform hash call).2 =
      c.values + call.inserted := by
  obtain ⟨h', ha⟩ := h.perform call
  rw [h'.values_eq, Multiset.coe_eq_coe.2 (call.released_perm ha), h.values_eq]
  exact NameMap.perform_conserves h.keys call

/-- Along a run, the values stored at its end and those given back on the way are the values
stored at its start and those inserted. -/
theorem Refines.replay_conserves (h : Refines hash c m) (calls : List (MapCall α)) :
    ((c.replay hash calls).1.values : Multiset α) + c.releases hash calls =
      c.values + calls.flatMap MapCall.inserted := by
  induction calls generalizing c m with
  | nil => simp [ChainedMap.replay]
  | cons call rest ih =>
    obtain ⟨h₁, -⟩ := h.perform call
    have hstep := h.perform_conserves call
    have hrest := ih h₁
    -- the run after the first call, then the first call itself
    calc (((c.perform hash call).1.replay hash rest).1.values : Multiset α) +
          ↑(call.released (c.perform hash call).2 ++ (c.perform hash call).1.releases hash rest)
        = (((c.perform hash call).1.replay hash rest).1.values +
            (c.perform hash call).1.releases hash rest) +
            call.released (c.perform hash call).2 := by
          rw [← Multiset.coe_add]
          abel
      _ = ((c.perform hash call).1.values + call.released (c.perform hash call).2) +
            rest.flatMap MapCall.inserted := by
          rw [hrest]
          abel
      _ = c.values + ↑(call.inserted ++ rest.flatMap MapCall.inserted) := by
          rw [hstep, ← Multiset.coe_add]
          abel

end ChainedMap

/-- An owner that releases what a chained map gives back releases every inserted value exactly
once: after any run from a new map, the values given back and the values still stored are, as
multisets, the values inserted. -/
theorem ChainedMap.releases_inserted_once {α : Type} (hash : String → UInt64) (n : Nat)
    (t : Dyadic) (calls : List (MapCall α)) (call : MapCall α) :
    let c := ((ChainedMap.empty n t : ChainedMap α).replay hash calls).1
    ((c.perform hash call).1.values : Multiset α) + call.released (c.perform hash call).2 =
        c.values + call.inserted ∧
      (c.values : Multiset α) + (ChainedMap.empty n t).releases hash calls =
        calls.flatMap MapCall.inserted := by
  intro c
  have h := @ChainedMap.refines_empty α hash n t
  refine ⟨(h.replay calls).1.perform_conserves call, ?_⟩
  simpa using h.replay_conserves calls

/-- Two insertions of one name, an insertion and a removal of another, then an emptying: the
replaced value and the removed one are given back as they leave, and the last value at the
end. -/
example : (ChainedMap.empty 4 (.finite false 3 (-2)) : ChainedMap Nat).releases (fun _ => 0)
    [.insert "a" 1, .insert "a" 2, .insert "b" 3, .erase "b", .free] = [1, 3, 2] := by
  decide

end Combinatory
