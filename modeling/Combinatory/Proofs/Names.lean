import Combinatory.NameMap

/-! Name maps as finite maps, and the statement a name refers to. A name map answers for a
name with the value it was last given (`NameMap.get?_insert`); inserting a list of bindings in
order makes every name answer with the last of them, which is `lastNamed`. Both the checker's
table of statements and the converter's map of compiled statements are read through this. -/
namespace Combinatory

namespace NameMap

variable {α : Type}

theorem get?_insert (m : NameMap α) (k : String) (v : α) (x : String) :
    (m.insert k v).1.get? x = if k = x then some v else m.get? x := by
  unfold insert
  cases h : m.get? k with
  | some old =>
    obtain ⟨e,he,hek⟩ : ∃ e, m.entries.find? (·.1 = k) = some e ∧ e.1 = k := by
      simp only [get?,Option.map_eq_some_iff] at h
      obtain ⟨e,he,-⟩ := h
      exact ⟨e,he,by simpa using List.find?_some he⟩
    simp only [get?,List.find?_map]
    by_cases hkx : k = x
    · subst hkx
      have hp : ((fun e : String × α => decide (e.1 = k)) ∘
          fun e => if e.1 = k then (k, v) else e) = fun e => decide (e.1 = k) := by
        funext e
        by_cases h' : e.1 = k <;> simp [h']
      rw [hp,he]
      simp [hek]
    · have hp : ((fun e : String × α => decide (e.1 = x)) ∘
          fun e => if e.1 = k then (k, v) else e) = fun e => decide (e.1 = x) := by
        funext e
        by_cases h' : e.1 = k
        · simp [h',hkx]
        · simp [h']
      rw [hp,if_neg hkx]
      cases hf : m.entries.find? (·.1 = x) with
      | none => rfl
      | some e =>
        have hex : e.1 = x := by simpa using List.find?_some hf
        simp [show e.1 ≠ k from fun h => hkx (h.symm.trans hex)]
  | none =>
    simp only [get?,List.find?_append]
    by_cases hkx : k = x
    · subst hkx
      simp only [get?,Option.map_eq_none_iff] at h
      simp [h]
    · simp [hkx]

theorem get?_insert_self (m : NameMap α) (k : String) (v : α) :
    (m.insert k v).1.get? k = some v := by
  simp [get?_insert]

theorem get?_insert_of_ne (m : NameMap α) {k x : String} (v : α) (h : k ≠ x) :
    (m.insert k v).1.get? x = m.get? x := by
  simp [get?_insert,h]

/-- Inserting hands back the value the name had. -/
theorem insert_snd (m : NameMap α) (k : String) (v : α) : (m.insert k v).2 = m.get? k := by
  unfold insert
  split <;> simp_all

/-- Removing a name unmaps it and leaves every other name as it was. -/
theorem get?_erase (m : NameMap α) (k x : String) :
    (m.erase k).1.get? x = if k = x then none else m.get? x := by
  unfold erase
  cases h : m.get? k with
  | none =>
    by_cases hkx : k = x
    · subst hkx
      simpa using h
    · simp [hkx]
  | some old =>
    by_cases hkx : k = x
    · subst hkx
      simp [get?,List.find?_filter]
    · -- past the filter, an entry named `x` is never named `k`
      have hp : (fun e : String × α => !decide (e.1 = k) && decide (e.1 = x)) =
          fun e => decide (e.1 = x) := by
        funext e
        by_cases he : e.1 = x
        · simp [he,Ne.symm hkx]
        · simp [he]
      simp [get?,List.find?_filter,hkx,hp]

/-- A map just made is empty. -/
theorem get?_of_make {b : Int} {lf : Float} {m : NameMap α} (h : make b lf = .ok m) (x : String) :
    m.get? x = none := by
  by_cases h₁ : b ≤ 0 <;> by_cases h₂ : (Dyadic.ofFloat lf).below 3 4 = true <;>
    simp [make,h₁,h₂] at h
  subst h
  rfl

@[simp] theorem get?_nil (b : Nat) (th : Dyadic) (x : String) :
    (⟨[],b,th⟩ : NameMap α).get? x = none := rfl

end NameMap

/-- The last of `xs` that `f` names `x`. -/
def lastNamed {β : Type} (f : β → String) (xs : List β) (x : String) : Option β :=
  xs.reverse.find? (f · = x)

section LastNamed

variable {α β : Type} (f : β → String)

@[simp] theorem lastNamed_nil (x : String) : lastNamed f [] x = none := rfl

theorem lastNamed_append (xs ys : List β) (x : String) :
    lastNamed f (xs ++ ys) x = (lastNamed f ys x).or (lastNamed f xs x) := by
  simp [lastNamed,List.find?_append]

theorem lastNamed_concat (xs : List β) (b : β) (x : String) :
    lastNamed f (xs ++ [b]) x = if f b = x then some b else lastNamed f xs x := by
  rw [lastNamed_append]
  by_cases h : f b = x <;> simp [lastNamed,h]

theorem lastNamed_cons (b : β) (xs : List β) (x : String) :
    lastNamed f (b :: xs) x = (lastNamed f xs x).or (if f b = x then some b else none) := by
  rw [← List.singleton_append,lastNamed_append]
  by_cases h : f b = x <;> simp [lastNamed,h]

theorem lastNamed_congr {g : β → String} {xs : List β} (h : ∀ b ∈ xs, f b = g b) (x : String) :
    lastNamed f xs x = lastNamed g xs x := by
  induction xs with
  | nil => rfl
  | cons b xs ih =>
    rw [lastNamed_cons,lastNamed_cons,ih fun c hc => h c (by simp [hc]),h b (by simp)]

theorem lastNamed_spec {xs : List β} {x : String} {b : β} (h : lastNamed f xs x = some b) :
    b ∈ xs ∧ f b = x := by
  have h' := List.find?_some h
  exact ⟨List.mem_reverse.1 (List.mem_of_find?_eq_some h),by simpa using h'⟩

theorem lastNamed_eq_none {xs : List β} {x : String} :
    lastNamed f xs x = none ↔ ∀ b ∈ xs, f b ≠ x := by
  simp [lastNamed,List.find?_eq_none]

theorem lastNamed_eq_none_iff_not_mem {xs : List β} {x : String} :
    lastNamed f xs x = none ↔ x ∉ xs.map f := by
  simp [lastNamed_eq_none]

/-- Mapping through `g` names the image of the last. -/
theorem lastNamed_map {γ : Type} (g : γ → β) (xs : List γ) (x : String) :
    lastNamed f (xs.map g) x = (lastNamed (f ∘ g) xs x).map g := by
  simp only [lastNamed,← List.map_reverse,List.find?_map]
  rfl

/-- A map given the bindings `xs` in order answers each name with the last of them. -/
theorem get?_foldl_insert (key : β → String) (val : β → α) (m : NameMap α) (xs : List β)
    (x : String) :
    (xs.foldl (fun m b => (m.insert (key b) (val b)).1) m).get? x =
      ((lastNamed key xs x).map val).or (m.get? x) := by
  induction xs generalizing m with
  | nil => simp
  | cons b xs ih =>
    rw [List.foldl_cons,ih,NameMap.get?_insert,lastNamed_cons]
    cases lastNamed key xs x <;> by_cases h : key b = x <;> simp [h]

/-- A map listing the bindings `xs` last first answers each name with the last of them. -/
theorem get?_reverse_map (xs : List β) (n : Nat) (th : Dyadic) (x : String) :
    (⟨xs.reverse.map fun b => (f b, b), n, th⟩ : NameMap β).get? x = lastNamed f xs x := by
  simp only [NameMap.get?,lastNamed,List.find?_map,Option.map_map]
  exact Option.map_id'

end LastNamed

end Combinatory
