import Combinatory.Proofs.BinderStack

/-! The binder stack's capacity follows its use: it is the first capacity times a power of two,
at least the length and below five times the length plus the slack (`Binders.CapInv`), after
every run of calls (`BinderArray.capacity_follows_length`). -/
namespace Combinatory

namespace Binders

/-- A capacity the stack can have: the first capacity doubled some number of times. -/
def IsCap (c : Nat) : Prop := ∃ k, c = initialCap * 2 ^ k

theorem isCap_initial : IsCap initialCap := ⟨0, by simp⟩

theorem IsCap.double {c : Nat} (h : IsCap c) : IsCap (2 * c) := by
  obtain ⟨k, rfl⟩ := h
  exact ⟨k + 1, by rw [Nat.pow_succ, Nat.mul_comm _ 2, Nat.mul_left_comm]⟩

/-- A capacity above the first one halves to a capacity that is still at least the first. -/
theorem IsCap.halve {c : Nat} (h : IsCap c) (hc : initialCap < c) :
    IsCap (max (c / 2) initialCap) ∧ max (c / 2) initialCap = c / 2 := by
  obtain ⟨k, rfl⟩ := h
  cases k with
  | zero => simp at hc
  | succ j =>
    have hhalf : initialCap * 2 ^ (j + 1) / 2 = initialCap * 2 ^ j := by
      rw [Nat.pow_succ, ← Nat.mul_assoc, Nat.mul_div_cancel _ (by decide)]
    have hge : initialCap ≤ initialCap * 2 ^ j := Nat.le_mul_of_pos_right _ (Nat.two_pow_pos j)
    rw [hhalf, Nat.max_eq_left hge]
    exact ⟨⟨j, rfl⟩, rfl⟩

theorem IsCap.initial_le {c : Nat} (h : IsCap c) : initialCap ≤ c := by
  obtain ⟨k, rfl⟩ := h
  exact Nat.le_mul_of_pos_right _ (Nat.two_pow_pos k)

/-- What every call keeps of the capacity: it holds the entries, it is the first capacity
doubled some number of times, and it is below five times the length plus the slack and one,
the point past which a pop halves it. -/
structure CapInv (b : Binders) : Prop where
  len_le : b.len ≤ b.cap
  isCap : IsCap b.cap
  cap_lt : b.cap < 5 * (b.len + slack + 1)

theorem capInv_empty : empty.CapInv :=
  ⟨Nat.zero_le _, isCap_initial, by decide⟩

variable {b : Binders}

@[simp] theorem len_push (b : Binders) (e : Binder) : (b.push e).len = b.len + 1 := by
  simp [Binders.push, len]

/-- A push doubles the capacity exactly when the stack is full. -/
theorem cap_push (b : Binders) (e : Binder) :
    (b.push e).cap = if b.len = b.cap then 2 * b.cap else b.cap := rfl

theorem CapInv.push (h : b.CapInv) (e : Binder) : (b.push e).CapInv := by
  have hle := h.len_le
  have hlt := h.cap_lt
  have hge := h.isCap.initial_le
  by_cases hfull : b.len = b.cap
  · -- a full stack doubles: the new length is one past the old capacity
    have hcap : (b.push e).cap = 2 * b.cap := by rw [cap_push, if_pos hfull]
    refine ⟨?_, hcap ▸ h.isCap.double, ?_⟩ <;> rw [len_push, hcap] <;>
      simp only [initialCap] at hge <;> omega
  · have hcap : (b.push e).cap = b.cap := by rw [cap_push, if_neg hfull]
    refine ⟨?_, hcap ▸ h.isCap, ?_⟩ <;> rw [len_push, hcap] <;> omega

@[simp] theorem len_pop (b : Binders) : b.pop.1.len = b.len - 1 := by
  simp only [len, items_pop, List.length_dropLast]

/-- A pop halves the capacity exactly when it finds an entry, the capacity is above the first
one, and the entries left, with the slack, are below a fifth of it. -/
theorem cap_pop (b : Binders) : b.pop.1.cap =
    if 0 < b.len ∧ initialCap < b.cap ∧ b.len - 1 + slack < b.cap / 5 then
      max (b.cap / 2) initialCap else b.cap := by
  unfold Binders.pop
  by_cases hnil : b.items = []
  · simp [hnil, len]
  · simp [hnil, len, List.length_pos_iff]

theorem CapInv.pop (h : b.CapInv) : b.pop.1.CapInv := by
  have hle := h.len_le
  have hlt := h.cap_lt
  by_cases hshrink : 0 < b.len ∧ initialCap < b.cap ∧ b.len - 1 + slack < b.cap / 5
  · -- the stack halves: the entries left are below a fifth of the capacity, so they fit in half
    obtain ⟨hcap, hhalf⟩ := h.isCap.halve hshrink.2.1
    have hcap' : b.pop.1.cap = b.cap / 2 := by rw [cap_pop, if_pos hshrink, hhalf]
    refine ⟨?_, by rw [hcap', ← hhalf]; exact hcap, ?_⟩ <;> rw [len_pop, hcap'] <;>
      simp only [initialCap, slack] at hshrink hlt ⊢ <;> omega
  · -- the capacity stays: the stack was empty, or had the first capacity, or the entries left
    -- reach a fifth of it less the slack
    have hcap' : b.pop.1.cap = b.cap := by rw [cap_pop, if_neg hshrink]
    refine ⟨?_, hcap' ▸ h.isCap, ?_⟩ <;> rw [len_pop, hcap'] <;>
      simp only [initialCap, slack] at hshrink hlt ⊢ <;> omega

/-- Every call keeps the capacity bounded by the length. -/
theorem CapInv.perform (h : b.CapInv) (c : BinderCall) : (b.perform c).CapInv := by
  cases c with
  | push name tok => exact h.push _
  | pushBoundary => exact h.push _
  | pop => exact h.pop
  | clear => exact capInv_empty

theorem CapInv.run (h : b.CapInv) (calls : List BinderCall) :
    (calls.foldl Binders.perform b).CapInv := by
  induction calls generalizing b with
  | nil => exact h
  | cons c cs ih => exact ih (h.perform c)

end Binders

/-- The capacity of the binder stack follows its length: after every run of pushes, boundary
pushes, pops and clears from a new stack, the entries fit in the slots, the number of slots is
20 doubled some number of times, and it is below five times the length plus 11. A stack that
grew large halves again as it empties, and never has fewer than 20 slots. -/
theorem BinderArray.capacity_follows_length (calls : List BinderCall) :
    let a := calls.foldl BinderArray.perform BinderArray.new
    a.len ≤ a.cap ∧ (∃ k, a.cap = 20 * 2 ^ k) ∧ a.cap < 5 * (a.len + 11) := by
  have h : (calls.foldl BinderArray.perform BinderArray.new).toBinders.CapInv := by
    rw [(BinderArray.run_refines_binders calls).2]
    exact Binders.capInv_empty.run calls
  -- the stack the array stands for has the array's length, and its capacity is the array's size
  obtain ⟨hle, hcap, hlt⟩ := h
  rw [← BinderArray.len_eq] at hle hlt
  exact ⟨hle, hcap, hlt⟩

/-- Eighty-one pushes take a new stack to 160 slots; popping back to 21 entries halves it to 80,
and popping it empty to 40, since the slack keeps small stacks from halving further. -/
example :
    let grown := (List.replicate 81 (BinderCall.push "v" 1)).foldl BinderArray.perform
      BinderArray.new
    let popped := (List.replicate 60 BinderCall.pop).foldl BinderArray.perform grown
    let emptied := (List.replicate 21 BinderCall.pop).foldl BinderArray.perform popped
    grown.cap = 160 ∧ popped.len = 21 ∧ popped.cap = 80 ∧ emptied.len = 0 ∧ emptied.cap = 40 := by
  decide +kernel

end Combinatory
