/-!
# Bitsets

The sets of bits a region keeps over its blocks, as the bitset library behind the arena has
them: a bit past the end reads as clear, setting one past the end extends the set with clear
bits, clearing one past the end does nothing, and the count is the number of bits set.
-/

namespace Combinatory

/-- A set of bits: bit `i` is set when `bits[i]` is `true`. -/
structure Bitset where
  bits : Array Bool
  deriving Inhabited

namespace Bitset

/-- No bit set. -/
def empty : Bitset := ⟨#[]⟩

/-- Whether bit `i` is set. -/
def test (s : Bitset) (i : Nat) : Bool := s.bits.getD i false

/-- Sets bit `i`. -/
def set (s : Bitset) (i : Nat) : Bitset :=
  if h : i < s.bits.size then ⟨s.bits.set i true h⟩
  else ⟨(s.bits ++ Array.replicate (i - s.bits.size) false).push true⟩

/-- Clears bit `i`. -/
def clear (s : Bitset) (i : Nat) : Bitset :=
  if h : i < s.bits.size then ⟨s.bits.set i false h⟩ else s

/-- The number of bits set. -/
def count (s : Bitset) : Nat := s.bits.count true

variable (s : Bitset) (i j : Nat)

@[simp] theorem test_empty : empty.test i = false := by
  simp [empty, test]

@[simp] theorem count_empty : empty.count = 0 := by
  simp [empty, count]

theorem test_of_lt {i : Nat} (h : i < s.bits.size) : s.test i = s.bits[i] := by
  simp [test, h]

theorem test_of_le {i : Nat} (h : s.bits.size ≤ i) : s.test i = false := by
  simp [test, Array.getElem?_eq_none h]

@[simp] theorem test_set : (s.set i).test j = (decide (j = i) || s.test j) := by
  unfold set
  split
  · rename_i h
    simp only [test, Array.getD_eq_getD_getElem?, Array.getElem?_set]
    by_cases hj : i = j
    · subst hj; simp [h]
    · simp [hj, Ne.symm hj]
  · -- past the end: clear bits up to `i`, then bit `i`
    rename_i h
    have hsize : (s.bits ++ Array.replicate (i - s.bits.size) false).size = i := by simp; omega
    simp only [test, Array.getD_eq_getD_getElem?, Array.getElem?_push, hsize]
    by_cases hj : j = i
    · simp [hj]
    · rw [if_neg hj, Array.getElem?_append, Array.getElem?_replicate]
      simp only [hj, decide_false, Bool.false_or]
      split
      · rfl
      · rename_i hlt
        rw [Array.getElem?_eq_none (Nat.le_of_not_lt hlt)]
        split <;> rfl

@[simp] theorem test_clear : (s.clear i).test j = (!decide (j = i) && s.test j) := by
  unfold clear
  split
  · rename_i h
    simp only [test, Array.getD_eq_getD_getElem?, Array.getElem?_set]
    by_cases hj : i = j
    · subst hj; simp [h]
    · simp [hj, Ne.symm hj]
  · rename_i h
    by_cases hj : j = i
    · subst hj; simp [test_of_le s (Nat.le_of_not_lt h)]
    · simp [hj]

theorem count_set : (s.set i).count = if s.test i then s.count else s.count + 1 := by
  unfold set
  split
  · rename_i h
    simp only [count, Array.count_set, test_of_lt s h]
    cases hb : s.bits[i] <;> simp
    have := Array.count_pos_iff.2 (hb ▸ Array.getElem_mem h)
    omega
  · rename_i h
    simp [count, Array.count_append, Array.count_replicate, test_of_le s (Nat.le_of_not_lt h)]

theorem count_clear : (s.clear i).count = if s.test i then s.count - 1 else s.count := by
  unfold clear
  split
  · rename_i h
    simp only [count, Array.count_set, test_of_lt s h]
    cases hb : s.bits[i] <;> simp
  · rename_i h
    simp [test_of_le s (Nat.le_of_not_lt h)]


end Bitset

end Combinatory
