import Combinatory.Proofs.Chaining
import Mathlib.Algebra.Order.Field.Rat
import Mathlib.Tactic.Linarith
import Mathlib.Tactic.Positivity

/-! The load of a chained map: after every call its names number fewer than the threshold
times its buckets, for every threshold of at least `3 / 4`
(`ChainedMap.load_stays_below_threshold`). The threshold is a double, compared exactly as a
dyadic number (`Dyadic.ratioAtLeast_finite_iff`). -/
namespace Combinatory

namespace Dyadic

/-- The number a finite value stands for: `±m · 2 ^ e`. -/
def toRat (negative : Bool) (m : Nat) (e : Int) : ℚ := (if negative then -(m : ℚ) else m) * 2 ^ e

/-- `q < x`: a finite value exceeds the numbers below it, `+∞` every number, and neither `-∞`
nor a NaN any. -/
def Exceeds (x : Dyadic) (q : ℚ) : Prop :=
  match x with
  | .finite negative m e => q < toRat negative m e
  | .nonFinite isNaN negative => isNaN = false ∧ negative = false

/-- `q ≤ x`, the values that are not finite read as for `Exceeds`. -/
def AtLeast (x : Dyadic) (q : ℚ) : Prop :=
  match x with
  | .finite negative m e => q ≤ toRat negative m e
  | .nonFinite isNaN negative => isNaN = false ∧ negative = false

theorem toRat_true_nonpos (m : Nat) (e : Int) : toRat true m e ≤ 0 := by
  have : (0 : ℚ) ≤ m * 2 ^ e := mul_nonneg (Nat.cast_nonneg m) (zpow_nonneg (by norm_num) e)
  simp only [toRat, if_true, neg_mul]
  linarith

/-- The growth test compares a ratio with a finite threshold exactly. -/
theorem ratioAtLeast_finite_iff {num den : Nat} (hden : 0 < den) (negative : Bool) (m : Nat)
    (e : Int) :
    ratioAtLeast num den (.finite negative m e) = true ↔ toRat negative m e ≤ num / den := by
  have hden' : (0 : ℚ) < den := by exact_mod_cast hden
  cases negative with
  | true =>
    have : (0 : ℚ) ≤ num / den := by positivity
    simp only [ratioAtLeast, if_true, true_iff]
    linarith [toRat_true_nonpos m e]
  | false =>
    simp only [ratioAtLeast, Bool.false_eq_true, if_false, toRat]
    split
    · -- a natural exponent: compare `m · 2 ^ e · den` with `num`
      rename_i he
      obtain ⟨k, rfl⟩ := Int.eq_ofNat_of_zero_le he
      simp only [zpow_natCast, Int.toNat_natCast, ge_iff_le, decide_eq_true_eq]
      rw [le_div_iff₀ hden']
      exact_mod_cast Iff.rfl
    · -- a negative exponent: compare `m · den` with `num · 2 ^ -e`
      rename_i he
      obtain ⟨k, hk⟩ := Int.exists_eq_neg_ofNat (Int.le_of_lt (Int.not_le.1 he))
      subst hk
      simp only [zpow_neg, zpow_natCast, neg_neg, Int.toNat_natCast, ge_iff_le,
        decide_eq_true_eq]
      rw [← div_eq_mul_inv, div_le_div_iff₀ (by positivity) hden']
      exact_mod_cast Iff.rfl

/-- A count over a power of two of buckets is a dyadic number with the count as its mantissa,
so dividing the two in binary floating point is exact. -/
theorem div_two_pow_eq_toRat (m k : Nat) : (m : ℚ) / (2 ^ k : Nat) = toRat false m (-k) := by
  simp [toRat, zpow_neg, div_eq_mul_inv]

variable {x : Dyadic} {q q' : ℚ}

theorem Exceeds.mono (h : x.Exceeds q) (hq : q' ≤ q) : x.Exceeds q' := by
  cases x with
  | finite negative m e => exact lt_of_le_of_lt hq h
  | nonFinite isNaN negative => exact h

theorem AtLeast.exceeds (h : x.AtLeast q) (hq : q' < q) : x.Exceeds q' := by
  cases x with
  | finite negative m e => exact lt_of_lt_of_le hq h
  | nonFinite isNaN negative => exact h

/-- A threshold that is not NaN exceeds every ratio the growth test finds below it. -/
theorem Exceeds.of_ratioAtLeast_false {num den : Nat} (hden : 0 < den) (hx : x.AtLeast q)
    (h : ratioAtLeast num den x = false) : x.Exceeds (num / den) := by
  cases x with
  | finite negative m e =>
    refine lt_of_not_ge fun hle => ?_
    rw [(ratioAtLeast_finite_iff hden negative m e).2 hle] at h
    cases h
  | nonFinite isNaN negative => exact hx

/-- One more name fits once the buckets double: below a threshold of at least `3 / 4`, one name
more over twice the buckets is still below it. -/
theorem Exceeds.double (hx : x.AtLeast (3 / 4)) {num den : Nat} (hden : 0 < den)
    (h : x.Exceeds (num / den)) : x.Exceeds ((num + 1 : Nat) / (2 * den : Nat)) := by
  cases x with
  | nonFinite isNaN negative => exact hx
  | finite negative m e =>
    simp only [Exceeds, AtLeast] at h hx ⊢
    set v := toRat negative m e
    have hd : (1 : ℚ) ≤ den := by exact_mod_cast hden
    rw [div_lt_iff₀ (by linarith)] at h
    rw [div_lt_iff₀ (by push_cast; linarith)]
    push_cast
    -- an empty map takes its first name below `3 / 4` of a bucket; otherwise `num + 1 ≤ 2 num`
    rcases Nat.eq_zero_or_pos num with h0 | hpos
    · subst h0
      push_cast
      nlinarith
    · have : (1 : ℚ) ≤ num := by exact_mod_cast hpos
      nlinarith

end Dyadic

namespace ChainedMap

variable {α : Type} (hash : String → UInt64)

@[simp] theorem grow_count (m : ChainedMap α) : (m.grow hash).count = m.count := rfl

@[simp] theorem grow_threshold (m : ChainedMap α) : (m.grow hash).threshold = m.threshold := rfl

@[simp] theorem size_grow (m : ChainedMap α) :
    (m.grow hash).buckets.size = 2 * m.buckets.size := by
  simp [grow]

/-- One call keeps the threshold. It keeps the buckets and does not raise the count, or it
counts one new name and doubles the buckets exactly when the ratio then reaches the
threshold. -/
theorem perform_load (c : ChainedMap α) (call : MapCall α) :
    (c.perform hash call).1.threshold = c.threshold ∧
      (((c.perform hash call).1.buckets.size = c.buckets.size ∧
          (c.perform hash call).1.count ≤ c.count) ∨
        ((c.perform hash call).1.count = c.count + 1 ∧
          (c.perform hash call).1.buckets.size =
            if Dyadic.ratioAtLeast (c.count + 1) c.buckets.size c.threshold then
              2 * c.buckets.size else c.buckets.size)) := by
  cases call with
  | insert k v =>
    simp only [perform, insert]
    cases c.get? hash k with
    | some old => simp
    | none =>
      dsimp only
      split <;> simp_all
  | erase k =>
    simp only [perform, erase]
    split
    · simp
    · simp only [size_modifyBucket, modifyBucket_threshold, true_and]
      exact .inl (Nat.sub_le _ _)
  | get k => simp [perform]
  | contains k => simp [perform]
  | free => simp [perform, free]

/-- The load invariant: a power of two of buckets, and fewer names than the threshold times
the buckets. -/
structure LoadBounded (c : ChainedMap α) : Prop where
  pow2 : ∃ k, c.buckets.size = 2 ^ k
  below : c.threshold.Exceeds (c.count / c.buckets.size)

variable {c : ChainedMap α}

/-- Every call keeps the load invariant and never takes buckets away. -/
theorem LoadBounded.perform (ht : c.threshold.AtLeast (3 / 4)) (h : c.LoadBounded)
    (call : MapCall α) :
    (c.perform hash call).1.LoadBounded ∧ c.buckets.size ≤ (c.perform hash call).1.buckets.size := by
  obtain ⟨k, hk⟩ := h.pow2
  have hpos : 0 < c.buckets.size := hk ▸ Nat.two_pow_pos k
  obtain ⟨hth, ⟨hsize, hcount⟩ | ⟨hcount, hsize⟩⟩ := perform_load hash c call
  · -- the buckets stay and the count does not rise
    refine ⟨⟨⟨k, hsize.trans hk⟩, ?_⟩, hsize.ge⟩
    rw [hth, hsize]
    exact h.below.mono (div_le_div_of_nonneg_right (by exact_mod_cast hcount) (by positivity))
  · -- a new name: the buckets double exactly when the ratio reaches the threshold
    split at hsize
    · refine ⟨⟨⟨k + 1, by rw [hsize, hk, Nat.pow_succ, Nat.mul_comm]⟩, ?_⟩, by omega⟩
      rw [hth, hsize, hcount]
      exact Dyadic.Exceeds.double ht hpos h.below
    · rename_i hgrow
      refine ⟨⟨⟨k, hsize.trans hk⟩, ?_⟩, hsize.ge⟩
      rw [hth, hsize, hcount]
      exact Dyadic.Exceeds.of_ratioAtLeast_false hpos ht (by simpa using hgrow)

/-- Every run keeps the load invariant and the threshold, and never takes buckets away. -/
theorem LoadBounded.replay (ht : c.threshold.AtLeast (3 / 4)) (h : c.LoadBounded)
    (calls : List (MapCall α)) :
    (c.replay hash calls).1.LoadBounded ∧ c.buckets.size ≤ (c.replay hash calls).1.buckets.size ∧
      (c.replay hash calls).1.threshold = c.threshold := by
  induction calls generalizing c with
  | nil => exact ⟨h, le_rfl, rfl⟩
  | cons call rest ih =>
    obtain ⟨h₁, hle₁⟩ := h.perform hash ht call
    have hth₁ := (perform_load hash c call).1
    obtain ⟨h₂, hle₂, hth₂⟩ := ih (hth₁ ▸ ht) h₁
    exact ⟨h₂, hle₁.trans hle₂, hth₂.trans hth₁⟩

/-- A new map meets the load invariant: its buckets are the requested count rounded up to a
power of two, and it holds no name. -/
theorem loadBounded_empty (n : Nat) {t : Dyadic} (ht : t.AtLeast (3 / 4)) :
    (empty n t : ChainedMap α).LoadBounded := by
  refine ⟨?_, ?_⟩
  · simp only [empty, Array.size_replicate, NameMap.roundPow2]
    split
    · exact ⟨0, rfl⟩
    · exact ⟨_, rfl⟩
  · simpa [empty] using ht.exceeds (by norm_num)

end ChainedMap

/-- For every bucket count asked for and every threshold of at least `3 / 4`, along every run
of calls the bucket count is a power of two `2 ^ k` that never decreases, so that the ratio of
names to buckets is the dyadic number of mantissa the count and exponent `-k`, and after every
call the names number fewer than the threshold times the buckets. -/
theorem ChainedMap.load_stays_below_threshold {α : Type} (hash : String → UInt64) (n : Nat)
    (t : Dyadic) (ht : t.AtLeast (3 / 4)) (calls more : List (MapCall α)) :
    let c := ((ChainedMap.empty n t : ChainedMap α).replay hash calls).1
    (∃ k : Nat, c.buckets.size = 2 ^ k ∧
        (c.size : ℚ) / c.buckets.size = Dyadic.toRat false c.size (-(k : Int))) ∧
      c.buckets.size ≤ (c.replay hash more).1.buckets.size ∧
      t.Exceeds (c.size / c.buckets.size) := by
  intro c
  have h₀ : (ChainedMap.empty n t : ChainedMap α).LoadBounded := ChainedMap.loadBounded_empty n ht
  -- the run keeps the invariant and the threshold, and so does any run after it
  obtain ⟨hc, -, hth⟩ := h₀.replay hash ht calls
  obtain ⟨-, hmore, -⟩ := hc.replay hash (hth ▸ ht) more
  obtain ⟨k, hk⟩ := hc.pow2
  refine ⟨⟨k, hk, by rw [hk]; exact Dyadic.div_two_pow_eq_toRat _ _⟩, hmore, ?_⟩
  have hbelow := hc.below
  rw [hth] at hbelow
  exact hbelow

/-- The threshold `0.75` itself, one bucket asked for, two names inserted and one removed. -/
theorem ChainedMap.load_stays_below_threshold_least :
    (Dyadic.finite false 3 (-2)).AtLeast (3 / 4) ∧
      let c := ((ChainedMap.empty 1 (.finite false 3 (-2)) : ChainedMap Nat).replay (fun _ => 0)
        [.insert "a" 0, .insert "b" 1]).1
      (∃ k : Nat, c.buckets.size = 2 ^ k ∧
          (c.size : ℚ) / c.buckets.size = Dyadic.toRat false c.size (-(k : Int))) ∧
        c.buckets.size ≤ (c.replay (fun _ => 0) [.erase "a"]).1.buckets.size ∧
        (Dyadic.finite false 3 (-2)).Exceeds (c.size / c.buckets.size) :=
  have ht : (Dyadic.finite false 3 (-2)).AtLeast (3 / 4) := by
    norm_num [Dyadic.AtLeast, Dyadic.toRat]
  ⟨ht, ChainedMap.load_stays_below_threshold (fun _ => 0) 1 _ ht _ _⟩

end Combinatory
