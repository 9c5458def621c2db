import Combinatory.Arena.Ops
import Mathlib

/-! The geometry an arena is made with. Both constructors round sizes up to powers of two in
64-bit words, where the rounding wraps to zero above `2 ^ 63` (`Arena.nextPow2_toNat`); the
checks run in a fixed order, which decides the error (`Arena.made_geometry`). -/
namespace Combinatory

namespace Arena

/-- For `2 ≤ v`, the power of two one bit longer than `v - 1` is the least one at least `v`. -/
theorem two_pow_log2_pred_succ {v : Nat} (hv : 2 ≤ v) :
    2 ^ (Nat.log2 (v - 1) + 1) = 2 ^ Nat.clog 2 v := by
  congr 1
  apply Nat.le_antisymm
  · -- `2 ^ log2 (v - 1) ≤ v - 1 < v`
    have hle := Nat.log2_self_le (n := v - 1) (by omega)
    exact Nat.succ_le_of_lt ((Nat.lt_clog_iff_pow_lt Nat.one_lt_two).2 (by omega))
  · -- `v ≤ 2 ^ (log2 (v - 1) + 1)`
    have hlt := Nat.lt_log2_self (n := v - 1)
    exact Nat.clog_le_of_le_pow (by omega)

/-- The least power of two at least `v` is at most `2 ^ k` exactly when `v` is. -/
theorem pow_clog_le_iff {v k : Nat} : 2 ^ Nat.clog 2 v ≤ 2 ^ k ↔ v ≤ 2 ^ k := by
  rw [Nat.pow_le_pow_iff_right Nat.one_lt_two, Nat.clog_le_iff_le_pow Nat.one_lt_two]

theorem one_le_pow_clog (v : Nat) : 1 ≤ 2 ^ Nat.clog 2 v := Nat.one_le_two_pow

/-- The 64-bit rounding to a power of two: the least power of two at least `v`, or `0` when
that power does not fit a word. -/
theorem nextPow2_toNat (v : UInt64) :
    (nextPow2 v).toNat = if v.toNat ≤ 2 ^ 63 then 2 ^ Nat.clog 2 v.toNat else 0 := by
  unfold nextPow2
  split
  · rename_i hv
    rw [UInt64.le_iff_toNat_le] at hv
    have hv1 : v.toNat ≤ 1 := by simpa using hv
    rw [if_pos (Nat.le_trans hv1 Nat.one_le_two_pow), Nat.clog_of_right_le_one hv1]
    rfl
  · rename_i hv
    rw [UInt64.le_iff_toNat_le] at hv
    have hv2 : 2 ≤ v.toNat := by simp at hv; omega
    dsimp only
    rw [two_pow_log2_pred_succ hv2]
    -- the rounded value fits a word exactly when `v` is at most `2 ^ 63`
    have hfit : 2 ^ Nat.clog 2 v.toNat < 2 ^ 64 ↔ v.toNat ≤ 2 ^ 63 := by
      rw [Nat.pow_lt_pow_iff_right Nat.one_lt_two, show 64 = 63 + 1 from rfl, Nat.lt_succ_iff,
        Nat.clog_le_iff_le_pow Nat.one_lt_two]
    split
    · rename_i hp
      rw [if_pos (hfit.1 hp), UInt64.toNat_ofNat', Nat.mod_eq_of_lt hp]
    · rename_i hp
      rw [if_neg (mt hfit.2 hp)]
      rfl

end Arena

namespace Geometry

/-- The checks of `make` in natural numbers: a zero capacity, then a block size that rounds past
a word, then a rounded capacity above `2 ^ 31` or below the rounded block size are refused, in
that order; otherwise the geometry has the rounded sizes and the clamped region limit. -/
theorem make_eq (aligned : Bool) (c b m : UInt64) :
    make aligned c b m =
      if c.toNat = 0 then .error .zeroCapacity
      else if 2 ^ 63 < b.toNat then .error .blockSizeTooSmall
      else if 2 ^ 31 < c.toNat ∨ 2 ^ Nat.clog 2 c.toNat < 2 ^ Nat.clog 2 b.toNat then
        .error .capacityOutOfRange
      else .ok { aligned
                 capacity := 2 ^ Nat.clog 2 c.toNat
                 blockSize := 2 ^ Nat.clog 2 b.toNat
                 maxRegions := min (max m.toNat 1) (2 ^ 16) } := by
  have hcap := Arena.nextPow2_toNat c
  have hbs := Arena.nextPow2_toNat b
  have hc0 : c = 0 ↔ c.toNat = 0 := by rw [← UInt64.toNat_inj]; rfl
  unfold make
  by_cases hc : c.toNat = 0
  · simp [hc0.2 hc]
  rw [if_neg (mt hc0.1 hc), if_neg hc]
  dsimp only
  by_cases hb : 2 ^ 63 < b.toNat
  · -- the block size rounds past a word and wraps to zero
    have : Arena.nextPow2 b = 0 := by
      rw [← UInt64.toNat_inj, hbs, if_neg (by omega)]
      rfl
    rw [if_pos this, if_pos hb]
  have hbs' : (Arena.nextPow2 b).toNat = 2 ^ Nat.clog 2 b.toNat := by rw [hbs, if_pos (by omega)]
  have hne : Arena.nextPow2 b ≠ 0 := fun h0 => by
    have := Arena.one_le_pow_clog b.toNat
    rw [← hbs', h0] at this
    simp at this
  rw [if_neg hne, if_neg hb]
  -- the capacity check reads the rounded capacity, which is zero above `2 ^ 63`
  have hcheck : ((Arena.nextPow2 c).toNat > Arena.maxCapacity ∨ Arena.nextPow2 c < Arena.nextPow2 b) ↔
      (2 ^ 31 < c.toNat ∨ 2 ^ Nat.clog 2 c.toNat < 2 ^ Nat.clog 2 b.toNat) := by
    rw [UInt64.lt_iff_toNat_lt, hcap, hbs', Arena.maxCapacity]
    by_cases hbig : c.toNat ≤ 2 ^ 63
    · have h31 := (Arena.pow_clog_le_iff (v := c.toNat) (k := 31))
      rw [if_pos hbig]
      omega
    · have := Arena.one_le_pow_clog b.toNat
      rw [if_neg hbig]
      omega
  by_cases hbad : 2 ^ 31 < c.toNat ∨ 2 ^ Nat.clog 2 c.toNat < 2 ^ Nat.clog 2 b.toNat
  · rw [if_pos (hcheck.2 hbad), if_pos hbad]
  · rw [if_neg (mt hcheck.1 hbad), if_neg hbad, hbs', hcap, if_pos (by omega)]
    congr 2
    by_cases hm : m = 0
    · simp [hm]
    · have : m.toNat ≠ 0 := fun h0 => hm (UInt64.toNat_inj.1 (by simpa using h0))
      simp [hm, Arena.maxRegionLimit]
      omega

/-- A packed arena: only the capacity can be refused, for being zero or for rounding above
`2 ^ 31`. -/
theorem packed_eq (c m : UInt64) :
    packed c m =
      if c.toNat = 0 then .error .zeroCapacity
      else if 2 ^ 31 < c.toNat then .error .capacityOutOfRange
      else .ok { aligned := false
                 capacity := 2 ^ Nat.clog 2 c.toNat
                 blockSize := 1
                 maxRegions := min (max m.toNat 1) (2 ^ 16) } := by
  rw [packed, make_eq]
  simp [Nat.clog_of_right_le_one]

/-- An aligned arena: a block size below a word is refused before anything else. -/
theorem alignedTo_eq (c b m : UInt64) :
    alignedTo c b m = if b.toNat < 8 then .error .blockSizeTooSmall else make true c b m := by
  -- a word is eight bytes
  have hword : b < Arena.wordSize.toUInt64 ↔ b.toNat < 8 := by
    simp [UInt64.lt_iff_toNat_lt, Arena.wordSize]
  simp only [alignedTo, hword]

/-- The bitmap has one bit per block, in whole bytes. -/
theorem bitmapSize_eq_ceilDiv (g : Geometry) : g.bitmapSize = (g.capacity / g.blockSize) ⌈/⌉ 8 := by
  rw [Nat.ceilDiv_eq_add_pred_div]
  rfl

end Geometry

/-- How each constructor answers, for every capacity `c`, block size `b` and region limit `m`:
a packed arena is made exactly when `1 ≤ c ≤ 2 ^ 31`, an aligned one when also
`8 ≤ b ≤ 2 ^ 63` and `b` rounds up no higher than `c`; otherwise the first failed check names
the error. -/
theorem Arena.made_geometry (c b m : UInt64) (space : Nat) :
    ((∃ a, Arena.packed c m space = .ok a) ↔ 1 ≤ c.toNat ∧ c.toNat ≤ 2 ^ 31) ∧
    ((∃ a, Arena.aligned c b m space = .ok a) ↔
      8 ≤ b.toNat ∧ b.toNat ≤ 2 ^ 63 ∧ 1 ≤ c.toNat ∧ c.toNat ≤ 2 ^ 31 ∧
        2 ^ Nat.clog 2 b.toNat ≤ 2 ^ Nat.clog 2 c.toNat) ∧
    (∀ a, Arena.packed c m space = .ok a →
      a.geometry.capacity = 2 ^ Nat.clog 2 c.toNat ∧ a.geometry.blockSize = 1 ∧
        a.geometry.bitmapSize = (a.geometry.capacity / a.geometry.blockSize) ⌈/⌉ 8 ∧
        a.geometry.maxRegions = min (max m.toNat 1) 65536) ∧
    (∀ a, Arena.aligned c b m space = .ok a →
      a.geometry.capacity = 2 ^ Nat.clog 2 c.toNat ∧
        a.geometry.blockSize = 2 ^ Nat.clog 2 b.toNat ∧
        a.geometry.bitmapSize = (a.geometry.capacity / a.geometry.blockSize) ⌈/⌉ 8 ∧
        a.geometry.maxRegions = min (max m.toNat 1) 65536) ∧
    (∀ e, Arena.packed c m space = .error e →
      e = if c.toNat = 0 then .zeroCapacity else .capacityOutOfRange) ∧
    (∀ e, Arena.aligned c b m space = .error e →
      e = if b.toNat < 8 then .blockSizeTooSmall else if c.toNat = 0 then .zeroCapacity
        else if 2 ^ 63 < b.toNat then .blockSizeTooSmall else .capacityOutOfRange) := by
  have hpacked : Arena.packed c m space =
      (Geometry.packed c m).map (Arena.ofGeometry · space) := rfl
  have haligned : Arena.aligned c b m space =
      (Geometry.alignedTo c b m).map (Arena.ofGeometry · space) := rfl
  rw [Geometry.packed_eq] at hpacked
  rw [Geometry.alignedTo_eq, Geometry.make_eq] at haligned
  refine ⟨?_, ?_, fun a ha => ?_, fun a ha => ?_, fun e he => ?_, fun e he => ?_⟩
  · rw [hpacked]
    split_ifs <;> simp [Except.map] <;> omega
  · rw [haligned]
    split_ifs <;> simp [Except.map] <;> omega
  · rw [hpacked] at ha
    split_ifs at ha <;> simp [Except.map] at ha
    subst ha
    simp [Arena.ofGeometry, Geometry.bitmapSize_eq_ceilDiv]
  · rw [haligned] at ha
    split_ifs at ha <;> simp [Except.map] at ha
    subst ha
    simp [Arena.ofGeometry, Geometry.bitmapSize_eq_ceilDiv]
  · rw [hpacked] at he
    split_ifs at he with h₁ h₂
    · cases he
      rw [if_pos h₁]
    · cases he
      rw [if_neg h₁]
    · cases he
  · rw [haligned] at he
    split_ifs at he with h₁ h₂ h₃ h₄
    · cases he
      rw [if_pos h₁]
    · cases he
      rw [if_neg h₁, if_pos h₂]
    · cases he
      rw [if_neg h₁, if_neg h₂, if_pos h₃]
    · cases he
      rw [if_neg h₁, if_neg h₂, if_neg h₃]
    · cases he

end Combinatory
