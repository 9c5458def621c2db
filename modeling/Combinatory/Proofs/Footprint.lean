import Combinatory.Proofs.ArenaContracts
import Combinatory.Proofs.ArenaGeometry

/-! The footprint of an allocation is the least multiple of the block size that holds the
payload and its size word (`Geometry.isLeast_blocksFor_mul`). `roundedSize` computes it in
64-bit words, modulo `2 ^ 64` (`Geometry.roundedSize_toNat`), in every arena a run reaches
(`Arena.roundedSize_footprint`). -/
namespace Combinatory

open Arena (wordSize)

namespace Geometry

variable {g : Geometry}

/-- Rounding down to a multiple of a divisor of `2 ^ 64` commutes with reduction modulo
`2 ^ 64`. -/
theorem mod_div_mul_mod {B : Nat} (hB : B ∣ 2 ^ 64) (x : Nat) :
    x % 2 ^ 64 / B * B % 2 ^ 64 = x / B * B % 2 ^ 64 := by
  -- both roundings drop the same remainder, `x % B`
  have hr : x % 2 ^ 64 % B = x % B := Nat.mod_mod_of_dvd x hB
  have h₁ := Nat.mod_add_div (x % 2 ^ 64) B
  have h₂ := Nat.mod_add_div x B
  rw [hr, Nat.mul_comm] at h₁
  rw [Nat.mul_comm] at h₂
  omega

/-- The blocks of a payload of `n` bytes make the least multiple of the block size that holds
the payload and its size word. -/
theorem isLeast_blocksFor_mul (hpos : 0 < g.blockSize) (hp : g.aligned = false → g.blockSize = 1)
    (n : Nat) : IsLeast {m | g.blockSize ∣ m ∧ n + 8 ≤ m} (g.blocksFor n * g.blockSize) := by
  refine ⟨⟨Nat.dvd_mul_left _ _, le_blocksFor_mul g hpos n⟩, ?_⟩
  rintro m ⟨⟨k, rfl⟩, hm⟩
  unfold blocksFor
  split
  · -- the rounded-up count of blocks is at most the `k` blocks of any such multiple
    have hlt : (n + wordSize + g.blockSize - 1) / g.blockSize < k + 1 := by
      rw [Nat.div_lt_iff_lt_mul hpos, Nat.add_mul, Nat.one_mul, Nat.mul_comm]
      simp only [wordSize]
      omega
    rw [Nat.mul_comm g.blockSize k]
    exact Nat.mul_le_mul_right _ (Nat.le_of_lt_succ hlt)
  · rename_i ha
    rw [hp (by simpa using ha)] at hm ⊢
    simpa [wordSize] using hm

/-- The footprint is less than one block past the payload and its size word. -/
theorem blocksFor_mul_lt (hp : g.aligned = false → g.blockSize = 1) (n : Nat) :
    g.blocksFor n * g.blockSize < n + 8 + g.blockSize := by
  unfold blocksFor
  split
  · have := Nat.div_mul_le_self (n + wordSize + g.blockSize - 1) g.blockSize
    simp only [wordSize] at this ⊢
    omega
  · rename_i ha
    rw [hp (by simpa using ha)]
    simp [wordSize]

theorem blocksFor_mono {n n' : Nat} (h : n ≤ n') : g.blocksFor n ≤ g.blocksFor n' := by
  unfold blocksFor
  split
  · exact Nat.div_le_div_right (by omega)
  · omega

/-- The 64-bit footprint of a non-empty payload, for a block size dividing `2 ^ 63` that is one
byte in a packed arena: the footprint in bytes, reduced modulo `2 ^ 64`. -/
theorem roundedSize_toNat (hB : g.blockSize ∣ 2 ^ 63) (hp : g.aligned = false → g.blockSize = 1)
    {s : UInt64} (hs : s ≠ 0) :
    (g.roundedSize s).toNat = g.blocksFor s.toNat * g.blockSize % 2 ^ 64 := by
  have hle : g.blockSize ≤ 2 ^ 63 := Nat.le_of_dvd (Nat.two_pow_pos 63) hB
  have hb64 : g.blockSize.toUInt64.toNat = g.blockSize := by simp; omega
  have htot : (s + wordSize.toUInt64).toNat = (s.toNat + 8) % 2 ^ 64 := by
    rw [UInt64.toNat_add]
    rfl
  unfold roundedSize blocksFor
  rw [if_neg hs]
  dsimp only
  split
  · -- aligned: the sum with `blockSize - 1` wraps as the sum of naturals reduced does
    have hsum : (s + wordSize.toUInt64 + g.blockSize.toUInt64 - 1).toNat =
        (s.toNat + 8 + g.blockSize - 1) % 2 ^ 64 := by
      rw [UInt64.toNat_sub, UInt64.toNat_add, htot, hb64]
      have hpos : 0 < g.blockSize := Nat.pos_of_dvd_of_pos hB (Nat.two_pow_pos 63)
      simp only [UInt64.toNat_one]
      omega
    rw [UInt64.toNat_mul, UInt64.toNat_div, hsum, hb64]
    exact mod_div_mul_mod (Nat.dvd_trans hB (Nat.pow_dvd_pow 2 (Nat.le_succ 63))) _
  · rename_i ha
    have h1 := hp (by simpa using ha)
    rw [UInt64.toNat_mul, htot, hb64, h1]
    simp [wordSize]

/-- The constructors make block sizes dividing `2 ^ 63`, of one byte when packed. -/
theorem blockSize_of_made {c b m : UInt64} (h : packed c m = .ok g ∨ alignedTo c b m = .ok g) :
    g.blockSize ∣ 2 ^ 63 ∧ (g.aligned = false → g.blockSize = 1) := by
  rcases h with h | h
  · rw [packed_eq] at h
    split_ifs at h
    cases h
    simp
  · rw [alignedTo_eq, make_eq] at h
    split_ifs at h with _ _ _ hbad
    cases h
    refine ⟨Nat.pow_dvd_pow 2 ?_, by simp⟩
    -- the rounded block is at most the rounded capacity, at most `2 ^ 31`
    rw [not_or, not_lt, not_lt] at hbad
    have hcap : 2 ^ Nat.clog 2 c.toNat ≤ 2 ^ 31 := Arena.pow_clog_le_iff.2 hbad.1
    have := (Nat.pow_le_pow_iff_right Nat.one_lt_two).1 (hbad.2.trans hcap)
    omega

end Geometry

namespace Arena

variable {a b : Arena}

/-! ### Every call keeps the geometry -/

theorem allocAt_geometry {n i off : Nat} (h : a.allocAt n = .ok (b, i, off)) :
    b.geometry = a.geometry := by
  simp only [allocAt, bind, Except.bind] at h
  split at h
  · cases h
  rename_i v hp
  obtain ⟨a₁, pl⟩ := v
  simp only [pure, Except.pure, Except.ok.injEq, Prod.mk.injEq] at h
  obtain ⟨rfl, -, -⟩ := h
  obtain ⟨-, -, -, -, -, ⟨rfl, -⟩ | ⟨rfl, -⟩⟩ := place_cases hp <;> rfl

theorem alloc_geometry {n : UInt64} {q : Ptr} (h : a.alloc n = .ok (b, q)) :
    b.geometry = a.geometry := by
  obtain ⟨i, off, hA, -⟩ := alloc_ok h
  exact allocAt_geometry hA

theorem strdup_geometry {bytes : ByteArray} {q : Ptr} (h : a.strdup bytes = .ok (b, q)) :
    b.geometry = a.geometry := by
  obtain ⟨a', i, off, hA, rfl, -⟩ := strdup_ok h
  rw [writeAt_geometry]
  exact allocAt_geometry hA

theorem free_geometry {p : Ptr} (h : a.free p = .ok b) : b.geometry = a.geometry := by
  obtain ⟨res, -, rfl⟩ := free_ok h
  rfl

theorem realloc_geometry {p q : Ptr} {n : UInt64} (h : a.realloc p n = .ok (b, q)) :
    b.geometry = a.geometry := by
  obtain ⟨res, a', i, off, -, -, hA, rfl, -⟩ := realloc_ok h
  rw [release_geometry, writeAt_geometry]
  exact allocAt_geometry hA

theorem write_geometry {p : Ptr} {pos : Nat} {bytes : ByteArray}
    (h : a.write p pos bytes = .ok (some b)) : b.geometry = a.geometry := by
  obtain ⟨res, -, -, rfl⟩ := write_ok h
  rfl

theorem reset_geometry (h : a.reset = .ok b) : b.geometry = a.geometry := by
  unfold reset at h
  split at h <;> cases h
  rfl

theorem destroy_geometry (h : a.destroy = .ok b) : b.geometry = a.geometry := by
  unfold destroy at h
  split at h <;> cases h
  rfl

namespace Session

theorem grant_geometry (s : Session) (size : Nat) {r : Except ArenaError (Arena × Ptr)}
    (h : ∀ b q, r = .ok (b, q) → b.geometry = s.arena.geometry) :
    (s.grant size r).arena.geometry = s.arena.geometry := by
  cases r with
  | error e => rfl
  | ok v => exact h v.1 v.2 rfl

/-- A call keeps the geometry of the arena, whether it succeeds or not. -/
theorem perform_geometry (s : Session) (c : Call) :
    (s.perform c).arena.geometry = s.arena.geometry := by
  cases c with
  | alloc n => exact grant_geometry s _ fun _ _ => alloc_geometry
  | allocArray e n => exact grant_geometry s _ fun _ _ h => alloc_geometry (allocArray_ok h)
  | strdup bytes => exact grant_geometry s _ fun _ _ => strdup_geometry
  | free p =>
    simp only [perform]
    split
    · exact free_geometry ‹_›
    · rfl
  | realloc p n =>
    simp only [perform]
    split
    · exact realloc_geometry ‹_›
    · rfl
  | write p pos bytes =>
    simp only [perform]
    split
    · exact write_geometry ‹_›
    · rfl
  | reset =>
    simp only [perform]
    split
    · exact reset_geometry ‹_›
    · rfl
  | destroy =>
    simp only [perform]
    split
    · exact destroy_geometry ‹_›
    · rfl

/-- A run keeps the geometry: it is the one the arena was made with. -/
theorem replay_geometry (s : Session) (calls : List Call) :
    (replay s calls).arena.geometry = s.arena.geometry := by
  induction calls generalizing s with
  | nil => rfl
  | cons c cs ih => rw [replay_cons, ih, perform_geometry]

end Session

/-- The geometry of an arena a constructor made is the geometry it checked. -/
theorem geometry_of_made {r : Except ArenaError Geometry} {space : Nat}
    (h : r.map (ofGeometry · space) = .ok a) : r = .ok a.geometry := by
  cases r with
  | error e => cases h
  | ok g =>
    cases h
    rfl

/-- A reachable arena has the block size of one the constructors make. -/
theorem Reachable.blockSize {c : Arena} (hc : c.Reachable) :
    c.geometry.blockSize ∣ 2 ^ 63 ∧ (c.geometry.aligned = false → c.geometry.blockSize = 1) := by
  obtain ⟨cap, bs, m, space, a, calls, hmade, -, rfl⟩ := hc
  rw [Session.replay_geometry]
  exact Geometry.blockSize_of_made (hmade.imp geometry_of_made geometry_of_made)

/-- The footprint an arena reports for a payload of `s ≥ 1` bytes is the least multiple of its
block size that is at least `s + 8`, reduced modulo `2 ^ 64`. So it is that multiple whenever
`s + 8 + blockSize ≤ 2 ^ 64`, and on those sizes it is at least `s + 8` and grows with `s`. -/
theorem roundedSize_footprint {c : Arena} (hc : c.Reachable) {s : UInt64} (hs : s ≠ 0) :
    ∃ M, IsLeast {m | c.geometry.blockSize ∣ m ∧ s.toNat + 8 ≤ m} M ∧
      (c.roundedSize s).toNat = M % 2 ^ 64 ∧
      (s.toNat + 8 + c.geometry.blockSize ≤ 2 ^ 64 →
        (c.roundedSize s).toNat = M ∧ s.toNat + 8 ≤ (c.roundedSize s).toNat ∧
          ∀ s' : UInt64, s' ≠ 0 → s' ≤ s → c.roundedSize s' ≤ c.roundedSize s) := by
  obtain ⟨hB, hp⟩ := hc.blockSize
  have hpos : 0 < c.geometry.blockSize := Nat.pos_of_dvd_of_pos hB (Nat.two_pow_pos 63)
  -- below the bound every footprint fits a word, so the reduction does nothing
  have hexact : ∀ t : UInt64, t ≠ 0 → t.toNat + 8 + c.geometry.blockSize ≤ 2 ^ 64 →
      (c.roundedSize t).toNat = c.geometry.blocksFor t.toNat * c.geometry.blockSize := by
    intro t ht hfit
    rw [roundedSize, Geometry.roundedSize_toNat hB hp ht, Nat.mod_eq_of_lt]
    have := Geometry.blocksFor_mul_lt hp t.toNat
    omega
  have hleast := Geometry.isLeast_blocksFor_mul hpos hp s.toNat
  refine ⟨_, hleast, Geometry.roundedSize_toNat hB hp hs, fun hfit => ⟨hexact s hs hfit, ?_, ?_⟩⟩
  · rw [hexact s hs hfit]
    exact hleast.1.2
  · intro s' hs' hle
    rw [UInt64.le_iff_toNat_le] at hle ⊢
    rw [hexact s hs hfit, hexact s' hs' (by omega)]
    exact Nat.mul_le_mul_right _ (Geometry.blocksFor_mono (by omega))

/-- The aligned arena of 256-byte regions of 16-byte blocks, at a payload of nine bytes. -/
theorem roundedSize_footprint_aligned :
    Reachable (ofGeometry ⟨true, 256, 16, 1⟩ 1) ∧ (9 : UInt64) ≠ 0 ∧
      ∃ M, IsLeast {m | (ofGeometry ⟨true, 256, 16, 1⟩ 1).geometry.blockSize ∣ m ∧
          (9 : UInt64).toNat + 8 ≤ m} M ∧
        ((ofGeometry ⟨true, 256, 16, 1⟩ 1).roundedSize 9).toNat = M % 2 ^ 64 ∧
        ((9 : UInt64).toNat + 8 + (ofGeometry ⟨true, 256, 16, 1⟩ 1).geometry.blockSize ≤ 2 ^ 64 →
          ((ofGeometry ⟨true, 256, 16, 1⟩ 1).roundedSize 9).toNat = M ∧
            (9 : UInt64).toNat + 8 ≤ ((ofGeometry ⟨true, 256, 16, 1⟩ 1).roundedSize 9).toNat ∧
            ∀ s' : UInt64, s' ≠ 0 → s' ≤ 9 →
              (ofGeometry ⟨true, 256, 16, 1⟩ 1).roundedSize s' ≤
                (ofGeometry ⟨true, 256, 16, 1⟩ 1).roundedSize 9) :=
  have hc : Reachable (ofGeometry ⟨true, 256, 16, 1⟩ 1) :=
    ⟨256, 16, 1, 1, _, [], .inr rfl, by decide, rfl⟩
  ⟨hc, by decide, roundedSize_footprint hc (by decide)⟩

/-- In a packed arena the largest payload wraps: its footprint word is `7`, short of the payload
and its size word. -/
theorem roundedSize_wraps_at_word_end :
    packed 1024 1 0 = .ok (ofGeometry ⟨false, 1024, 1, 1⟩ 0) ∧
      (ofGeometry ⟨false, 1024, 1, 1⟩ 0).roundedSize 18446744073709551615 = 7 ∧
      ((ofGeometry ⟨false, 1024, 1, 1⟩ 0).roundedSize 18446744073709551615).toNat <
        (18446744073709551615 : UInt64).toNat + 8 :=
  ⟨rfl, by decide, by decide⟩

end Arena

end Combinatory
