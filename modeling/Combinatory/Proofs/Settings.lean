import Combinatory.Config.Settings
import Combinatory.Proofs.ArenaGeometry

/-! What validated settings build. The checks of `Settings.validate` do not look at the
rounding the arena constructors do, so a validated setting builds its arena exactly when it is
packed or its block size is at most the rounded capacity (`Settings.validated_newArena`). -/
namespace Combinatory

namespace ColorMode

/-- Each mode reads back from its name. -/
theorem parse_name (m : ColorMode) : parse m.name = .ok m := by
  -- the names are lowercase and have no blanks around them
  have hlower : ∀ s, s = "auto" ∨ s = "on" ∨ s = "off" → Unicode.lowerAscii s = s := by
    rintro s (rfl | rfl | rfl) <;>
    · apply String.ext
      simp [Unicode.lowerAscii, String.toList_map]
  cases m with
  | auto => simp only [name, parse, show Unicode.trimSpace "auto" = "auto" from rfl, hlower _ (.inl rfl)]
  | on => simp only [name, parse, show Unicode.trimSpace "on" = "on" from rfl, hlower _ (.inr (.inl rfl))]
  | off => simp only [name, parse, show Unicode.trimSpace "off" = "off" from rfl, hlower _ (.inr (.inr rfl))]

end ColorMode

namespace Settings

variable {s : Settings}

/-- The settings pass their checks exactly when each field is in range: the arena's capacity,
block size and region limit, the table's buckets and load threshold, the diagnostics limit and
the colour mode. -/
theorem validate_eq_ok :
    s.validate = .ok () ↔
      s.capacity ≠ 0 ∧ s.capacity.toNat ≤ Arena.maxCapacity ∧
        (s.blockSize = 0 ∨ Arena.wordSize ≤ s.blockSize.toNat) ∧ s.maxRegions ≠ 0 ∧
        0 < s.buckets ∧ (Dyadic.ofFloat s.loadFactor).below 3 4 = false ∧
        0 ≤ s.maxDiagnostics ∧ ∃ m, ColorMode.parse s.color = .ok m := by
  unfold validate
  split_ifs with h₁ h₂ h₃ h₄ h₅ h₆ h₇
  · simp [h₁]
  · simp only [false_iff]
    omega
  · simp only [false_iff]
    rintro ⟨-, -, hb | hb, -⟩
    · exact h₃.1 hb
    · omega
  · simp [h₄]
  · simp only [false_iff]
    omega
  · simp [h₆]
  · simp only [false_iff]
    omega
  · -- every range check passed; the colour mode decides
    have hb : s.blockSize = 0 ∨ Arena.wordSize ≤ s.blockSize.toNat := by
      by_cases hb : s.blockSize = 0
      · exact .inl hb
      · exact .inr (Nat.le_of_not_lt fun hlt => h₃ ⟨hb, hlt⟩)
    have hr : s.capacity ≠ 0 ∧ s.capacity.toNat ≤ Arena.maxCapacity ∧
        (s.blockSize = 0 ∨ Arena.wordSize ≤ s.blockSize.toNat) ∧ s.maxRegions ≠ 0 ∧
        0 < s.buckets ∧ (Dyadic.ofFloat s.loadFactor).below 3 4 = false ∧ 0 ≤ s.maxDiagnostics :=
      ⟨h₁, by omega, hb, h₄, by omega, by simpa using h₆, by omega⟩
    split
    · simp_all
    · simp_all

/-- The arena fields of validated settings: a capacity of `1` to `2 ^ 31` bytes and a block size
of `0` or at least a word. -/
theorem validate_arena (h : s.validate = .ok ()) :
    1 ≤ s.capacity.toNat ∧ s.capacity.toNat ≤ 2 ^ 31 ∧ (s.blockSize = 0 ∨ 8 ≤ s.blockSize.toNat) := by
  obtain ⟨hc, hmax, hb, -⟩ := validate_eq_ok.1 h
  have hc' : s.capacity.toNat ≠ 0 := fun h0 => hc (UInt64.toNat_inj.1 (by simpa using h0))
  exact ⟨Nat.one_le_iff_ne_zero.2 hc', hmax, hb⟩

end Settings

namespace Arena

/-- A packed arena of a capacity in range is made, with the capacity rounded up. -/
theorem packed_of_range {c m : UInt64} (space : Nat) (h₁ : 1 ≤ c.toNat) (h₂ : c.toNat ≤ 2 ^ 31) :
    packed c m space = .ok (ofGeometry ⟨false, 2 ^ Nat.clog 2 c.toNat, 1, min (max m.toNat 1) (2 ^ 16)⟩
      space) := by
  show (Geometry.packed c m).map _ = _
  rw [Geometry.packed_eq, if_neg (by omega), if_neg (by omega)]
  rfl

/-- An aligned arena of a capacity in range and a block of at least a word: refused for its block
size when that rounds past a word, else made exactly when the block size is at most the rounded
capacity, and refused for its capacity otherwise. -/
theorem aligned_of_range {c b m : UInt64} (space : Nat) (h₁ : 1 ≤ c.toNat) (h₂ : c.toNat ≤ 2 ^ 31)
    (hb : 8 ≤ b.toNat) :
    aligned c b m space =
      if 2 ^ 63 < b.toNat then .error .blockSizeTooSmall
      else if b.toNat ≤ 2 ^ Nat.clog 2 c.toNat then
        .ok (ofGeometry ⟨true, 2 ^ Nat.clog 2 c.toNat, 2 ^ Nat.clog 2 b.toNat,
          min (max m.toNat 1) (2 ^ 16)⟩ space)
      else .error .capacityOutOfRange := by
  show (Geometry.alignedTo c b m).map _ = _
  rw [Geometry.alignedTo_eq, if_neg (by omega), Geometry.make_eq, if_neg (by omega)]
  by_cases hbig : 2 ^ 63 < b.toNat
  · rw [if_pos hbig, if_pos hbig]
    rfl
  rw [if_neg hbig, if_neg hbig]
  -- the rounded block fits the rounded capacity exactly when the block itself does
  have hfit := pow_clog_le_iff (v := b.toNat) (k := Nat.clog 2 c.toNat)
  by_cases hle : b.toNat ≤ 2 ^ Nat.clog 2 c.toNat
  · rw [if_neg (by omega), if_pos hle]
    rfl
  · rw [if_pos (.inr (by omega)), if_neg hle]
    rfl

end Arena

namespace Settings

variable {s : Settings}

/-- The arena of validated settings: it is made exactly when the block size is `0` or at most
the capacity rounded up to a power of two, packed when the block size is `0` and aligned
otherwise; a refusal names the block size when that rounds past a word, and else the
capacity. -/
theorem validated_newArena (h : s.validate = .ok ()) (space : Nat) :
    ((∃ a, s.newArena space = .ok a) ↔
        s.blockSize = 0 ∨ s.blockSize.toNat ≤ 2 ^ Nat.clog 2 s.capacity.toNat) ∧
      (∀ a, s.newArena space = .ok a → (a.geometry.aligned = true ↔ s.blockSize ≠ 0)) ∧
      (∀ e, s.newArena space = .error e →
        e = if 2 ^ 63 < s.blockSize.toNat then .blockSizeTooSmall else .capacityOutOfRange) := by
  obtain ⟨hc₁, hc₂, hb⟩ := validate_arena h
  unfold newArena
  by_cases hb0 : s.blockSize = 0
  · -- packed: the capacity is in range, so the arena is made
    rw [if_pos hb0, Arena.packed_of_range space hc₁ hc₂]
    refine ⟨⟨fun _ => .inl hb0, fun _ => ⟨_, rfl⟩⟩, ?_, ?_⟩
    · rintro a ⟨⟩
      simp [Arena.ofGeometry, hb0]
    · intro e he
      cases he
  · have h8 : 8 ≤ s.blockSize.toNat := hb.resolve_left hb0
    rw [if_neg hb0, Arena.aligned_of_range space hc₁ hc₂ h8]
    have hcap : 2 ^ Nat.clog 2 s.capacity.toNat ≤ 2 ^ 31 := Arena.pow_clog_le_iff.2 hc₂
    split_ifs with hbig hle
    · -- a block past `2 ^ 63` is past the rounded capacity too
      refine ⟨⟨(by rintro ⟨_, h⟩; cases h), fun h => ?_⟩, fun a h => (by cases h), fun e he => ?_⟩
      · rcases h with h | h
        · exact absurd h hb0
        · omega
      · cases he
        rfl
    · refine ⟨⟨fun _ => .inr hle, fun _ => ⟨_, rfl⟩⟩, ?_, ?_⟩
      · rintro a ⟨⟩
        simp [Arena.ofGeometry, hb0]
      · intro e he
        cases he
    · refine ⟨⟨(by rintro ⟨_, h⟩; cases h), fun h => ?_⟩, fun a h => (by cases h), fun e he => ?_⟩
      · rcases h with h | h
        · exact absurd h hb0
        · exact absurd h hle
      · cases he
        rfl

/-- Settings of an 8-byte capacity and 16-byte blocks pass their checks. -/
theorem validate_small_capacity :
    ({ default with capacity := 8, blockSize := 16 } : Settings).validate = .ok () :=
  validate_eq_ok.2 ⟨by decide, by decide, by decide, by decide, by decide, by decide, by decide,
    _, ColorMode.parse_name .auto⟩

/-- The arena of those settings is made exactly when `16` is at most the capacity rounded up,
which is `8`. -/
theorem validated_newArena_small_capacity :
    ({ default with capacity := 8, blockSize := 16 } : Settings).validate = .ok () ∧
      (((∃ a, ({ default with capacity := 8, blockSize := 16 } : Settings).newArena 0 = .ok a) ↔
          ({ default with capacity := 8, blockSize := 16 } : Settings).blockSize = 0 ∨
            ({ default with capacity := 8, blockSize := 16 } : Settings).blockSize.toNat ≤
              2 ^ Nat.clog 2 ({ default with capacity := 8, blockSize := 16 } : Settings).capacity.toNat) ∧
        (∀ a, ({ default with capacity := 8, blockSize := 16 } : Settings).newArena 0 = .ok a →
          (a.geometry.aligned = true ↔ ({ default with capacity := 8, blockSize := 16 } : Settings).blockSize ≠ 0)) ∧
        (∀ e, ({ default with capacity := 8, blockSize := 16 } : Settings).newArena 0 = .error e →
          e = if 2 ^ 63 < ({ default with capacity := 8, blockSize := 16 } : Settings).blockSize.toNat
            then .blockSizeTooSmall else .capacityOutOfRange)) :=
  ⟨validate_small_capacity, validated_newArena validate_small_capacity 0⟩

/-- Settings that pass their checks and whose arena is refused: an 8-byte capacity with 16-byte
blocks. -/
theorem validated_block_past_capacity :
    ({ default with capacity := 8, blockSize := 16 } : Settings).validate = .ok () ∧
      ({ default with capacity := 8, blockSize := 16 } : Settings).newArena 0 =
        .error .capacityOutOfRange :=
  ⟨validate_small_capacity, rfl⟩

end Settings

end Combinatory
