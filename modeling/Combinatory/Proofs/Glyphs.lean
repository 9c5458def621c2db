import Combinatory.Syntax.Lexer
import Combinatory.Proofs.ArenaLayout

/-!
# Decoding loses no byte

Encoding each glyph of `Glyph.decode` again gives back the input (`Glyph.toBytes_decode`), and
the byte length the lexer counts for a glyph is the length of its encoding
(`Glyph.byteLength_eq`), so offsets counted in glyphs are offsets in the input.
-/

namespace Combinatory

namespace Glyph

theorem encodeChar_eq (c : Char) : encodeChar c = String.utf8EncodeChar c := by
  simp [encodeChar, String.toByteArray_singleton, List.utf8Encode_singleton, Region.toList_eq]

@[simp] theorem byteLength_eq (g : Glyph) : g.byteLength = g.toBytes.length := by
  cases g with
  | scalar c => simp [byteLength, toBytes, encodeChar_eq]
  | stray b => rfl

theorem toBytes_ne_nil (g : Glyph) : g.toBytes ≠ [] := by
  rw [← List.length_pos_iff, ← byteLength_eq]
  cases g with
  | scalar c => exact Char.utf8Size_pos c
  | stray b => exact Nat.one_pos

/-- A scalar value below the surrogates or between them and `U+10FFFF` is a character. -/
theorem val_ofNat {v : Nat} (h : v < 0xD800 ∨ (0xDFFF < v ∧ v < 0x110000)) :
    (Char.ofNat v).val.toNat = v := by
  rw [Char.ofNat, dif_pos (by simp [Nat.isValidChar]; omega)]
  rfl

theorem ofNat_eq_iff {n : Nat} {b : UInt8} : UInt8.ofNat n = b ↔ n % 256 = b.toNat := by
  rw [← UInt8.toNat_inj, UInt8.toNat_ofNat']

@[simp] theorem within_iff {b lo hi : UInt8} :
    within b lo hi = true ↔ lo.toNat ≤ b.toNat ∧ b.toNat ≤ hi.toNat := by
  simp [within, UInt8.le_iff_toNat_le]

/-! ### One glyph -/

theorem toBytes_one {b0 : UInt8} (h0 : b0.toNat < 0x80) :
    toBytes (.scalar (Char.ofNat b0.toNat)) = [b0] := by
  have hv := val_ofNat (v := b0.toNat) (by omega)
  simp only [toBytes, encodeChar_eq, String.utf8EncodeChar, hv]
  rw [if_pos (by omega)]
  simp only [List.cons.injEq, ofNat_eq_iff, and_true]
  omega

theorem toBytes_two {b0 b1 : UInt8} (h0 : 0xC2 ≤ b0.toNat ∧ b0.toNat ≤ 0xDF)
    (h1 : 0x80 ≤ b1.toNat ∧ b1.toNat ≤ 0xBF) :
    toBytes (.scalar (Char.ofNat (assemble (b0.toNat % 32) [b1]))) = [b0, b1] := by
  simp only [assemble, List.foldl]
  have hv := val_ofNat (v := b0.toNat % 32 * 64 + b1.toNat % 64) (by omega)
  simp only [toBytes, encodeChar_eq, String.utf8EncodeChar, hv]
  rw [if_neg (by omega), if_pos (by omega)]
  simp only [List.cons.injEq, ofNat_eq_iff, and_true]
  omega

/-- Three bytes: `E0` needs its first continuation byte from `A0` on (no overlong form), `ED`
up to `9F` (no surrogate). -/
theorem toBytes_three {b0 b1 b2 : UInt8} (h0 : 0xE0 ≤ b0.toNat ∧ b0.toNat ≤ 0xEF)
    (h1 : 0x80 ≤ b1.toNat ∧ b1.toNat ≤ 0xBF) (h2 : 0x80 ≤ b2.toNat ∧ b2.toNat ≤ 0xBF)
    (hlong : b0.toNat = 0xE0 → 0xA0 ≤ b1.toNat) (hsurr : b0.toNat = 0xED → b1.toNat ≤ 0x9F) :
    toBytes (.scalar (Char.ofNat (assemble (b0.toNat % 16) [b1, b2]))) = [b0, b1, b2] := by
  simp only [assemble, List.foldl]
  have hv := val_ofNat (v := (b0.toNat % 16 * 64 + b1.toNat % 64) * 64 + b2.toNat % 64)
    (by omega)
  simp only [toBytes, encodeChar_eq, String.utf8EncodeChar, hv]
  rw [if_neg (by omega), if_neg (by omega), if_pos (by omega)]
  simp only [List.cons.injEq, ofNat_eq_iff, and_true]
  omega

/-- Four bytes: `F0` needs its first continuation byte from `90` on (no overlong form), `F4`
up to `8F` (nothing above `U+10FFFF`). -/
theorem toBytes_four {b0 b1 b2 b3 : UInt8} (h0 : 0xF0 ≤ b0.toNat ∧ b0.toNat ≤ 0xF4)
    (h1 : 0x80 ≤ b1.toNat ∧ b1.toNat ≤ 0xBF) (h2 : 0x80 ≤ b2.toNat ∧ b2.toNat ≤ 0xBF)
    (h3 : 0x80 ≤ b3.toNat ∧ b3.toNat ≤ 0xBF)
    (hlong : b0.toNat = 0xF0 → 0x90 ≤ b1.toNat) (hmax : b0.toNat = 0xF4 → b1.toNat ≤ 0x8F) :
    toBytes (.scalar (Char.ofNat (assemble (b0.toNat % 8) [b1, b2, b3]))) =
      [b0, b1, b2, b3] := by
  simp only [assemble, List.foldl]
  have hv := val_ofNat
    (v := ((b0.toNat % 8 * 64 + b1.toNat % 64) * 64 + b2.toNat % 64) * 64 + b3.toNat % 64)
    (by omega)
  simp only [toBytes, encodeChar_eq, String.utf8EncodeChar, hv]
  rw [if_neg (by omega), if_neg (by omega), if_neg (by omega)]
  simp only [List.cons.injEq, ofNat_eq_iff, and_true]
  omega

/-- The first glyph of a byte list encodes to the bytes it was decoded from. -/
theorem toBytes_first (b0 : UInt8) (rest : List UInt8) :
    toBytes (first (b0 :: rest)).1 = b0 :: rest.take (first (b0 :: rest)).2 := by
  simp only [first]
  split
  · rename_i hascii
    exact toBytes_one (UInt8.lt_iff_toNat_lt.1 hascii)
  · rename_i hascii
    have h80 : 0x80 ≤ b0.toNat := by simpa [UInt8.lt_iff_toNat_lt] using hascii
    split
    · rfl
    · rename_i n lo hi hlead
      split
      · simp [toBytes]
      · rename_i b1 more htake
        split
        · rename_i hok
          simp only [htake, Bool.and_eq_true, decide_eq_true_eq, within_iff,
            List.all_eq_true] at hok ⊢
          obtain ⟨hlen, ⟨hlo, hhi⟩, hmore⟩ := hok
          simp only [List.length_cons] at hlen
          -- the lead byte fixes the number of continuation bytes and the range of the first
          have hcount :
              (n = 1 ∧ (0xC2 ≤ b0.toNat ∧ b0.toNat ≤ 0xDF) ∧ lo.toNat = 0x80 ∧ hi.toNat = 0xBF) ∨
              (n = 2 ∧ (0xE0 ≤ b0.toNat ∧ b0.toNat ≤ 0xEF) ∧ 0x80 ≤ lo.toNat ∧ hi.toNat ≤ 0xBF ∧
                (b0.toNat = 0xE0 → lo.toNat = 0xA0) ∧ (b0.toNat = 0xED → hi.toNat = 0x9F)) ∨
              (n = 3 ∧ (0xF0 ≤ b0.toNat ∧ b0.toNat ≤ 0xF4) ∧ 0x80 ≤ lo.toNat ∧ hi.toNat ≤ 0xBF ∧
                (b0.toNat = 0xF0 → lo.toNat = 0x90) ∧ (b0.toNat = 0xF4 → hi.toNat = 0x8F)) := by
            split_ifs at hlead <;> simp_all [← UInt8.toNat_inj] <;> omega
          rcases hcount with ⟨rfl, h0, hl, hh⟩ | ⟨rfl, h0, hl, hh, hlong, hsurr⟩ |
              ⟨rfl, h0, hl, hh, hlong, hmax⟩
          · obtain rfl : more = [] := List.length_eq_zero_iff.1 (by omega)
            simpa using toBytes_two h0 ⟨by omega, by omega⟩
          · obtain ⟨b2, rfl⟩ := List.length_eq_one_iff.1 (by omega : more.length = 1)
            have h2 := hmore b2 (by simp)
            simpa using toBytes_three h0 ⟨by omega, by omega⟩ h2 (by omega) (by omega)
          · obtain ⟨b2, b3, rfl⟩ := List.length_eq_two.1 (by omega : more.length = 2)
            have h2 := hmore b2 (by simp)
            have h3 := hmore b3 (by simp)
            simpa using toBytes_four h0 ⟨by omega, by omega⟩ h2 h3 (by omega) (by omega)
        · rfl

/-! ### Whole byte strings -/

/-- Encoding the glyphs of a byte string gives back the byte string. -/
theorem toBytes_decode (bs : List UInt8) : (decode bs).flatMap toBytes = bs := by
  induction bs using decodeWithBytes.induct with
  | case1 => simp [decode, decodeWithBytes]
  | case2 bs h g n hgn ih =>
    obtain ⟨b0, rest, rfl⟩ := List.exists_cons_of_ne_nil h
    have hg : toBytes g = (b0 :: rest).take (n + 1) := by
      simpa [hgn] using toBytes_first b0 rest
    rw [decode, decodeWithBytes, dif_neg h]
    simp only [hgn, List.map_cons, List.flatMap_cons]
    rw [hg, ← decode, ih, List.take_append_drop]

end Glyph

end Combinatory
