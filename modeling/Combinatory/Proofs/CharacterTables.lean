import Mathlib.Data.List.Chain
import Combinatory.Text.Canonical
import Combinatory.Text.GraphemeData
import Combinatory.Text.WidthData
import Combinatory.Syntax.Lexer

/-!
# Character tables and their look-up

A range table whose ranges are nonempty and ordered (`RangeTable.Ordered`) is searched
correctly by halving (`RangeTable.find?_eq_some_iff`), and every table of character data is
ordered (`Unicode.tables_ordered`). On ASCII the tables agree with core's letters and digits.
-/

namespace Combinatory

namespace RangeTable

/-- The ranges of a table are nonempty, and each lies wholly below the next. -/
def Ordered (t : RangeTable) : Prop :=
  (∀ e ∈ t.entries.toList, e.1 ≤ e.2.1) ∧ t.entries.toList.IsChain fun e f => e.2.1 < f.1

instance : DecidablePred Ordered := fun _ => inferInstanceAs (Decidable (_ ∧ _))

/-- Nonempty ranges each below the next are each below every later one. -/
theorem pairwise_of_isChain :
    ∀ {l : List (Nat × Nat × Nat)}, (∀ e ∈ l, e.1 ≤ e.2.1) →
      l.IsChain (fun e f => e.2.1 < f.1) → l.Pairwise fun e f => e.2.1 < f.1
  | [], _, _ => .nil
  | [_], _, _ => List.pairwise_singleton _ _
  | e :: f :: l, hle, hc => by
    rw [List.isChain_cons_cons] at hc
    have hrest := pairwise_of_isChain (fun g hg => hle g (List.mem_cons_of_mem _ hg)) hc.2
    refine List.Pairwise.cons (fun g hg => ?_) hrest
    rcases List.mem_cons.1 hg with rfl | hg
    · exact hc.1
    · -- `f` lies between `e` and `g`
      have hf := hle f (List.mem_cons_of_mem _ List.mem_cons_self)
      have hfg := List.rel_of_pairwise_cons hrest hg
      omega

variable {t : RangeTable} {c i j : Nat}

namespace Ordered

theorem first_le_last (ht : t.Ordered) (hi : i < t.entries.size) :
    t.entries[i].1 ≤ t.entries[i].2.1 :=
  ht.1 _ (Array.getElem_mem_toList hi)

theorem last_lt_first (ht : t.Ordered) (hij : i < j) (hj : j < t.entries.size) :
    t.entries[i].2.1 < t.entries[j].1 := by
  have h := List.pairwise_iff_getElem.1 (pairwise_of_isChain ht.1 ht.2) i j
    (by simp only [Array.length_toList]; omega) (by simpa using hj) hij
  simpa using h

/-- A range that starts at or below `c` comes before every range that starts above it. -/
theorem lt_of_lt_first (ht : t.Ordered) (hi : i < t.entries.size) (hj : j < t.entries.size)
    (hci : t.entries[i].1 ≤ c) (hcj : c < t.entries[j].1) : i < j := by
  refine Nat.lt_of_not_le fun hji => ?_
  rcases Nat.lt_or_eq_of_le hji with hlt | rfl
  · have h₁ := ht.first_le_last hj
    have h₂ := ht.last_lt_first hlt hi
    omega
  · omega

/-- A range that ends at or above `c` comes after every range that ends below it. -/
theorem lt_of_last_lt (ht : t.Ordered) (hi : i < t.entries.size) (hj : j < t.entries.size)
    (hci : c ≤ t.entries[i].2.1) (hcj : t.entries[j].2.1 < c) : j < i := by
  refine Nat.lt_of_not_le fun hij => ?_
  rcases Nat.lt_or_eq_of_le hij with hlt | rfl
  · have h₁ := ht.first_le_last hj
    have h₂ := ht.last_lt_first hlt hj
    omega
  · omega

/-- At most one range holds a point. -/
theorem eq_of_holds (ht : t.Ordered) (hi : i < t.entries.size) (hj : j < t.entries.size)
    (hci : t.entries[i].1 ≤ c ∧ c ≤ t.entries[i].2.1)
    (hcj : t.entries[j].1 ≤ c ∧ c ≤ t.entries[j].2.1) : i = j := by
  obtain ⟨hci₁, hci₂⟩ := hci
  obtain ⟨hcj₁, hcj₂⟩ := hcj
  rcases Nat.lt_trichotomy i j with hlt | heq | hgt
  · have := ht.last_lt_first hlt hj
    omega
  · exact heq
  · have := ht.last_lt_first hgt hi
    omega

end Ordered

/-- What the search finds is the value of a range that holds the point. -/
theorem search_sound {lo hi v : Nat} (h : t.search c lo hi = some v) :
    ∃ e ∈ t.entries, e.1 ≤ c ∧ c ≤ e.2.1 ∧ e.2.2 = v := by
  fun_induction t.search c lo hi with
  | case1 => cases h
  | case2 lo hi hlt mid a b w hmid hca ih => exact ih h
  | case3 lo hi hlt mid a b w hmid hca hbc ih => exact ih h
  | case4 lo hi hlt mid a b w hmid hca hbc =>
    exact ⟨(a, b, w), Array.mem_of_getElem? hmid, Nat.le_of_not_lt hca, Nat.le_of_not_lt hbc,
      Option.some.inj h⟩
  | case5 => cases h

/-- In an ordered table, the search between `lo` and `hi` finds every range there that holds
the point. -/
theorem search_complete (ht : t.Ordered) (hi : i < t.entries.size)
    (hc : t.entries[i].1 ≤ c ∧ c ≤ t.entries[i].2.1) {lo hi' : Nat} (hlo : lo ≤ i) (hhi : i < hi')
    (hsize : hi' ≤ t.entries.size) : t.search c lo hi' = some t.entries[i].2.2 := by
  obtain ⟨hc₁, hc₂⟩ := hc
  -- each step keeps `i` between the bounds, on the side of the middle range where it lies
  fun_induction t.search c lo hi' with
  | case1 lo hi' hlt mid hmid =>
    have hm : mid < t.entries.size := by simp only [mid]; omega
    simp [hm] at hmid
  | case2 lo hi' hlt mid a b w hmid hca ih =>
    obtain ⟨hm, he⟩ := Array.getElem?_eq_some_iff.1 hmid
    have hlt' : i < mid := ht.lt_of_lt_first hi hm hc₁ (by rw [he]; exact hca)
    exact ih hlo hlt' (by simp only [mid]; omega)
  | case3 lo hi' hlt mid a b w hmid hca hbc ih =>
    obtain ⟨hm, he⟩ := Array.getElem?_eq_some_iff.1 hmid
    have hlt' : mid < i := ht.lt_of_last_lt hi hm hc₂ (by rw [he]; exact hbc)
    exact ih hlt' hhi hsize
  | case4 lo hi' hlt mid a b w hmid hca hbc =>
    obtain ⟨hm, he⟩ := Array.getElem?_eq_some_iff.1 hmid
    -- the middle range holds the point too, so it is the range `i`
    obtain rfl : i = mid := ht.eq_of_holds hi hm ⟨hc₁, hc₂⟩
      (by rw [he]; exact ⟨Nat.le_of_not_lt hca, Nat.le_of_not_lt hbc⟩)
    rw [he]
  | case5 lo hi' hlt => omega

/-- In an ordered table, the value found for a point is that of the range holding it. -/
theorem find?_eq_some_iff (ht : t.Ordered) {v : Nat} :
    t.find? c = some v ↔ ∃ e ∈ t.entries, e.1 ≤ c ∧ c ≤ e.2.1 ∧ e.2.2 = v := by
  constructor
  · exact search_sound
  · rintro ⟨e, he, hlo, hhi, rfl⟩
    obtain ⟨i, hi, rfl⟩ := Array.mem_iff_getElem.1 he
    exact search_complete ht hi ⟨hlo, hhi⟩ (Nat.zero_le _) hi (Nat.le_refl _)

/-- An ordered table holds exactly the points of its ranges. -/
theorem contains_iff (ht : t.Ordered) :
    t.contains c = true ↔ ∃ e ∈ t.entries, e.1 ≤ c ∧ c ≤ e.2.1 := by
  simp only [contains, Option.isSome_iff_exists, find?_eq_some_iff ht]
  constructor
  · rintro ⟨_, e, he, hlo, hhi, -⟩
    exact ⟨e, he, hlo, hhi⟩
  · rintro ⟨e, he, hlo, hhi⟩
    exact ⟨_, e, he, hlo, hhi, rfl⟩

end RangeTable

namespace Unicode

set_option maxRecDepth 100000 in
/-- Every table of character data is ordered. -/
theorem tables_ordered : ∀ t ∈ [letters, numbers, graphic, combiningClass, decompositions,
    compositions, nonStarterCounts, breakClasses, wide, combining, invisible, emojiPresentation],
    t.Ordered := by
  decide +kernel

/-- What holds of the first 128 code points holds of every ASCII character. -/
theorem ascii_of_forall {P : Char → Prop} (hP : ∀ n < 128, P (Char.ofNat n)) {ch : Char}
    (h : ch.toNat < 128) : P ch := by
  have hn := hP ch.toNat h
  rwa [Char.ofNat_toNat] at hn

/-- On ASCII, the letters are core's letters: `A` to `Z` and `a` to `z`. -/
theorem isLetter_ascii (ch : Char) (h : ch.toNat < 128) : isLetter ch = ch.isAlpha :=
  ascii_of_forall (P := fun ch => isLetter ch = ch.isAlpha) (by decide +kernel) h

/-- On ASCII, the numbers are core's digits: `0` to `9`. -/
theorem isNumber_ascii (ch : Char) (h : ch.toNat < 128) : isNumber ch = ch.isDigit :=
  ascii_of_forall (P := fun ch => isNumber ch = ch.isDigit) (by decide +kernel) h

end Unicode

namespace Lexer

theorem ne_lambda_of_ascii {ch : Char} (h : ch.toNat < 128) : ch ≠ 'λ' := by
  rintro rfl
  exact absurd h (by decide)

/-- An ASCII identifier starts with an underscore or a letter. -/
theorem isIdentStart_ascii (ch : Char) (h : ch.toNat < 128) :
    isIdentStart (.scalar ch) = true ↔ ch = '_' ∨ ch.isAlpha = true := by
  simp [isIdentStart, ne_lambda_of_ascii h, Unicode.isLetter_ascii ch h]

/-- An ASCII identifier goes on with underscores, primes, letters and digits. -/
theorem isIdentRest_ascii (ch : Char) (h : ch.toNat < 128) :
    isIdentRest (.scalar ch) = true ↔
      ch = '_' ∨ ch = '\'' ∨ ch.isAlpha = true ∨ ch.isDigit = true := by
  simp [isIdentRest, ne_lambda_of_ascii h, Unicode.isLetter_ascii ch h,
    Unicode.isNumber_ascii ch h]

end Lexer

end Combinatory
