import Combinatory.Source.File
import Combinatory.Proofs.ArenaLayout

/-! Line positions agree with line extraction. The line index lists the offsets of the line
feeds in increasing order (`pairwise_feedsFrom`), and a line is cut between two of them as
splitting the text at its line feeds cuts it (`lineIn_feeds`), so the line and column of an
offset agree with the line extracted (`lineCol_agrees_with_getLine`). -/
namespace Combinatory

namespace SourceFile

/-! ### The line index -/

/-- The offsets of the line feeds of `bs`, counted from `k`. -/
def feedsFrom (k : Nat) (bs : List UInt8) : List Nat :=
  (bs.zipIdx k).filterMap fun (b, i) => if b = 10 then some i else none

theorem lineFeeds_toList (c : ByteArray) : (lineFeeds c).toList = feedsFrom 0 c.toList := by
  simp [lineFeeds, feedsFrom]

theorem lineFeeds_getElem? (c : ByteArray) (i : Nat) :
    (lineFeeds c)[i]? = (feedsFrom 0 c.toList)[i]? := by
  rw [← Array.getElem?_toList, lineFeeds_toList]

@[simp] theorem feedsFrom_nil (k : Nat) : feedsFrom k [] = [] := rfl

theorem feedsFrom_cons (k : Nat) (b : UInt8) (bs : List UInt8) :
    feedsFrom k (b :: bs) = if b = 10 then k :: feedsFrom (k + 1) bs else feedsFrom (k + 1) bs := by
  by_cases hb : b = 10 <;> simp [feedsFrom, List.zipIdx_cons, hb]

/-- Counting from one further moves every offset one on. -/
theorem feedsFrom_succ (k : Nat) (bs : List UInt8) :
    feedsFrom (k + 1) bs = (feedsFrom k bs).map (· + 1) := by
  induction bs generalizing k with
  | nil => rfl
  | cons b bs ih => by_cases hb : b = 10 <;> simp [feedsFrom_cons, hb, ih]

theorem mem_feedsFrom {k i : Nat} {bs : List UInt8} :
    i ∈ feedsFrom k bs ↔ k ≤ i ∧ bs[i - k]? = some 10 := by
  induction bs generalizing k with
  | nil => simp
  | cons b bs ih =>
    rw [feedsFrom_cons]
    rcases Nat.lt_trichotomy i k with hi | rfl | hi
    · -- nothing is listed before `k`
      have : ¬ i ∈ feedsFrom (k + 1) bs := fun h => by have := (ih.1 h).1; omega
      split <;> simp_all <;> omega
    · have : ¬ i ∈ feedsFrom (i + 1) bs := fun h => by have := (ih.1 h).1; omega
      split <;> simp_all
    · have hj : i - k = i - (k + 1) + 1 := by omega
      have hne : i ≠ k := by omega
      have hle : k + 1 ≤ i := hi
      have hk : k ≤ i := by omega
      split <;> simp [ih, hj, hne, hle, hk]

/-- Line feeds are listed in increasing order. -/
theorem pairwise_feedsFrom (k : Nat) (bs : List UInt8) : (feedsFrom k bs).Pairwise (· < ·) := by
  induction bs generalizing k with
  | nil => simp
  | cons b bs ih =>
    rw [feedsFrom_cons]
    split
    · exact List.Pairwise.cons (fun i hi => (mem_feedsFrom.1 hi).1) (ih (k + 1))
    · exact ih (k + 1)

/-- The line feeds of a prefix are those before its end. -/
theorem feedsFrom_take (k m : Nat) (bs : List UInt8) :
    feedsFrom k (bs.take m) = (feedsFrom k bs).filter (· < k + m) := by
  induction bs generalizing k m with
  | nil => simp
  | cons b bs ih =>
    cases m with
    | zero =>
      refine (List.filter_eq_nil_iff.2 fun i hi => ?_).symm
      simpa using (mem_feedsFrom.1 hi).1
    | succ m =>
      have hk : k + 1 + m = k + (m + 1) := by omega
      by_cases hb : b = 10 <;> simp [feedsFrom_cons, hb, ih, hk]

theorem length_feedsFrom (k : Nat) (bs : List UInt8) : (feedsFrom k bs).length = bs.count 10 := by
  induction bs generalizing k with
  | nil => rfl
  | cons b bs ih => by_cases hb : b = 10 <;> simp [feedsFrom_cons, hb, ih]

/-- In an increasing list the entries below `off` come first. -/
theorem getElem_lt_iff {L : List Nat} (h : L.Pairwise (· < ·)) (off : Nat) {j : Nat}
    (hj : j < L.length) : L[j] < off ↔ j < (L.filter (· < off)).length := by
  induction L generalizing j with
  | nil => simp at hj
  | cons a L ih =>
    rw [List.pairwise_cons] at h
    by_cases ha : a < off
    · cases j with
      | zero => simp [ha]
      | succ j => simpa [ha] using ih h.2 (by simpa using hj)
    · -- every later entry is above `a`, so none is below `off`
      have hnil : L.filter (· < off) = [] :=
        List.filter_eq_nil_iff.2 fun x hx => by have := h.1 x hx; simp; omega
      cases j with
      | zero => simp [ha, hnil]
      | succ j =>
        have hj' : j < L.length := by simpa using hj
        have := h.1 L[j] (List.getElem_mem hj')
        simp [ha, hnil]
        omega

/-! ### Lines -/

/-- Line `k` (from zero) of `bs` cut at the line feeds `L`: from just past feed `k - 1` to feed
`k` or the end of the text; nothing past the last line. -/
def lineIn (bs : List UInt8) (L : List Nat) : Nat → List UInt8
  | 0 => bs.take (L[0]?.getD bs.length)
  | k + 1 => match L[k]? with
    | none => []
    | some p => (bs.drop (p + 1)).take (L[k + 1]?.getD bs.length - (p + 1))

/-- A line feed first: line zero is empty and the others move one line up. -/
theorem lineIn_feed (b : UInt8) (bs : List UInt8) (L : List Nat) :
    lineIn (b :: bs) (0 :: L.map (· + 1)) 0 = [] ∧
      ∀ k, lineIn (b :: bs) (0 :: L.map (· + 1)) (k + 1) = lineIn bs L k := by
  refine ⟨rfl, fun k => ?_⟩
  cases k with
  | zero => simp [lineIn]
  | succ k =>
    cases hp : L[k]? with
    | none => simp [lineIn, hp]
    | some p => simp [lineIn, hp]

/-- Another byte first: it begins line zero, and the other lines stay. -/
theorem lineIn_other (b : UInt8) (bs : List UInt8) (L : List Nat) :
    lineIn (b :: bs) (L.map (· + 1)) 0 = b :: lineIn bs L 0 ∧
      ∀ k, lineIn (b :: bs) (L.map (· + 1)) (k + 1) = lineIn bs L (k + 1) := by
  refine ⟨by simp [lineIn], fun k => ?_⟩
  cases hp : L[k]? with
  | none => simp [lineIn, hp]
  | some p => simp [lineIn, hp]

/-- Cutting at the line feeds is splitting at them. -/
theorem lineIn_feeds (bs : List UInt8) (k : Nat) :
    lineIn bs (feedsFrom 0 bs) k = (bs.splitOn 10).getD k [] := by
  induction bs generalizing k with
  | nil => cases k <;> rfl
  | cons b bs ih =>
    rw [feedsFrom_cons, feedsFrom_succ, List.splitOn_eq_splitOnP,
      List.splitOnP_cons_eq_if_modifyHead, ← List.splitOn_eq_splitOnP]
    by_cases hb : b = 10
    · subst hb
      obtain ⟨h0, hs⟩ := lineIn_feed 10 bs (feedsFrom 0 bs)
      cases k with
      | zero => simp [h0]
      | succ k => simp [hs, ih]
    · obtain ⟨h0, hs⟩ := lineIn_other b bs (feedsFrom 0 bs)
      obtain ⟨l, ls, hl⟩ := List.exists_cons_of_ne_nil (List.splitOnP_ne_nil (· == (10 : UInt8)) bs)
      rw [← List.splitOn_eq_splitOnP] at hl
      have hb' : (b == 10) = false := by simpa using hb
      cases k with
      | zero => simp [hb, hb', h0, ih, hl]
      | succ k => simp [hb, hb', hs, ih, hl]

theorem toList_extract (c : ByteArray) (s e : Nat) :
    (c.extract s e).toList = (c.toList.drop s).take (e - s) := by
  simp [Region.toList_eq, ByteArray.data_extract, Array.toList_extract, List.extract_eq_take_drop]

theorem feed_lt_size {c : ByteArray} {p : Nat} (hp : p ∈ feedsFrom 0 c.toList) : p < c.size := by
  have h := (mem_feedsFrom.1 hp).2
  have : p < c.toList.length := by
    by_contra hn
    simp [List.getElem?_eq_none (Nat.le_of_not_lt hn)] at h
  simpa [Region.toList_eq] using this

/-- A line ends at the end of the text at the latest. -/
theorem feed_getD_le (c : ByteArray) (j : Nat) :
    min (((feedsFrom 0 c.toList)[j]?).getD c.size) c.size = ((feedsFrom 0 c.toList)[j]?).getD c.size := by
  cases hj : (feedsFrom 0 c.toList)[j]? with
  | none => simp
  | some p => simpa using Nat.min_eq_left (Nat.le_of_lt (feed_lt_size (List.mem_of_getElem? hj)))

section Indexed

variable {f : SourceFile}

theorem lineIndex_getElem? (i : Nat) : f.lineIndex[i]? = (feedsFrom 0 f.content.toList)[i]? := by
  rw [f.lineIndex_eq, lineFeeds_getElem?]

/-- `lineBytes` cuts the lines of the file at its line feeds. -/
theorem lineBytes_toList (k : Nat) :
    (f.lineBytes (k + 1)).toList = lineIn f.content.toList (feedsFrom 0 f.content.toList) k := by
  have hsize : f.content.toList.length = f.content.size := by simp [Region.toList_eq]
  cases k with
  | zero => simp [lineBytes, lineIn, lineIndex_getElem?, feed_getD_le, toList_extract, hsize]
  | succ k =>
    cases hp : (feedsFrom 0 f.content.toList)[k]? with
    | none => simp [lineBytes, lineIn, lineIndex_getElem?, hp]
    | some p =>
      have hlt := feed_lt_size (List.mem_of_getElem? hp)
      have hn : ¬ p + 1 > f.content.size := by omega
      simp [lineBytes, lineIn, lineIndex_getElem?, hp, feed_getD_le, hn, toList_extract, hsize]

end Indexed

/-! ### The line of an offset -/

/-- Offset `off` of `bs` lies on the line of `bs` from `start` to `stop`: at or past its start
and at or before its end, which is the end of the text or the line feed at `off`, if any. -/
structure OnLine (bs : List UInt8) (off start stop : Nat) : Prop where
  start_le : start ≤ off
  le_stop : off ≤ stop
  stop_le : stop ≤ bs.length
  stop_iff : off = stop ↔ off = bs.length ∨ bs[off]? = some 10

namespace OnLine

variable {bs : List UInt8} {off start stop : Nat} (h : OnLine bs off start stop)
include h

theorem length_line : ((bs.drop start).take (stop - start)).length = stop - start := by
  have := h.start_le
  have := h.le_stop
  have := h.stop_le
  simp only [List.length_take, List.length_drop]
  omega

/-- The offset lies on its line, one before its column. -/
theorem column_le : off - start ≤ ((bs.drop start).take (stop - start)).length := by
  have := h.le_stop
  rw [h.length_line]
  omega

/-- The column is one past the line exactly at a line feed or at the end of the text. -/
theorem column_eq_iff :
    off - start = ((bs.drop start).take (stop - start)).length ↔
      off = bs.length ∨ bs[off]? = some 10 := by
  have := h.start_le
  have := h.le_stop
  rw [h.length_line, ← h.stop_iff]
  omega

/-- Elsewhere the line holds the byte of the offset at one before its column. -/
theorem getElem?_column (hlt : off - start < ((bs.drop start).take (stop - start)).length) :
    ((bs.drop start).take (stop - start))[off - start]? = bs[off]? := by
  have := h.start_le
  rw [h.length_line] at hlt
  rw [List.getElem?_take, if_pos hlt, List.getElem?_drop, Nat.add_sub_cancel' this]

end OnLine

section Around

variable {bs : List UInt8} {off : Nat}

/-- The first line feed at or after `off`, or else the end of the text, ends the line of `off`;
`n` counts the line feeds before `off`. -/
theorem feeds_stop (hoff : off ≤ bs.length) {n : Nat}
    (hn : ((feedsFrom 0 bs).filter (· < off)).length = n) :
    off ≤ ((feedsFrom 0 bs)[n]?).getD bs.length ∧ ((feedsFrom 0 bs)[n]?).getD bs.length ≤ bs.length ∧
      (off = ((feedsFrom 0 bs)[n]?).getD bs.length ↔ off = bs.length ∨ bs[off]? = some 10) := by
  have hsorted := pairwise_feedsFrom 0 bs
  have hmem : ∀ {p}, p ∈ feedsFrom 0 bs ↔ bs[p]? = some 10 := by simp [mem_feedsFrom]
  set L := feedsFrom 0 bs
  by_cases hlt : n < L.length
  · -- the line ends at the next line feed, which is not below `off`
    have he : (L[n]?).getD bs.length = L[n] := by simp [hlt]
    rw [he]
    have hge : off ≤ L[n] := by
      have := (getElem_lt_iff hsorted off hlt).not.2 (by omega)
      omega
    have hfeed : bs[L[n]]? = some 10 := hmem.1 (List.getElem_mem hlt)
    have hlen : L[n] < bs.length := by
      by_contra hc
      simp [List.getElem?_eq_none (Nat.le_of_not_lt hc)] at hfeed
    refine ⟨hge, Nat.le_of_lt hlen, ⟨fun h => .inr (h ▸ hfeed), fun h => ?_⟩⟩
    rcases h with h | h
    · omega
    · -- a line feed at `off` is one of the listed feeds, not below `off`, so the next one
      obtain ⟨j, hj, hoffj⟩ := List.mem_iff_getElem.1 (hmem.2 h)
      have hnj : n ≤ j := by
        have := (getElem_lt_iff hsorted off hj).not.1 (by omega)
        omega
      have hle : L[n] ≤ L[j] := by
        rcases Nat.lt_or_eq_of_le hnj with hnj | rfl
        · exact Nat.le_of_lt (List.pairwise_iff_getElem.1 hsorted n j hlt hj hnj)
        · exact Nat.le_refl _
      omega
  · -- past the last line feed the line ends with the text
    have he : (L[n]?).getD bs.length = bs.length := by simp [Nat.le_of_not_lt hlt]
    rw [he]
    refine ⟨hoff, Nat.le_refl _, ⟨fun h => .inl h, fun h => ?_⟩⟩
    rcases h with h | h
    · exact h
    · -- every listed feed lies below `off`, so `off` holds none
      obtain ⟨j, hj, hoffj⟩ := List.mem_iff_getElem.1 (hmem.2 h)
      have := (getElem_lt_iff hsorted off hj).2 (by omega)
      omega

/-- The last line feed before `off` starts the line of `off`. -/
theorem feeds_start {m : Nat} (hm : ((feedsFrom 0 bs).filter (· < off)).length = m + 1) :
    ∃ p, (feedsFrom 0 bs)[m]? = some p ∧ p < off := by
  have hlt : m < (feedsFrom 0 bs).length :=
    Nat.lt_of_lt_of_le (by omega) (hm ▸ List.length_filter_le _ _)
  exact ⟨_, List.getElem?_eq_getElem hlt,
    (getElem_lt_iff (pairwise_feedsFrom 0 bs) off hlt).2 (by omega)⟩

end Around

section Position

variable {f : SourceFile}

/-- The line and column of an offset: the line is one past the number of line feeds before the
offset, and its text runs around the offset, which lies one before the column. -/
theorem lineCol_spec {off : Nat} (hoff : off ≤ f.content.size) (h32 : off < 2 ^ 32) :
    ∃ start stop, (f.lineCol off).line = (f.content.toList.take off).count 10 + 1 ∧
      (UInt32.ofNat (f.lineCol off).col - 1).toNat = off - start ∧
      (f.lineBytes (f.lineCol off).line).toList =
        (f.content.toList.drop start).take (stop - start) ∧
      OnLine f.content.toList off start stop := by
  have hsize : f.content.toList.length = f.content.size := by simp [Region.toList_eq]
  have hcount : ((feedsFrom 0 f.content.toList).filter (· < off)).length =
      (f.content.toList.take off).count 10 := by
    rw [← length_feedsFrom 0, feedsFrom_take, Nat.zero_add]
  have hlc : f.lineCol off =
      if ((feedsFrom 0 f.content.toList).filter (· < off)).length = 0 then ⟨1, (off + 1) % 2 ^ 32⟩
      else ⟨((feedsFrom 0 f.content.toList).filter (· < off)).length + 1,
        off - ((feedsFrom 0 f.content.toList)[((feedsFrom 0 f.content.toList).filter (· < off)).length - 1]?).getD 0⟩ := by
    simp [lineCol, f.lineIndex_eq, lineFeeds_toList, Array.getD_eq_getD_getElem?, lineFeeds_getElem?]
  generalize hn : ((feedsFrom 0 f.content.toList).filter (· < off)).length = n at hcount hlc
  obtain ⟨hle, hstop, hiff⟩ := feeds_stop (by omega) hn
  cases n with
  | zero =>
    refine ⟨0, _, by simp [hlc, ← hcount], ?_, ?_, ⟨Nat.zero_le _, hle, by omega, hiff⟩⟩
    · simp [hlc, UInt32.toNat_sub, UInt32.toNat_ofNat]
      omega
    · simp [hlc, lineBytes_toList 0, lineIn]
  | succ m =>
    obtain ⟨p, hp, hpoff⟩ := feeds_start hn
    refine ⟨p + 1, _, by simp [hlc, ← hcount], ?_, ?_, ⟨hpoff, hle, by omega, hiff⟩⟩
    · simp [hlc, hp, UInt32.toNat_sub, UInt32.toNat_ofNat]
      omega
    · simp [hlc, lineBytes_toList (m + 1), lineIn, hp]

/-- Line and column positions agree with line extraction. The line of an offset is one past the
number of line feeds before it, and its text is the piece of the content between the line feeds
around it. One before the column, as a 32-bit word, the line holds the offset's byte, or ends
there, exactly when the offset is a line feed or the end of the content. -/
theorem lineCol_agrees_with_getLine (off : UInt32) (hoff : off.toNat ≤ f.content.size) :
    let lc := f.lineCol off.toNat
    let text := (f.lineBytes lc.line).toList
    let c := (UInt32.ofNat lc.col - 1).toNat
    lc.line - 1 = (f.content.toList.take off.toNat).count 10 ∧
      text = (f.content.toList.splitOn 10).getD (lc.line - 1) [] ∧
      c ≤ text.length ∧
      (c = text.length ↔ off.toNat = f.content.size ∨ f.content.toList[off.toNat]? = some 10) ∧
      (c < text.length → text[c]? = f.content.toList[off.toNat]?) := by
  obtain ⟨start, stop, hline, hcol, htext, hon⟩ := lineCol_spec hoff off.toNat_lt
  have hsize : f.content.toList.length = f.content.size := by simp [Region.toList_eq]
  -- the line of the offset is the piece after as many line feeds as precede it
  have hpiece : (f.lineBytes (f.lineCol off.toNat).line).toList =
      (f.content.toList.splitOn 10).getD ((f.lineCol off.toNat).line - 1) [] := by
    rw [hline, Nat.add_sub_cancel, ← lineIn_feeds, ← lineBytes_toList]
  dsimp only
  refine ⟨by omega, hpiece, ?_, ?_, ?_⟩
  · rw [hcol, htext]
    exact hon.column_le
  · rw [hcol, htext, hon.column_eq_iff, hsize]
  · rw [hcol, htext]
    exact hon.getElem?_column

end Position

/-- A file of three lines, indexed as the file set indexes it. -/
def threeLines : SourceFile :=
  { id := 0, path := "l.ld", content := "first\nsecond\nthird".toUTF8,
    lineIndex := lineFeeds "first\nsecond\nthird".toUTF8, flags := default, lineIndex_eq := rfl }

theorem lineCol_agrees_with_getLine_threeLines :
    (8 : UInt32).toNat ≤ threeLines.content.size ∧
      let lc := threeLines.lineCol (8 : UInt32).toNat
      let text := (threeLines.lineBytes lc.line).toList
      let c := (UInt32.ofNat lc.col - 1).toNat
      lc.line - 1 = (threeLines.content.toList.take (8 : UInt32).toNat).count 10 ∧
        text = (threeLines.content.toList.splitOn 10).getD (lc.line - 1) [] ∧
        c ≤ text.length ∧
        (c = text.length ↔ (8 : UInt32).toNat = threeLines.content.size ∨
          threeLines.content.toList[(8 : UInt32).toNat]? = some 10) ∧
        (c < text.length → text[c]? = threeLines.content.toList[(8 : UInt32).toNat]?) :=
  ⟨by decide, lineCol_agrees_with_getLine 8 (by decide)⟩

end SourceFile

end Combinatory
