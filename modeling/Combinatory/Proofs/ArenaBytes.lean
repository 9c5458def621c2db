import Combinatory.Proofs.ArenaLedger

/-! # The bytes of an arena

What an allocation, a write, a release and a move do to the bytes of an arena (`byteAt`): a
fresh payload reads as zero, a move copies the old payload to the front of the new one, and
every other live payload keeps its bytes. -/
namespace Combinatory

namespace Arena

variable {a : Arena} {i j : Nat} {r : Region}

/-! ### The byte view -/

/-- The byte at offset `o` of region `j`; a missing region reads as zero. -/
def byteAt (a : Arena) (j o : Nat) : UInt8 := ((a.regions[j]?).map (·.byte o)).getD 0

theorem byteAt_of_getElem? (hr : a.regions[j]? = some r) (o : Nat) : a.byteAt j o = r.byte o := by
  simp [byteAt, hr]

theorem byteAt_modify (a : Arena) (i : Nat) (f : Region → Region) (j o : Nat) :
    ({ a with regions := a.regions.modify i f } : Arena).byteAt j o =
      if i = j then ((a.regions[j]?).map fun r => (f r).byte o).getD 0 else a.byteAt j o := by
  simp only [byteAt, Array.getElem?_modify]
  split
  · simp only [Option.map_map, Function.comp_def]
  · rfl

/-- A read gives the bytes of the view one after another. -/
theorem readAt_eq (a : Arena) (j o n : Nat) :
    a.readAt j o n = ⟨(List.range n).toArray.map fun k => a.byteAt j (o + k)⟩ := by
  cases hr : a.regions[j]? with
  | none => simp [readAt, byteAt, hr, Region.read, Region.byte, Region.empty]
  | some r => simp [readAt, byteAt, hr, Region.read]

theorem readAt_size (a : Arena) (j o m : Nat) : (a.readAt j o m).size = m :=
  Session.Region.read_size _ _ _

theorem readAt_getD (a : Arena) (j o : Nat) {m k : Nat} (hk : k < m) :
    ((a.readAt j o m).data[k]?).getD 0 = a.byteAt j (o + k) := by
  rw [readAt_eq]
  simp [hk]

/-- Two reads of one length agree when their bytes do. -/
theorem readAt_congr {b : Arena} {j o j' o' n : Nat}
    (h : ∀ k < n, b.byteAt j (o + k) = a.byteAt j' (o' + k)) : b.readAt j o n = a.readAt j' o' n := by
  rw [readAt_eq, readAt_eq]
  congr 1
  exact Array.map_congr_left fun k hk => h k (by simpa using hk)

theorem readAt_extract (a : Arena) (j o : Nat) {m n : Nat} (h : m ≤ n) :
    (a.readAt j o n).extract 0 m = a.readAt j o m := by
  apply ByteArray.ext
  rw [ByteArray.data_extract, readAt_eq, readAt_eq]
  apply Array.ext (by simp; omega)
  intro k h₁ h₂
  simp

/-! ### What each step writes -/

/-- An allocation places the blocks, then commits them. -/
theorem allocAt_ok {a' : Arena} {size i off : Nat} (h : a.allocAt size = .ok (a', i, off)) :
    ∃ a₁ pl, a.place size = .ok (a₁, pl) ∧ a' = a₁.commit pl size ∧ i = pl.region ∧
      off = pl.start + wordSize := by
  simp only [allocAt, bind, Except.bind] at h
  split at h
  · cases h
  rename_i v hp
  obtain ⟨a₁, pl⟩ := v
  simp only [pure, Except.pure, Except.ok.injEq, Prod.mk.injEq] at h
  obtain ⟨rfl, rfl, rfl⟩ := h
  exact ⟨a₁, pl, hp, rfl, rfl, rfl⟩

/-- Placing an allocation changes no byte: a region it appends reads as zero, as a missing one does. -/
theorem place_byteAt {a₁ : Arena} {size : Nat} {pl : Placement} (h : a.place size = .ok (a₁, pl))
    (j o : Nat) : a₁.byteAt j o = a.byteAt j o := by
  obtain ⟨-, -, -, -, -, ⟨rfl, -⟩ | ⟨rfl, -⟩⟩ := place_cases h
  · rfl
  · simp only [byteAt, Array.getElem?_push]
    split
    · rename_i hj
      simp [Region.empty, Region.byte, hj]
    · rfl

/-- Committing an allocation writes its size word and no other byte. -/
theorem commit_byteAt (a : Arena) (pl : Placement) (size : Nat) {j o : Nat}
    (h : j ≠ pl.region ∨ o < pl.start ∨ pl.start + wordSize ≤ o) :
    (a.commit pl size).byteAt j o = a.byteAt j o := by
  rw [commit_eq, byteAt_modify]
  split
  · rename_i hj
    subst hj
    cases hr : a.regions[pl.region]? with
    | none => simp [byteAt, hr]
    | some r =>
      simp only [Option.map_some, Option.getD_some, byteAt_of_getElem? hr]
      simp only [Region.committed]
      rw [Region.byte_writeWord_of_not_mem _ _ _ (by omega), Region.byte_append_zeros rfl]
  · rfl

/-- An allocation writes the size word before its payload and no other byte. -/
theorem allocAt_byteAt {a' : Arena} {size i off j o : Nat} (h : a.allocAt size = .ok (a', i, off))
    (hjo : j ≠ i ∨ o < off - wordSize ∨ off ≤ o) : a'.byteAt j o = a.byteAt j o := by
  obtain ⟨a₁, pl, hp, rfl, rfl, rfl⟩ := allocAt_ok h
  rw [commit_byteAt _ _ _ (by omega), place_byteAt hp]

theorem writeAt_byteAt_of_not_mem (a : Arena) (i off : Nat) (bytes : ByteArray) {j o : Nat}
    (h : j ≠ i ∨ o < off ∨ off + bytes.size ≤ o) :
    (a.writeAt i off bytes).byteAt j o = a.byteAt j o := by
  rw [writeAt_eq, byteAt_modify]
  split
  · rename_i hj
    subst hj
    cases hr : a.regions[i]? with
    | none => simp [byteAt, hr]
    | some r =>
      simp only [Option.map_some, Option.getD_some, byteAt_of_getElem? hr]
      exact Region.byte_writeBytes_of_not_mem _ _ _ (by omega)
  · rfl

theorem writeAt_byteAt_of_mem (hr : a.regions[i]? = some r) {off o : Nat} (bytes : ByteArray)
    (h₁ : off ≤ o) (h₂ : o < off + bytes.size) (hd : o < r.data.size) :
    (a.writeAt i off bytes).byteAt i o = (bytes.data[o - off]?).getD 0 := by
  rw [writeAt_eq, byteAt_modify, if_pos rfl, hr, Option.map_some, Option.getD_some,
    Region.byte_writeBytes, if_pos ⟨h₁, h₂, hd⟩]

/-- A release zeroes the blocks of the allocation it resolves, and no other byte. -/
theorem release_byteAt_of_not_mem (a : Arena) (res : Resolved) {j o : Nat}
    (h : j ≠ res.region ∨ o < res.offset - wordSize ∨
      res.offset - wordSize + a.geometry.blocksFor res.size * a.geometry.blockSize ≤ o) :
    (a.release res).byteAt j o = a.byteAt j o := by
  simp only [byteAt, release_regions, Array.getElem?_modify]
  split
  · rename_i hj
    subst hj
    cases a.regions[res.region]? with
    | none => rfl
    | some r =>
      simp only [Option.map_some, Option.getD_some, Region.byte_released]
      rw [if_neg (by omega)]
  · rfl

/-! ### Where a fresh allocation goes -/

/-- An allocation succeeds exactly when the size is positive and at most a region, its blocks fit
a region, and the last region has room for them or another region may be appended. -/
theorem Laid.allocAt_ok_iff (ha : a.Laid) (size : Nat) :
    (∃ a' i off, a.allocAt size = .ok (a', i, off)) ↔
      0 < size ∧ size ≤ a.geometry.capacity ∧
        a.geometry.blocksFor size * a.geometry.blockSize ≤ a.geometry.capacity ∧
        ((a.regions.back?.getD Region.empty).cursor + a.geometry.blocksFor size * a.geometry.blockSize ≤
            a.geometry.capacity ∨ a.regions.size < a.geometry.maxRegions) := by
  constructor
  · rintro ⟨a', i, off, h⟩
    obtain ⟨a₁, pl, hp, -⟩ := allocAt_ok h
    obtain ⟨-, hpos, hcap, hblocks, hneed, hcase⟩ := place_cases hp
    rw [hblocks] at hneed
    refine ⟨hpos, hcap, hneed, ?_⟩
    rcases hcase with ⟨-, -, hst, hfit⟩ | ⟨-, hlim, -, -⟩
    · rw [hblocks, hst] at hfit
      exact .inl hfit
    · exact .inr hlim
  · rintro ⟨hpos, hcap, hneed, hroom⟩
    simp only [allocAt, place, ha.alive, Bool.false_eq_true, if_false, Nat.ne_of_gt hpos,
      Nat.not_lt.2 hcap, Nat.not_lt.2 hneed]
    by_cases hfit : (a.regions.back?.getD Region.empty).cursor +
        a.geometry.blocksFor size * a.geometry.blockSize > a.geometry.capacity
    · have hlim : ¬a.regions.size ≥ a.geometry.maxRegions := by omega
      simp only [hfit, hlim, if_true, if_false]
      exact ⟨_, _, _, rfl⟩
    · simp only [hfit, if_false]
      exact ⟨_, _, _, rfl⟩

/-- A region of the arena lies below a fresh allocation's size word, or is another region. -/
theorem allocAt_above {a' : Arena} {size i off : Nat}
    (h : a.allocAt size = .ok (a', i, off)) (hr : a.regions[j]? = some r) :
    j ≠ i ∨ r.cursor ≤ off - wordSize := by
  obtain ⟨a₁, pl, hp, -, rfl, rfl⟩ := allocAt_ok h
  obtain ⟨-, -, -, -, -, ⟨-, hreg, hst, -⟩ | ⟨-, -, hreg, -⟩⟩ := place_cases hp
  · by_cases hj : j = pl.region
    · subst hj
      have hlast : a.regions.back? = some r := by
        rw [Array.back?_eq_getElem?, ← hreg, hr]
      rw [hlast, Option.getD_some] at hst
      exact .inr (by omega)
    · exact .inl hj
  · left
    have := (Array.getElem?_eq_some_iff.1 hr).1
    omega

/-- Where a fresh allocation goes: at the cursor of the last region when its blocks fit there,
else at the start of a region appended at the end; no other region changes. -/
theorem Laid.allocAt_place (ha : a.Laid) {a' : Arena} {size i off : Nat}
    (h : a.allocAt size = .ok (a', i, off)) :
    i + 1 = a'.regions.size ∧
      (if (a.regions.back?.getD Region.empty).cursor +
          a.geometry.blocksFor size * a.geometry.blockSize ≤ a.geometry.capacity
        then a'.regions.size = a.regions.size ∧ off = (a.regions.back?.getD Region.empty).cursor + wordSize
        else a'.regions.size = a.regions.size + 1 ∧ off = wordSize) ∧
      ∀ j, j ≠ i → a'.regions[j]? = a.regions[j]? := by
  obtain ⟨a₁, pl, hp, rfl, rfl, rfl⟩ := allocAt_ok h
  obtain ⟨-, hpos, hcap, hblocks, hneed, -⟩ := place_cases hp
  have hsize : (a₁.commit pl size).regions.size = a₁.regions.size := by
    rw [commit_regions, Array.size_modify]
  have hframe : ∀ j, j ≠ pl.region → (a₁.commit pl size).regions[j]? = a₁.regions[j]? := fun j hj => by
    rw [commit_regions, Array.getElem?_modify, if_neg (Ne.symm hj)]
  -- which branch `place` takes is decided by whether the blocks fit after the last cursor
  simp only [place, ha.alive, Bool.false_eq_true, if_false, Nat.ne_of_gt hpos, Nat.not_lt.2 hcap,
    ← hblocks, Nat.not_lt.2 hneed] at hp
  by_cases hfit : (a.regions.back?.getD Region.empty).cursor +
      a.geometry.blocksFor size * a.geometry.blockSize ≤ a.geometry.capacity
  · rw [hblocks, if_neg (Nat.not_lt.2 hfit)] at hp
    simp only [Except.ok.injEq, Prod.mk.injEq] at hp
    obtain ⟨rfl, rfl⟩ := hp
    have hpos' := ha.regions_pos
    refine ⟨by rw [hsize]; dsimp only; omega, ?_, fun j hj => hframe j hj⟩
    rw [if_pos hfit]
    exact ⟨hsize, rfl⟩
  · rw [hblocks, if_pos (Nat.lt_of_not_le hfit)] at hp
    split at hp
    · cases hp
    simp only [Except.ok.injEq, Prod.mk.injEq] at hp
    obtain ⟨rfl, rfl⟩ := hp
    refine ⟨by rw [hsize]; simp, ?_, fun j hj => ?_⟩
    · rw [if_neg hfit, hsize]
      exact ⟨by simp, by simp⟩
    · rw [hframe j hj, Array.getElem?_push, if_neg hj]

/-- The pointer of a fresh allocation carries its region and its payload offset. -/
theorem Laid.allocAt_ptr (ha : a.Laid) {a' : Arena} {size i off : Nat}
    (h : a.allocAt size = .ok (a', i, off)) :
    (a'.ptr i off).region = i ∧ (a'.ptr i off).offset = off := by
  obtain ⟨hlaid, -, -, -, -, hoff, hgr, -, -⟩ := allocAt_spec ha h
  have hx : (i, (⟨off - wordSize, a.geometry.blocksFor size, true⟩ : Allocation)) ∈ a'.granted := by
    rw [hgr]
    exact List.mem_append_right _ (List.mem_singleton_self _)
  simpa only [Nat.sub_add_cancel hoff] using hlaid.ptr_fields hx

/-- The region of a fresh allocation holds data up to the end of its blocks. -/
theorem Laid.allocAt_data (ha : a.Laid) {a' : Arena} {size i off : Nat}
    (h : a.allocAt size = .ok (a', i, off)) :
    ∃ r, a'.regions[i]? = some r ∧
      off - wordSize + a.geometry.blocksFor size * a.geometry.blockSize ≤ r.data.size := by
  obtain ⟨a₁, pl, hp, rfl, rfl, rfl⟩ := allocAt_ok h
  obtain ⟨-, hgeo, -, -, -, -, -, -, hblocks, r, hr, -, -⟩ := place_spec ha hp
  refine ⟨_, by rw [commit_regions, Array.getElem?_modify, if_pos rfl, hr]; rfl, ?_⟩
  rw [Region.committed_size, hgeo, ← hblocks]
  omega

/-- In a laid-out arena, the payload of a fresh allocation reads as zero, and so does every byte
past it. -/
theorem Laid.allocAt_byteAt_payload (ha : a.Laid) {a' : Arena} {size i off o : Nat}
    (h : a.allocAt size = .ok (a', i, off)) (ho : off ≤ o) : a'.byteAt i o = 0 := by
  obtain ⟨a₁, pl, hp, rfl, rfl, rfl⟩ := allocAt_ok h
  obtain ⟨ha₁, -, -, -, -, -, -, -, -, r, hr, hst, -⟩ := place_spec ha hp
  rw [commit_byteAt _ _ _ (by omega), byteAt_of_getElem? hr]
  exact (ha₁.regions _ r hr).byte_eq_zero (by omega)

/-- The payload of a fresh allocation reads as zeros. -/
theorem Laid.allocAt_readAt (ha : a.Laid) {a' : Arena} {size i off : Nat}
    (h : a.allocAt size = .ok (a', i, off)) (n : Nat) : a'.readAt i off n = ⟨Array.replicate n 0⟩ := by
  have hzero : ∀ k, a'.byteAt i (off + k) = 0 := fun k =>
    ha.allocAt_byteAt_payload h (Nat.le_add_right _ _)
  rw [readAt_eq]
  simp only [hzero]
  congr 1
  apply Array.ext (by simp)
  intro k h₁ h₂
  simp

/-! ### Live payloads -/

/-- The payload of a live granted allocation lies below its region's cursor. -/
theorem Laid.payload_below (ha : a.Laid) {x : Nat × Allocation} (hx : x ∈ a.granted)
    (hl : x.2.live = true) :
    ∃ r, a.regions[x.1]? = some r ∧ x.2.start + wordSize + a.wordAt x.1 x.2.start ≤ r.cursor := by
  obtain ⟨r, hr, hal⟩ := mem_granted.1 hx
  have hlaid := ha.regions _ r hr
  obtain ⟨-, -, hblocks⟩ := hlaid.live _ hal hl
  have hcover := a.geometry.le_blocksFor_mul ha.geometry.block_pos (r.word x.2.start)
  have hb := (hlaid.tiles.bounds _ hal).2.1
  rw [← hblocks] at hcover
  refine ⟨r, hr, ?_⟩
  rw [wordAt_of_getElem? hr]
  omega

/-- A live allocation's blocks are those of the size in its size word. -/
theorem Laid.blocks_eq (ha : a.Laid) {x : Nat × Allocation} (hx : x ∈ a.granted)
    (hl : x.2.live = true) : x.2.blocks = a.geometry.blocksFor (a.wordAt x.1 x.2.start) := by
  obtain ⟨r, hr, hal⟩ := mem_granted.1 hx
  rw [wordAt_of_getElem? hr]
  exact ((ha.regions _ r hr).live _ hal hl).2.2

/-- The payload of a live allocation lies outside the blocks of every other allocation. -/
theorem Laid.payload_apart (ha : a.Laid) {x y : Nat × Allocation} (hx : x ∈ a.granted)
    (hy : y ∈ a.granted) (hly : y.2.live = true) (hne : y ≠ x) {k : Nat}
    (hk : k < a.wordAt y.1 y.2.start) :
    y.1 ≠ x.1 ∨ y.2.start + wordSize + k < x.2.start ∨
      x.2.start + x.2.blocks * a.geometry.blockSize ≤ y.2.start + wordSize + k := by
  by_cases hj : y.1 = x.1
  · obtain ⟨r, hr, hal⟩ := mem_granted.1 hx
    obtain ⟨r', hr', hal'⟩ := mem_granted.1 hy
    rw [hj, hr] at hr'
    cases hr'
    have hlaid := ha.regions _ r hr
    have hne' : y.2 ≠ x.2 := fun h => hne (Prod.ext hj h)
    -- the payload ends inside the allocation's own blocks
    have hcover := a.geometry.le_blocksFor_mul ha.geometry.block_pos (a.wordAt y.1 y.2.start)
    rw [← ha.blocks_eq hy hly] at hcover
    rcases hlaid.tiles.apart hal' hal hne' with h | h <;> omega
  · exact .inl hj

/-- An allocation keeps every byte below the cursor of every region. -/
theorem allocAt_byteAt_below {a' : Arena} {size i off o : Nat}
    (h : a.allocAt size = .ok (a', i, off)) (hr : a.regions[j]? = some r) (ho : o < r.cursor) :
    a'.byteAt j o = a.byteAt j o := by
  refine allocAt_byteAt h ?_
  rcases allocAt_above h hr with hj | hc
  · exact .inl hj
  · exact .inr (.inl (by omega))

/-- An allocation keeps the payload of every live allocation. -/
theorem Laid.allocAt_readAt_live (ha : a.Laid) {a' : Arena} {size i off : Nat}
    (h : a.allocAt size = .ok (a', i, off)) {x : Nat × Allocation} (hx : x ∈ a.granted)
    (hl : x.2.live = true) :
    a'.readAt x.1 (x.2.start + wordSize) (a.wordAt x.1 x.2.start) =
      a.readAt x.1 (x.2.start + wordSize) (a.wordAt x.1 x.2.start) := by
  obtain ⟨r, hr, hbelow⟩ := ha.payload_below hx hl
  exact readAt_congr fun k hk => allocAt_byteAt_below h hr (by omega)

/-! ### A move

A move allocates, writes a copy at the fresh payload and releases the old allocation. -/

section Move

variable {a' : Arena} {n i off : Nat} {x : Nat × Allocation}

/-- A move of `x` keeps the payload of every other live allocation, whatever it copies. -/
theorem Laid.move_byteAt_live (ha : a.Laid) (h : a.allocAt n = .ok (a', i, off))
    (hx : x ∈ a.granted) (hlx : x.2.live = true) (cp : ByteArray)
    {y : Nat × Allocation} (hy : y ∈ a.granted) (hly : y.2.live = true) (hne : y ≠ x)
    {k : Nat} (hk : k < a.wordAt y.1 y.2.start) :
    ((a'.writeAt i off cp).release ⟨x.1, x.2.start + wordSize, a.wordAt x.1 x.2.start⟩).byteAt y.1
        (y.2.start + wordSize + k) = a.byteAt y.1 (y.2.start + wordSize + k) := by
  obtain ⟨r, hr, hbelow⟩ := ha.payload_below hy hly
  have hgeo := (allocAt_spec ha h).2.1
  have hapart := ha.payload_apart hx hy hly hne hk
  rw [release_byteAt_of_not_mem, writeAt_byteAt_of_not_mem, allocAt_byteAt_below h hr (by omega)]
  · -- the copy is written above the cursor the payload lies below
    rcases allocAt_above h hr with hj | hc
    · exact .inl hj
    · exact .inr (.inl (by omega))
  · -- the released blocks are the moved allocation's own
    dsimp only
    rw [writeAt_geometry, hgeo, ← ha.blocks_eq hx hlx]
    omega

/-- A move copies the old payload to the front of the fresh one. -/
theorem Laid.move_byteAt_copy (ha : a.Laid) (h : a.allocAt n = .ok (a', i, off))
    (hx : x ∈ a.granted) (hlx : x.2.live = true) (hs : a.wordAt x.1 x.2.start ≤ n)
    {k : Nat} (hk : k < a.wordAt x.1 x.2.start) :
    ((a'.writeAt i off (a'.readAt x.1 (x.2.start + wordSize)
        (min n (a'.geometry.capacity - (x.2.start + wordSize))))).release
        ⟨x.1, x.2.start + wordSize, a.wordAt x.1 x.2.start⟩).byteAt i (off + k) =
      a.byteAt x.1 (x.2.start + wordSize + k) := by
  obtain ⟨r, hr, hbelow⟩ := ha.payload_below hx hlx
  obtain ⟨r', hr', hdata⟩ := ha.allocAt_data h
  obtain ⟨-, hgeo, -, -, -, hoff, -⟩ := allocAt_spec ha h
  obtain ⟨r₀, hr₀, hal⟩ := mem_granted.1 hx
  rw [hr₀] at hr
  cases hr
  have hcur := (ha.regions _ r hr₀).cursor_le
  have htile := ((ha.regions _ r hr₀).tiles.bounds _ hal).2.1
  have hfit := a.geometry.le_blocksFor_mul ha.geometry.block_pos n
  have habove := allocAt_above h hr₀
  rw [release_byteAt_of_not_mem, writeAt_byteAt_of_mem hr', Nat.add_sub_cancel_left, readAt_getD,
    allocAt_byteAt_below h hr₀ (by omega)]
  · rw [hgeo]
    omega
  · omega
  · rw [readAt_size, hgeo]
    omega
  · omega
  · dsimp only
    rw [writeAt_geometry, hgeo, ← ha.blocks_eq hx hlx]
    omega

end Move

end Arena

end Combinatory
