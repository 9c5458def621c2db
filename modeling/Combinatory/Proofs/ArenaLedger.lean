import Combinatory.Proofs.ArenaLayout
import Mathlib

/-! What an arena owes its callers. A session pairs an arena with the ledger of the pointers it
handed out, and `Session.Sound` ties the two. Every call but `destroy` keeps it
(`Sound.perform`), so after every run the bytes in use and every lookup are what the ledger
says (`replay_layout_and_usage`, `replay_lookup_exact`). -/
namespace Combinatory

open Arena (wordSize)

namespace Geometry

variable {g : Geometry}

/-- The checks of `make` leave a valid geometry. -/
theorem make_valid {aligned : Bool} {capacity blockSize maxRegions : UInt64}
    (h : make aligned capacity blockSize maxRegions = .ok g) : g.Valid := by
  unfold make at h
  split at h
  · cases h
  dsimp only at h
  split at h
  · cases h
  split at h
  · cases h
  rename_i hbs hfit
  cases h
  simp only [not_or, UInt64.lt_iff_toNat_lt] at hfit
  have hbs' : (Arena.nextPow2 blockSize).toNat ≠ 0 := fun h0 => hbs (UInt64.toNat_inj.1 h0)
  refine ⟨Nat.pos_of_ne_zero hbs', Nat.le_of_not_lt hfit.2, Nat.le_of_not_lt hfit.1, ?_, ?_⟩
  · split
    · exact Nat.one_pos
    · rename_i hm
      have : maxRegions.toNat ≠ 0 := fun h0 => hm (UInt64.toNat_inj.1 h0)
      simp [Arena.maxRegionLimit]
      omega
  · split
    · simp [Arena.maxRegionLimit]
    · exact Nat.min_le_right _ _

theorem packed_valid {capacity maxRegions : UInt64} (h : packed capacity maxRegions = .ok g) :
    g.Valid :=
  make_valid h

theorem alignedTo_valid {capacity blockSize maxRegions : UInt64}
    (h : alignedTo capacity blockSize maxRegions = .ok g) : g.Valid := by
  unfold alignedTo at h
  split at h
  · cases h
  · exact make_valid h

/-- On a size of at most one region the 64-bit footprint is the bytes of the size's blocks. -/
theorem Valid.roundedSize_toNat (hg : g.Valid) {s : Nat} (hpos : 0 < s) (hs : s ≤ g.capacity) :
    (g.roundedSize s.toUInt64).toNat = g.blocksFor s * g.blockSize := by
  have hw : wordSize = 8 := rfl
  have hcap := hg.capacity_le
  have hbs := hg.block_le
  simp only [Arena.maxCapacity] at hcap
  have hs64 : s.toUInt64.toNat = s := by simp; omega
  have hb64 : g.blockSize.toUInt64.toNat = g.blockSize := by simp; omega
  have hne : s.toUInt64 ≠ 0 := fun h => by
    have := congrArg UInt64.toNat h
    simp at this
    omega
  have htot : (s.toUInt64 + wordSize.toUInt64).toNat = s + 8 := by
    rw [UInt64.toNat_add, hs64]
    simp [hw]
    omega
  unfold roundedSize blocksFor
  rw [if_neg hne]
  dsimp only
  split
  · -- aligned: the blocks round the size and its word up, still far below a word's range
    have hsum : (s.toUInt64 + wordSize.toUInt64 + g.blockSize.toUInt64 - 1).toNat =
        s + 8 + g.blockSize - 1 := by
      rw [UInt64.toNat_sub_of_le, UInt64.toNat_add, htot, hb64]
      · simp
        omega
      · rw [UInt64.le_iff_toNat_le, UInt64.toNat_add, htot, hb64]
        simp
        omega
    rw [UInt64.toNat_mul, UInt64.toNat_div, hsum, hb64, hw]
    apply Nat.mod_eq_of_lt
    have := Nat.div_mul_le_self (s + 8 + g.blockSize - 1) g.blockSize
    omega
  · rw [UInt64.toNat_mul, htot, hb64, hw]
    apply Nat.mod_eq_of_lt
    calc (s + 8) * g.blockSize ≤ (2 ^ 31 + 8) * 2 ^ 31 := Nat.mul_le_mul (by omega) (by omega)
      _ < 2 ^ 64 := by decide

end Geometry

namespace Arena

variable {a : Arena} {i : Nat} {r : Region} {al : Allocation}

/-! ### Fresh arenas -/

theorem ofGeometry_laid {g : Geometry} {space : Nat} (hg : g.Valid) (hs : space < 2 ^ 16) :
    (ofGeometry g space).Laid :=
  ⟨hg, hs, rfl, by simp [ofGeometry], hg.regions_pos, fun j r hr => by
    have : j = 0 ∧ r = Region.empty := by
      simp only [ofGeometry, List.getElem?_toArray] at hr
      cases j <;> simp_all
    rw [this.2]
    exact Region.empty_laid _⟩

theorem ofGeometry_granted (g : Geometry) (space : Nat) : (ofGeometry g space).granted = [] := by
  simp [granted, allocsOf, ofGeometry, Region.empty]

/-- An arena the constructors make, packed or aligned, is laid out and has granted nothing. -/
theorem made_laid {capacity blockSize maxRegions : UInt64} {space : Nat}
    (hmade : packed capacity maxRegions space = .ok a ∨
      aligned capacity blockSize maxRegions space = .ok a) (hs : space < 2 ^ 16) :
    a.Laid ∧ a.granted = [] := by
  obtain ⟨g, hg, rfl⟩ : ∃ g : Geometry, g.Valid ∧ a = ofGeometry g space := by
    rcases hmade with h | h
    · cases hg : Geometry.packed capacity maxRegions with
      | error e => simp [packed, hg, Except.map] at h
      | ok g =>
        simp only [packed, hg, Except.map, Except.ok.injEq] at h
        exact ⟨g, Geometry.packed_valid hg, h.symm⟩
    · cases hg : Geometry.alignedTo capacity blockSize maxRegions with
      | error e => simp [aligned, hg, Except.map] at h
      | ok g =>
        simp only [aligned, hg, Except.map, Except.ok.injEq] at h
        exact ⟨g, Geometry.alignedTo_valid hg, h.symm⟩
  exact ⟨ofGeometry_laid hg hs, ofGeometry_granted g space⟩

/-! ### The granted list -/

/-- The region-by-region view of a quantity read off each region's allocations. -/
theorem map_range_allocsOf (a : Arena) {β : Type} (F : List Allocation → β) :
    (List.range a.regions.size).map (fun j => F (a.allocsOf j)) =
      a.regions.toList.map fun r => F r.allocations.toList := by
  refine List.ext_getElem (by simp) fun j h₁ h₂ => ?_
  have hj : j < a.regions.size := by simpa using h₁
  simp [allocsOf, Array.getElem?_eq_getElem hj]

/-- The bytes in use, counted in the bitmaps, are the blocks of the live granted allocations. -/
theorem used_eq_granted (ha : a.Laid) :
    a.used = ((a.granted.filter (·.2.live)).map (·.2.blocks)).sum * a.geometry.blockSize := by
  -- each region's bitmap counts the blocks of its live allocations
  have hfold : ∀ (l : List Region), (∀ r ∈ l, r.Laid a.geometry) → ∀ n, l.foldl (fun n r => n + r.used) n =
      n + (l.map fun r => ((r.allocations.toList.filter (·.live)).map (·.blocks)).sum).sum := by
    intro l
    induction l with
    | nil => simp
    | cons r rest ih =>
      intro hl n
      rw [List.foldl_cons, ih fun r' hr' => hl r' (List.mem_cons_of_mem _ hr')]
      simp only [(hl r List.mem_cons_self).used_eq, Region.usedBlocks_eq, List.map_cons, List.sum_cons]
      omega
  have hregions : ∀ r ∈ a.regions.toList, r.Laid a.geometry := fun r hr => by
    obtain ⟨j, hj, rfl⟩ := List.getElem_of_mem hr
    exact ha.regions j _ (by simp [Array.getElem?_eq_getElem (by simpa using hj)])
  have hsum : ((a.granted.filter (·.2.live)).map (·.2.blocks)).sum =
      ((List.range a.regions.size).map fun j => ((a.allocsOf j).filter (·.live)).map (·.blocks) |>.sum).sum := by
    rw [granted, List.filter_flatMap, List.map_flatMap, List.flatMap_def, List.sum_flatten, List.map_map]
    simp only [List.filter_map, List.map_map, Function.comp_def]
  rw [used, ← Array.foldl_toList, hfold _ hregions, hsum, map_range_allocsOf a fun l =>
    ((l.filter (·.live)).map (·.blocks)).sum, Nat.zero_add]

/-- Granted allocations are told apart by their region and start. -/
theorem Laid.keys_nodup (ha : a.Laid) : (a.granted.map fun x => (x.1, x.2.start)).Nodup := by
  simp only [granted, List.map_flatMap, List.map_map]
  refine List.nodup_flatMap.2 ⟨fun j hj => ?_, ?_⟩
  · obtain ⟨r, hr⟩ : ∃ r, a.regions[j]? = some r :=
      ⟨_, Array.getElem?_eq_getElem (List.mem_range.1 hj)⟩
    rw [allocsOf_of_getElem? hr]
    have hnd := (ha.regions j r hr).starts_nodup
    have : (r.allocations.toList.map fun al => (j, al.start)) =
        (r.allocations.toList.map (·.start)).map (j, ·) := by simp
    simp only [Function.comp_def]
    rw [this]
    exact hnd.map fun _ _ h => (Prod.mk.inj h).2
  · refine (List.pairwise_lt_range).imp fun {j k} hjk x hx hy => ?_
    simp only [Function.comp_def, List.mem_map] at hx hy
    obtain ⟨_, _, rfl⟩ := hx
    obtain ⟨_, _, h⟩ := hy
    exact Nat.ne_of_lt hjk (Prod.mk.inj h).1.symm

/-- Pointers of granted allocations are equal exactly when their regions and starts are. -/
theorem Laid.ptr_eq_iff (ha : a.Laid) {x y : Nat × Allocation} (hx : x ∈ a.granted)
    (hy : y ∈ a.granted) :
    a.ptr x.1 (x.2.start + wordSize) = a.ptr y.1 (y.2.start + wordSize) ↔
      x.1 = y.1 ∧ x.2.start = y.2.start := by
  obtain ⟨r, hr, hal⟩ := mem_granted.1 hx
  obtain ⟨r', hr', hal'⟩ := mem_granted.1 hy
  have hbx := ((ha.regions _ r hr).tiles.bounds _ hal)
  have hby := ((ha.regions _ r' hr').tiles.bounds _ hal')
  have hcx := (ha.regions _ r hr).cursor_le
  have hcy := (ha.regions _ r' hr').cursor_le
  have hcap := ha.geometry.capacity_le
  simp only [maxCapacity] at hcap
  obtain ⟨htx, -⟩ := ptr_ne_zero ha hr hal
  obtain ⟨hty, -⟩ := ptr_ne_zero ha hr' hal'
  constructor
  · intro h
    have h' := congrArg UInt64.toNat h
    rw [htx, hty] at h'
    simp only [base] at h'
    have hw : wordSize = 8 := rfl
    omega
  · rintro ⟨h₁, h₂⟩
    rw [h₁, h₂]

/-- The pointer of a granted allocation carries its region and its payload offset. -/
theorem Laid.ptr_fields (ha : a.Laid) {x : Nat × Allocation} (hx : x ∈ a.granted) :
    (a.ptr x.1 (x.2.start + wordSize)).region = x.1 ∧
      (a.ptr x.1 (x.2.start + wordSize)).offset = x.2.start + wordSize := by
  obtain ⟨r, hr, hal⟩ := mem_granted.1 hx
  have hb := ((ha.regions _ r hr).tiles.bounds _ hal)
  have hc := (ha.regions _ r hr).cursor_le
  have hcap := ha.geometry.capacity_le
  have hi := ha.index_lt hr
  simp only [maxCapacity] at hcap
  obtain ⟨ht, -⟩ := ptr_ne_zero ha hr hal
  simp only [Ptr.region, Ptr.offset, ht, base]
  have hw : wordSize = 8 := rfl
  omega

/-- Lookup read off the granted list: the first granted allocation whose pointer is `p` answers,
with its size while live and as a double free once freed; no such allocation, no owner. -/
theorem Laid.lookup_eq (ha : a.Laid) (p : Ptr) :
    a.lookup p =
      match a.granted.find? (fun x => a.ptr x.1 (x.2.start + wordSize) = p) with
      | some x =>
        if x.2.live then .ok ⟨x.1, x.2.start + wordSize, a.wordAt x.1 x.2.start⟩ else .error .doubleFree
      | none => .error .foreign := by
  cases hf : a.granted.find? (fun x => a.ptr x.1 (x.2.start + wordSize) = p) with
  | none =>
    refine lookup_foreign ha p fun j r hr al hal hp => ?_
    have hx : (j, al) ∈ a.granted := mem_granted.2 ⟨r, hr, hal⟩
    simpa [hp] using List.find?_eq_none.1 hf _ hx
  | some x =>
    have hp : a.ptr x.1 (x.2.start + wordSize) = p := by simpa using List.find?_some hf
    obtain ⟨r, hr, hal⟩ := mem_granted.1 (List.mem_of_find?_eq_some hf)
    subst hp
    cases hl : x.2.live
    · rw [lookup_freed ha hr hal hl]
      simp [hl]
    · rw [lookup_live ha hr hal hl]
      simp [hl, wordAt_of_getElem? hr]

/-! ### The ledger -/

/-- A pointer handed out since the last reset: the size asked for and whether it is still live,
neither freed nor moved. -/
structure Grant where
  ptr : Ptr
  size : Nat
  live : Bool
  deriving DecidableEq, Repr

/-- The grants of an arena since its last reset, in the order they were made. -/
abbrev Ledger := List Grant

/-- A free or a move of `p` retires its grant. -/
def Grant.retire (p : Ptr) (g : Grant) : Grant := if g.ptr = p then { g with live := false } else g

/-- What the ledger says a lookup of `p` gives: the size asked for when `p` was granted and is
still live, a double free when it was retired, and no owner when it was never granted. -/
def Ledger.lookup (L : Ledger) (p : Ptr) : Except ArenaError Resolved :=
  match L.find? (·.ptr = p) with
  | some g => if g.live then .ok ⟨p.region, p.offset, g.size⟩ else .error .doubleFree
  | none => .error .foreign

/-- The bytes the ledger accounts for: the footprint of every live grant. -/
def Ledger.footprint (L : Ledger) (g : Geometry) : Nat :=
  ((L.filter (·.live)).map fun x => (g.roundedSize x.size.toUInt64).toNat).sum

/-- How a granted allocation stands for a grant: it has the grant's pointer, it is live exactly
when the grant is, its size word holds the size asked for while live and zero once retired,
and a live one spans the footprint of that size. -/
structure Records (a : Arena) (x : Nat × Allocation) (g : Grant) : Prop where
  ptr : g.ptr = a.ptr x.1 (x.2.start + wordSize)
  live : x.2.live = g.live
  word : a.wordAt x.1 x.2.start = if g.live then g.size else 0
  span : g.live = true → x.2.blocks * a.geometry.blockSize = (a.roundedSize g.size.toUInt64).toNat

theorem ptr_congr {a' : Arena} (hs : a'.space = a.space) : a'.ptr = a.ptr := by
  funext i off
  simp [ptr, base, hs]

/-- A record survives a step that keeps the space, the geometry and the allocation's size word. -/
theorem Records.transfer {a' : Arena} {x : Nat × Allocation} {g : Grant} (h : Records a x g)
    (hs : a'.space = a.space) (hg : a'.geometry = a.geometry)
    (hw : a'.wordAt x.1 x.2.start = a.wordAt x.1 x.2.start) : Records a' x g where
  ptr := by rw [ptr_congr hs]; exact h.ptr
  live := h.live
  word := hw ▸ h.word
  span hl := by rw [roundedSize, hg]; exact h.span hl

/-- Records of a list of allocations survive a step that keeps their size words. -/
theorem Records.transfer_all {a' : Arena} {l : List (Nat × Allocation)} {L : Ledger}
    (h : List.Forall₂ (Records a) l L) (hs : a'.space = a.space) (hg : a'.geometry = a.geometry)
    (hw : ∀ x ∈ l, a'.wordAt x.1 x.2.start = a.wordAt x.1 x.2.start) :
    List.Forall₂ (Records a') l L :=
  ((List.forall₂_and_left l L).2 ⟨hw, h⟩).imp fun _ _ hx => hx.2.transfer hs hg hx.1

/-- Related lists are searched alike when related entries answer a search alike. -/
theorem find?_forall₂ {α β : Type} {R : α → β → Prop} {P : α → Bool} {Q : β → Bool}
    (hPQ : ∀ x y, R x y → P x = Q y) :
    ∀ {l₁ : List α} {l₂ : List β}, List.Forall₂ R l₁ l₂ → Option.Rel R (l₁.find? P) (l₂.find? Q)
  | _, _, .nil => .none
  | x :: _, y :: _, .cons hxy h => by
    rw [List.find?_cons, List.find?_cons, hPQ x y hxy]
    split
    · exact .some hxy
    · exact find?_forall₂ hPQ h

/-- The total footprint of related lists agrees. -/
theorem Records.footprint {l : List (Nat × Allocation)} {L : Ledger}
    (h : List.Forall₂ (Records a) l L) :
    ((l.filter (·.2.live)).map (·.2.blocks)).sum * a.geometry.blockSize =
      L.footprint a.geometry := by
  induction h with
  | nil => simp [Ledger.footprint]
  | @cons x g _ _ hxg _ ih =>
    simp only [Ledger.footprint] at ih ⊢
    cases hl : g.live
    · simp [hxg.live, hl, ih]
    · simp [hxg.live, hl, ← ih, Nat.add_mul, hxg.span hl, roundedSize]

/-! ### What a call returns -/

theorem Laid.lookup_ok (ha : a.Laid) {p : Ptr} {res : Resolved} (h : a.lookup p = .ok res) :
    ∃ x ∈ a.granted, x.2.live = true ∧ a.ptr x.1 (x.2.start + wordSize) = p ∧
      res = ⟨x.1, x.2.start + wordSize, a.wordAt x.1 x.2.start⟩ := by
  rw [ha.lookup_eq] at h
  split at h
  · rename_i x hf
    split at h
    · rename_i hl
      cases h
      exact ⟨x, List.mem_of_find?_eq_some hf, hl, by simpa using List.find?_some hf, rfl⟩
    · cases h
  · cases h

theorem alloc_ok {b : Arena} {n : UInt64} {q : Ptr} (h : a.alloc n = .ok (b, q)) :
    ∃ i off, a.allocAt n.toNat = .ok (b, i, off) ∧ q = b.ptr i off := by
  unfold alloc at h
  cases hA : a.allocAt n.toNat with
  | error e => simp [hA, bind, Except.bind] at h
  | ok v =>
    obtain ⟨b', i, off⟩ := v
    simp only [hA, bind, Except.bind, pure, Except.pure, Except.ok.injEq, Prod.mk.injEq] at h
    obtain ⟨rfl, rfl⟩ := h
    exact ⟨i, off, rfl, rfl⟩

theorem allocArray_ok {b : Arena} {e c : UInt64} {q : Ptr} (h : a.allocArray e c = .ok (b, q)) :
    a.alloc (e * c) = .ok (b, q) := by
  unfold allocArray at h
  split at h
  · cases h
  · exact h

theorem strdup_ok {b : Arena} {bytes : ByteArray} {q : Ptr} (h : a.strdup bytes = .ok (b, q)) :
    ∃ a' i off, a.allocAt (bytes.size + 1) = .ok (a', i, off) ∧ b = a'.writeAt i off bytes ∧
      q = a'.ptr i off := by
  unfold strdup at h
  cases hA : a.allocAt (bytes.size + 1) with
  | error e => simp [hA, bind, Except.bind] at h
  | ok v =>
    obtain ⟨a', i, off⟩ := v
    simp only [hA, bind, Except.bind, pure, Except.pure, Except.ok.injEq, Prod.mk.injEq] at h
    exact ⟨a', i, off, rfl, h.1.symm, h.2.symm⟩

theorem free_ok {b : Arena} {p : Ptr} (h : a.free p = .ok b) :
    ∃ res, a.lookup p = .ok res ∧ b = a.release res := by
  unfold free at h
  cases hL : a.lookup p with
  | error e => simp [hL, bind, Except.bind] at h
  | ok res =>
    simp only [hL, bind, Except.bind, pure, Except.pure, Except.ok.injEq] at h
    exact ⟨res, rfl, h.symm⟩

theorem write_ok {b : Arena} {p : Ptr} {pos : Nat} {bytes : ByteArray}
    (h : a.write p pos bytes = .ok (some b)) :
    ∃ res, a.lookup p = .ok res ∧ pos + bytes.size ≤ res.size ∧
      b = a.writeAt res.region (res.offset + pos) bytes := by
  unfold write at h
  cases hL : a.lookup p with
  | error e => simp [hL, bind, Except.bind] at h
  | ok res =>
    simp only [hL, bind, Except.bind, pure, Except.pure] at h
    split at h
    · cases h
    · rename_i hfit
      simp only [Except.ok.injEq, Option.some.injEq] at h
      exact ⟨res, rfl, Nat.le_of_not_lt hfit, h.symm⟩

theorem realloc_ok {b : Arena} {p q : Ptr} {n : UInt64} (h : a.realloc p n = .ok (b, q)) :
    ∃ res a' i off, a.lookup p = .ok res ∧ res.size ≤ n.toNat ∧
      a.allocAt n.toNat = .ok (a', i, off) ∧
      b = (a'.writeAt i off (a'.readAt res.region res.offset
        (min n.toNat (a'.geometry.capacity - res.offset)))).release res ∧ q = a'.ptr i off := by
  unfold realloc at h
  cases hL : a.lookup p with
  | error e => simp [hL, bind, Except.bind] at h
  | ok res =>
    simp only [hL, bind, Except.bind] at h
    split at h
    · cases h
    · rename_i hfit
      cases hA : a.allocAt n.toNat with
      | error e => simp [hA] at h
      | ok v =>
        obtain ⟨a', i, off⟩ := v
        simp only [hA, pure, Except.pure, Except.ok.injEq, Prod.mk.injEq] at h
        exact ⟨res, a', i, off, rfl, Nat.le_of_not_lt hfit, rfl, h.1.symm, h.2.symm⟩

/-! ### Sessions -/

/-- The calls a client makes on an arena. A write puts bytes into the payload of `p` from
offset `pos`, as a write into the slice that `bytes` returns does. -/
inductive Call where
  | alloc (size : UInt64)
  | allocArray (elem count : UInt64)
  | strdup (bytes : ByteArray)
  | free (p : Ptr)
  | realloc (p : Ptr) (size : UInt64)
  | write (p : Ptr) (pos : Nat) (bytes : ByteArray)
  | reset
  | destroy

/-- An arena with the ledger of what it granted since its last reset. -/
structure Session where
  arena : Arena
  ledger : Ledger

namespace Session

/-- A call that hands out a fresh pointer grants it with the size asked for. -/
def grant (s : Session) (size : Nat) : Except ArenaError (Arena × Ptr) → Session
  | .ok (a, p) => ⟨a, s.ledger ++ [⟨p, size, true⟩]⟩
  | .error _ => s

/-- One call of a client; a refused call changes nothing. -/
def perform (s : Session) : Call → Session
  | .alloc n => s.grant n.toNat (s.arena.alloc n)
  | .allocArray e c => s.grant (e * c).toNat (s.arena.allocArray e c)
  | .strdup b => s.grant (b.size + 1) (s.arena.strdup b)
  | .free p =>
    match s.arena.free p with
    | .ok a => ⟨a, s.ledger.map (Grant.retire p)⟩
    | .error _ => s
  | .realloc p n =>
    match s.arena.realloc p n with
    | .ok (a, q) => ⟨a, s.ledger.map (Grant.retire p) ++ [⟨q, n.toNat, true⟩]⟩
    | .error _ => s
  | .write p pos b =>
    match s.arena.write p pos b with
    | .ok (some a) => ⟨a, s.ledger⟩
    | _ => s
  | .reset =>
    match s.arena.reset with
    | .ok a => ⟨a, []⟩
    | .error _ => s
  | .destroy =>
    match s.arena.destroy with
    | .ok a => ⟨a, []⟩
    | .error _ => s

/-- A run of calls, one after another. -/
def replay (s : Session) (calls : List Call) : Session := calls.foldl perform s

/-- The invariant of a session: the arena is laid out, and its granted allocations, region by
region in address order, record the ledger's grants in the order they were made. -/
structure Sound (s : Session) : Prop where
  laid : s.arena.Laid
  tracks : List.Forall₂ (Records s.arena) s.arena.granted s.ledger

variable {s : Session}

/-- A fresh allocation is granted last. -/
theorem Sound.allocAt (hs : s.Sound) {a' : Arena} {size i off : Nat}
    (h : s.arena.allocAt size = .ok (a', i, off)) :
    Sound ⟨a', s.ledger ++ [⟨a'.ptr i off, size, true⟩]⟩ := by
  obtain ⟨hlaid, hgeo, hspace, hpos, hle, hoff, hgr, hword, hkeep⟩ := allocAt_spec hs.laid h
  refine ⟨hlaid, ?_⟩
  show List.Forall₂ (Records a') a'.granted (s.ledger ++ _)
  rw [hgr]
  refine List.rel_append (Records.transfer_all hs.tracks hspace hgeo hkeep) (.cons ?_ .nil)
  have hst : off - wordSize + wordSize = off := Nat.sub_add_cancel hoff
  refine ⟨by simp only [hst], rfl, by simpa using hword, fun _ => ?_⟩
  simp only [roundedSize, hgeo]
  rw [hs.laid.geometry.roundedSize_toNat hpos hle]

/-- A write inside a granted allocation keeps every record. -/
theorem Sound.writeAt (hs : s.Sound) {x : Nat × Allocation} (hx : x ∈ s.arena.granted)
    {off : Nat} {bytes : ByteArray} (hoff : x.2.start + wordSize ≤ off)
    (hend : off + bytes.size ≤ x.2.start + x.2.blocks * s.arena.geometry.blockSize) :
    Sound ⟨s.arena.writeAt x.1 off bytes, s.ledger⟩ := by
  obtain ⟨r, hr, hal⟩ := mem_granted.1 hx
  obtain ⟨hlaid, hgr, hkeep⟩ := writeAt_spec hs.laid hr hal hoff hend
  refine ⟨hlaid, ?_⟩
  show List.Forall₂ (Records _) _ s.ledger
  rw [hgr]
  exact Records.transfer_all hs.tracks rfl rfl hkeep

/-- Releasing a live allocation retires the grant of its pointer and no other. -/
theorem Sound.release (hs : s.Sound) {x : Nat × Allocation} (hx : x ∈ s.arena.granted)
    (hl : x.2.live = true) :
    Sound ⟨s.arena.release ⟨x.1, x.2.start + wordSize, s.arena.wordAt x.1 x.2.start⟩,
      s.ledger.map (Grant.retire (s.arena.ptr x.1 (x.2.start + wordSize)))⟩ := by
  obtain ⟨r, hr, hal⟩ := mem_granted.1 hx
  obtain ⟨hlaid, hgr, hzero, hkeep⟩ := release_spec hs.laid hr hal hl
  rw [wordAt_of_getElem? hr]
  refine ⟨hlaid, ?_⟩
  show List.Forall₂ (Records _) _ _
  rw [hgr, List.forall₂_map_left_iff, List.forall₂_map_right_iff]
  refine ((List.forall₂_and_left _ _).2 ⟨fun y hy => hy, hs.tracks⟩).imp fun y g ⟨hy, hyg⟩ => ?_
  -- a grant is retired exactly when its allocation is the released one
  have hiff : g.ptr = s.arena.ptr x.1 (x.2.start + wordSize) ↔ y.1 = x.1 ∧ y.2.start = x.2.start := by
    rw [hyg.ptr]
    exact hs.laid.ptr_eq_iff hy hx
  by_cases hyx : y.1 = x.1 ∧ y.2.start = x.2.start
  · have hret : g.retire (s.arena.ptr x.1 (x.2.start + wordSize)) = { g with live := false } :=
      if_pos (hiff.2 hyx)
    rw [if_pos hyx, hret]
    refine ⟨?_, rfl, ?_, fun h => nomatch h⟩
    · rw [ptr_congr (release_space _ _)]
      exact hyg.ptr
    · rw [hyx.1, hyx.2]
      exact hzero
  · have hret : g.retire (s.arena.ptr x.1 (x.2.start + wordSize)) = g := if_neg (mt hiff.1 hyx)
    rw [if_neg hyx, hret]
    have hne : y ≠ (x.1, x.2) := fun h => hyx ⟨by rw [h], by rw [h]⟩
    exact hyg.transfer (release_space _ _) (release_geometry _ _) (hkeep y hy hne)

theorem Sound.start (ha : a.Laid) (hg : a.granted = []) : Sound ⟨a, []⟩ :=
  ⟨ha, by show List.Forall₂ _ a.granted []; rw [hg]; exact .nil⟩

theorem Sound.grant (hs : s.Sound) {size : Nat} {r : Except ArenaError (Arena × Ptr)}
    (h : ∀ b q, r = .ok (b, q) → Sound ⟨b, s.ledger ++ [⟨q, size, true⟩]⟩) : (s.grant size r).Sound := by
  cases r with
  | error e => exact hs
  | ok v => exact h v.1 v.2 rfl

theorem Sound.alloc (hs : s.Sound) {b : Arena} {n : UInt64} {q : Ptr}
    (h : s.arena.alloc n = .ok (b, q)) : Sound ⟨b, s.ledger ++ [⟨q, n.toNat, true⟩]⟩ := by
  obtain ⟨i, off, hA, rfl⟩ := alloc_ok h
  exact hs.allocAt hA

/-- A copied string is written inside its fresh allocation, terminator included. -/
theorem Sound.strdup (hs : s.Sound) {b : Arena} {bytes : ByteArray} {q : Ptr}
    (h : s.arena.strdup bytes = .ok (b, q)) : Sound ⟨b, s.ledger ++ [⟨q, bytes.size + 1, true⟩]⟩ := by
  obtain ⟨a', i, off, hA, rfl, rfl⟩ := strdup_ok h
  obtain ⟨-, hgeo, -, -, -, hoff, hgr, -, -⟩ := allocAt_spec hs.laid hA
  have hx : (i, ⟨off - wordSize, s.arena.geometry.blocksFor (bytes.size + 1), true⟩) ∈ a'.granted := by
    rw [hgr]
    exact List.mem_append_right _ (List.mem_singleton_self _)
  have hfit := s.arena.geometry.le_blocksFor_mul hs.laid.geometry.block_pos (bytes.size + 1)
  refine (hs.allocAt hA).writeAt hx ?_ ?_
  · dsimp only
    omega
  · dsimp only
    rw [hgeo]
    omega

theorem Sound.free (hs : s.Sound) {b : Arena} {p : Ptr} (h : s.arena.free p = .ok b) :
    Sound ⟨b, s.ledger.map (Grant.retire p)⟩ := by
  obtain ⟨res, hL, rfl⟩ := free_ok h
  obtain ⟨x, hx, hl, rfl, rfl⟩ := hs.laid.lookup_ok hL
  exact hs.release hx hl

/-- A write that fits the recorded size stays inside the allocation's blocks. -/
theorem Sound.write (hs : s.Sound) {b : Arena} {p : Ptr} {pos : Nat} {bytes : ByteArray}
    (h : s.arena.write p pos bytes = .ok (some b)) : Sound ⟨b, s.ledger⟩ := by
  obtain ⟨res, hL, hfit, rfl⟩ := write_ok h
  obtain ⟨x, hx, hl, -, rfl⟩ := hs.laid.lookup_ok hL
  obtain ⟨r, hr, hal⟩ := mem_granted.1 hx
  obtain ⟨-, -, hblocks⟩ := (hs.laid.regions _ r hr).live _ hal hl
  have hcover := s.arena.geometry.le_blocksFor_mul hs.laid.geometry.block_pos (r.word x.2.start)
  rw [wordAt_of_getElem? hr] at hfit
  refine hs.writeAt hx (Nat.le_add_right _ _) ?_
  rw [hblocks]
  dsimp only at hfit ⊢
  omega

theorem Region.read_size (r : Region) (i n : Nat) : (r.read i n).size = n := by
  simp [Region.read, ByteArray.size]

/-- A reallocation grants a fresh pointer, then retires the old one: the copy lies inside the
fresh allocation, and the fresh pointer is never the old one. -/
theorem Sound.realloc (hs : s.Sound) {b : Arena} {p q : Ptr} {n : UInt64}
    (h : s.arena.realloc p n = .ok (b, q)) :
    Sound ⟨b, s.ledger.map (Grant.retire p) ++ [⟨q, n.toNat, true⟩]⟩ := by
  obtain ⟨res, a', i, off, hL, -, hA, rfl, rfl⟩ := realloc_ok h
  obtain ⟨x, hx, hl, rfl, rfl⟩ := hs.laid.lookup_ok hL
  obtain ⟨hlaid', hgeo, hspace, -, -, hoff, hgr, -, hkeep⟩ := allocAt_spec hs.laid hA
  dsimp only
  set fresh : Allocation := ⟨off - wordSize, s.arena.geometry.blocksFor n.toNat, true⟩ with hfresh
  have hy : (i, fresh) ∈ a'.granted := by
    rw [hgr]
    exact List.mem_append_right _ (List.mem_singleton_self _)
  have hx' : x ∈ a'.granted := by
    rw [hgr]
    exact List.mem_append_left _ hx
  -- the copy is at most the new size, so it lies inside the fresh allocation
  set copy := a'.readAt x.1 (x.2.start + wordSize)
    (min n.toNat (a'.geometry.capacity - (x.2.start + wordSize))) with hcopy
  have hfit := s.arena.geometry.le_blocksFor_mul hs.laid.geometry.block_pos n.toNat
  have hsize : copy.size ≤ n.toNat := by
    simp only [copy, readAt, Region.read_size]
    exact Nat.min_le_left _ _
  have hoff' : fresh.start + wordSize ≤ off := by
    simp only [fresh]
    omega
  have hend' : off + copy.size ≤ fresh.start + fresh.blocks * a'.geometry.blockSize := by
    simp only [fresh, hgeo]
    omega
  have s₂ : Sound ⟨a'.writeAt i off copy, s.ledger ++ [⟨a'.ptr i off, n.toNat, true⟩]⟩ :=
    (hs.allocAt hA).writeAt hy hoff' hend'
  -- the old allocation is still granted, with its size word, after the copy
  obtain ⟨r', hr', hal'⟩ := mem_granted.1 hy
  obtain ⟨-, hgr', hkeep'⟩ := writeAt_spec hlaid' hr' hal' hoff' hend'
  have hxc : x ∈ (a'.writeAt i off copy).granted := by
    rw [hgr']
    exact hx'
  have hwc : (a'.writeAt i off copy).wordAt x.1 x.2.start = s.arena.wordAt x.1 x.2.start := by
    rw [hkeep' x hx', hkeep x hx]
  have s₃ := s₂.release hxc hl
  have hsp : (a'.writeAt i off copy).space = s.arena.space := hspace
  rw [hwc, ptr_congr hsp] at s₃
  -- the fresh pointer differs from the old one: their allocations have different starts
  have hkeys := hlaid'.keys_nodup
  rw [hgr, List.map_append, List.nodup_append] at hkeys
  have hne : a'.ptr i off ≠ s.arena.ptr x.1 (x.2.start + wordSize) := by
    rw [← ptr_congr hspace]
    have hst : off = fresh.start + wordSize := by
      simp only [fresh]
      omega
    rw [hst]
    intro heq
    obtain ⟨h₁, h₂⟩ := (hlaid'.ptr_eq_iff hy hx').1 heq
    exact hkeys.2.2 _ (List.mem_map_of_mem hx) _ (List.mem_singleton.2 rfl) (Prod.ext h₁.symm h₂.symm)
  simp only [List.map_append, List.map_singleton, Grant.retire, if_neg hne] at s₃
  exact s₃

theorem Sound.reset (hs : s.Sound) {b : Arena} (h : s.arena.reset = .ok b) : Sound ⟨b, []⟩ := by
  obtain ⟨hlaid, -, -, hgr⟩ := reset_spec hs.laid h
  exact Sound.start hlaid hgr

/-- Every call but `destroy` keeps a session sound. -/
theorem Sound.perform (hs : s.Sound) {c : Call} (hc : c ≠ .destroy) : (s.perform c).Sound := by
  cases c with
  | alloc n => exact hs.grant fun _ _ h => hs.alloc h
  | allocArray e c => exact hs.grant fun _ _ h => hs.alloc (allocArray_ok h)
  | strdup bytes => exact hs.grant fun _ _ h => hs.strdup h
  | free p =>
    simp only [Session.perform]
    split
    · rename_i hb
      exact hs.free hb
    · exact hs
  | realloc p n =>
    simp only [Session.perform]
    split
    · rename_i hb
      exact hs.realloc hb
    · exact hs
  | write p pos bytes =>
    simp only [Session.perform]
    split
    · rename_i hb
      exact hs.write hb
    · exact hs
  | reset =>
    simp only [Session.perform]
    split
    · rename_i hb
      exact hs.reset hb
    · exact hs
  | destroy => exact absurd rfl hc

/-- A destroyed arena refuses every call. -/
theorem perform_of_destroyed (h : s.arena.destroyed = true) (c : Call) : s.perform c = s := by
  have hL : ∀ p, s.arena.lookup p = .error .destroyed := fun p => by simp [lookup, h]
  have hA : ∀ n, s.arena.allocAt n = .error .destroyed := fun n => by
    simp [allocAt, place, h, bind, Except.bind]
  cases c with
  | alloc n => simp [perform, grant, alloc, hA, bind, Except.bind]
  | allocArray e c =>
    simp only [perform, allocArray]
    split <;> simp [grant, alloc, hA, bind, Except.bind]
  | strdup bytes => simp [perform, grant, strdup, hA, bind, Except.bind]
  | free p => simp [perform, free, hL, bind, Except.bind]
  | realloc p n => simp [perform, realloc, hL, bind, Except.bind]
  | write p pos bytes => simp [perform, write, hL, bind, Except.bind]
  | reset => simp [perform, reset, h]
  | destroy => simp [perform, destroy, h]

theorem Sound.perform_destroy (hs : s.Sound) : (s.perform .destroy).arena.destroyed = true := by
  simp [Session.perform, destroy, hs.laid.alive]

theorem replay_cons (s : Session) (c : Call) (calls : List Call) :
    s.replay (c :: calls) = (s.perform c).replay calls := rfl

/-- A run without `destroy` keeps a session sound. -/
theorem Sound.replay (hs : s.Sound) {calls : List Call} (hno : Call.destroy ∉ calls) :
    (s.replay calls).Sound := by
  induction calls generalizing s with
  | nil => exact hs
  | cons c rest ih =>
    rw [replay_cons]
    have hc : c ≠ .destroy := fun h => hno (h ▸ List.mem_cons_self ..)
    exact ih (hs.perform hc) fun h => hno (List.mem_cons_of_mem _ h)

/-- Along every run a session stays sound until it is destroyed, and then stays destroyed. -/
theorem replay_sound_or_destroyed (h : s.Sound ∨ s.arena.destroyed = true) (calls : List Call) :
    (s.replay calls).Sound ∨ (s.replay calls).arena.destroyed = true := by
  induction calls generalizing s with
  | nil => exact h
  | cons c rest ih =>
    rw [replay_cons]
    apply ih
    rcases h with hs | hd
    · by_cases hc : c = .destroy
      · subst hc
        exact .inr hs.perform_destroy
      · exact .inl (hs.perform hc)
    · rw [perform_of_destroyed hd]
      exact .inr hd

/-! ### What a sound session answers -/

/-- The bytes in use are the footprints of the live grants. -/
theorem Sound.used_eq (hs : s.Sound) : s.arena.used = s.ledger.footprint s.arena.geometry := by
  rw [used_eq_granted hs.laid]
  exact Records.footprint hs.tracks

/-- A lookup answers what the ledger says. -/
theorem Sound.lookup_eq (hs : s.Sound) (p : Ptr) : s.arena.lookup p = s.ledger.lookup p := by
  rw [hs.laid.lookup_eq, Ledger.lookup]
  have hrel := find?_forall₂ (P := fun x => decide (s.arena.ptr x.1 (x.2.start + wordSize) = p))
    (Q := fun g => decide (g.ptr = p)) (fun x g hxg => by rw [hxg.ptr]) hs.tracks
  generalize hfx : s.arena.granted.find? (fun x => decide (s.arena.ptr x.1 (x.2.start + wordSize) = p)) = ox
    at hrel ⊢
  generalize s.ledger.find? (fun g => decide (g.ptr = p)) = og at hrel ⊢
  cases hrel with
  | none => rfl
  | @some x g hxg =>
    have hp : s.arena.ptr x.1 (x.2.start + wordSize) = p := by simpa using List.find?_some hfx
    obtain ⟨hreg, hoff⟩ := hs.laid.ptr_fields (List.mem_of_find?_eq_some hfx)
    rw [hp] at hreg hoff
    cases hl : g.live
    · simp [hxg.live, hl]
    · simp [hxg.live, hl, hreg, hoff, hxg.word]

/-- No pointer is granted twice since the last reset. -/
theorem Sound.ptrs_nodup (hs : s.Sound) : (s.ledger.map (·.ptr)).Nodup := by
  have hmap : s.ledger.map (·.ptr) =
      (s.arena.granted.map fun x => (x.1, x.2.start)).map fun k => s.arena.ptr k.1 (k.2 + wordSize) := by
    have h : List.Forall₂ (· = ·) (s.arena.granted.map fun x => s.arena.ptr x.1 (x.2.start + wordSize))
        (s.ledger.map (·.ptr)) := by
      rw [List.forall₂_map_left_iff, List.forall₂_map_right_iff]
      exact hs.tracks.imp fun x g hxg => hxg.ptr.symm
    rw [List.forall₂_eq_eq_eq] at h
    rw [List.map_map, ← h]
    rfl
  rw [hmap]
  refine hs.laid.keys_nodup.map_on fun k hk k' hk' heq => ?_
  obtain ⟨x, hx, rfl⟩ := List.mem_map.1 hk
  obtain ⟨y, hy, rfl⟩ := List.mem_map.1 hk'
  obtain ⟨h₁, h₂⟩ := (hs.laid.ptr_eq_iff hx hy).1 heq
  exact Prod.ext h₁ h₂

/-- A sound session owns exactly the pointers of its live grants. -/
theorem Sound.owns_iff (hs : s.Sound) (p : Ptr) :
    s.arena.owns p = true ↔ ∃ g ∈ s.ledger, g.ptr = p ∧ g.live = true := by
  rw [owns, hs.lookup_eq, Ledger.lookup]
  -- grants of one pointer are one grant
  have huniq : ∀ g ∈ s.ledger, ∀ g' ∈ s.ledger, g.ptr = g'.ptr → g = g' :=
    fun _ hg _ hg' he => List.inj_on_of_nodup_map hs.ptrs_nodup hg hg' he
  cases hf : s.ledger.find? (fun g => decide (g.ptr = p)) with
  | none =>
    simp only [Except.toBool, Bool.false_eq_true, false_iff, not_exists, not_and]
    intro g hg hp
    simpa [hp] using List.find?_eq_none.1 hf g hg
  | some g =>
    have hg := List.mem_of_find?_eq_some hf
    have hp : g.ptr = p := by simpa using List.find?_some hf
    constructor
    · intro h
      refine ⟨g, hg, hp, ?_⟩
      cases hl : g.live
      · simp [hl, Except.toBool] at h
      · rfl
    · rintro ⟨g', hg', hp', hl'⟩
      rw [huniq g hg g' hg' (hp.trans hp'.symm)]
      simp [hl', Except.toBool]

end Session

/-! ### Runs from a fresh arena -/

/-- Along every run from an arena the constructors make, without `destroy`, the arena stays laid
out and its allocations record the ledger of what it granted since its last reset; the bytes it
reports in use are the footprints of the live grants. -/
theorem replay_layout_and_usage {capacity blockSize maxRegions : UInt64} {space : Nat}
    (hmade : packed capacity maxRegions space = .ok a ∨
      aligned capacity blockSize maxRegions space = .ok a)
    (hspace : space < 2 ^ 16) (calls : List Call) (hno : Call.destroy ∉ calls) :
    (Session.replay ⟨a, []⟩ calls).Sound ∧
      (Session.replay ⟨a, []⟩ calls).arena.used =
        (Session.replay ⟨a, []⟩ calls).ledger.footprint (Session.replay ⟨a, []⟩ calls).arena.geometry := by
  obtain ⟨ha, hg⟩ := made_laid hmade hspace
  have hs := (Session.Sound.start ha hg).replay hno
  exact ⟨hs, hs.used_eq⟩

theorem replay_layout_and_usage_aligned :
    aligned 64 8 1 1 = .ok (ofGeometry ⟨true, 64, 8, 1⟩ 1) ∧
      Call.destroy ∉ [Call.alloc 5, .reset, .alloc 3] ∧
      (Session.replay ⟨ofGeometry ⟨true, 64, 8, 1⟩ 1, []⟩ [.alloc 5, .reset, .alloc 3]).Sound ∧
      (Session.replay ⟨ofGeometry ⟨true, 64, 8, 1⟩ 1, []⟩ [.alloc 5, .reset, .alloc 3]).arena.used =
        (Session.replay ⟨ofGeometry ⟨true, 64, 8, 1⟩ 1, []⟩ [.alloc 5, .reset, .alloc 3]).ledger.footprint
          (Session.replay ⟨ofGeometry ⟨true, 64, 8, 1⟩ 1, []⟩ [.alloc 5, .reset, .alloc 3]).arena.geometry :=
  ⟨rfl, by simp, replay_layout_and_usage
    (Or.inr (show aligned 64 8 1 1 = .ok (ofGeometry ⟨true, 64, 8, 1⟩ 1) from rfl)) (by decide) _ (by simp)⟩

/-- Along every run from an arena the constructors make, a lookup answers what the ledger says
until the arena is destroyed, and is refused as destroyed from then on: it finds a pointer
granted since the last reset with the size asked for while it is live, reports a double free
once it is freed or moved, and owns no other pointer. -/
theorem replay_lookup_exact {capacity blockSize maxRegions : UInt64} {space : Nat}
    (hmade : packed capacity maxRegions space = .ok a ∨
      aligned capacity blockSize maxRegions space = .ok a)
    (hspace : space < 2 ^ 16) (calls : List Call) (p : Ptr) :
    (Session.replay ⟨a, []⟩ calls).arena.lookup p =
        (if (Session.replay ⟨a, []⟩ calls).arena.destroyed then .error .destroyed
        else (Session.replay ⟨a, []⟩ calls).ledger.lookup p) ∧
      ((Session.replay ⟨a, []⟩ calls).arena.owns p = true ↔
        (Session.replay ⟨a, []⟩ calls).arena.destroyed = false ∧
          ∃ g ∈ (Session.replay ⟨a, []⟩ calls).ledger, g.ptr = p ∧ g.live = true) := by
  obtain ⟨ha, hg⟩ := made_laid hmade hspace
  rcases Session.replay_sound_or_destroyed (.inl (Session.Sound.start ha hg)) calls with hs | hd
  · rw [if_neg (by simp [hs.laid.alive]), hs.lookup_eq, hs.owns_iff]
    exact ⟨rfl, by simp [hs.laid.alive]⟩
  · rw [if_pos hd]
    simp [owns, lookup, hd, Except.toBool]

theorem replay_lookup_exact_aligned :
    aligned 64 8 1 1 = .ok (ofGeometry ⟨true, 64, 8, 1⟩ 1) ∧
      ((Session.replay ⟨ofGeometry ⟨true, 64, 8, 1⟩ 1, []⟩ [.alloc 5, .destroy]).arena.lookup 0 =
          (if (Session.replay ⟨ofGeometry ⟨true, 64, 8, 1⟩ 1, []⟩ [.alloc 5, .destroy]).arena.destroyed
            then .error .destroyed
          else (Session.replay ⟨ofGeometry ⟨true, 64, 8, 1⟩ 1, []⟩ [.alloc 5, .destroy]).ledger.lookup 0) ∧
        ((Session.replay ⟨ofGeometry ⟨true, 64, 8, 1⟩ 1, []⟩ [.alloc 5, .destroy]).arena.owns 0 = true ↔
          (Session.replay ⟨ofGeometry ⟨true, 64, 8, 1⟩ 1, []⟩ [.alloc 5, .destroy]).arena.destroyed = false ∧
            ∃ g ∈ (Session.replay ⟨ofGeometry ⟨true, 64, 8, 1⟩ 1, []⟩ [.alloc 5, .destroy]).ledger,
              g.ptr = 0 ∧ g.live = true)) :=
  ⟨rfl, replay_lookup_exact
    (Or.inr (show aligned 64 8 1 1 = .ok (ofGeometry ⟨true, 64, 8, 1⟩ 1) from rfl)) (by decide) _ _⟩

end Arena

end Combinatory
