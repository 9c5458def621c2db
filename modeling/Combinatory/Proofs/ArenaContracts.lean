import Combinatory.Proofs.ArenaBytes

/-! # What an allocation and a move promise

From every arena a run reaches, an allocation succeeds exactly when the size fits and then
leaves what `Allocated` says (`alloc_contract`), and a move leaves what `Moved` says
(`realloc_contract`). -/
namespace Combinatory

namespace Arena

/-! ### Retiring a grant -/

@[simp] theorem Grant.retire_ptr (p : Ptr) (g : Grant) : (g.retire p).ptr = g.ptr := by
  unfold Grant.retire
  split <;> rfl

theorem Grant.retire_of_ne {p : Ptr} {g : Grant} (h : g.ptr ≠ p) : g.retire p = g := if_neg h

namespace Ledger

theorem lookup_cons (g : Grant) (L : Ledger) (p : Ptr) :
    Ledger.lookup (g :: L) p =
      if g.ptr = p then (if g.live then .ok ⟨p.region, p.offset, g.size⟩ else .error .doubleFree)
      else Ledger.lookup L p := by
  by_cases h : g.ptr = p <;> simp [Ledger.lookup, h]

theorem lookup_of_not_mem {L : Ledger} {p : Ptr} (h : ∀ g ∈ L, g.ptr ≠ p) :
    Ledger.lookup L p = .error .foreign := by
  have hn : L.find? (·.ptr = p) = none := List.find?_eq_none.2 fun g hg => by simpa using h g hg
  simp only [Ledger.lookup, hn]

theorem lookup_append_of_mem {L : Ledger} {p : Ptr} (h : ∃ g ∈ L, g.ptr = p) (L' : Ledger) :
    Ledger.lookup (L ++ L') p = L.lookup p := by
  obtain ⟨g, hg, hp⟩ := h
  obtain ⟨g', hg'⟩ := Option.isSome_iff_exists.1
    (List.find?_isSome.2 ⟨g, hg, by simp [hp]⟩ : (L.find? (·.ptr = p)).isSome)
  simp only [Ledger.lookup, List.find?_append, hg', Option.some_or]

theorem lookup_append_of_not_mem {L : Ledger} {p : Ptr} (h : ∀ g ∈ L, g.ptr ≠ p) (L' : Ledger) :
    Ledger.lookup (L ++ L') p = Ledger.lookup L' p := by
  have hn : L.find? (·.ptr = p) = none := List.find?_eq_none.2 fun g hg => by simpa using h g hg
  simp only [Ledger.lookup, List.find?_append, hn, Option.none_or]

theorem lookup_grant (q : Ptr) (n : Nat) :
    Ledger.lookup [⟨q, n, true⟩] q = .ok ⟨q.region, q.offset, n⟩ := by
  simp [Ledger.lookup]

theorem map_retire_of_not_mem {L : Ledger} {p : Ptr} (h : ∀ g ∈ L, g.ptr ≠ p) :
    L.map (Grant.retire p) = L :=
  calc L.map (Grant.retire p) = L.map id := List.map_congr_left fun g hg => Grant.retire_of_ne (h g hg)
    _ = L := List.map_id L

/-- Retiring `p` answers every other pointer as before. -/
theorem lookup_retire_of_ne (L : Ledger) {p q : Ptr} (h : q ≠ p) :
    Ledger.lookup (L.map (Grant.retire p)) q = Ledger.lookup L q := by
  induction L with
  | nil => rfl
  | cons g L ih =>
    rw [List.map_cons, lookup_cons, lookup_cons, Grant.retire_ptr, ih]
    by_cases hg : g.ptr = p
    · rw [if_neg (hg ▸ Ne.symm h), if_neg (hg ▸ Ne.symm h)]
    · rw [Grant.retire_of_ne hg]

/-- A retired pointer is a double free. -/
theorem lookup_retire_self {L : Ledger} {p : Ptr} (h : ∃ g ∈ L, g.ptr = p) :
    Ledger.lookup (L.map (Grant.retire p)) p = .error .doubleFree := by
  induction L with
  | nil =>
    obtain ⟨g, hg, -⟩ := h
    cases hg
  | cons g L ih =>
    rw [List.map_cons, lookup_cons, Grant.retire_ptr]
    by_cases hg : g.ptr = p
    · simp [hg, Grant.retire]
    · rw [if_neg hg]
      obtain ⟨g', hg', hp⟩ := h
      exact ih ⟨g', (List.mem_cons.1 hg').resolve_left (by rintro rfl; exact hg hp), hp⟩

theorem footprint_cons (g : Grant) (L : Ledger) (G : Geometry) :
    Ledger.footprint (g :: L) G =
      (if g.live then (G.roundedSize g.size.toUInt64).toNat else 0) + L.footprint G := by
  cases h : g.live <;> simp [Ledger.footprint, h]

theorem footprint_append (L L' : Ledger) (g : Geometry) :
    Ledger.footprint (L ++ L') g = L.footprint g + L'.footprint g := by
  simp [Ledger.footprint, List.filter_append]

/-- Retiring a live grant takes its footprint off the ledger's. -/
theorem footprint_retire {L : Ledger} {p : Ptr} {res : Resolved} (hnd : (L.map (·.ptr)).Nodup)
    (h : Ledger.lookup L p = .ok res) (G : Geometry) :
    Ledger.footprint (L.map (Grant.retire p)) G + (G.roundedSize res.size.toUInt64).toNat =
      L.footprint G := by
  induction L with
  | nil => cases h
  | cons g L ih =>
    rw [List.map_cons, List.nodup_cons] at hnd
    rw [lookup_cons] at h
    rw [List.map_cons, footprint_cons, footprint_cons]
    by_cases hg : g.ptr = p
    · rw [if_pos hg] at h
      cases hl : g.live
      · simp [hl] at h
      · simp only [hl, if_true, Except.ok.injEq] at h
        subst h
        -- no later grant has the pointer, so retiring leaves the rest as it is
        have hrest : ∀ g' ∈ L, g'.ptr ≠ p := fun g' hg' he =>
          hnd.1 (hg ▸ he ▸ List.mem_map_of_mem hg')
        rw [map_retire_of_not_mem hrest]
        simp [Grant.retire, hg]
        omega
    · rw [if_neg hg] at h
      rw [Grant.retire_of_ne hg, ← ih hnd.2 h]
      omega

end Ledger

/-! ### What the calls answer -/

section Calls

variable {a : Arena} {p : Ptr} {res : Resolved}

theorem sizeOf_of_lookup (h : a.lookup p = .ok res) : a.sizeOf p = .ok res.size := by
  rw [sizeOf, h]
  rfl

theorem bytes_of_lookup (h : a.lookup p = .ok res) :
    a.bytes p = .ok (a.readAt res.region res.offset res.size) := by
  rw [bytes, h]
  rfl

theorem lookup_of_sizeOf {s : Nat} (h : a.sizeOf p = .ok s) : ∃ res, a.lookup p = .ok res ∧ res.size = s := by
  rcases hL : a.lookup p with e | res
  · rw [sizeOf, hL] at h
    cases h
  · rw [sizeOf_of_lookup hL] at h
    cases h
    exact ⟨res, rfl, rfl⟩

theorem alive_of_lookup (h : a.lookup p = .ok res) : a.destroyed = false := by
  cases hd : a.destroyed
  · rfl
  · simp [lookup, hd] at h

theorem alloc_of_allocAt {a' : Arena} {size : UInt64} {i off : Nat}
    (h : a.allocAt size.toNat = .ok (a', i, off)) : a.alloc size = .ok (a', a'.ptr i off) := by
  simp [alloc, h, bind, Except.bind, pure, Except.pure]

/-- An allocation of `n` bytes fits: the size is positive and at most a region, its footprint
is at most a region, and the last region has room for the footprint or another region may be
appended. -/
def Fits (a : Arena) (n : UInt64) : Prop :=
  0 < n.toNat ∧ n.toNat ≤ a.geometry.capacity ∧ (a.roundedSize n).toNat ≤ a.geometry.capacity ∧
    ((a.regions.back?.getD Region.empty).cursor + (a.roundedSize n).toNat ≤ a.geometry.capacity ∨
      a.regionCount < a.geometry.maxRegions)

/-- In a laid-out arena an allocation succeeds exactly when it fits. -/
theorem Laid.alloc_ok_iff (ha : a.Laid) (n : UInt64) : (∃ b p, a.alloc n = .ok (b, p)) ↔ a.Fits n := by
  have hA : (∃ b p, a.alloc n = .ok (b, p)) ↔ ∃ a' i off, a.allocAt n.toNat = .ok (a', i, off) := by
    constructor
    · rintro ⟨b, p, h⟩
      obtain ⟨i, off, hA, -⟩ := alloc_ok h
      exact ⟨b, i, off, hA⟩
    · rintro ⟨a', i, off, hA⟩
      exact ⟨a', _, alloc_of_allocAt hA⟩
  rw [hA, ha.allocAt_ok_iff, Fits, regionCount]
  refine and_congr_right fun hpos => and_congr_right fun hcap => ?_
  -- below one region the footprint does not wrap
  have hround := ha.geometry.roundedSize_toNat hpos hcap
  rw [Nat.toUInt64_eq, UInt64.ofNat_toNat] at hround
  rw [roundedSize, hround]

theorem realloc_of_allocAt {a' : Arena} {n : UInt64} {i off : Nat} (hL : a.lookup p = .ok res)
    (hs : res.size ≤ n.toNat) (hA : a.allocAt n.toNat = .ok (a', i, off)) :
    a.realloc p n = .ok ((a'.writeAt i off (a'.readAt res.region res.offset
      (min n.toNat (a'.geometry.capacity - res.offset)))).release res, a'.ptr i off) := by
  rw [realloc, hL]
  simp only [bind, Except.bind, if_neg (Nat.not_lt.2 hs), hA]
  rfl

theorem realloc_shrink {n : UInt64} (hL : a.lookup p = .ok res) (hs : n.toNat < res.size) :
    a.realloc p n = .error .shrink := by
  rw [realloc, hL]
  simp only [bind, Except.bind, if_pos hs]
  rfl

end Calls

/-! ### Sessions after an allocation and a move -/

namespace Session

variable {s : Session} {b : Arena} {n : UInt64} {p q : Ptr}

/-- The last grant of a sound session is fresh: no grant before it has its pointer. -/
theorem Sound.last_fresh {L : Ledger} {g : Grant} (hs : Sound ⟨b, L ++ [g]⟩) :
    ∀ g' ∈ L, g'.ptr ≠ g.ptr := by
  have hnd : ((L ++ [g]).map (·.ptr)).Nodup := hs.ptrs_nodup
  simp only [List.map_append, List.map_singleton, List.nodup_append] at hnd
  intro g' hg' heq
  exact hnd.2.2 _ (List.mem_map_of_mem hg') _ (List.mem_singleton_self _) heq

theorem Sound.lookup_ok_mem (hs : s.Sound) {res : Resolved} (h : s.arena.lookup p = .ok res) :
    ∃ g ∈ s.ledger, g.ptr = p := by
  rw [hs.lookup_eq, Ledger.lookup] at h
  split at h
  · rename_i g hf
    exact ⟨g, List.mem_of_find?_eq_some hf, by simpa using List.find?_some hf⟩
  · cases h

/-- After an allocation the fresh pointer resolves to its payload with the size asked for, and
every other pointer resolves as before. -/
theorem Sound.alloc_lookup (hs : s.Sound) (h : s.arena.alloc n = .ok (b, q)) (p : Ptr) :
    b.lookup p = if p = q then .ok ⟨q.region, q.offset, n.toNat⟩ else s.arena.lookup p := by
  have hs' := hs.alloc h
  have hfresh := Sound.last_fresh hs'
  rw [hs'.lookup_eq, hs.lookup_eq]
  show Ledger.lookup (s.ledger ++ [⟨q, n.toNat, true⟩]) p = _
  split
  · rename_i hpq
    subst hpq
    rw [Ledger.lookup_append_of_not_mem hfresh, Ledger.lookup_grant]
  · rename_i hpq
    by_cases hmem : ∃ g ∈ s.ledger, g.ptr = p
    · exact Ledger.lookup_append_of_mem hmem _
    · push Not at hmem
      rw [Ledger.lookup_append_of_not_mem hmem, Ledger.lookup_of_not_mem hmem,
        Ledger.lookup_of_not_mem]
      simpa using Ne.symm hpq

/-- After a move of `p` the fresh pointer resolves to its payload with the new size, `p` is a
double free, and every other pointer resolves as before. -/
theorem Sound.realloc_lookup (hs : s.Sound) (h : s.arena.realloc p n = .ok (b, q)) (p' : Ptr) :
    b.lookup p' = if p' = q then .ok ⟨q.region, q.offset, n.toNat⟩
      else if p' = p then .error .doubleFree else s.arena.lookup p' := by
  have hs' := hs.realloc h
  have hfresh := Sound.last_fresh hs'
  obtain ⟨res, -, -, -, hL, -⟩ := realloc_ok h
  have hp := hs.lookup_ok_mem hL
  -- a retired grant keeps its pointer
  have hmap : ∀ {p'}, (∃ g ∈ s.ledger, g.ptr = p') → ∃ g ∈ s.ledger.map (Grant.retire p), g.ptr = p' :=
    fun ⟨g, hg, hgp⟩ => ⟨g.retire p, List.mem_map_of_mem hg, by rw [Grant.retire_ptr, hgp]⟩
  rw [hs'.lookup_eq, hs.lookup_eq]
  show Ledger.lookup (s.ledger.map (Grant.retire p) ++ [⟨q, n.toNat, true⟩]) p' = _
  split
  · rename_i hq
    subst hq
    rw [Ledger.lookup_append_of_not_mem hfresh, Ledger.lookup_grant]
  · rename_i hq
    split
    · rename_i he
      subst he
      rw [Ledger.lookup_append_of_mem (hmap hp), Ledger.lookup_retire_self hp]
    · rename_i he
      by_cases hmem : ∃ g ∈ s.ledger, g.ptr = p'
      · rw [Ledger.lookup_append_of_mem (hmap hmem), Ledger.lookup_retire_of_ne _ he]
      · push Not at hmem
        have hmem' : ∀ g ∈ s.ledger.map (Grant.retire p), g.ptr ≠ p' := by
          simpa using hmem
        rw [Ledger.lookup_append_of_not_mem hmem', Ledger.lookup_of_not_mem hmem,
          Ledger.lookup_of_not_mem]
        simpa using Ne.symm hq

/-- An allocation adds its footprint to the bytes in use. -/
theorem Sound.alloc_used (hs : s.Sound) (h : s.arena.alloc n = .ok (b, q)) :
    b.used = s.arena.used + (s.arena.roundedSize n).toNat := by
  have hs' := hs.alloc h
  obtain ⟨i, off, hA, -⟩ := alloc_ok h
  have hgeo := (allocAt_spec hs.laid hA).2.1
  rw [hs'.used_eq, hs.used_eq, hgeo]
  show Ledger.footprint (s.ledger ++ [⟨q, n.toNat, true⟩]) _ = _
  rw [Ledger.footprint_append]
  simp [Ledger.footprint, roundedSize]

/-- A move trades the old footprint for the new one. -/
theorem Sound.realloc_used (hs : s.Sound) (h : s.arena.realloc p n = .ok (b, q)) {res : Resolved}
    (hL : s.arena.lookup p = .ok res) :
    b.used + (s.arena.roundedSize res.size.toUInt64).toNat =
      s.arena.used + (s.arena.roundedSize n).toNat := by
  have hs' := hs.realloc h
  obtain ⟨res', a', i, off, hL', -, hA, rfl, -⟩ := realloc_ok h
  have hgeo := (allocAt_spec hs.laid hA).2.1
  rw [hs'.used_eq, hs.used_eq, release_geometry, writeAt_geometry, hgeo]
  show Ledger.footprint (s.ledger.map (Grant.retire p) ++ [⟨q, n.toNat, true⟩]) _ + _ = _
  rw [hs.lookup_eq] at hL
  rw [Ledger.footprint_append, ← Ledger.footprint_retire hs.ptrs_nodup hL s.arena.geometry]
  simp [Ledger.footprint, roundedSize]
  omega

end Session

/-! ### The contracts -/

/-- An arena that some run of calls reaches from one the constructors make. -/
def Reachable (c : Arena) : Prop :=
  ∃ (capacity blockSize maxRegions : UInt64) (space : Nat) (a : Arena) (calls : List Call),
    (packed capacity maxRegions space = .ok a ∨ aligned capacity blockSize maxRegions space = .ok a) ∧
      space < 2 ^ 16 ∧ (Session.replay ⟨a, []⟩ calls).arena = c

/-- A reachable arena that is not destroyed is the arena of a sound session. -/
theorem Reachable.sound {c : Arena} (hc : c.Reachable) (hlive : c.destroyed = false) :
    ∃ L, Session.Sound ⟨c, L⟩ := by
  obtain ⟨_, _, _, _, a, calls, hmade, hspace, rfl⟩ := hc
  obtain ⟨ha, hg⟩ := made_laid hmade hspace
  rcases Session.replay_sound_or_destroyed (.inl (Session.Sound.start ha hg)) calls with hs | hd
  · exact ⟨_, hs⟩
  · rw [hd] at hlive
    cases hlive

/-- What an allocation of `n` bytes from `c`, which gave the arena `b` and the pointer `p`,
leaves. -/
structure Allocated (c b : Arena) (n : UInt64) (p : Ptr) : Prop where
  /-- The payload is in the last region. -/
  last : p.region + 1 = b.regionCount
  /-- Past the old cursor when the footprint fits there, else at the start of one appended
  region. -/
  placed : if (c.regions.back?.getD Region.empty).cursor + (c.roundedSize n).toNat ≤ c.geometry.capacity
    then b.regionCount = c.regionCount ∧ p.offset = (c.regions.back?.getD Region.empty).cursor + wordSize
    else b.regionCount = c.regionCount + 1 ∧ p.offset = wordSize
  others : ∀ j, j ≠ p.region → b.regions[j]? = c.regions[j]?
  size : b.sizeOf p = .ok n.toNat
  zeroed : b.bytes p = .ok ⟨Array.replicate n.toNat 0⟩
  used : b.used = c.used + (c.roundedSize n).toNat
  /-- Every live payload keeps its bytes. -/
  kept : ∀ q, c.owns q = true → b.bytes q = c.bytes q

/-- The allocation contract. From every reachable live arena, an allocation of `n` bytes
succeeds exactly when it fits, and then leaves what `Allocated` says. An array allocation is the
allocation of the product when that is below `2 ^ 64`, and too large otherwise. -/
theorem alloc_contract {c : Arena} (hc : c.Reachable) (hlive : c.destroyed = false) (n : UInt64) :
    ((∃ b p, c.alloc n = .ok (b, p)) ↔ c.Fits n) ∧
      (∀ b p, c.alloc n = .ok (b, p) → Allocated c b n p) ∧
      ∀ e k : UInt64,
        (e.toNat * k.toNat < 2 ^ 64 →
          c.allocArray e k = c.alloc (e * k) ∧ (e * k).toNat = e.toNat * k.toNat) ∧
        (2 ^ 64 ≤ e.toNat * k.toNat → c.allocArray e k = .error .tooLarge) := by
  obtain ⟨L, hs⟩ := hc.sound hlive
  refine ⟨hs.laid.alloc_ok_iff n, fun b p h => ?_, fun e k => ⟨fun hlt => ?_, fun hge => ?_⟩⟩
  · obtain ⟨i, off, hA, hp⟩ := alloc_ok h
    obtain ⟨-, -, -, hpos, hcap, -⟩ := allocAt_spec hs.laid hA
    have hround := hs.laid.geometry.roundedSize_toNat hpos hcap
    rw [Nat.toUInt64_eq, UInt64.ofNat_toNat] at hround
    obtain ⟨hlast, hgrow, hframe⟩ := hs.laid.allocAt_place hA
    obtain ⟨hpr, hpo⟩ := hs.laid.allocAt_ptr hA
    rw [← hp] at hpr hpo
    have hlook := hs.alloc_lookup h
    have hnew : b.lookup p = .ok ⟨i, off, n.toNat⟩ := by
      rw [hlook, if_pos rfl, hpr, hpo]
    refine ⟨hpr ▸ hlast, ?_, hpr ▸ hframe, sizeOf_of_lookup hnew, ?_, hs.alloc_used h, ?_⟩
    · rw [regionCount, regionCount, roundedSize, hround, hpo]
      exact hgrow
    · rw [bytes_of_lookup hnew]
      exact congrArg Except.ok (hs.laid.allocAt_readAt hA _)
    · -- a live pointer resolves as before, to a payload the allocation leaves alone
      intro q hq
      obtain ⟨res, hL⟩ : ∃ res, c.lookup q = .ok res := by
        rcases hL : c.lookup q with e | res
        · simp [owns, hL, Except.toBool] at hq
        · exact ⟨res, rfl⟩
      have hqp : q ≠ p := by
        rintro rfl
        obtain ⟨g, hg, hgp⟩ := hs.lookup_ok_mem hL
        exact Session.Sound.last_fresh (hs.alloc h) g hg hgp
      obtain ⟨x, hx, hl, -, rfl⟩ := hs.laid.lookup_ok hL
      rw [bytes_of_lookup hL, bytes_of_lookup (by rw [hlook, if_neg hqp, hL]),
        ← hs.laid.allocAt_readAt_live hA hx hl]
  · unfold allocArray
    rw [if_neg (Nat.not_le.2 hlt)]
    refine ⟨rfl, ?_⟩
    rw [UInt64.toNat_mul, Nat.mod_eq_of_lt hlt]
  · unfold allocArray
    rw [if_pos hge]

theorem alloc_contract_aligned :
    Reachable (ofGeometry ⟨true, 64, 8, 1⟩ 1) ∧ (ofGeometry ⟨true, 64, 8, 1⟩ 1).destroyed = false ∧
      ((∃ b p, (ofGeometry ⟨true, 64, 8, 1⟩ 1).alloc 5 = .ok (b, p)) ↔
          (ofGeometry ⟨true, 64, 8, 1⟩ 1).Fits 5) ∧
      (∀ b p, (ofGeometry ⟨true, 64, 8, 1⟩ 1).alloc 5 = .ok (b, p) →
          Allocated (ofGeometry ⟨true, 64, 8, 1⟩ 1) b 5 p) ∧
      ∀ e k : UInt64,
        (e.toNat * k.toNat < 2 ^ 64 →
          (ofGeometry ⟨true, 64, 8, 1⟩ 1).allocArray e k = (ofGeometry ⟨true, 64, 8, 1⟩ 1).alloc (e * k) ∧
            (e * k).toNat = e.toNat * k.toNat) ∧
        (2 ^ 64 ≤ e.toNat * k.toNat → (ofGeometry ⟨true, 64, 8, 1⟩ 1).allocArray e k = .error .tooLarge) :=
  ⟨⟨64, 8, 1, 1, _, [], .inr rfl, by decide, rfl⟩, rfl,
    alloc_contract ⟨64, 8, 1, 1, _, [], .inr rfl, by decide, rfl⟩ rfl 5⟩

/-- What a move of `p`, whose size was `s`, to `n` bytes, which gave the arena `b` and the
pointer `q`, leaves. -/
structure Moved (c b : Arena) (p q : Ptr) (s : Nat) (n : UInt64) : Prop where
  fresh : q ≠ p
  live : b.owns q = true
  size : b.sizeOf q = .ok n.toNat
  /-- The new payload starts with the old one. -/
  copied : (b.bytes q).map (·.extract 0 s) = c.bytes p
  retired : b.lookup p = .error .doubleFree
  /-- Every other live payload keeps its bytes. -/
  kept : ∀ p', p' ≠ p → c.owns p' = true → b.bytes p' = c.bytes p'
  /-- The footprint of `s` is traded for that of `n`. -/
  used : b.used + (c.roundedSize s.toUInt64).toNat = c.used + (c.roundedSize n).toNat

/-- The move contract. From every reachable arena, a move of a live pointer `p` whose size is
`s` to `n` bytes is refused as a shrink when `n < s`; when `s ≤ n` and `n` bytes could be
allocated, it succeeds and leaves what `Moved` says. -/
theorem realloc_contract {c : Arena} (hc : c.Reachable) {p : Ptr} {s : Nat} (hp : c.sizeOf p = .ok s)
    (n : UInt64) :
    (n.toNat < s → c.realloc p n = .error .shrink) ∧
      (s ≤ n.toNat → (∃ c' q', c.alloc n = .ok (c', q')) →
        ∃ b q, c.realloc p n = .ok (b, q) ∧ Moved c b p q s n) := by
  obtain ⟨res, hL, rfl⟩ := lookup_of_sizeOf hp
  refine ⟨realloc_shrink hL, fun hle ⟨c', q', halloc⟩ => ?_⟩
  obtain ⟨L, hs⟩ := hc.sound (alive_of_lookup hL)
  obtain ⟨i, off, hA, -⟩ := alloc_ok halloc
  have hR := realloc_of_allocAt hL hle hA
  have hlook := hs.realloc_lookup hR
  obtain ⟨hpr, hpo⟩ := hs.laid.allocAt_ptr hA
  -- the fresh pointer is not `p`, whose grant the ledger keeps, retired
  have hqp : c'.ptr i off ≠ p := by
    rintro hq
    obtain ⟨g, hg, hgp⟩ := hs.lookup_ok_mem hL
    exact Session.Sound.last_fresh (hs.realloc hR) (g.retire p) (List.mem_map_of_mem hg)
      (by rw [Grant.retire_ptr, hgp, hq])
  have hnew := hlook (c'.ptr i off)
  rw [if_pos rfl, hpr, hpo] at hnew
  obtain ⟨x, hx, hl, hxp, rfl⟩ := hs.laid.lookup_ok hL
  refine ⟨_, _, hR, hqp, by rw [owns, hnew]; rfl, sizeOf_of_lookup hnew, ?_, ?_, ?_,
    hs.realloc_used hR hL⟩
  · -- the first `s` bytes of the fresh payload are the old payload's
    rw [bytes_of_lookup hnew, bytes_of_lookup hL]
    exact congrArg Except.ok ((readAt_extract _ _ _ hle).trans
      (readAt_congr fun k hk => hs.laid.move_byteAt_copy hA hx hl hle hk))
  · rw [hlook, if_neg (Ne.symm hqp), if_pos rfl]
  · -- another live pointer resolves as before, to a payload the move leaves alone
    intro p' hne hown
    obtain ⟨res', hL'⟩ : ∃ res', c.lookup p' = .ok res' := by
      rcases hL' : c.lookup p' with e | res'
      · simp [owns, hL', Except.toBool] at hown
      · exact ⟨res', rfl⟩
    have hq' : p' ≠ c'.ptr i off := by
      rintro rfl
      obtain ⟨g, hg, hgp⟩ := hs.lookup_ok_mem hL'
      exact Session.Sound.last_fresh (hs.realloc hR) (g.retire p) (List.mem_map_of_mem hg)
        (by rw [Grant.retire_ptr, hgp])
    obtain ⟨y, hy, hly, hyp, rfl⟩ := hs.laid.lookup_ok hL'
    have hyx : y ≠ x := by
      rintro rfl
      exact hne (hyp.symm.trans hxp)
    rw [bytes_of_lookup hL', bytes_of_lookup (by rw [hlook, if_neg hq', if_neg hne, hL'])]
    exact congrArg Except.ok
      (readAt_congr fun k hk => hs.laid.move_byteAt_live hA hx hl _ hy hly hyx hk)

theorem realloc_contract_aligned :
    Reachable (Session.replay ⟨ofGeometry ⟨true, 64, 8, 1⟩ 1, []⟩ [.alloc 5]).arena ∧
      (Session.replay ⟨ofGeometry ⟨true, 64, 8, 1⟩ 1, []⟩ [.alloc 5]).arena.sizeOf 281474976710664 = .ok 5 ∧
      ((16 : UInt64).toNat < 5 →
          (Session.replay ⟨ofGeometry ⟨true, 64, 8, 1⟩ 1, []⟩ [.alloc 5]).arena.realloc 281474976710664 16 =
            .error .shrink) ∧
      (5 ≤ (16 : UInt64).toNat →
        (∃ c' q', (Session.replay ⟨ofGeometry ⟨true, 64, 8, 1⟩ 1, []⟩ [.alloc 5]).arena.alloc 16 = .ok (c', q')) →
        ∃ b q, (Session.replay ⟨ofGeometry ⟨true, 64, 8, 1⟩ 1, []⟩ [.alloc 5]).arena.realloc 281474976710664 16 =
            .ok (b, q) ∧
          Moved (Session.replay ⟨ofGeometry ⟨true, 64, 8, 1⟩ 1, []⟩ [.alloc 5]).arena b 281474976710664 q 5 16) :=
  ⟨⟨64, 8, 1, 1, _, [.alloc 5], .inr rfl, by decide, rfl⟩, by cbv,
    realloc_contract ⟨64, 8, 1, 1, _, [.alloc 5], .inr rfl, by decide, rfl⟩ (by cbv) 16⟩

end Arena

end Combinatory
