import Combinatory.ChainedMap
import Mathlib.Data.List.Perm.Basic
import Mathlib.Data.List.Nodup
import Mathlib.Data.List.Forall2

/-! A chained map refines the finite map `NameMap` along every run of calls
(`ChainedMap.replay_refines_finite_map`). It is read through its entries in bucket order, its
layout is `WellFormed`, and each operation changes one bucket (`toList_modifyBucket`). -/
namespace Combinatory

section Entries

variable {α : Type}

/-- The value of `k` among entries: that of the first entry named `k`. -/
def lookup (l : List (String × α)) (k : String) : Option α := (l.find? (·.1 = k)).map (·.2)

/-- No name occurs twice among the entries. -/
def DistinctKeys (l : List (String × α)) : Prop := (l.map Prod.fst).Nodup

/-- The entry `e` with the value `v` when it is named `k`. -/
def rebind (k : String) (v : α) (e : String × α) : String × α := if e.1 = k then (k, v) else e

@[simp] theorem lookup_nil (k : String) : lookup ([] : List (String × α)) k = none := rfl

theorem lookup_cons (e : String × α) (l : List (String × α)) (k : String) :
    lookup (e :: l) k = if e.1 = k then some e.2 else lookup l k := by
  by_cases h : e.1 = k <;> simp [lookup,h]

theorem lookup_eq_none_iff {l : List (String × α)} {k : String} :
    lookup l k = none ↔ k ∉ l.map Prod.fst := by
  simp only [lookup,Option.map_eq_none_iff,List.find?_eq_none,decide_eq_true_eq,List.mem_map,
    not_exists,not_and]

theorem lookup_append_of_not_mem {l l' : List (String × α)} {k : String}
    (h : k ∉ l.map Prod.fst) : lookup (l ++ l') k = lookup l' k := by
  rw [← lookup_eq_none_iff] at h
  simp only [lookup,List.find?_append] at h ⊢
  simp only [Option.map_eq_none_iff] at h
  simp [h]

theorem DistinctKeys.nodup {l : List (String × α)} (h : DistinctKeys l) : l.Nodup :=
  List.Nodup.of_map _ h

theorem DistinctKeys.of_perm {l l' : List (String × α)} (h : DistinctKeys l) (hp : l.Perm l') :
    DistinctKeys l' :=
  ((hp.map Prod.fst).nodup_iff).1 h

theorem DistinctKeys.sublist {l l' : List (String × α)} (h : DistinctKeys l')
    (hs : l.Sublist l') : DistinctKeys l :=
  List.Nodup.sublist (hs.map Prod.fst) h

/-- Among entries with distinct names, `k` has value `v` exactly when `(k, v)` is one of them. -/
theorem lookup_eq_some_iff {l : List (String × α)} (h : DistinctKeys l) {k : String} {v : α} :
    lookup l k = some v ↔ (k, v) ∈ l := by
  induction l with
  | nil => simp
  | cons e l ih =>
    simp only [DistinctKeys,List.map_cons,List.nodup_cons] at h
    rw [lookup_cons]
    by_cases he : e.1 = k
    · have hk : (k, v) ∉ l := fun hm => h.1 (he ▸ List.mem_map_of_mem (f := Prod.fst) hm)
      obtain ⟨a,b⟩ := e
      simp only at he
      subst he
      simp [hk,eq_comm]
    · have hne : (k, v) ≠ e := fun hkv => he (hkv ▸ rfl)
      simp [he,ih h.2,hne]

/-- Entries with distinct names answer every name alike in every order. -/
theorem lookup_perm {l l' : List (String × α)} (hp : l.Perm l') (h : DistinctKeys l)
    (k : String) : lookup l k = lookup l' k := by
  apply Option.ext
  intro v
  rw [lookup_eq_some_iff h,lookup_eq_some_iff (h.of_perm hp)]
  exact hp.mem_iff

theorem map_rebind_of_not_mem {l : List (String × α)} {k : String} (v : α)
    (h : k ∉ l.map Prod.fst) : l.map (rebind k v) = l := by
  induction l with
  | nil => rfl
  | cons e l ih =>
    simp only [List.map_cons,List.mem_cons,not_or] at h
    simp [rebind,Ne.symm h.1,ih h.2]

@[simp] theorem fst_rebind (k : String) (v : α) (e : String × α) : (rebind k v e).1 = e.1 := by
  by_cases h : e.1 = k <;> simp [rebind,h]

theorem map_fst_map_rebind (l : List (String × α)) (k : String) (v : α) :
    (l.map (rebind k v)).map Prod.fst = l.map Prod.fst := by
  simp [Function.comp_def]

theorem DistinctKeys.concat {l : List (String × α)} (h : DistinctKeys l) {k : String}
    (hk : k ∉ l.map Prod.fst) (v : α) : DistinctKeys (l ++ [(k, v)]) := by
  unfold DistinctKeys at h ⊢
  rw [List.map_append,List.nodup_append]
  refine ⟨h,by simp,?_⟩
  simp only [List.map_cons,List.map_nil,List.mem_singleton]
  rintro a ha _ rfl rfl
  exact hk ha

end Entries

namespace Bucket

variable {α : Type}

/-- A bucket whose head is unused has nothing behind it. -/
def Tidy (b : Bucket α) : Prop := b.head = none → b.chain = []

theorem find?_eq (b : Bucket α) (k : String) : b.find? k = lookup b.entries k := rfl

@[simp] theorem entries_empty : (empty : Bucket α).entries = [] := rfl

theorem tidy_empty : (empty : Bucket α).Tidy := fun _ => rfl

theorem entries_place (b : Bucket α) (k : String) (v : α) :
    (b.place k v).entries.Perm (b.entries ++ [(k, v)]) := by
  unfold place entries
  cases b.head with
  | none => rfl
  | some e => exact (List.perm_append_singleton _ _).symm.cons e

theorem tidy_place (b : Bucket α) (k : String) (v : α) : (b.place k v).Tidy := by
  unfold place Tidy
  cases b.head <;> simp

theorem setFirst_eq_map {l : List (String × α)} (h : DistinctKeys l) (k : String) (v : α) :
    setFirst k v l = l.map (rebind k v) := by
  induction l with
  | nil => rfl
  | cons e l ih =>
    simp only [DistinctKeys,List.map_cons,List.nodup_cons] at h
    by_cases he : e.1 = k
    · rw [setFirst,if_pos he,List.map_cons,map_rebind_of_not_mem v (he ▸ h.1)]
      simp [rebind,he]
    · rw [setFirst,if_neg he,List.map_cons,ih h.2]
      simp [rebind,he]

/-- Giving `k` a value in a bucket with distinct names rebinds its entry in place. -/
theorem entries_setValue {b : Bucket α} (h : DistinctKeys b.entries) (k : String) (v : α) :
    (b.setValue k v).entries = b.entries.map (rebind k v) := by
  unfold setValue
  unfold entries at h ⊢
  cases hh : b.head with
  | none => simp [hh]
  | some e =>
    simp only [hh] at h
    simp only [DistinctKeys,List.map_cons,List.nodup_cons] at h
    by_cases he : e.1 = k
    · simp [he,rebind,map_rebind_of_not_mem v (he ▸ h.1)]
    · simp [he,rebind,setFirst_eq_map h.2]

theorem Tidy.setValue {b : Bucket α} (h : b.Tidy) (k : String) (v : α) :
    (b.setValue k v).Tidy := by
  unfold Bucket.setValue
  cases hh : b.head with
  | none => simpa [hh] using h
  | some e => by_cases he : e.1 = k <;> simp [Tidy,he]

theorem unlink_some {l r : List (String × α)} {k : String} {v : α}
    (h : unlink k l = some (r, v)) : l.Perm ((k, v) :: r) := by
  induction l generalizing r with
  | nil => simp [unlink] at h
  | cons e l ih =>
    by_cases he : e.1 = k
    · simp only [unlink,if_pos he,Option.some.injEq,Prod.mk.injEq] at h
      obtain ⟨rfl,rfl⟩ := h
      obtain ⟨a,b⟩ := e
      simp only at he
      subst he
      rfl
    · simp only [unlink,if_neg he,Option.map_eq_some_iff,Prod.mk.injEq] at h
      obtain ⟨⟨r',v'⟩,hr,rfl,rfl⟩ := h
      exact ((ih hr).cons e).trans (List.Perm.swap _ _ _)

theorem unlink_none {l : List (String × α)} {k : String} :
    unlink k l = none ↔ k ∉ l.map Prod.fst := by
  induction l with
  | nil => simp [unlink]
  | cons e l ih =>
    by_cases he : e.1 = k
    · simp [unlink,he]
    · simp [unlink,he,ih,Ne.symm he]

/-- A removal takes out one entry named `k`, with the value it hands back. -/
theorem remove_some {b b' : Bucket α} {k : String} {v : α} (h : b.remove k = some (b', v)) :
    b.entries.Perm ((k, v) :: b'.entries) := by
  unfold remove at h
  unfold entries
  cases hh : b.head with
  | none => simp [hh] at h
  | some e =>
    simp only [hh] at h
    by_cases he : e.1 = k
    · obtain ⟨a,c⟩ := e
      simp only at he
      subst he
      cases hc : b.chain with
      | nil =>
        simp only [if_pos,hc,Option.some.injEq,Prod.mk.injEq] at h
        obtain ⟨rfl,rfl⟩ := h
        rfl
      | cons n rest =>
        simp only [if_pos,hc,Option.some.injEq,Prod.mk.injEq] at h
        obtain ⟨rfl,rfl⟩ := h
        rfl
    · simp only [if_neg he,Option.map_eq_some_iff,Prod.mk.injEq] at h
      obtain ⟨⟨rest,v'⟩,hu,rfl,rfl⟩ := h
      exact ((unlink_some hu).cons e).trans (List.Perm.swap _ _ _)

theorem remove_none {b : Bucket α} {k : String} :
    b.remove k = none ↔ k ∉ b.entries.map Prod.fst := by
  unfold remove entries
  cases b.head with
  | none => simp
  | some e =>
    by_cases he : e.1 = k
    · cases b.chain <;> simp [he]
    · simp [he,unlink_none,Ne.symm he]

theorem tidy_of_remove {b b' : Bucket α} {k : String} {v : α} (h : b.remove k = some (b', v)) :
    b'.Tidy := by
  unfold remove at h
  cases hh : b.head with
  | none => simp [hh] at h
  | some e =>
    simp only [hh] at h
    by_cases he : e.1 = k
    · cases hc : b.chain with
      | nil =>
        simp only [if_pos he,hc,Option.some.injEq,Prod.mk.injEq] at h
        exact h.1 ▸ tidy_empty
      | cons n rest =>
        simp only [if_pos he,hc,Option.some.injEq,Prod.mk.injEq] at h
        rw [← h.1]
        simp [Tidy]
    · simp only [if_neg he,Option.map_eq_some_iff,Prod.mk.injEq] at h
      obtain ⟨_,_,rfl,-⟩ := h
      simp [Tidy]

end Bucket

namespace ChainedMap

variable {α : Type} (hash : String → UInt64)

/-- The mask keeps the index below any positive number of buckets. -/
theorem index_lt (k : String) {n : Nat} (hn : 0 < n) : index hash k n < n := by
  have h₁ : (hash k).toNat &&& (n - 1).toUInt64.toNat ≤ (n - 1).toUInt64.toNat := Nat.and_le_right
  have h₂ : (n - 1).toUInt64.toNat ≤ n - 1 := by simp [Nat.mod_le]
  simp only [index,UInt64.toNat_and]
  omega

/-! ### The buckets other than one -/

/-- The entries of the buckets other than bucket `i`, in bucket order. -/
def others (bs : Array (Bucket α)) (i : Nat) : List (String × α) :=
  (bs.toList.take i).flatMap Bucket.entries ++ (bs.toList.drop (i + 1)).flatMap Bucket.entries

/-- Changing bucket `i` leaves the entries of the others as they were. -/
theorem flatMap_modify (bs : Array (Bucket α)) {i : Nat} (hi : i < bs.size)
    (f : Bucket α → Bucket α) :
    ((bs.modify i f).toList.flatMap Bucket.entries).Perm (others bs i ++ (f bs[i]).entries) := by
  rw [Array.toList_modify,List.modify_eq_take_cons_drop (by simpa using hi)]
  simp only [others,List.flatMap_append,List.flatMap_cons,Array.getElem_toList,List.append_assoc]
  exact List.Perm.append_left _ List.perm_append_comm

theorem flatMap_perm (bs : Array (Bucket α)) {i : Nat} (hi : i < bs.size) :
    (bs.toList.flatMap Bucket.entries).Perm (others bs i ++ bs[i].entries) := by
  simpa using flatMap_modify bs hi id

theorem mem_others {bs : Array (Bucket α)} {i : Nat} {e : String × α} (h : e ∈ others bs i) :
    ∃ j, ∃ hj : j < bs.size, j ≠ i ∧ e ∈ bs[j].entries := by
  simp only [others,List.mem_append,List.mem_flatMap] at h
  rcases h with ⟨b,hb,he⟩ | ⟨b,hb,he⟩
  · obtain ⟨j,hj,rfl⟩ := List.mem_take_iff_getElem.1 hb
    simp only [Array.length_toList,Nat.lt_min] at hj
    exact ⟨j,hj.2,by omega,by simpa using he⟩
  · obtain ⟨j,hj,rfl⟩ := List.mem_drop_iff_getElem.1 hb
    simp only [Array.length_toList] at hj
    exact ⟨i + 1 + j,by omega,by omega,by simpa using he⟩

/-! ### Layout -/

/-- Every entry sits in the bucket its name hashes to, and no unused head has a chain. -/
structure Laid (bs : Array (Bucket α)) : Prop where
  placed : ∀ (i : Nat) (h : i < bs.size), ∀ e ∈ bs[i].entries, index hash e.1 bs.size = i
  tidy : ∀ b ∈ bs, b.Tidy

theorem laid_replicate (n : Nat) : Laid hash (Array.replicate n (Bucket.empty : Bucket α)) := by
  constructor
  · intro i h e he
    simp at he
  · intro b hb
    rw [Array.mem_replicate] at hb
    exact hb.2 ▸ Bucket.tidy_empty

/-- Changing one bucket keeps the layout when the new bucket holds only entries of its own
hash and is tidy. -/
theorem Laid.modify {bs : Array (Bucket α)} (hl : Laid hash bs) {i : Nat} (hi : i < bs.size)
    {f : Bucket α → Bucket α} (hf : ∀ e ∈ (f bs[i]).entries, index hash e.1 bs.size = i)
    (ht : (f bs[i]).Tidy) : Laid hash (bs.modify i f) := by
  constructor
  · intro j hj e he
    rw [Array.getElem_modify] at he
    rw [Array.size_modify]
    split at he
    · rename_i hij
      subst hij
      exact hf e he
    · exact hl.placed j (by simpa using hj) e he
  · intro b hb
    obtain ⟨j,hj,rfl⟩ := Array.mem_iff_getElem.1 hb
    rw [Array.getElem_modify]
    split
    · rename_i hij
      subst hij
      exact ht
    · exact hl.tidy _ (Array.getElem_mem _)

/-- What a chained map keeps: a bucket at least, the layout, distinct names, and the count of
its entries. -/
structure WellFormed (m : ChainedMap α) : Prop where
  pos : 0 < m.buckets.size
  laid : Laid hash m.buckets
  keys : DistinctKeys m.toList
  count : m.count = m.toList.length

theorem bucket_eq {m : ChainedMap α} (hpos : 0 < m.buckets.size) (k : String) :
    m.bucket hash k = getElem m.buckets (index hash k m.buckets.size) (index_lt hash k hpos) := by
  simp [bucket,Array.getD_eq_getD_getElem?,index_lt hash k hpos]

theorem bucket_mem {m : ChainedMap α} (hpos : 0 < m.buckets.size) (k : String) :
    m.bucket hash k ∈ m.buckets := by
  rw [bucket_eq hash hpos]
  exact Array.getElem_mem _

/-- The entries of a map are those of the bucket of `k` and those of the others. -/
theorem toList_perm {m : ChainedMap α} (hpos : 0 < m.buckets.size) (k : String) :
    m.toList.Perm (others m.buckets (index hash k m.buckets.size) ++ (m.bucket hash k).entries) := by
  rw [bucket_eq hash hpos]
  exact flatMap_perm _ _

/-- Changing the bucket of `k` changes only its entries. -/
theorem toList_modifyBucket {m : ChainedMap α} (hpos : 0 < m.buckets.size) (k : String)
    (f : Bucket α → Bucket α) :
    (m.modifyBucket hash k f).toList.Perm
      (others m.buckets (index hash k m.buckets.size) ++ (f (m.bucket hash k)).entries) := by
  rw [bucket_eq hash hpos]
  exact flatMap_modify _ _ f

section Frame

variable {hash} {m : ChainedMap α}

/-- No other bucket holds an entry named `k`. -/
theorem not_mem_others (hw : m.WellFormed hash) (k : String) :
    k ∉ (others m.buckets (index hash k m.buckets.size)).map Prod.fst := by
  intro hk
  obtain ⟨e,he,rfl⟩ := List.mem_map.1 hk
  obtain ⟨j,hj,hne,hej⟩ := mem_others he
  exact hne (hw.laid.placed j hj e hej).symm

theorem keys_bucket (hw : m.WellFormed hash) (k : String) : DistinctKeys (m.bucket hash k).entries :=
  (hw.keys.of_perm (toList_perm hash hw.pos k)).sublist (List.sublist_append_right _ _)

/-- A lookup walks one bucket and finds what the whole map holds. -/
theorem get?_eq (hw : m.WellFormed hash) (k : String) : m.get? hash k = lookup m.toList k := by
  rw [lookup_perm (toList_perm hash hw.pos k) hw.keys,lookup_append_of_not_mem (not_mem_others hw k)]
  rfl

/-- Changing the bucket of `k` into one that holds only entries named as in the old one, or
`k`, and is tidy, keeps the layout. -/
theorem laid_modifyBucket (hw : m.WellFormed hash) (k : String) (f : Bucket α → Bucket α)
    (hf : ∀ e ∈ (f (m.bucket hash k)).entries, e.1 = k ∨ e.1 ∈ (m.bucket hash k).entries.map Prod.fst)
    (ht : (f (m.bucket hash k)).Tidy) : Laid hash (m.modifyBucket hash k f).buckets := by
  rw [bucket_eq hash hw.pos] at hf ht
  refine hw.laid.modify hash (index_lt hash k hw.pos) (fun e he => ?_) ht
  rcases hf e he with hk | hk
  · rw [hk]
  · obtain ⟨e',he',hee'⟩ := List.mem_map.1 hk
    rw [← hee']
    exact hw.laid.placed _ _ e' he'

end Frame

/-! ### Growth -/

@[simp] theorem size_placeAll (bs : Array (Bucket α)) (es : List (String × α)) :
    (placeAll hash bs es).size = bs.size := by
  induction es generalizing bs with
  | nil => rfl
  | cons e es ih => simp [placeAll,List.foldl_cons] at ih ⊢; rw [ih]; simp

/-- Placing entries one by one into laid-out buckets keeps the layout and adds exactly those
entries. -/
theorem placeAll_spec {bs : Array (Bucket α)} (hl : Laid hash bs) (hpos : 0 < bs.size)
    (es : List (String × α)) :
    Laid hash (placeAll hash bs es) ∧
      ((placeAll hash bs es).toList.flatMap Bucket.entries).Perm
        (bs.toList.flatMap Bucket.entries ++ es) := by
  induction es generalizing bs with
  | nil => exact ⟨hl,by simp [placeAll]⟩
  | cons e es ih =>
    have hi := index_lt hash e.1 hpos
    -- the first entry goes to the bucket of its hash, behind what is there
    have hl' : Laid hash (bs.modify (index hash e.1 bs.size) (·.place e.1 e.2)) := by
      refine hl.modify hash hi (fun e' he' => ?_) (Bucket.tidy_place _ _ _)
      rcases List.mem_append.1 ((Bucket.entries_place _ _ _).mem_iff.1 he') with h | h
      · exact hl.placed _ hi e' h
      · rw [List.mem_singleton.1 h]
    have hp' : ((bs.modify (index hash e.1 bs.size) (·.place e.1 e.2)).toList.flatMap
        Bucket.entries).Perm (bs.toList.flatMap Bucket.entries ++ [e]) := by
      refine (flatMap_modify bs hi _).trans ?_
      refine ((Bucket.entries_place _ _ _).append_left _).trans ?_
      rw [← List.append_assoc]
      exact ((flatMap_perm bs hi).symm.append_right _)
    obtain ⟨hl'',hp''⟩ := ih hl' (by simpa using hpos)
    refine ⟨hl'',hp''.trans ?_⟩
    simpa using hp'.append_right es

/-- Growing doubles the buckets and places every entry again: the same entries, laid out in
the new buckets. -/
theorem grow_spec {m : ChainedMap α} (hw : m.WellFormed hash) :
    (m.grow hash).WellFormed hash ∧ (m.grow hash).toList.Perm m.toList ∧
      (m.grow hash).buckets.size = 2 * m.buckets.size := by
  have hpos : 0 < (Array.replicate (2 * m.buckets.size) (Bucket.empty : Bucket α)).size := by
    simpa using hw.pos
  obtain ⟨hl,hp⟩ := placeAll_spec hash (laid_replicate hash _) hpos m.toList
  have hp' : (m.grow hash).toList.Perm m.toList := by
    simpa [grow,toList,List.flatMap_replicate] using hp
  refine ⟨⟨?_,hl,hw.keys.of_perm hp'.symm,?_⟩,hp',by simp [grow]⟩
  · simpa [grow] using hw.pos
  · rw [hp'.length_eq]
    exact hw.count

/-! ### Refinement of the finite map -/

/-- The chained map `c` holds exactly the entries of the finite map `m`, in some order, with
as many buckets and the same threshold, and keeps its layout. -/
structure Refines (c : ChainedMap α) (m : NameMap α) : Prop where
  wf : c.WellFormed hash
  perm : c.toList.Perm m.entries
  buckets : c.buckets.size = m.buckets
  threshold : c.threshold = m.threshold

@[simp] theorem modifyBucket_count (m : ChainedMap α) (k : String) (f : Bucket α → Bucket α) :
    (m.modifyBucket hash k f).count = m.count := rfl

@[simp] theorem modifyBucket_threshold (m : ChainedMap α) (k : String) (f : Bucket α → Bucket α) :
    (m.modifyBucket hash k f).threshold = m.threshold := rfl

@[simp] theorem size_modifyBucket (m : ChainedMap α) (k : String) (f : Bucket α → Bucket α) :
    (m.modifyBucket hash k f).buckets.size = m.buckets.size := by
  simp [modifyBucket]

@[simp] theorem toList_blank (n : Nat) (t : Dyadic) :
    (⟨Array.replicate n Bucket.empty, 0, t⟩ : ChainedMap α).toList = [] := by
  simp [toList,List.flatMap_replicate]

/-- Empty buckets, at least one, are a well-formed map. -/
theorem wellFormed_blank {n : Nat} (hn : 0 < n) (t : Dyadic) :
    (⟨Array.replicate n Bucket.empty, 0, t⟩ : ChainedMap α).WellFormed hash :=
  ⟨by simpa using hn,laid_replicate hash n,by simp [DistinctKeys],by simp⟩

theorem visit_true (l : List (String × α)) : visit (fun _ _ => true) l = l := by
  induction l with
  | nil => rfl
  | cons e l ih => simp [visit,ih]

section Refines

variable {hash} {c : ChainedMap α} {m : NameMap α}

theorem Refines.keys (h : Refines hash c m) : DistinctKeys m.entries := h.wf.keys.of_perm h.perm

/-- A lookup answers what the finite map answers. -/
theorem Refines.get? (h : Refines hash c m) (k : String) : c.get? hash k = m.get? k := by
  rw [get?_eq h.wf k,lookup_perm h.perm h.wf.keys]
  rfl

theorem Refines.contains (h : Refines hash c m) (k : String) : c.contains hash k = m.contains k := by
  simp [ChainedMap.contains,NameMap.contains,h.get? k]

/-- The count is the number of entries of the finite map. -/
theorem Refines.size (h : Refines hash c m) : c.size = m.size := by
  rw [ChainedMap.size,h.wf.count,h.perm.length_eq]
  rfl

/-- A walk whose callback never stops meets every entry of the finite map once. -/
theorem Refines.range (h : Refines hash c m) : (c.range fun _ _ => true).Perm m.entries := by
  rw [ChainedMap.range,visit_true]
  exact h.perm

/-- Changing the bucket of `k` keeps the refinement, the finite map taking the entries `es`:
the new bucket is tidy and holds only `k` and names of the old one, the new entries are `es`
in some order, their names are distinct, and `n` counts them. -/
theorem Refines.modifyBucket (h : Refines hash c m) {k : String} {f : Bucket α → Bucket α}
    {es : List (String × α)} (n : Nat)
    (hf : ∀ e ∈ (f (c.bucket hash k)).entries, e.1 = k ∨ e.1 ∈ (c.bucket hash k).entries.map Prod.fst)
    (ht : (f (c.bucket hash k)).Tidy) (hp : (c.modifyBucket hash k f).toList.Perm es)
    (hkeys : DistinctKeys es) (hn : n = es.length) :
    Refines hash { c.modifyBucket hash k f with count := n } { m with entries := es } :=
  ⟨⟨by simpa using h.wf.pos,laid_modifyBucket h.wf k f hf ht,hkeys.of_perm hp.symm,
    hn.trans hp.length_eq.symm⟩,hp,by simpa using h.buckets,h.threshold⟩

/-- Giving a mapped name a new value rebinds its entry where it is. -/
theorem Refines.setValue (h : Refines hash c m) (k : String) (v : α) :
    Refines hash (c.modifyBucket hash k (·.setValue k v))
      { m with entries := m.entries.map (rebind k v) } := by
  have hb := keys_bucket h.wf k
  have hp : (c.modifyBucket hash k (·.setValue k v)).toList.Perm (c.toList.map (rebind k v)) := by
    refine (toList_modifyBucket hash h.wf.pos k _).trans ?_
    have h₁ := (toList_perm hash h.wf.pos k).map (rebind k v)
    rw [List.map_append,map_rebind_of_not_mem v (not_mem_others h.wf k)] at h₁
    rw [Bucket.entries_setValue hb]
    exact h₁.symm
  have hkeys : DistinctKeys (m.entries.map (rebind k v)) := by
    unfold DistinctKeys
    rw [map_fst_map_rebind]
    exact h.keys
  refine h.modifyBucket c.count (fun e he => .inr ?_)
    ((h.wf.laid.tidy _ (bucket_mem hash h.wf.pos k)).setValue k v) (hp.trans (h.perm.map _)) hkeys
    (by simp [h.wf.count,h.perm.length_eq])
  -- rebinding keeps every name of the bucket
  rw [Bucket.entries_setValue hb] at he
  obtain ⟨e',he',rfl⟩ := List.mem_map.1 he
  simpa using List.mem_map_of_mem (f := Prod.fst) he'

/-- A new name goes into its bucket and is counted. -/
theorem Refines.place (h : Refines hash c m) {k : String} (hk : c.get? hash k = none) (v : α) :
    Refines hash { c.modifyBucket hash k (·.place k v) with count := c.count + 1 }
      { m with entries := m.entries ++ [(k, v)] } := by
  have hp : (c.modifyBucket hash k (·.place k v)).toList.Perm (c.toList ++ [(k, v)]) := by
    refine (toList_modifyBucket hash h.wf.pos k _).trans
      (((Bucket.entries_place _ _ _).append_left _).trans ?_)
    rw [← List.append_assoc]
    exact (toList_perm hash h.wf.pos k).symm.append_right _
  have hnew : k ∉ c.toList.map Prod.fst := by
    rw [← lookup_eq_none_iff,← get?_eq h.wf]
    exact hk
  refine h.modifyBucket _ (fun e he => ?_) (Bucket.tidy_place _ _ _)
    (hp.trans (h.perm.append_right _)) ((h.wf.keys.concat hnew v).of_perm (h.perm.append_right _))
    (by simp [h.wf.count,h.perm.length_eq])
  rcases List.mem_append.1 ((Bucket.entries_place _ _ _).mem_iff.1 he) with he | he
  · exact .inr (List.mem_map_of_mem he)
  · exact .inl (by simp [List.mem_singleton.1 he])

/-- Growing doubles the buckets of both maps. -/
theorem Refines.grow (h : Refines hash c m) :
    Refines hash (c.grow hash) { m with buckets := 2 * m.buckets } := by
  obtain ⟨hw,hp,hs⟩ := grow_spec hash h.wf
  exact ⟨hw,hp.trans h.perm,by rw [hs,h.buckets],h.threshold⟩

/-- Removing the entry of `k` from its bucket removes it from the finite map. -/
theorem Refines.remove (h : Refines hash c m) {k : String} {b : Bucket α} {v : α}
    (hr : (c.bucket hash k).remove k = some (b, v)) :
    Refines hash { c.modifyBucket hash k (fun _ => b) with count := c.count - 1 }
      { m with entries := m.entries.filter (·.1 ≠ k) } := by
  have hE := Bucket.remove_some hr
  have hall : c.toList.Perm
      (others c.buckets (index hash k c.buckets.size) ++ (k, v) :: b.entries) :=
    (toList_perm hash h.wf.pos k).trans (hE.append_left _)
  have hkeys : DistinctKeys ((k, v) :: b.entries) := (keys_bucket h.wf k).of_perm hE
  have hb : k ∉ b.entries.map Prod.fst := by
    simp only [DistinctKeys,List.map_cons,List.nodup_cons] at hkeys
    exact hkeys.1
  have hp : (c.modifyBucket hash k (fun _ => b)).toList.Perm (c.toList.filter (·.1 ≠ k)) := by
    refine (toList_modifyBucket hash h.wf.pos k _).trans ?_
    refine List.Perm.trans ?_ (hall.filter _).symm
    -- no entry of the other buckets, and none left in this one, is named `k`
    have ho : ∀ e ∈ others c.buckets (index hash k c.buckets.size), decide (e.1 ≠ k) = true := by
      intro e he
      simpa using fun hek : e.1 = k => not_mem_others h.wf k (List.mem_map.2 ⟨e,he,hek⟩)
    have hb' : ∀ e ∈ b.entries, decide (e.1 ≠ k) = true := by
      intro e he
      simpa using fun hek : e.1 = k => hb (List.mem_map.2 ⟨e,he,hek⟩)
    rw [List.filter_append,List.filter_cons_of_neg (by simp),List.filter_eq_self.2 ho,
      List.filter_eq_self.2 hb']
  have hfinite := hp.trans (h.perm.filter _)
  refine h.modifyBucket _ (fun e he => .inr ?_) (Bucket.tidy_of_remove hr) hfinite
    (h.keys.sublist List.filter_sublist) ?_
  · exact List.mem_map_of_mem (hE.mem_iff.2 (List.mem_cons_of_mem _ he))
  · rw [← hfinite.length_eq,(toList_modifyBucket hash h.wf.pos k _).length_eq,h.wf.count,
      hall.length_eq]
    simp

/-- Inserting answers what the finite map answers, and keeps the refinement: a mapped name is
rebound in place, a new one placed and counted, and both maps grow at the same moment. -/
theorem Refines.insert (h : Refines hash c m) (k : String) (v : α) :
    Refines hash (c.insert hash k v).1 (m.insert k v).1 ∧ (c.insert hash k v).2 = (m.insert k v).2 := by
  cases hk : m.get? k with
  | some old =>
    have hc : c.get? hash k = some old := (h.get? k).trans hk
    simp only [ChainedMap.insert,NameMap.insert,hc,hk]
    exact ⟨h.setValue k v,trivial⟩
  | none =>
    have hc : c.get? hash k = none := (h.get? k).trans hk
    have hplaced := h.place hc v
    -- the decision to grow reads the same count, buckets and threshold on both sides
    have hr : Dyadic.ratioAtLeast (c.count + 1) c.buckets.size c.threshold =
        Dyadic.ratioAtLeast (m.entries ++ [(k, v)]).length m.buckets m.threshold := by
      rw [h.wf.count,h.perm.length_eq,h.buckets,h.threshold,List.length_append,List.length_singleton]
    simp only [ChainedMap.insert,NameMap.insert,hc,hk,size_modifyBucket,modifyBucket_threshold,hr]
    by_cases hg : Dyadic.ratioAtLeast (m.entries ++ [(k, v)]).length m.buckets m.threshold = true
    · simp only [hg,↓reduceIte]
      exact ⟨hplaced.grow,trivial⟩
    · simp only [hg,Bool.false_eq_true,↓reduceIte]
      exact ⟨hplaced,trivial⟩

/-- Removing answers what the finite map answers, and keeps the refinement. -/
theorem Refines.erase (h : Refines hash c m) (k : String) :
    Refines hash (c.erase hash k).1 (m.erase k).1 ∧ (c.erase hash k).2 = (m.erase k).2 := by
  cases hr : (c.bucket hash k).remove k with
  | none =>
    have hm : m.get? k = none :=
      (h.get? k).symm.trans (lookup_eq_none_iff.2 (Bucket.remove_none.1 hr))
    simp only [ChainedMap.erase,NameMap.erase,hr,hm]
    exact ⟨h,trivial⟩
  | some p =>
    obtain ⟨b,v⟩ := p
    have hc : c.get? hash k = some v :=
      (lookup_eq_some_iff (keys_bucket h.wf k)).2 ((Bucket.remove_some hr).mem_iff.2 List.mem_cons_self)
    have hm : m.get? k = some v := (h.get? k).symm.trans hc
    simp only [ChainedMap.erase,NameMap.erase,hr,hm]
    exact ⟨h.remove hr,trivial⟩

/-- Emptying both maps keeps the refinement, and they release the same values. -/
theorem Refines.free (h : Refines hash c m) :
    Refines hash c.free.1 m.free.1 ∧ c.free.2.Perm m.free.2 :=
  ⟨⟨wellFormed_blank hash h.wf.pos c.threshold,by simp [ChainedMap.free,NameMap.free],
    by simpa [ChainedMap.free,NameMap.free] using h.buckets,h.threshold⟩,h.perm.map _⟩

end Refines

theorem roundPow2_pos (n : Nat) : 0 < NameMap.roundPow2 n := by
  unfold NameMap.roundPow2
  split
  · exact Nat.one_pos
  · exact Nat.two_pow_pos _

/-- A map just made refines the empty finite map with as many buckets. -/
theorem refines_empty (n : Nat) (t : Dyadic) :
    Refines hash (ChainedMap.empty n t : ChainedMap α) ⟨[],NameMap.roundPow2 n,t⟩ :=
  ⟨wellFormed_blank hash (roundPow2_pos n) t,by simp [ChainedMap.empty],by simp [ChainedMap.empty],
    rfl⟩

end ChainedMap

/-! ### Runs of calls -/

/-- A call on a map from names. -/
inductive MapCall (α : Type) where
  | insert (key : String) (value : α)
  | erase (key : String)
  | get (key : String)
  | contains (key : String)
  | free

/-- What a call answers: the value found, replaced or removed; whether the name is mapped; or
the values released. -/
inductive MapAnswer (α : Type) where
  | value (v : Option α)
  | present (b : Bool)
  | released (vs : List α)

/-- Two answers agree; released values may come in another order. -/
def MapAnswer.Agrees {α : Type} : MapAnswer α → MapAnswer α → Prop
  | .released vs, .released ws => vs.Perm ws
  | a, b => a = b

namespace NameMap

variable {α : Type}

/-- One call on a finite map. -/
def perform (m : NameMap α) : MapCall α → NameMap α × MapAnswer α
  | .insert k v => ((m.insert k v).1, .value (m.insert k v).2)
  | .erase k => ((m.erase k).1, .value (m.erase k).2)
  | .get k => (m, .value (m.get? k))
  | .contains k => (m, .present (m.contains k))
  | .free => (m.free.1, .released m.free.2)

/-- A run of calls: the map after them, and their answers in order. -/
def replay (m : NameMap α) : List (MapCall α) → NameMap α × List (MapAnswer α)
  | [] => (m, [])
  | call :: rest => ((m.perform call).1.replay rest |>.1,
      (m.perform call).2 :: ((m.perform call).1.replay rest).2)

end NameMap

namespace ChainedMap

variable {α : Type} (hash : String → UInt64)

/-- One call on a chained map. -/
def perform (m : ChainedMap α) : MapCall α → ChainedMap α × MapAnswer α
  | .insert k v => ((m.insert hash k v).1, .value (m.insert hash k v).2)
  | .erase k => ((m.erase hash k).1, .value (m.erase hash k).2)
  | .get k => (m, .value (m.get? hash k))
  | .contains k => (m, .present (m.contains hash k))
  | .free => (m.free.1, .released m.free.2)

/-- A run of calls: the map after them, and their answers in order. -/
def replay (m : ChainedMap α) : List (MapCall α) → ChainedMap α × List (MapAnswer α)
  | [] => (m, [])
  | call :: rest => ((m.perform hash call).1.replay rest |>.1,
      (m.perform hash call).2 :: ((m.perform hash call).1.replay rest).2)

variable {hash} {c : ChainedMap α} {m : NameMap α}

/-- One call keeps the refinement and answers as the finite map does. -/
theorem Refines.perform (h : Refines hash c m) (call : MapCall α) :
    Refines hash (c.perform hash call).1 (m.perform call).1 ∧
      MapAnswer.Agrees (c.perform hash call).2 (m.perform call).2 := by
  cases call with
  | insert k v =>
    obtain ⟨h',ha⟩ := h.insert k v
    exact ⟨h',by simp [ChainedMap.perform,NameMap.perform,MapAnswer.Agrees,ha]⟩
  | erase k =>
    obtain ⟨h',ha⟩ := h.erase k
    exact ⟨h',by simp [ChainedMap.perform,NameMap.perform,MapAnswer.Agrees,ha]⟩
  | get k => exact ⟨h,by simp [ChainedMap.perform,NameMap.perform,MapAnswer.Agrees,h.get? k]⟩
  | contains k => exact ⟨h,by simp [ChainedMap.perform,NameMap.perform,MapAnswer.Agrees,h.contains k]⟩
  | free =>
    obtain ⟨h',ha⟩ := h.free
    exact ⟨h',ha⟩

/-- Every run of calls keeps the refinement, answering call by call as the finite map does. -/
theorem Refines.replay (h : Refines hash c m) (calls : List (MapCall α)) :
    Refines hash (c.replay hash calls).1 (m.replay calls).1 ∧
      List.Forall₂ MapAnswer.Agrees (c.replay hash calls).2 (m.replay calls).2 := by
  induction calls generalizing c m with
  | nil => exact ⟨h,.nil⟩
  | cons call rest ih =>
    obtain ⟨h₁,ha⟩ := h.perform call
    obtain ⟨h₂,has⟩ := ih h₁
    exact ⟨h₂,.cons ha has⟩

end ChainedMap

/-- A chained map, with any hash, bucket count and threshold, refines the finite map: along
every run of calls it answers as the finite map does, holds its entries once each, counts them,
and doubles its buckets when the finite map does. -/
theorem ChainedMap.replay_refines_finite_map {α : Type} (hash : String → UInt64) (n : Nat)
    (t : Dyadic)
    (calls : List (MapCall α)) :
    let c := (ChainedMap.empty n t : ChainedMap α).replay hash calls
    let m := (⟨[],NameMap.roundPow2 n,t⟩ : NameMap α).replay calls
    List.Forall₂ MapAnswer.Agrees c.2 m.2 ∧ (∀ k, c.1.get? hash k = m.1.get? k) ∧
      c.1.size = m.1.size ∧ DistinctKeys m.1.entries ∧
      (c.1.range fun _ _ => true).Perm m.1.entries ∧ c.1.buckets.size = m.1.buckets := by
  intro c m
  obtain ⟨h,ha⟩ := (ChainedMap.refines_empty hash n t).replay calls
  exact ⟨ha,h.get?,h.size,h.keys,h.range,h.buckets⟩

end Combinatory
