import Combinatory.Scope.BinderArray
import Combinatory.Proofs.Check
import Mathlib.Tactic.Set

/-! The binder stack refines a list. The array of slots stands for the list-and-capacity stack
the checker runs on, each call on the array being the same call on that stack
(`BinderArray.Inv.perform`), and every answer is read off a plain list
(`BinderArray.refines_binder_list`). -/
namespace Combinatory

/-- A call that changes the binder stack. -/
inductive BinderCall where
  | push (name : String) (tok : Nat)
  | pushBoundary
  | pop
  | clear

/-- A call on the plain list of entries, bottom first. -/
def BinderCall.onList (l : List Binder) : BinderCall → List Binder
  | .push name tok => l ++ [.param name tok]
  | .pushBoundary => l ++ [.boundary]
  | .pop => l.dropLast
  | .clear => []

namespace Binders

/-- A call on the list-and-capacity stack. -/
def perform (b : Binders) : BinderCall → Binders
  | .push name tok => b.pushParam name tok
  | .pushBoundary => b.pushBoundary
  | .pop => b.pop.1
  | .clear => b.clear

theorem items_perform (b : Binders) (c : BinderCall) : (b.perform c).items = c.onList b.items := by
  cases c <;> simp [perform, BinderCall.onList, clear, empty]

/-- The entries after a run are the plain list the calls build. -/
theorem items_run (b : Binders) (calls : List BinderCall) :
    (calls.foldl perform b).items = calls.foldl BinderCall.onList b.items := by
  induction calls generalizing b with
  | nil => rfl
  | cons c cs ih => rw [List.foldl_cons, List.foldl_cons, ih, items_perform]

theorem pop_snd_eq_false (b : Binders) : b.pop.2 = false ↔ b.items = [] := by
  unfold pop
  split <;> simp_all

/-- A lookup fails exactly when no parameter has the name. -/
theorem lookup?_eq_none_iff (b : Binders) (name : String) :
    b.lookup? name = none ↔ ∀ u, .param name u ∉ b.items := by
  unfold lookup?
  rw [List.findSome?_eq_none_iff]
  constructor
  · intro h u hu
    simpa using h _ (List.mem_reverse.2 hu)
  · intro h e he
    cases e with
    | param n u =>
      by_cases hn : n = name
      · exact absurd (List.mem_reverse.1 he) (hn ▸ h u)
      · simp [hn]
    | boundary => rfl

/-- A lookup finds the token of the last parameter of the name, whatever boundaries lie
above it. -/
theorem lookup?_eq_some_iff (b : Binders) (name : String) (t : Nat) :
    b.lookup? name = some t ↔
      ∃ pre post, b.items = pre ++ .param name t :: post ∧ ∀ u, .param name u ∉ post := by
  unfold lookup?
  rw [List.findSome?_eq_some_iff]
  constructor
  · rintro ⟨above, e, below, hl, he, hnone⟩
    -- the scan runs from the top: `above` is what it passed, `e` what it stopped at
    have he' : e = .param name t := by
      cases e with
      | param n u =>
        by_cases hn : n = name
        · simp_all
        · simp [hn] at he
      | boundary => simp at he
    refine ⟨below.reverse, above.reverse, ?_, fun u hu => ?_⟩
    · rw [← List.reverse_reverse b.items, hl, he']
      simp
    · simpa using hnone _ (List.mem_reverse.1 hu)
  · rintro ⟨pre, post, hl, hpost⟩
    -- no entry above the parameter stops the scan
    have habove := List.findSome?_eq_none_iff.1
      (((⟨post, b.cap⟩ : Binders).lookup?_eq_none_iff name).2 hpost)
    exact ⟨post.reverse, .param name t, pre.reverse, by simp [hl], by simp, habove⟩

/-- The frame length counts the entries after the last boundary, all of them parameters. -/
theorem frameLen_spec (b : Binders) :
    ∃ pre post, b.items = pre ++ post ∧ (pre = [] ∨ pre.getLast? = some .boundary) ∧
      .boundary ∉ post ∧ b.frameLen = post.length := by
  -- scanning down, the frame is what is taken before the first boundary
  set p : Binder → Bool := (· ≠ .boundary) with hp
  refine ⟨(b.items.reverse.dropWhile p).reverse, (b.items.reverse.takeWhile p).reverse, ?_, ?_,
    fun hm => ?_, ?_⟩
  · rw [← List.reverse_append, List.takeWhile_append_dropWhile, List.reverse_reverse]
  · by_cases hd : b.items.reverse.dropWhile p = []
    · exact .inl (by rw [hd, List.reverse_nil])
    · refine .inr ?_
      have hstop := List.head_dropWhile_not p hd
      rw [List.getLast?_reverse, List.head?_eq_some_head hd]
      simpa [hp] using hstop
  · have := List.all_eq_true.1 List.all_takeWhile _ (List.mem_reverse.1 hm)
    simp [hp] at this
  · simp [frameLen, hp]

end Binders

/-- The entry a slot holds. -/
def BinderSlot.entry (s : BinderSlot) : Binder := if s.boundary then .boundary else .param s.name s.tok

namespace BinderArray

/-- The entries, bottom first: what the slots below the first free one hold. -/
def entries (a : BinderArray) : List Binder :=
  (List.range a.top).map fun i => (a.items.getD i default).entry

/-- The list-and-capacity stack the array stands for. -/
def toBinders (a : BinderArray) : Binders := ⟨a.entries, a.items.size⟩

/-- A call on the array. -/
def perform (a : BinderArray) : BinderCall → BinderArray
  | .push name tok => a.pushParam name tok
  | .pushBoundary => a.pushBoundary
  | .pop => a.pop.1
  | .clear => a.clear

/-- What every call keeps: the entries lie within the array, the array never has fewer than
`Binders.initialCap` slots, and every slot from the first free one on is free. -/
structure Inv (a : BinderArray) : Prop where
  top_le : a.top ≤ a.items.size
  initial_le : Binders.initialCap ≤ a.items.size
  free : ∀ i, a.top ≤ i → a.items.getD i default = default

/-! ### Slots -/

theorem getD_copyInto (dst src : Array BinderSlot) (i : Nat) :
    (copyInto dst src).getD i default =
      if i < dst.size then src.getD i (dst.getD i default) else default := by
  simp only [copyInto, Array.getD_eq_getD_getElem?, Array.getElem?_mapIdx]
  by_cases h : i < dst.size
  · simp [h]
  · simp [h]

@[simp] theorem size_resized (items : Array BinderSlot) (k n : Nat) :
    (resized items k n).size = n := by
  simp [resized, copyInto]

/-- A fresh array keeps the slots it copies, and every other slot is free. -/
theorem getD_resized (items : Array BinderSlot) (k n i : Nat) :
    (resized items k n).getD i default = if i < n ∧ i < k then items.getD i default else default := by
  rw [resized, getD_copyInto, Array.size_replicate]
  by_cases hn : i < n
  · by_cases hk : i < k
    · by_cases hs : i < items.size <;> simp [hn, hk, Array.getD_eq_getD_getElem?, hs]
    · simp [hn, hk, Array.getD_eq_getD_getElem?]
  · simp [hn]

/-- Setting a slot within the array changes that slot only. -/
theorem getD_setIfInBounds {items : Array BinderSlot} {j : Nat} (hj : j < items.size)
    (e : BinderSlot) (i : Nat) :
    (items.setIfInBounds j e).getD i default = if i = j then e else items.getD i default := by
  simp only [Array.getD_eq_getD_getElem?, Array.getElem?_setIfInBounds]
  by_cases hij : j = i
  · subst hij
    simp [hj]
  · simp [hij, Ne.symm hij]

/-! ### Entries -/

@[simp] theorem length_entries (a : BinderArray) : a.entries.length = a.top := by
  simp [entries]

/-- The entries read only the slots below the first free one. -/
theorem entries_congr {items items' : Array BinderSlot} {n : Nat}
    (h : ∀ i < n, items'.getD i default = items.getD i default) :
    (⟨items', n⟩ : BinderArray).entries = (⟨items, n⟩ : BinderArray).entries :=
  List.map_congr_left fun i hi => by rw [h i (List.mem_range.1 hi)]

theorem entries_succ (items : Array BinderSlot) (n : Nat) :
    (⟨items, n + 1⟩ : BinderArray).entries =
      (⟨items, n⟩ : BinderArray).entries ++ [(items.getD n default).entry] := by
  simp [entries, List.range_succ]

@[simp] theorem entry_param (name : String) (tok : Nat) :
    (⟨name, tok, false⟩ : BinderSlot).entry = .param name tok := rfl

@[simp] theorem entry_boundary : (⟨"", 0, true⟩ : BinderSlot).entry = .boundary := rfl

/-! ### The steps the operations are made of -/

/-- Storing `e` in the first free slot of an array with room puts `e` on top of the stack. -/
theorem Inv.set_top {items : Array BinderSlot} {n : Nat} (h : (⟨items, n⟩ : BinderArray).Inv)
    (hlt : n < items.size) (e : BinderSlot) :
    (⟨items.setIfInBounds n e, n + 1⟩ : BinderArray).Inv ∧
      (⟨items.setIfInBounds n e, n + 1⟩ : BinderArray).toBinders =
        ⟨(⟨items, n⟩ : BinderArray).entries ++ [e.entry], items.size⟩ := by
  refine ⟨⟨by simp; omega, by simpa using h.initial_le, fun i hi => ?_⟩, ?_⟩
  · dsimp only at hi
    rw [getD_setIfInBounds hlt, if_neg (by omega)]
    exact h.free i (by dsimp only; omega)
  · simp only [toBinders, Array.size_setIfInBounds, Binders.mk.injEq, and_true]
    rw [entries_succ, getD_setIfInBounds hlt, if_pos rfl]
    exact congrArg (· ++ [e.entry])
      (entries_congr fun i hi => by rw [getD_setIfInBounds hlt, if_neg (by omega)])

/-- Clearing the top slot takes the top entry off the stack. -/
theorem Inv.clear_top {items : Array BinderSlot} {n : Nat} (h : (⟨items, n + 1⟩ : BinderArray).Inv) :
    (⟨items.setIfInBounds n default, n⟩ : BinderArray).Inv ∧
      (⟨items.setIfInBounds n default, n⟩ : BinderArray).toBinders =
        ⟨(⟨items, n⟩ : BinderArray).entries, items.size⟩ := by
  have hlt : n < items.size := h.top_le
  refine ⟨⟨by simp; omega, by simpa using h.initial_le, fun i hi => ?_⟩, ?_⟩
  · dsimp only at hi
    rw [getD_setIfInBounds hlt]
    split
    · rfl
    · exact h.free i (by dsimp only; omega)
  · simp only [toBinders, Array.size_setIfInBounds, Binders.mk.injEq, and_true]
    exact entries_congr fun i hi => by rw [getD_setIfInBounds hlt, if_neg (by omega)]

/-- Moving the first `n` slots into a fresh array of `m` slots, room enough, keeps the first `n`
entries and makes `m` the capacity. -/
theorem resized_stack (items : Array BinderSlot) {n m : Nat} (hnm : n ≤ m)
    (hm : Binders.initialCap ≤ m) :
    (⟨resized items n m, n⟩ : BinderArray).Inv ∧
      (⟨resized items n m, n⟩ : BinderArray).toBinders = ⟨(⟨items, n⟩ : BinderArray).entries, m⟩ := by
  refine ⟨⟨by simpa using hnm, by simpa using hm, fun i hi => ?_⟩, ?_⟩
  · dsimp only at hi
    rw [getD_resized, if_neg (by omega)]
  · simp only [toBinders, size_resized, Binders.mk.injEq, and_true]
    exact entries_congr fun i hi => by rw [getD_resized, if_pos ⟨by omega, hi⟩]

/-! ### The operations -/

theorem inv_new : new.Inv :=
  ⟨by simp [new], by simp [new], fun i _ => by
    simp only [new, Array.getD_eq_getD_getElem?, Array.getElem?_replicate]
    split <;> rfl⟩

theorem toBinders_new : new.toBinders = Binders.empty := by
  simp [new, toBinders, entries, Binders.empty]

variable {a : BinderArray}

/-- A push puts the entry on top of the stack the array stands for; the array doubles exactly
when it is full. -/
theorem Inv.push (h : a.Inv) (e : BinderSlot) :
    (a.push e).Inv ∧ (a.push e).toBinders = a.toBinders.push e.entry := by
  have hcap : 20 ≤ a.items.size := h.initial_le
  by_cases hfull : a.top = a.items.size
  · -- a full array first moves into one twice as large
    obtain ⟨h₁, hb₁⟩ := resized_stack a.items (n := a.top) (m := a.items.size * 2) (by omega)
      (by simp only [Binders.initialCap]; omega)
    obtain ⟨h₂, hb₂⟩ := h₁.set_top (by simp; omega) e
    have hpush : a.push e =
        ⟨(resized a.items a.top (a.items.size * 2)).setIfInBounds a.top e, a.top + 1⟩ := by
      simp only [BinderArray.push, if_pos hfull]
    have hent : (⟨resized a.items a.top (a.items.size * 2), a.top⟩ : BinderArray).entries =
        a.entries := congrArg Binders.items hb₁
    rw [hpush]
    refine ⟨h₂, ?_⟩
    rw [hb₂, hent]
    simp only [Binders.push, toBinders, Binders.len, length_entries, hfull, if_true, size_resized,
      Binders.mk.injEq, true_and]
    omega
  · have hpush : a.push e = ⟨a.items.setIfInBounds a.top e, a.top + 1⟩ := by
      simp only [BinderArray.push, if_neg hfull]
    obtain ⟨h₂, hb₂⟩ := Inv.set_top h (Nat.lt_of_le_of_ne h.top_le hfull) e
    rw [hpush]
    refine ⟨h₂, ?_⟩
    rw [hb₂]
    simp [Binders.push, toBinders, Binders.len, hfull]

/-- A pop takes the top entry off the stack the array stands for, and finds one exactly when
the stack has one; the array halves exactly when the stack's capacity does. -/
theorem Inv.pop (h : a.Inv) : a.pop.1.Inv ∧ (a.pop.1.toBinders, a.pop.2) = a.toBinders.pop := by
  obtain ⟨items, top⟩ := a
  cases top with
  | zero => simp [BinderArray.pop, Binders.pop, toBinders, entries, h]
  | succ n =>
    -- the freed slot is cleared first, leaving a stack of the entries below it
    obtain ⟨h₁, hb₁⟩ := h.clear_top
    have hent : (⟨items.setIfInBounds n default, n⟩ : BinderArray).entries =
        (⟨items, n⟩ : BinderArray).entries := congrArg Binders.items hb₁
    have hb : (⟨items, n + 1⟩ : BinderArray).toBinders.pop =
        (⟨(⟨items, n⟩ : BinderArray).entries,
          if items.size > Binders.initialCap ∧ n + Binders.slack < items.size / 5 then
            max (items.size / 2) Binders.initialCap else items.size⟩, true) := by
      simp [Binders.pop, toBinders, entries_succ]
    rw [hb]
    by_cases hshrink : items.size > Binders.initialCap ∧ n + Binders.slack < items.size / 5
    · -- the array halves: the entries left are fewer than a fifth of it, so they fit
      have hfit : n ≤ max (items.size / 2) Binders.initialCap := by
        simp only [Binders.initialCap, Binders.slack] at hshrink ⊢
        omega
      obtain ⟨h₂, hb₂⟩ := resized_stack (items.setIfInBounds n default) hfit (Nat.le_max_right _ _)
      have hpop : (⟨items, n + 1⟩ : BinderArray).pop =
          (⟨resized (items.setIfInBounds n default) n (max (items.size / 2) Binders.initialCap), n⟩,
            true) := by
        simp [BinderArray.pop, hshrink]
      rw [hpop, if_pos hshrink]
      exact ⟨h₂, by rw [hb₂, hent]⟩
    · have hpop : (⟨items, n + 1⟩ : BinderArray).pop = (⟨items.setIfInBounds n default, n⟩, true) := by
        simp [BinderArray.pop, hshrink]
      rw [hpop, if_neg hshrink]
      exact ⟨h₁, by rw [hb₁]⟩

/-- Clearing empties the stack the array stands for and puts back the first capacity. -/
theorem Inv.clear (h : a.Inv) : a.clear.Inv ∧ a.clear.toBinders = a.toBinders.clear := by
  unfold BinderArray.clear
  split
  · -- the capacity has moved: a fresh array
    exact ⟨inv_new, toBinders_new⟩
  · rename_i hsize
    have hzero : ∀ i, (a.items.mapIdx fun i e => if i < a.top then default else e).getD i default =
        default := by
      intro i
      simp only [Array.getD_eq_getD_getElem?, Array.getElem?_mapIdx]
      by_cases hi : i < a.top
      · cases a.items[i]? <;> simp [hi]
      · have := h.free i (by omega)
        rw [Array.getD_eq_getD_getElem?] at this
        cases hx : a.items[i]? <;> simp_all
    refine ⟨⟨Nat.zero_le _, by simp [Binders.initialCap] at hsize ⊢; omega, fun i _ => hzero i⟩, ?_⟩
    simp [toBinders, entries, Binders.clear, Binders.empty, Binders.initialCap] at hsize ⊢
    exact hsize

/-- Looking a name up scans the entries from the top, as the stack does. -/
theorem lookupBelow_eq (items : Array BinderSlot) (name : String) (n c : Nat) :
    lookupBelow items name n = (⟨(⟨items, n⟩ : BinderArray).entries, c⟩ : Binders).lookup? name := by
  induction n with
  | zero => rfl
  | succ n ih =>
    rw [entries_succ, lookupBelow]
    simp only [Binders.lookup?, List.reverse_append, List.reverse_cons, List.reverse_nil,
      List.nil_append, List.cons_append, List.findSome?_cons] at ih ⊢
    rw [ih]
    -- the slot just below: a parameter of the name ends the scan, anything else passes
    obtain ⟨nm, tok, bd⟩ := items.getD n default
    cases bd
    · by_cases hn : nm = name <;> simp [BinderSlot.entry, hn]
    · simp [BinderSlot.entry]

theorem lookup?_eq (a : BinderArray) (name : String) : a.lookup? name = a.toBinders.lookup? name :=
  lookupBelow_eq a.items name a.top _

/-- The frame below `n` is what the stack counts above its last boundary. -/
theorem frameBelow_eq (items : Array BinderSlot) (n c : Nat) :
    frameBelow items n = (⟨(⟨items, n⟩ : BinderArray).entries, c⟩ : Binders).frameLen := by
  induction n with
  | zero => rfl
  | succ n ih =>
    rw [entries_succ]
    simp only [frameBelow, Binders.frameLen, List.reverse_append, List.reverse_cons,
      List.reverse_nil, List.nil_append, List.cons_append] at ih ⊢
    unfold BinderSlot.entry
    cases hb : (items.getD n default).boundary
    · simp [ih]
    · simp

theorem frameLen_eq (a : BinderArray) : a.frameLen = a.toBinders.frameLen :=
  frameBelow_eq a.items a.top _

theorem len_eq (a : BinderArray) : a.len = a.toBinders.len := by
  simp [len, toBinders, Binders.len]

/-- Every call on the array is the same call on the stack it stands for. -/
theorem Inv.perform (h : a.Inv) (c : BinderCall) :
    (a.perform c).Inv ∧ (a.perform c).toBinders = a.toBinders.perform c := by
  cases c with
  | push name tok => exact h.push _
  | pushBoundary => exact h.push _
  | pop =>
    obtain ⟨h', hb⟩ := h.pop
    exact ⟨h', congrArg Prod.fst hb⟩
  | clear => exact h.clear

/-- Every run of calls on the array is the same run on the stack it stands for. -/
theorem Inv.run (h : a.Inv) (calls : List BinderCall) :
    (calls.foldl BinderArray.perform a).Inv ∧ (calls.foldl BinderArray.perform a).toBinders =
      calls.foldl Binders.perform a.toBinders := by
  induction calls generalizing a with
  | nil => exact ⟨h, rfl⟩
  | cons c cs ih =>
    obtain ⟨h₁, hb₁⟩ := h.perform c
    rw [List.foldl_cons, List.foldl_cons, ← hb₁]
    exact ih h₁

/-- The array layout refines the list-and-capacity stack: every run of calls from a new array
reaches an array that stands for the stack the same run reaches, entries and capacity. -/
theorem run_refines_binders (calls : List BinderCall) :
    (calls.foldl perform new).Inv ∧
      (calls.foldl perform new).toBinders = calls.foldl Binders.perform Binders.empty := by
  rw [← toBinders_new]
  exact inv_new.run calls

end BinderArray

/-- The binder stack refines a plain list: after every run of calls from a new stack, its
entries, length, pops, lookups and frame length are those of the list the calls build. -/
theorem BinderArray.refines_binder_list (calls : List BinderCall) :
    let a := calls.foldl BinderArray.perform BinderArray.new
    let l := calls.foldl BinderCall.onList []
    a.entries = l ∧ a.len = l.length ∧ (a.pop.2 = false ↔ l = []) ∧ a.pop.1.entries = l.dropLast ∧
      (∀ name t, a.lookup? name = some t ↔
        ∃ pre post, l = pre ++ .param name t :: post ∧ ∀ u, .param name u ∉ post) ∧
      (∀ name, a.lookup? name = none ↔ ∀ u, .param name u ∉ l) ∧
      ∃ pre post, l = pre ++ post ∧ (pre = [] ∨ pre.getLast? = some .boundary) ∧
        .boundary ∉ post ∧ a.frameLen = post.length := by
  intro a l
  obtain ⟨hinv, hb⟩ := BinderArray.run_refines_binders calls
  have hl : a.entries = l := by
    have := congrArg Binders.items hb
    simpa [BinderArray.toBinders, Binders.items_run, Binders.empty] using this
  obtain ⟨-, hpop⟩ := hinv.pop
  have hitems : a.toBinders.items = l := hl
  refine ⟨hl, ?_, ?_, ?_, fun name t => ?_, fun name => ?_, ?_⟩
  · rw [BinderArray.len_eq, Binders.len, hitems]
  · rw [congrArg Prod.snd hpop, Binders.pop_snd_eq_false, hitems]
  · have := congrArg (fun p => p.1.items) hpop
    simp only [BinderArray.toBinders, Binders.items_pop] at this
    rw [this, hl]
  · rw [BinderArray.lookup?_eq, Binders.lookup?_eq_some_iff, hitems]
  · rw [BinderArray.lookup?_eq, Binders.lookup?_eq_none_iff, hitems]
  · rw [BinderArray.frameLen_eq, ← hitems]
    exact a.toBinders.frameLen_spec

/-- A parameter, a boundary and a second parameter: both names are in scope, the frame holds
one parameter; a later parameter of the first name hides it. -/
example :
    let a := [.push "f" 1, .pushBoundary, .push "x" 2].foldl BinderArray.perform BinderArray.new
    a.lookup? "x" = some 2 ∧ a.lookup? "f" = some 1 ∧ a.frameLen = 1 ∧ a.len = 3 ∧
      (a.perform (.push "f" 3)).lookup? "f" = some 3 := by
  decide

end Combinatory
