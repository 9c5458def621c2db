import Combinatory.Arena.Methods
import Mathlib.Tactic.SplitIfs

/-! The arena's methods, run in place, agree with the operations of `Combinatory.Arena.Ops`,
and fail on the arena they started from (`failed_methods_keep_arena`). -/
namespace Combinatory

namespace Arena

variable {α β : Type}

/-- A method's outcome for an operation that gives a new arena or a failure: the new arena on
success, the arena it started from on a failure. -/
def transact (a : Arena) : Except ArenaError (Arena × α) → EStateM.Result ArenaError Arena α
  | .ok (a', v) => .ok v a'
  | .error e => .error e a

/-- A method that keeps the arena as it was whenever it fails. -/
def Atomic (m : Method α) : Prop := ∀ a e a', m.run a = .error e a' → a' = a

namespace Method

@[simp] theorem run_throw (e : ArenaError) (a : Arena) : (throw e : Method α).run a = .error e a :=
  rfl

theorem run_ite (c : Prop) [Decidable c] (x y : Method α) (a : Arena) :
    (if c then x else y).run a = if c then x.run a else y.run a := by
  split <;> rfl

theorem run_bind_ok {x : Method α} {a a' : Arena} {v : α} (h : x.run a = .ok v a')
    (f : α → Method β) : (x >>= f).run a = (f v).run a' := by
  rw [EStateM.run_bind, h]

theorem run_bind_error {x : Method α} {a a' : Arena} {e : ArenaError} (h : x.run a = .error e a')
    (f : α → Method β) : (x >>= f).run a = .error e a' := by
  rw [EStateM.run_bind, h]

theorem run_ofExcept (r : Except ArenaError α) (a : Arena) :
    (MonadExcept.ofExcept r : Method α).run a = transact a (r.map (a, ·)) := by
  cases r <;> rfl

/-! Each lemma below takes the method apart one bind at a time, at the outcome of the operation
it calls: unfolding the pure operation's result inside a goal makes the kernel evaluate it. -/

theorem run_lookup (p : Ptr) (a : Arena) :
    (lookup p).run a = transact a ((a.lookup p).map (a, ·)) := by
  rw [lookup, run_bind_ok (EStateM.run_get a)]
  exact run_ofExcept _ a

/-- The checks come before the region is appended, and nothing after it can fail. -/
theorem run_allocIn (size : Nat) (a : Arena) :
    (allocIn size).run a = transact a (a.allocAt size) := by
  simp only [allocIn, allocAt, place, EStateM.run_bind, EStateM.run_get, run_ite, run_throw,
    EStateM.run_set, EStateM.run_pure]
  split_ifs <;> simp [transact, bind, Except.bind, pure, Except.pure, Region.empty]

theorem run_alloc (size : UInt64) (a : Arena) : (alloc size).run a = transact a (a.alloc size) := by
  rcases hA : a.allocAt size.toNat with e | ⟨a', i, off⟩
  · rw [alloc, run_bind_error (by rw [run_allocIn, hA]; rfl), Arena.alloc, hA]
    rfl
  · rw [alloc, run_bind_ok (by rw [run_allocIn, hA]; rfl), Arena.alloc, hA]
    rfl

theorem run_allocArray (elem count : UInt64) (a : Arena) :
    (allocArray elem count).run a = transact a (a.allocArray elem count) := by
  unfold allocArray Arena.allocArray
  split
  · rfl
  · exact run_alloc _ a

theorem run_strdup (bytes : ByteArray) (a : Arena) :
    (strdup bytes).run a = transact a (a.strdup bytes) := by
  rcases hA : a.allocAt (bytes.size + 1) with e | ⟨a', i, off⟩
  · rw [strdup, run_bind_error (by rw [run_allocIn, hA]; rfl), Arena.strdup, hA]
    rfl
  · rw [strdup, run_bind_ok (by rw [run_allocIn, hA]; rfl), Arena.strdup, hA]
    rfl

theorem run_free (p : Ptr) (a : Arena) : (free p).run a = transact a ((a.free p).map (·, ())) := by
  rcases hL : a.lookup p with e | res
  · rw [free, run_bind_error (by rw [run_lookup, hL]; rfl), Arena.free, hL]
    rfl
  · rw [free, run_bind_ok (by rw [run_lookup, hL]; rfl), Arena.free, hL]
    rfl

theorem run_bytes (p : Ptr) (a : Arena) : (bytes p).run a = transact a ((a.bytes p).map (a, ·)) := by
  rcases hL : a.lookup p with e | res
  · rw [bytes, run_bind_error (by rw [run_lookup, hL]; rfl), Arena.bytes, hL]
    rfl
  · rw [bytes, run_bind_ok (by rw [run_lookup, hL]; rfl), Arena.bytes, hL]
    rfl

theorem run_sizeOf (p : Ptr) (a : Arena) :
    (sizeOf p).run a = transact a ((a.sizeOf p).map (a, ·)) := by
  rcases hL : a.lookup p with e | res
  · rw [sizeOf, run_bind_error (by rw [run_lookup, hL]; rfl), Arena.sizeOf, hL]
    rfl
  · rw [sizeOf, run_bind_ok (by rw [run_lookup, hL]; rfl), Arena.sizeOf, hL]
    rfl

theorem run_string (p : Ptr) (a : Arena) :
    (string p).run a = transact a ((a.string p).map (a, ·)) := by
  rcases hB : a.bytes p with e | b
  · rw [string, run_bind_error (by rw [run_bytes, hB]; rfl), Arena.string, hB]
    rfl
  · rw [string, run_bind_ok (by rw [run_bytes, hB]; rfl), Arena.string, hB]
    conv => rhs; dsimp only [bind, Except.bind]
    split <;> rfl

/-- The size is checked before the allocation, and the copy and the release cannot fail. -/
theorem run_realloc (p : Ptr) (n : UInt64) (a : Arena) :
    (realloc p n).run a = transact a (a.realloc p n) := by
  rcases hL : a.lookup p with e | res
  · rw [realloc, run_bind_error (by rw [run_lookup, hL]; rfl), Arena.realloc, hL]
    rfl
  rw [realloc, run_bind_ok (by rw [run_lookup, hL]; rfl), Arena.realloc, hL]
  conv => rhs; dsimp only [bind, Except.bind]
  by_cases hs : n.toNat < res.size
  · rw [if_pos hs, if_pos hs]
    rfl
  rw [if_neg hs, if_neg hs]
  rcases hA : a.allocAt n.toNat with e | ⟨a', i, off⟩
  · rw [run_bind_error (by rw [run_allocIn, hA]; rfl)]
    rfl
  · rw [run_bind_ok (by rw [run_allocIn, hA]; rfl)]
    rfl

theorem run_reset (a : Arena) : reset.run a = transact a (a.reset.map (·, ())) := by
  rw [reset, run_bind_ok (EStateM.run_get a), Arena.reset]
  split <;> rfl

theorem run_destroy (a : Arena) : destroy.run a = transact a (a.destroy.map (·, ())) := by
  rw [destroy, run_bind_ok (EStateM.run_get a), Arena.destroy]
  split <;> rfl

end Method

/-- A method that ends as some operation says is atomic. -/
theorem Atomic.of_run {m : Method α} (f : Arena → Except ArenaError (Arena × α))
    (h : ∀ a, m.run a = transact a (f a)) : Atomic m := by
  intro a e a' hm
  rw [h a] at hm
  rcases hf : f a with e' | ⟨b, v⟩
  · rw [hf] at hm
    cases hm
    rfl
  · rw [hf] at hm
    cases hm

/-- A method that fails leaves the arena as it was: its regions, their cursors and bytes and
the allocations they record. -/
theorem failed_methods_keep_arena :
    (∀ n, Atomic (Method.alloc n)) ∧ (∀ e c, Atomic (Method.allocArray e c)) ∧
      (∀ b, Atomic (Method.strdup b)) ∧ (∀ p, Atomic (Method.free p)) ∧
      (∀ p, Atomic (Method.bytes p)) ∧ (∀ p, Atomic (Method.sizeOf p)) ∧
      (∀ p, Atomic (Method.string p)) ∧ (∀ p n, Atomic (Method.realloc p n)) ∧
      Atomic Method.reset ∧ Atomic Method.destroy :=
  ⟨fun n => .of_run _ (Method.run_alloc n), fun e c => .of_run _ (Method.run_allocArray e c),
    fun b => .of_run _ (Method.run_strdup b), fun p => .of_run _ (Method.run_free p),
    fun p => .of_run _ (Method.run_bytes p), fun p => .of_run _ (Method.run_sizeOf p),
    fun p => .of_run _ (Method.run_string p), fun p n => .of_run _ (Method.run_realloc p n),
    .of_run _ Method.run_reset, .of_run _ Method.run_destroy⟩

end Arena

end Combinatory
