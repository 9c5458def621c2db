/-! Running the passes. The checker, the currying pass and the parser are programs in a state
monad. `Pass.run` runs one from a state, and its lemmas execute a do-block one bind at a time,
so that each callee is used through its own specification instead of being unfolded. A loop
over a list is read through an invariant that every iteration keeps (`Pass.forIn_inv`). -/
namespace Combinatory

namespace Pass

variable {σ α β : Type}

/-- A pass run from state `s`: its result and the state it leaves. -/
def run (x : StateM σ α) (s : σ) : α × σ := x.run s

/-- A program that runs a pass itself runs it as `run` does. -/
theorem stateT_run (x : StateM σ α) (s : σ) : x.run s = run x s := rfl

@[simp] theorem run_bind (x : StateM σ α) (f : α → StateM σ β) (s : σ) :
    run (x >>= f) s = run (f (run x s).1) (run x s).2 := rfl

@[simp] theorem run_pure (a : α) (s : σ) : run (pure a : StateM σ α) s = (a, s) := rfl

@[simp] theorem run_get (s : σ) : run (get : StateM σ σ) s = (s, s) := rfl

@[simp] theorem run_set (s s' : σ) : run (set s' : StateM σ PUnit) s = (PUnit.unit, s') := rfl

@[simp] theorem run_modify (f : σ → σ) (s : σ) :
    run (modify f : StateM σ PUnit) s = (PUnit.unit, f s) := rfl

@[simp] theorem run_map (f : α → β) (x : StateM σ α) (s : σ) :
    run (f <$> x) s = (f (run x s).1, (run x s).2) := rfl

theorem run_forM_cons (f : α → StateM σ PUnit) (a : α) (as : List α) (s : σ) :
    run ((a :: as).forM f) s = run (as.forM f) (run (f a) s).2 := rfl

/-- A loop over a list keeps an invariant indexed by the elements done. -/
theorem forIn_inv (xs : List α) (body : α → PUnit → StateM σ (ForInStep PUnit))
    (I : List α → σ → Prop)
    (hstep : ∀ pre p post s, pre ++ p :: post = xs → I pre s →
      ∃ s', (body p PUnit.unit).run s = (.yield PUnit.unit, s') ∧ I (pre ++ [p]) s')
    (s : σ) (h : I [] s) : I xs ((forIn xs PUnit.unit body).run s).2 := by
  suffices ∀ ys pre s, pre ++ ys = xs → I pre s → I xs ((forIn ys PUnit.unit body).run s).2 from
    this xs [] s rfl h
  intro ys
  induction ys with
  | nil =>
    intro pre s hpre hI
    simp only [List.append_nil] at hpre
    subst hpre
    exact hI
  | cons y ys ih =>
    intro pre s hpre hI
    obtain ⟨s',hrun,hI'⟩ := hstep pre y ys s hpre hI
    rw [List.forIn_cons,StateT.run_bind,hrun]
    exact ih (pre ++ [y]) s' (by simp [← hpre]) hI'

end Pass

end Combinatory
