import Combinatory.Proofs.Store
import Combinatory.Proofs.Shape
import Combinatory.Proofs.Names
import Combinatory.Combinator.Convert
import Mathlib.Data.List.Forall2

/-! The converter's steps against the pure converter `Term.compile`. A step of the converter
is run from a state with `run`; `BuildsOn x s c` says that `x` does not throw, changes only
the store, and builds `c` on it in the sense of `Store.Builds`. Bracket abstraction on the
store builds `Comb.abstract` of the term it is given (`abstract_spec`). -/
namespace Combinatory

namespace Bracket

/-- A converter step run from state `s`. -/
def run {α : Type} (x : ConvertM α) (s : ConvertState) : Except Unreachable α × ConvertState :=
  x.run.run s

theorem run_bind {α β : Type} (x : ConvertM α) (f : α → ConvertM β) (s : ConvertState) :
    run (x >>= f) s = match run x s with
      | (.ok a, s') => run (f a) s'
      | (.error e, s') => (.error e, s') := by
  simp only [run,ExceptT.run_bind,StateT.run_bind]
  rcases StateT.run (ExceptT.run x) s with ⟨_ | a, s'⟩ <;> rfl

@[simp] theorem run_pure {α : Type} (a : α) (s : ConvertState) :
    run (pure a : ConvertM α) s = (.ok a, s) := rfl

@[simp] theorem run_get (s : ConvertState) : run (get : ConvertM ConvertState) s = (.ok s, s) :=
  rfl

@[simp] theorem run_modify (f : ConvertState → ConvertState) (s : ConvertState) :
    run (modify f : ConvertM Unit) s = (.ok (), f s) := rfl

@[simp] theorem run_onStore {α : Type} (f : StateM Store α) (s : ConvertState) :
    run (onStore f) s = (.ok (f.run s.store).1, { s with store := (f.run s.store).2 }) := rfl

/-- `x` does not throw, changes only the store, and builds `c` on it. -/
def BuildsOn (x : ConvertM (Option Nat)) (s : ConvertState) (c : Comb) : Prop :=
  ∃ r st', run x s = (.ok r, { s with store := st' }) ∧ s.store.Builds r st' c

theorem buildsOn_onStore {f : StateM Store (Option Nat)} {s : ConvertState} {c : Comb}
    (h : s.store.Builds (f.run s.store).1 (f.run s.store).2 c) : BuildsOn (onStore f) s c :=
  ⟨_,_,run_onStore f s,h⟩

/-! ### Bracket abstraction on the store -/

section Abstract

variable (name : String) (sp : Span) (fuel : Nat) {s : ConvertState}

theorem run_abstract_of_failure (t : Option Nat) (hf : s.store.failure.isSome) :
    run (abstract name sp (fuel + 1) t) s = (.ok none, s) := by
  simp [abstract,run_bind,hf]

theorem run_abstract_of_not_mem {i : Nat} (hf : s.store.failure.isSome = false)
    (hc : s.store.containsFree i name = false) :
    run (abstract name sp (fuel + 1) (some i)) s =
      run (do let k ← onStore Store.kComb; onStore (Store.app k (some i))) s := by
  simp [abstract,run_bind,hf,hc]

theorem run_abstract_free {i v : Nat} (hf : s.store.failure.isSome = false)
    (hc : s.store.containsFree i name = true) (hn : s.store.node i = .free v) :
    run (abstract name sp (fuel + 1) (some i)) s = run (onStore Store.identity) s := by
  simp [abstract,run_bind,hf,hc,hn]

/-- Whether the right operand `r` of an application is the leaf `name`, as the converter
tests it. -/
def etaLeaf (st : Store) (r : Nat) : Bool :=
  match st.node r with
  | .free v => decide (st.tree.name v = name)
  | _ => false

theorem run_abstract_app {i l r : Nat} (hf : s.store.failure.isSome = false)
    (hc : s.store.containsFree i name = true) (hn : s.store.node i = .app l r) :
    run (abstract name sp (fuel + 1) (some i)) s =
      run (if etaLeaf name s.store r = true ∧ s.store.containsFree l name = false then
          pure (some l)
        else do
          let left ← abstract name sp fuel (some l)
          let right ← abstract name sp fuel (some r)
          let s ← onStore Store.sComb
          let sl ← onStore (Store.app s left)
          onStore (Store.app sl right)) s := by
  simp [abstract,run_bind,hf,hc,hn]
  rfl

theorem etaLeaf_of_reads {st : Store} {r : Nat} {a : Comb} (h : st.Reads r a) :
    etaLeaf name st r = decide (a = .free name) := by
  cases h with
  | free _ he => simp [etaLeaf,he]
  | s _ he | k _ he | app _ he | ref _ he => simp [etaLeaf,he]

theorem buildsOn_of_failure (hv : s.store.Valid) (hf : s.store.failure.isSome) (t : Option Nat)
    (c : Comb) : BuildsOn (abstract name sp (fuel + 1) t) s c :=
  ⟨none,s.store,run_abstract_of_failure name sp fuel t hf,Store.builds_of_failure hv hf c⟩

theorem buildsOn_kApp (hv : s.store.Valid) {i : Nat} {c : Comb} (hc : s.store.Reads i c) :
    BuildsOn (do let k ← onStore Store.kComb; onStore (Store.app k (some i))) s (.app .k c) := by
  have h₁ := (Store.kComb_spec hv).1
  have h₂ := Store.app_spec h₁ (Store.Builds.of_reads h₁.2.1 (hc.grow h₁.1))
  exact ⟨_,_,by simp [run_bind],h₂⟩

/-- A term without the leaf `name` is abstracted to its constant function. -/
theorem abstract_spec_of_not_mem (hv : s.store.Valid) {i : Nat} {c : Comb}
    (hc : s.store.Reads i c) (hfree : c.hasFree name = false) :
    BuildsOn (abstract name sp (fuel + 1) (some i)) s (c.abstract name) := by
  cases hf : s.store.failure.isSome
  case true => exact buildsOn_of_failure name sp fuel hv hf _ _
  rw [Comb.abstract_of_hasFree_false hfree,BuildsOn,
    run_abstract_of_not_mem name sp fuel hf (by rw [Store.containsFree_of_reads hc,hfree])]
  exact buildsOn_kApp hv hc

/-- Bracket abstraction on the store: from a valid store whose node `i` holds `c`, with fuel
past `i`, `abstract` builds `c.abstract name` and never reaches its unreachable branch. -/
theorem abstract_spec (c : Comb) : ∀ {s : ConvertState} {i : Nat} (fuel : Nat), s.store.Valid →
    s.store.Reads i c → i < fuel → BuildsOn (abstract name sp fuel (some i)) s (c.abstract name) := by
  induction c with
  | s | k | ref _ _ =>
    intro s i fuel hv hc hi
    obtain ⟨fuel,rfl⟩ : ∃ f, fuel = f + 1 := ⟨fuel - 1,by omega⟩
    exact abstract_spec_of_not_mem name sp fuel hv hc rfl
  | free y =>
    intro s i fuel hv hc hi
    obtain ⟨fuel,rfl⟩ : ∃ f, fuel = f + 1 := ⟨fuel - 1,by omega⟩
    by_cases hy : y = name
    case neg => exact abstract_spec_of_not_mem name sp fuel hv hc (by simp [Comb.hasFree,hy])
    cases hf : s.store.failure.isSome
    case true => exact buildsOn_of_failure name sp fuel hv hf _ _
    have hmem : s.store.containsFree i name = true := by
      simp [Store.containsFree_of_reads hc,Comb.hasFree,hy]
    cases hc with
    | free _ he =>
      subst hy
      rw [Comb.abstract_free_self,BuildsOn,run_abstract_free _ sp fuel hf hmem he]
      exact buildsOn_onStore (Store.identity_spec hv)
  | app f a ihf iha =>
    intro s i fuel hv hc hi
    obtain ⟨fuel,rfl⟩ : ∃ f, fuel = f + 1 := ⟨fuel - 1,by omega⟩
    by_cases hfree : (Comb.app f a).hasFree name = false
    case pos => exact abstract_spec_of_not_mem name sp fuel hv hc hfree
    cases hf : s.store.failure.isSome
    case true => exact buildsOn_of_failure name sp fuel hv hf _ _
    have hmem : s.store.containsFree i name = true := by
      simpa [Store.containsFree_of_reads hc] using hfree
    cases hc with
    | app _ he hl hr hlc hrc =>
      rw [BuildsOn,run_abstract_app name sp fuel hf hmem he,etaLeaf_of_reads name hrc,
        Store.containsFree_of_reads hlc]
      by_cases heta : a = .free name ∧ f.hasFree name = false
      · -- η: the left operand is the result, nothing is built
        rw [if_pos (by simpa using heta)]
        obtain ⟨rfl,hfl⟩ := heta
        rw [Comb.abstract_app_eta hfl]
        exact ⟨_,_,rfl,Store.Builds.of_reads hv hlc⟩
      · rw [if_neg (by simpa using heta),Comb.abstract_app_S (by simpa using hfree) heta]
        obtain ⟨r₁,st₁,h₁,hb₁⟩ := ihf fuel hv hlc (by omega)
        obtain ⟨r₂,st₂,h₂,hb₂⟩ :=
          iha (s := { s with store := st₁ }) fuel hb₁.2.1 (hrc.grow hb₁.1) (by omega)
        -- `S`, then `S` applied to the left side, then that applied to the right side
        have hs := (Store.sComb_spec hb₂.2.1).1
        have hsl := Store.app_spec hs (hb₁.later (hb₂.1.trans hs.1) hs.2.1)
        have hslr := Store.app_spec hsl (hb₂.later hsl.1 hsl.2.1)
        simp only [run_bind,h₁,h₂,run_onStore]
        exact ⟨_,_,rfl,(hb₁.1.trans hb₂.1).trans hslr.1,hslr.2⟩

/-- `abstract` on the result of an earlier step: when no allocation failed, that result is a
node holding `c` below the fuel. -/
theorem abstract_builds (hv : s.store.Valid) {t : Option Nat} {c : Comb}
    (ht : s.store.failure = none → ∃ i, t = some i ∧ s.store.Reads i c ∧ i < fuel) :
    BuildsOn (abstract name sp fuel t) s (c.abstract name) := by
  cases hf : s.store.failure with
  | none =>
    obtain ⟨i,rfl,hc,hi⟩ := ht hf
    exact abstract_spec name sp c fuel hv hc hi
  | some e =>
    have hf' : s.store.failure.isSome := by simp [hf]
    cases fuel with
    | zero => exact ⟨none,s.store,by simp [abstract],Store.builds_of_failure hv hf' _⟩
    | succ fuel => exact buildsOn_of_failure name sp fuel hv hf' t _

end Abstract

/-! ### Compiling expressions -/

/-- The diagnostic of a reference used before being defined. -/
def usedBeforeDefined (x : String) (sp : Span) : Diagnostic :=
  { severity := .error, code := DiagCode.usedBeforeDefined,
    message := "identifier used before being defined", subject := x.toUTF8.toList, primary := sp,
    notes := [] }

/-- A reporter after each reference of `errs` is reported as used before being defined. -/
def reportUses (rep : Reporter) (errs : List (String × Span)) : Reporter :=
  errs.foldl (fun r o => r.report (usedBeforeDefined o.1 o.2)) rep

theorem reportUses_append (rep : Reporter) (e₁ e₂ : List (String × Span)) :
    reportUses rep (e₁ ++ e₂) = reportUses (reportUses rep e₁) e₂ := by
  simp [reportUses,List.foldl_append]

end Bracket

namespace ConvertState

/-- The statement a name resolves to, as `resolve` finds it. -/
def resolution (s : ConvertState) (x : String) : Option Nat :=
  match s.table.get? x with
  | some j => if (s.store.tree.stmt j).compiled.isSome then some j else s.done.get? x
  | none => s.done.get? x

/-- What a name resolves to for the pure converter: the compiled term of its statement, and
the statement. -/
def res (s : ConvertState) (x : String) : Option (Nat × Nat) :=
  (s.resolution x).map fun j => ((s.store.tree.stmt j).compiled.getD 0, j)

/-- Resolution reads the tables and the statement records, nothing a conversion step
changes. -/
theorem res_of_grows {s : ConvertState} {st : Store} (hg : s.store.Grows st) (rep : Reporter) :
    ({ s with store := st, reporter := rep } : ConvertState).res = s.res := by
  have h : ∀ j, st.tree.stmt j = s.store.tree.stmt j := fun j => by simp [Tree.stmt,hg.stmts]
  funext x
  simp only [res,resolution,h]

/-- Every name resolves to a compiled statement, whose term is a node already built. -/
def TargetsBuilt (s : ConvertState) : Prop :=
  ∀ x j, s.resolution x = some j →
    ∃ n, (s.store.tree.stmt j).compiled = some n ∧ n < s.store.nodes.size

theorem TargetsBuilt.grow {s : ConvertState} (h : s.TargetsBuilt) {st : Store} (hg : s.store.Grows st)
    (rep : Reporter) : ({ s with store := st, reporter := rep } : ConvertState).TargetsBuilt := by
  have hs : ∀ j, st.tree.stmt j = s.store.tree.stmt j := fun j => by simp [Tree.stmt,hg.stmts]
  intro x j hj
  obtain ⟨n,hn,hlt⟩ := h x j (by simpa only [resolution,hs] using hj)
  exact ⟨n,by simp only [hs,hn],Nat.lt_of_lt_of_le hlt hg.size_le⟩

@[simp] theorem res_with_pending (s : ConvertState) (ps : List String) :
    ({ s with pending := ps } : ConvertState).res = s.res := rfl

end ConvertState

namespace Bracket

/-- `x` does not throw, builds on the store what the pure converter gives for `e`, reports what
it reports, and leaves the rest of the state alone. -/
def Converts (x : ConvertM (Option Nat)) (s : ConvertState) (e : Term) : Prop :=
  ∃ r st', run x s = (.ok r, { s with
      store := st', reporter := reportUses s.reporter (e.compile s.res s.pending).2 }) ∧
    s.store.Builds r st' (e.compile s.res s.pending).1

theorem Converts.congr {x y : ConvertM (Option Nat)} {s : ConvertState} {e : Term}
    (h : run x s = run y s) (hy : Converts y s e) : Converts x s e := by
  obtain ⟨r,st',h',hb⟩ := hy
  exact ⟨r,st',h.trans h',hb⟩

theorem run_resolve (x : String) (s : ConvertState) :
    run (resolve x) s = (.ok (s.resolution x), s) := by
  simp only [resolve,run_bind,run_get,ConvertState.resolution]
  cases s.table.get? x with
  | none => rfl
  | some j => by_cases h : (s.store.tree.stmt j).compiled.isSome <;> simp [h]

/-- A reference compiles to a free leaf for a parameter in scope, a reference node for a name
that resolves, and otherwise a reported free leaf. -/
theorem ident_spec {s : ConvertState} (hv : s.store.Valid) (hres : s.TargetsBuilt) (v : Nat)
    (sp : Span) :
    Converts (ident v sp) s (.var (s.store.tree.name v) sp) := by
  by_cases hp : s.store.tree.name v ∈ s.pending
  · have h := Store.freeLeaf_spec hv v
    refine ⟨_,_,?_,by simpa [Term.compile,hp] using h⟩
    simp [ident,run_bind,hp,Term.compile,reportUses]
  · cases hr : s.resolution (s.store.tree.name v) with
    | some j =>
      -- the statement is compiled, so the reference has its target
      obtain ⟨n,hn,hlt⟩ := hres _ j hr
      have h := Store.ref_spec hv hlt j
      refine ⟨_,_,?_,by simpa [Term.compile,hp,ConvertState.res,hr,hn] using h⟩
      simp [ident,run_bind,hp,Term.compile,reportUses,ConvertState.res,hr,run_resolve,hn]
    | none =>
      have h := Store.freeLeaf_spec hv v
      refine ⟨_,_,?_,by simpa [Term.compile,hp,ConvertState.res,hr] using h⟩
      simp [ident,run_bind,hp,Term.compile,reportUses,ConvertState.res,hr,run_resolve,report,
        usedBeforeDefined]

/-- The converter on an expression: on a tree holding a linear, curried shape at the
expression, `compile` with fuel past the shape's depth does what the pure converter does on
the shape's term. -/
theorem compile_spec (sh : Shape) : ∀ {s : ConvertState} (fuel : Nat), sh.Linear → sh.Curried →
    s.store.tree.Realizes sh → s.store.Valid → s.TargetsBuilt → sh.depth ≤ fuel →
    Converts (compile fuel sh.root) s (sh.term s.store.tree) := by
  induction sh with
  | ref i v =>
    intro s fuel _ _ ht hv hres hf
    obtain ⟨fuel,rfl⟩ : ∃ f, fuel = f + 1 := ⟨fuel - 1,by simp [Shape.depth] at hf; omega⟩
    cases ht with
    | @ref _ _ sp _ he _ =>
      have hterm : (Shape.ref i v).term s.store.tree = .var (s.store.tree.name v) sp := by
        simp [Shape.term,Tree.exprSpan,he,Expr.span]
      rw [hterm]
      exact (ident_spec hv hres v sp).congr (by simp [compile,run_bind,he])
  | app i l r ihl ihr =>
    intro s fuel hl hc ht hv hres hf
    obtain ⟨fuel,rfl⟩ : ∃ f, fuel = f + 1 := ⟨fuel - 1,by simp [Shape.depth] at hf; omega⟩
    simp only [Shape.depth] at hf
    cases ht with
    | app _ he htl htr =>
      obtain ⟨r₁,st₁,h₁,hb₁⟩ := ihl fuel hl.left hc.1 htl hv hres (by omega)
      obtain ⟨htr',hterm⟩ := htr.of_records hb₁.1.tokens hb₁.1.idents hb₁.1.exprs
      obtain ⟨r₂,st₂,h₂,hb₂⟩ := ihr (s := { s with
          store := st₁
          reporter := reportUses s.reporter ((l.term s.store.tree).compile s.res s.pending).2 })
        fuel hl.right hc.2 htr' hb₁.2.1 (hres.grow hb₁.1 _) (by omega)
      simp only [ConvertState.res_of_grows hb₁.1,hterm] at h₂ hb₂
      refine ⟨_,_,?_,by simpa [Shape.term,Term.compile] using Store.app_spec hb₁ hb₂⟩
      simp [compile,run_bind,he,h₁,h₂,Shape.term,Term.compile,reportUses_append]
  | abs i ps b ih =>
    intro s fuel hl hc ht hv hres hf
    obtain ⟨fuel,rfl⟩ : ∃ f, fuel = f + 1 := ⟨fuel - 1,by simp [Shape.depth] at hf; omega⟩
    simp only [Shape.depth] at hf
    cases ht with
    | @abs _ p sp _ _ _ he hch htb =>
      obtain ⟨qs,rfl⟩ := hch.head
      obtain rfl : qs = [] := by simpa [Shape.Curried] using hc.1
      have hchain := Tree.chain_of_chainAt hch hl.chain
      -- the body is compiled with the parameter pending
      obtain ⟨r₁,st₁,h₁,hb₁⟩ := ih (s := { s with pending := s.pending ++ [s.store.tree.name p] })
        fuel hl.body hc.2 htb hv hres (by omega)
      simp only [ConvertState.res_with_pending] at h₁ hb₁
      obtain ⟨r₂,st₂,h₂,hb₂⟩ := abstract_builds (s.store.tree.name p) sp
        (2 * st₁.nodes.size + 2) (s := { s with
          store := st₁
          reporter := reportUses s.reporter
            ((b.term s.store.tree).compile s.res (s.pending ++ [s.store.tree.name p])).2 })
        hb₁.2.1 (fun hf => by
          obtain ⟨n,hn,hr⟩ := hb₁.2.2 hf
          exact ⟨n,hn,hr,by have := hr.lt; omega⟩)
      refine ⟨_,_,?_,by simpa [Shape.term,Term.compile] using Store.Builds.of_grows hb₁.1 hb₂⟩
      simp [compile,run_bind,he,hchain,h₁,h₂,Shape.term,Term.compile]

end Bracket

/-! ### The statement loop -/

/-- The statements `L` of tree `t` can be converted: distinct records of the tree, none
compiled yet, each expression a linear shape whose abstractions bind one parameter. -/
structure Tree.Convertible (t : Tree) (L : List Nat) : Prop where
  nodup : L.Nodup
  lt : ∀ j ∈ L, j < t.stmts.size
  fresh : ∀ j ∈ L, (t.stmt j).compiled = none
  shape : ∀ j ∈ L, ∃ sh : Shape, t.Realizes sh ∧ sh.root = (t.stmt j).expr ∧ sh.Linear ∧ sh.Curried

namespace Bracket

/-- Names resolve, after the roots `rs`, to the last of them bound to the name: its compiled
term and its statement. -/
def resolveIn (t : Tree) (rs : List Root) (x : String) : Option (Nat × Nat) :=
  (lastNamed (fun r : Root => t.name r.ident) rs x).map fun r => (r.node, r.stmt)

/-- The pure converter over the roots of a program, in order: each statement's term compiled
with the names resolving to the roots before it. -/
def compileRoots (t : Tree) : List Root → List Root → List (Comb × List (String × Span))
  | _, [] => []
  | before, r :: rest =>
    (t.term (t.stmt r.stmt).expr).compile (resolveIn t before) [] ::
      compileRoots t (before ++ [r]) rest

theorem compileRoots_concat (t : Tree) (before rs : List Root) (r : Root) :
    compileRoots t before (rs ++ [r]) = compileRoots t before rs ++
      [(t.term (t.stmt r.stmt).expr).compile (resolveIn t (before ++ rs)) []] := by
  induction rs generalizing before with
  | nil => simp [compileRoots]
  | cons r' rs ih => simp [compileRoots,ih]

theorem find?_stmt {acc : List Root} (h : (acc.map (·.stmt)).Nodup) {r : Root} (hr : r ∈ acc) :
    acc.find? (·.stmt = r.stmt) = some r := by
  induction acc with
  | nil => cases hr
  | cons r' acc ih =>
    simp only [List.map_cons,List.nodup_cons] at h
    rcases List.mem_cons.1 hr with rfl | hr
    · simp
    · have hne : r'.stmt ≠ r.stmt := fun e => h.1 (e ▸ List.mem_map_of_mem hr)
      simp [hne,ih h.2 hr]

theorem Forall₂.exists_of_mem {α γ : Type} {P : α → γ → Prop} {xs : List α} {ys : List γ}
    (h : List.Forall₂ P xs ys) {a : α} (ha : a ∈ xs) : ∃ b ∈ ys, P a b := by
  induction h with
  | nil => cases ha
  | cons hab _ ih =>
    rcases List.mem_cons.1 ha with rfl | ha
    · exact ⟨_,by simp,hab⟩
    · obtain ⟨b,hb,hp⟩ := ih ha
      exact ⟨b,by simp [hb],hp⟩

/-- The state of the statement loop converting the statements `L` of tree `t`, after the
roots `acc`. -/
structure Loop (t : Tree) (L : List Nat) (rep : Reporter) (acc : List Root) (s : ConvertState) :
    Prop where
  tokens : s.store.tree.tokens = t.tokens
  idents : s.store.tree.idents = t.idents
  exprs : s.store.tree.exprs = t.exprs
  size : s.store.tree.stmts.size = t.stmts.size
  stmt : ∀ j, (s.store.tree.stmt j).var = (t.stmt j).var ∧ (s.store.tree.stmt j).expr = (t.stmt j).expr
  compiled : ∀ j ∈ L, (s.store.tree.stmt j).compiled = (acc.find? (·.stmt = j)).map (·.node)
  ident : ∀ r ∈ acc, r.ident = (t.stmt r.stmt).var
  table : ∀ x, s.table.get? x = lastNamed t.stmtName L x
  done : ∀ x, s.done.get? x = (lastNamed (fun r : Root => t.name r.ident) acc x).map (·.stmt)
  pending : s.pending = []
  valid : s.store.Valid
  ok : s.store.failure = none
  treeFailure : s.store.tree.failure = t.failure
  crash : s.store.tree.crash = t.crash
  reads : List.Forall₂ (fun r o => s.store.Reads r.node o.1) acc (compileRoots t [] acc)
  reporter : s.reporter = reportUses rep ((compileRoots t [] acc).flatMap (·.2))

section Loop

variable {t : Tree} {L : List Nat} {rep : Reporter} {acc : List Root} {s : ConvertState}

theorem Loop.name (h : Loop t L rep acc s) : s.store.tree.name = t.name := by
  funext v
  simp [Tree.name,Tree.token,Tree.ident,h.tokens,h.idents]

/-- In the loop every name resolves to the last root bound to it so far: the statement the
table gives is compiled only when it is among the roots, and it is then the last of them. -/
theorem Loop.resolution (h : Loop t L rep acc s) (hp : t.Convertible L) {R : List Nat}
    (hL : L = acc.map (·.stmt) ++ R) (x : String) :
    s.resolution x = (lastNamed (fun r : Root => t.name r.ident) acc x).map (·.stmt) := by
  have hnd : (acc.map (·.stmt) ++ R).Nodup := hL ▸ hp.nodup
  have hP : lastNamed t.stmtName (acc.map (·.stmt)) x =
      (lastNamed (fun r : Root => t.name r.ident) acc x).map (·.stmt) := by
    rw [lastNamed_map,lastNamed_congr _ (g := fun r : Root => t.name r.ident)
      fun r hr => by simp [Tree.stmtName,h.ident r hr]]
  simp only [ConvertState.resolution,h.table x]
  cases hj : lastNamed t.stmtName L x with
  | none => simp [h.done]
  | some j =>
    by_cases hc : (s.store.tree.stmt j).compiled.isSome
    · simp only [hc,if_true]
      obtain ⟨hjL,-⟩ := lastNamed_spec _ hj
      rw [h.compiled j hjL] at hc
      obtain ⟨r,hr,hrj⟩ : ∃ r ∈ acc, r.stmt = j := by simpa using hc
      have hjP : j ∈ acc.map (·.stmt) := List.mem_map.2 ⟨r,hr,hrj⟩
      have hjR : j ∉ R := fun hjR => (List.nodup_append.1 hnd).2.2 j hjP j hjR rfl
      rw [hL,lastNamed_append] at hj
      cases hR : lastNamed t.stmtName R x with
      | some j' =>
        rw [hR] at hj
        cases hj
        exact absurd (lastNamed_spec _ hR).1 hjR
      | none =>
        rw [hR] at hj
        rw [← hP,← hj]
        rfl
    · simp [hc,h.done]

theorem Loop.res (h : Loop t L rep acc s) (hp : t.Convertible L) {R : List Nat}
    (hL : L = acc.map (·.stmt) ++ R) : s.res = resolveIn t acc := by
  have hnd : (acc.map (·.stmt)).Nodup :=
    (hL ▸ hp.nodup : (acc.map (·.stmt) ++ R).Nodup).sublist (List.sublist_append_left _ _)
  funext x
  simp only [ConvertState.res,h.resolution hp hL x,resolveIn,Option.map_map]
  cases hr : lastNamed (fun r : Root => t.name r.ident) acc x with
  | none => rfl
  | some r =>
    obtain ⟨hmem,-⟩ := lastNamed_spec _ hr
    have hjL : r.stmt ∈ L := hL ▸ List.mem_append_left _ (List.mem_map_of_mem hmem)
    simp [h.compiled _ hjL,find?_stmt hnd hmem]

theorem Loop.targetsBuilt (h : Loop t L rep acc s) (hp : t.Convertible L) {R : List Nat}
    (hL : L = acc.map (·.stmt) ++ R) : s.TargetsBuilt := by
  have hnd : (acc.map (·.stmt)).Nodup :=
    (hL ▸ hp.nodup : (acc.map (·.stmt) ++ R).Nodup).sublist (List.sublist_append_left _ _)
  intro x j hx
  rw [h.resolution hp hL] at hx
  obtain ⟨r,hr,rfl⟩ := Option.map_eq_some_iff.1 hx
  have hmem := (lastNamed_spec _ hr).1
  have hjL : r.stmt ∈ L := hL ▸ List.mem_append_left _ (List.mem_map_of_mem hmem)
  obtain ⟨o,-,ho⟩ := Forall₂.exists_of_mem h.reads hmem
  exact ⟨r.node,by simp [h.compiled _ hjL,find?_stmt hnd hmem],ho.lt⟩

/-- Writing an empty slot with a term records it. -/
theorem setCompiled_run {t : Tree} {i : Nat} (he : (t.stmt i).compiled = none) (n : Nat) :
    ((Tree.setCompiled i (some n)).run t).2 =
      { t with stmts := t.stmts.modify i fun s => { s with compiled := some n } } := by
  simp [Tree.setCompiled,he]
  rfl

/-- Recording the compiled term of statement `j`, the next statement of `L`, moves the loop
past it. -/
theorem Loop.next (h : Loop t L rep acc s) (hp : t.Convertible L) {j : Nat} {R : List Nat}
    (hL : L = acc.map (·.stmt) ++ j :: R) {st' : Store} {n : Nat}
    (hb : s.store.Builds (some n) st' ((t.term (t.stmt j).expr).compile (resolveIn t acc) []).1)
    (hf : st'.failure = none) :
    Loop t L rep (acc ++ [⟨j,(s.store.tree.stmt j).var,n⟩])
      { store := { tree := ((Tree.setCompiled j (some n)).run st'.tree).2, nodes := st'.nodes,
                   sNode := st'.sNode, kNode := st'.kNode, failure := none }
        table := s.table
        done := (s.done.insert (s.store.tree.name (s.store.tree.stmt j).var) j).1
        pending := s.pending
        reporter := reportUses s.reporter
          ((t.term (t.stmt j).expr).compile (resolveIn t acc) []).2 } := by
  have hnd : (acc.map (·.stmt) ++ j :: R).Nodup := hL ▸ hp.nodup
  have hj : j ∉ acc.map (·.stmt) := fun hj => (List.nodup_append.1 hnd).2.2 j hj j (by simp) rfl
  have hjt : j < t.stmts.size := hp.lt j (by simp [hL])
  have hg := hb.1
  obtain ⟨n',hn',hn⟩ := hb.2.2 hf
  cases hn'
  have hfind : acc.find? (·.stmt = j) = none := by
    simpa [List.find?_eq_none] using fun r hr e => hj (List.mem_map.2 ⟨r,hr,e⟩)
  -- the slot of `j` is still empty, so `setCompiled` writes it
  have hempty : (st'.tree.stmt j).compiled = none := by
    rw [show st'.tree.stmt j = s.store.tree.stmt j by simp [Tree.stmt,hg.stmts],
      h.compiled j (by simp [hL]),hfind]
    rfl
  have hset := setCompiled_run hempty n
  -- the statement records after `setCompiled`
  have hstmt : ∀ i, (((Tree.setCompiled j (some n)).run st'.tree).2.stmt i) =
      if j = i then { st'.tree.stmt j with compiled := some n } else st'.tree.stmt i := by
    intro i
    have hjs : j < st'.tree.stmts.size := by rw [hg.stmts,h.size]; exact hjt
    by_cases hji : j = i
    · subst hji
      simp [hset,Tree.stmt,Array.getElem_modify,hjs]
    · simp [hset,Tree.stmt,Array.getElem?_modify,hji]
  have hname : st'.tree.name = t.name := by rw [hg.name,h.name]
  have hvar : (s.store.tree.stmt j).var = (t.stmt j).var := (h.stmt j).1
  constructor
  case tokens => simp [hset,hg.tokens,h.tokens]
  case idents => simp [hset,hg.idents,h.idents]
  case exprs => simp [hset,hg.exprs,h.exprs]
  case size => simp [hset,hg.stmts,h.size]
  case stmt =>
    intro i
    rw [hstmt i]
    have := h.stmt i
    split <;> simp_all [Tree.stmt,hg.stmts]
  case compiled =>
    intro i hi
    rw [hstmt i,List.find?_append]
    by_cases hji : j = i
    · subst hji
      simp [hfind]
    · simp only [hji,if_false]
      rw [show st'.tree.stmt i = s.store.tree.stmt i by simp [Tree.stmt,hg.stmts],h.compiled i hi]
      cases acc.find? (·.stmt = i) <;> simp [hji]
  case ident =>
    intro r hr
    rcases List.mem_append.1 hr with hr | hr
    · exact h.ident r hr
    · simp only [List.mem_singleton] at hr
      subst hr
      exact hvar
  case table => exact h.table
  case done =>
    intro x
    rw [NameMap.get?_insert,lastNamed_concat,h.done x,h.name,hvar]
    by_cases hx : t.name (t.stmt j).var = x <;> simp [hx]
  case pending => exact h.pending
  case valid => refine hb.2.1.congr rfl ?_ rfl rfl; rw [hset]; rfl
  case ok => rfl
  case treeFailure => simp [hset,hg.treeFailure,h.treeFailure]
  case crash => simp [hset,hg.crash,h.crash]
  case reads =>
    rw [compileRoots_concat]
    have hcg : ∀ {m : Nat} {c : Comb}, st'.Reads m c →
        Store.Reads
          { tree := ((Tree.setCompiled j (some n)).run st'.tree).2
            nodes := st'.nodes
            sNode := st'.sNode
            kNode := st'.kNode
            failure := none } m c :=
      fun hr => by
        refine Store.Reads.congr ?_ ?_ hr
        · rfl
        · rw [hset]; rfl
    refine List.rel_append (h.reads.imp fun _ _ hr => hcg (hr.grow hg)) ?_
    exact List.Forall₂.cons (hcg (by simpa using hn)) List.Forall₂.nil
  case reporter =>
    rw [h.reporter,compileRoots_concat,List.flatMap_append,reportUses_append]
    simp

/-- The statement loop: it never throws, and either stops on an allocation failure, which it
returns and keeps in the store, or returns one root per statement, in order, with the loop's
invariant at its end. -/
theorem stmts_spec (hp : t.Convertible L) : ∀ (R : List Nat) (acc : List Root) (s : ConvertState),
    L = acc.map (·.stmt) ++ R → Loop t L rep acc s →
    ∃ out s', run (stmts R acc) s = (.ok out, s') ∧
      ((∃ roots, out = .ok roots ∧ roots.map (·.stmt) = L ∧ Loop t L rep roots s') ∨
        ∃ x e, out = .error (.node x e) ∧ s'.store.failure = some e ∧
          s'.store.tree.failure = t.failure ∧ s'.store.tree.crash = t.crash)
  | [], acc, s, hL, h => ⟨.ok acc,s,by simp [stmts],.inl ⟨acc,rfl,by simp [hL],h⟩⟩
  | j :: R, acc, s, hL, h => by
    have hjL : j ∈ L := by simp [hL]
    obtain ⟨sh,hsh,hroot,hlin,hcur⟩ := hp.shape j hjL
    obtain ⟨hsh',hterm⟩ := hsh.of_records h.tokens h.idents h.exprs
    obtain ⟨r,st',hrun,hb⟩ := compile_spec sh (s.store.tree.exprs.size + 1) hlin hcur hsh' h.valid
      (h.targetsBuilt hp hL) (Nat.le_succ_of_le (hsh'.depth_le hlin))
    -- the statement's expression, term and resolution, as the loop sees them
    have hexpr : sh.root = (s.store.tree.stmt j).expr := hroot.trans (h.stmt j).2.symm
    have hte : sh.term s.store.tree = t.term (t.stmt j).expr := by
      rw [hterm,← hroot,Tree.term_eq hsh hlin]
    rw [hte,h.res hp hL,h.pending,hexpr] at hrun
    rw [hte,h.res hp hL,h.pending] at hb
    cases hf : st'.failure with
    | some e =>
      refine ⟨.error (.node (s.store.tree.name (s.store.tree.stmt j).var) e),
        (run (compile (s.store.tree.exprs.size + 1) (s.store.tree.stmt j).expr) s).2,?_,
        .inr ⟨_,e,rfl,by rw [hrun]; exact hf,
          by rw [hrun]; exact hb.1.treeFailure.trans h.treeFailure,
          by rw [hrun]; exact hb.1.crash.trans h.crash⟩⟩
      simp [stmts,run_bind,hrun,hf]
    | none =>
      obtain ⟨n,rfl,-⟩ := hb.2.2 hf
      obtain ⟨out,s',hrun',hout⟩ := stmts_spec hp R _ _ (by simp [hL]) (h.next hp hL hb hf)
      refine ⟨out,s',?_,hout⟩
      rw [h.pending] at hrun'
      simpa [stmts,run_bind,hrun,hf] using hrun'

theorem Loop.init (hp : t.Convertible L) {table : NameMap Nat}
    (htable : ∀ x, table.get? x = lastNamed t.stmtName L x) (a : Arena) {done : NameMap Nat}
    (hdone : ∀ x, done.get? x = none) :
    Loop t L rep [] ⟨{ Store.ofTree t with tree := { t with arena := a } },table,done,[],rep⟩ where
  tokens := rfl
  idents := rfl
  exprs := rfl
  size := rfl
  stmt _ := ⟨rfl,rfl⟩
  compiled j hj := hp.fresh j hj
  ident _ h := by cases h
  table := htable
  done x := by simp [hdone]
  pending := rfl
  valid := ⟨fun _ h => absurd h (by simp [Store.ofTree]),fun _ h => absurd h (by simp [Store.ofTree])⟩
  ok := rfl
  treeFailure := rfl
  crash := rfl
  reads := List.Forall₂.nil
  reporter := rfl

end Loop

/-- Converting a program whose statements can be converted never reaches the unreachable state:
it fails only on an allocation failure, and otherwise returns one root per statement. -/
theorem convert_spec {t : Tree} {p : Nat} (hp : t.Convertible (t.programStmts p))
    {table : NameMap Nat} (htable : ∀ x, table.get? x = lastNamed t.stmtName (t.programStmts p) x)
    (rep : Reporter) :
    (∃ e, ((Store.ofTree t).convert p table rep).1 = .error (.forest e) ∧
        ((Store.ofTree t).convert p table rep).2.1 = Store.ofTree t) ∨
      (∃ x e, ((Store.ofTree t).convert p table rep).1 = .error (.node x e) ∧
        ((Store.ofTree t).convert p table rep).2.1.failure = some e ∧
        ((Store.ofTree t).convert p table rep).2.1.tree.failure = t.failure ∧
        ((Store.ofTree t).convert p table rep).2.1.tree.crash = t.crash) ∨
      ∃ roots s, ((Store.ofTree t).convert p table rep).1 = .ok roots ∧
        roots.map (·.stmt) = t.programStmts p ∧ Loop t (t.programStmts p) rep roots s ∧
        ((Store.ofTree t).convert p table rep).2 = (s.store,s.reporter) := by
  simp only [Store.convert,Store.ofTree]
  split
  case h_1 e he => exact .inl ⟨e,rfl,rfl⟩
  case h_2 a ha =>
    obtain ⟨out,s',hrun,hout⟩ := stmts_spec hp (t.programStmts p) [] _ (by simp)
      (Loop.init hp htable a
        (NameMap.get?_nil (NameMap.roundPow2 (max table.size 1)) (Dyadic.ofFloat 0.75)) :
        Loop _ _ rep _ _)
    have hrun' := hrun
    simp only [run,Store.ofTree] at hrun'
    rw [hrun']
    rcases hout with ⟨roots,rfl,hroots,hloop⟩ | ⟨x,e,rfl,hf,htf⟩
    · exact .inr (.inr ⟨roots,s',rfl,hroots,hloop,rfl⟩)
    · exact .inr (.inl ⟨x,e,rfl,hf,htf⟩)

end Bracket

end Combinatory
