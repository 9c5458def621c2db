import Combinatory.Proofs.Parse
import Combinatory.Proofs.ArenaContracts
import Combinatory.Combinator.Store

/-! Records read back as they were last written. A copied byte string reads back as itself
(`string_strdup`), and while the arena does not fail each call changes exactly the records it
writes (`exec_read`), so after any run every record reads as last written (`execAll_read`). -/
namespace Combinatory

/-! ### Copied strings -/

namespace Arena

namespace Session

variable {s : Session} {b : Arena} {bytes : ByteArray} {q : Ptr}

/-- A fresh copy resolves to its payload, one byte longer than the string. -/
theorem Sound.strdup_lookup (hs : s.Sound) (h : s.arena.strdup bytes = .ok (b, q)) :
    ∃ i off, b.lookup q = .ok ⟨i, off, bytes.size + 1⟩ ∧
      b.readAt i off (bytes.size + 1) = ⟨bytes.data.push 0⟩ := by
  obtain ⟨a', i, off, hA, rfl, rfl⟩ := strdup_ok h
  have hs' := hs.strdup h
  obtain ⟨hpr, hpo⟩ := hs.laid.allocAt_ptr hA
  obtain ⟨-, hgeo, -, -, -, hoff, -⟩ := allocAt_spec hs.laid hA
  obtain ⟨r, hr, hdata⟩ := hs.laid.allocAt_data hA
  have hfit := s.arena.geometry.le_blocksFor_mul hs.laid.geometry.block_pos (bytes.size + 1)
  refine ⟨i, off, ?_, ?_⟩
  · rw [hs'.lookup_eq, Ledger.lookup_append_of_not_mem (Sound.last_fresh hs'), Ledger.lookup_grant,
      hpr, hpo]
  · -- the string's bytes, then the zero the allocation was made with
    apply ByteArray.ext
    rw [readAt_eq]
    apply Array.ext (by simp)
    intro k hk _
    simp only [Array.getElem_map, List.getElem_toArray, List.getElem_range]
    by_cases hkn : k < bytes.size
    · rw [writeAt_byteAt_of_mem hr bytes (Nat.le_add_right _ _) (by omega) (by omega)]
      have hk' : k < bytes.data.size := hkn
      rw [Nat.add_sub_cancel_left, Array.getElem_push_lt hk', Array.getElem?_eq_getElem hk',
        Option.getD_some]
    · have hk' : k = bytes.size := by simp at hk; omega
      subst hk'
      rw [writeAt_byteAt_of_not_mem _ _ _ _ (.inr (.inr (Nat.le_refl _))),
        hs.laid.allocAt_byteAt_payload hA (Nat.le_add_right _ _)]
      exact (Array.getElem_push_eq ..).symm

/-- A copied byte string reads back as itself, zero bytes and all. -/
theorem Sound.string_strdup (hs : s.Sound) (h : s.arena.strdup bytes = .ok (b, q)) :
    b.string q = .ok bytes := by
  obtain ⟨i, off, hlook, hread⟩ := hs.strdup_lookup h
  have hback : (⟨bytes.data.push 0⟩ : ByteArray).data.back? = some 0 := Array.back?_push ..
  rw [string, bytes_of_lookup hlook, hread]
  show (if _ then _ else _) = _
  rw [if_pos hback]
  congr 1
  apply ByteArray.ext
  have hsize : (⟨bytes.data.push 0⟩ : ByteArray).size - 1 = bytes.data.size := by
    show (bytes.data.push 0).size - 1 = _
    rw [Array.size_push, Nat.add_sub_cancel]
  simp [ByteArray.data_extract, hsize]

end Session

/-- A destroyed arena copies nothing. -/
theorem strdup_live {a b : Arena} {bytes : ByteArray} {q : Ptr} (h : a.strdup bytes = .ok (b, q)) :
    a.destroyed = false := by
  obtain ⟨_, _, _, hA, -, -⟩ := strdup_ok h
  cases hd : a.destroyed
  · rfl
  · simp [allocAt, place, hd] at hA

/-- A byte string copied into a reachable arena reads back as itself. -/
theorem Reachable.string_strdup {a b : Arena} {bytes : ByteArray} {q : Ptr} (ha : a.Reachable)
    (h : a.strdup bytes = .ok (b, q)) : b.string q = .ok bytes := by
  obtain ⟨L, hs⟩ := ha.sound (strdup_live h)
  exact hs.string_strdup h

end Arena

/-! ### Records of a syntax tree and of its combinator store -/

open Pass

/-- A record of a syntax tree or of its combinator store: its kind and its index. -/
inductive RecordRef where
  | token (i : Nat)
  | ident (i : Nat)
  | expr (i : Nat)
  | stmt (i : Nat)
  | program (i : Nat)
  | node (i : Nat)
  deriving DecidableEq

/-- What a record decodes to. -/
inductive RecordVal where
  | token (r : TokenRecord)
  | ident (d : Ident)
  | expr (e : Expr)
  | stmt (s : Stmt)
  | program (p : Program)
  | node (n : Node)
  deriving DecidableEq

namespace Store

/-- What each record decodes to; none for a record never built. -/
def read (st : Store) : RecordRef → Option RecordVal
  | .token i => st.tree.tokens[i]?.map .token
  | .ident i => st.tree.idents[i]?.map .ident
  | .expr i => st.tree.exprs[i]?.map .expr
  | .stmt i => st.tree.stmts[i]?.map .stmt
  | .program i => st.tree.programs[i]?.map .program
  | .node i => st.nodes[i]?.map .node

/-- Nothing failed: neither the tree nor the store keeps a failure. -/
def Clean (st : Store) : Prop := st.tree.failure = none ∧ st.failure = none

/-- Runs an operation of the syntax tree on the store's tree. -/
def onTree {α : Type} (st : Store) (f : StateM Tree α) : Store := { st with tree := (Pass.run f st.tree).2 }

variable (st : Store)

/-! Each kind of record is read from its own array, so adding a record at the end of one array
or changing one entry in place changes that record only. -/

theorem read_push_token (a : Arena) (f : Option ArenaError) (x : TokenRecord) :
    ({ st with tree := { st.tree with arena := a, failure := f, tokens := st.tree.tokens.push x } } : Store).read =
      Function.update st.read (.token st.tree.tokens.size) (some (.token x)) := by
  funext r
  cases r <;> simp [read, Function.update_apply, Array.getElem?_push]
  split <;> simp_all

theorem read_push_ident (a : Arena) (f : Option ArenaError) (x : Ident) :
    ({ st with tree := { st.tree with arena := a, failure := f, idents := st.tree.idents.push x } } : Store).read =
      Function.update st.read (.ident st.tree.idents.size) (some (.ident x)) := by
  funext r
  cases r <;> simp [read, Function.update_apply, Array.getElem?_push]
  split <;> simp_all

theorem read_push_expr (a : Arena) (f : Option ArenaError) (x : Expr) :
    ({ st with tree := { st.tree with arena := a, failure := f, exprs := st.tree.exprs.push x } } : Store).read =
      Function.update st.read (.expr st.tree.exprs.size) (some (.expr x)) := by
  funext r
  cases r <;> simp [read, Function.update_apply, Array.getElem?_push]
  split <;> simp_all

theorem read_push_stmt (a : Arena) (f : Option ArenaError) (x : Stmt) :
    ({ st with tree := { st.tree with arena := a, failure := f, stmts := st.tree.stmts.push x } } : Store).read =
      Function.update st.read (.stmt st.tree.stmts.size) (some (.stmt x)) := by
  funext r
  cases r <;> simp [read, Function.update_apply, Array.getElem?_push]
  split <;> simp_all

theorem read_push_program (a : Arena) (f : Option ArenaError) (x : Program) :
    ({ st with tree := { st.tree with arena := a, failure := f, programs := st.tree.programs.push x } } : Store).read =
      Function.update st.read (.program st.tree.programs.size) (some (.program x)) := by
  funext r
  cases r <;> simp [read, Function.update_apply, Array.getElem?_push]
  split <;> simp_all

theorem read_push_node (a : Arena) (x : Node) :
    ({ st with tree := { st.tree with arena := a }, nodes := st.nodes.push x } : Store).read =
      Function.update st.read (.node st.nodes.size) (some (.node x)) := by
  funext r
  cases r <;> simp [read, Function.update_apply, Array.getElem?_push]
  split <;> simp_all

theorem read_modify_ident (g : Ident → Ident) (i : Nat) :
    ({ st with tree := { st.tree with idents := st.tree.idents.modify i g } } : Store).read =
      match st.tree.idents[i]? with
      | some d => Function.update st.read (.ident i) (some (.ident (g d)))
      | none => st.read := by
  funext r
  cases r with
  | ident j =>
    by_cases hj : i = j
    · subst hj
      cases hi : st.tree.idents[i]? <;> simp [read, Array.getElem?_modify, hi]
    · cases st.tree.idents[i]? <;> simp [read, Array.getElem?_modify, hj, Ne.symm hj]
  | _ => cases st.tree.idents[i]? <;> simp [read]

theorem read_modify_expr (g : Expr → Expr) (i : Nat) :
    ({ st with tree := { st.tree with exprs := st.tree.exprs.modify i g } } : Store).read =
      match st.tree.exprs[i]? with
      | some e => Function.update st.read (.expr i) (some (.expr (g e)))
      | none => st.read := by
  funext r
  cases r with
  | expr j =>
    by_cases hj : i = j
    · subst hj
      cases hi : st.tree.exprs[i]? <;> simp [read, Array.getElem?_modify, hi]
    · cases st.tree.exprs[i]? <;> simp [read, Array.getElem?_modify, hj, Ne.symm hj]
  | _ => cases st.tree.exprs[i]? <;> simp [read]

theorem read_modify_stmt (g : Stmt → Stmt) (i : Nat) :
    ({ st with tree := { st.tree with stmts := st.tree.stmts.modify i g } } : Store).read =
      match st.tree.stmts[i]? with
      | some s => Function.update st.read (.stmt i) (some (.stmt (g s)))
      | none => st.read := by
  funext r
  cases r with
  | stmt j =>
    by_cases hj : i = j
    · subst hj
      cases hi : st.tree.stmts[i]? <;> simp [read, Array.getElem?_modify, hi]
    · cases st.tree.stmts[i]? <;> simp [read, Array.getElem?_modify, hj, Ne.symm hj]
  | _ => cases st.tree.stmts[i]? <;> simp [read]

/-- A complaint changes no record. -/
theorem read_crashWith (msg : String) :
    ({ st with tree := st.tree.crashWith msg } : Store).read = st.read := by
  funext r
  cases r <;> rfl

end Store

/-- Writes the records `ws` lists, in order, into the decoded view `v`: a later write of a record
replaces an earlier one. -/
def applyWrites (ws : List (RecordRef × RecordVal)) (v : RecordRef → Option RecordVal) :
    RecordRef → Option RecordVal :=
  ws.foldl (fun v w => Function.update v w.1 (some w.2)) v

@[simp] theorem applyWrites_nil (v : RecordRef → Option RecordVal) : applyWrites [] v = v := rfl

theorem applyWrites_append (ws ws' : List (RecordRef × RecordVal)) (v : RecordRef → Option RecordVal) :
    applyWrites (ws ++ ws') v = applyWrites ws' (applyWrites ws v) := List.foldl_append ..

@[simp] theorem applyWrites_singleton (r : RecordRef) (x : RecordVal) (v : RecordRef → Option RecordVal) :
    applyWrites [(r, x)] v = Function.update v r (some x) := rfl

/-- A call that builds or changes a record: the constructors of a syntax tree and of a combinator
store, and the mutators that currying and conversion use. -/
inductive RecordCall where
  | token (lexeme : String) (row col endCol : Nat) (span : Span)
  | ident (tok : Nat) (next : Option Nat)
  | ref (v : Nat)
  | app (l r : Nat)
  | abs (span : Span) (params body : Nat)
  | stmt (v e : Nat) (span : Span)
  | program (filename : String) (stmts : List Nat)
  | detach (i : Nat)
  | setAbs (i params body : Nat)
  | setCompiled (i node : Nat)
  | sComb
  | kComb
  | nodeApp (l r : Nat)
  | nodeRef (target stmt : Nat)
  | freeLeaf (ident : Nat)

namespace RecordCall

/-- Runs a call on a store. -/
def exec : RecordCall → Store → Store
  | token l r c e sp, st => st.onTree (Tree.newToken l r c e sp)
  | ident tok next, st => st.onTree (Tree.newIdent tok next)
  | ref v, st => st.onTree (Tree.newRef v)
  | app l r, st => st.onTree (Tree.newApp l r)
  | abs sp p b, st => st.onTree (Tree.newAbs sp p b)
  | stmt v e sp, st => st.onTree (Tree.newStmt v e sp)
  | program fn ss, st => st.onTree (Tree.newProgram fn ss)
  | detach i, st => st.onTree (Tree.detach i)
  | setAbs i p b, st => st.onTree (Tree.setAbs i p b)
  | setCompiled i n, st => st.onTree (Tree.setCompiled i n)
  | sComb, st => (Pass.run Store.sComb st).2
  | kComb, st => (Pass.run Store.kComb st).2
  | nodeApp l r, st => (Pass.run (Store.app (some l) (some r)) st).2
  | nodeRef tgt s, st => (Pass.run (Store.ref tgt s) st).2
  | freeLeaf v, st => (Pass.run (Store.freeLeaf v) st).2

/-- The links of a program: each statement but the last gets the next one as its successor. -/
def linkWrites (t : Tree) : List Nat → List (RecordRef × RecordVal)
  | a :: b :: rest =>
    (if a < t.stmts.size then [(.stmt a, .stmt { t.stmt a with next := some b })] else []) ++
      linkWrites t (b :: rest)
  | _ => []

/-- The span of a fresh identifier: its token's, covering the rest of its chain. -/
def identSpan (t : Tree) (tok : Nat) : Option Nat → Span
  | some n => (t.token tok).span.cover (t.ident n).span
  | none => (t.token tok).span

/-- The records a call writes on store `st`, with their values, in the order it writes them. A
constructor writes one record at the next index of its kind; a token's and a statement's span
are put in the tree's file, and a statement has neither successor nor compiled term. -/
def writes (st : Store) : RecordCall → List (RecordRef × RecordVal)
  | token l r c e sp =>
    [(.token st.tree.tokens.size, .token ⟨l, r, c, e, { sp with file := st.tree.file }⟩)]
  | ident tok next => [(.ident st.tree.idents.size, .ident ⟨tok, next, identSpan st.tree tok next⟩)]
  | ref v => [(.expr st.tree.exprs.size, .expr (.ref v (st.tree.ident v).span))]
  | app l r =>
    [(.expr st.tree.exprs.size, .expr (.app l r ((st.tree.exprSpan l).cover (st.tree.exprSpan r))))]
  | abs sp p b => [(.expr st.tree.exprs.size, .expr (.abs p b { sp with file := st.tree.file }))]
  | stmt v e sp =>
    [(.stmt st.tree.stmts.size, .stmt ⟨v, e, none, { sp with file := st.tree.file }, none⟩)]
  | program fn ss => linkWrites st.tree ss ++ [(.program st.tree.programs.size, .program ⟨ss.head?, fn⟩)]
  | detach i => match st.tree.idents[i]? with
    | some d => if d.next.isSome then
        [(.ident i, .ident { d with next := none, span := (st.tree.token d.token).span })] else []
    | none => []
  | setAbs i p b => match st.tree.exprs[i]? with
    | some (.abs _ _ sp) => [(.expr i, .expr (.abs p b sp))]
    | _ => []
  | setCompiled i n => match st.tree.stmts[i]? with
    | some s => if s.compiled.isSome then [] else [(.stmt i, .stmt { s with compiled := some n })]
    | none => []
  | sComb => if st.sNode.isSome then [] else [(.node st.nodes.size, .node .s)]
  | kComb => if st.kNode.isSome then [] else [(.node st.nodes.size, .node .k)]
  | nodeApp l r => [(.node st.nodes.size, .node (.app l r))]
  | nodeRef tgt s => [(.node st.nodes.size, .node (.ref tgt s))]
  | freeLeaf v => [(.node st.nodes.size, .node (.free v))]

end RecordCall

/-! ### Each operation, run without a failure -/

namespace Tree

variable (t : Tree)

/-- An identifier added without a failure spans its token and the rest of its chain. -/
theorem newIdent_clean (tok : Nat) (next : Option Nat) (hf : (run (newIdent tok next) t).2.failure = none) :
    ∃ a, run (newIdent tok next) t = (some t.idents.size, { t with
      arena := a, failure := none, idents := t.idents.push ⟨tok, next, RecordCall.identSpan t tok next⟩ }) := by
  have hs : t.failure.isSome = false := by simp [(newIdent_spec t tok next).1.sticky hf]
  obtain ⟨a, f, hrun, hok, -⟩ := charge_spec t identSize
  cases hc : (run (charge identSize) t).1
  · have h : run (newIdent tok next) t = (none, { t with arena := a, failure := f }) := by
      simp only [newIdent, run_bind, run_get, hs, Bool.false_eq_true, if_false, hrun, hc]
      rfl
    rw [h] at hf
    exact absurd (hok.2 hf) (by simp [hc])
  · refine ⟨a, ?_⟩
    rw [← hok.1 hc]
    cases next <;>
      simp only [newIdent, run_bind, run_get, hs, Bool.false_eq_true, hrun, hc, ↓reduceIte] <;> rfl

/-- An expression added without a failure. -/
theorem pushExpr_clean (e : Expr) (hf : (run (pushExpr e) t).2.failure = none) :
    ∃ a, run (pushExpr e) t = (some t.exprs.size, { t with
      arena := a, failure := none, exprs := t.exprs.push e }) := by
  obtain ⟨a, f, hrun, hok, -⟩ := charge_spec t exprSize
  cases hc : (run (charge exprSize) t).1
  · have h : run (pushExpr e) t = (none, { t with arena := a, failure := f }) := by
      simp only [pushExpr, run_bind, hrun, hc]
      rfl
    rw [h] at hf
    exact absurd (hok.2 hf) (by simp [hc])
  · refine ⟨a, ?_⟩
    rw [← hok.1 hc]
    simp only [pushExpr, run_bind, hrun, hc, ↓reduceIte]
    rfl

/-- A statement added without a failure: in the tree's file, with no successor and no compiled
term. -/
theorem newStmt_clean (v e : Nat) (span : Span) (hf : (run (newStmt v e span) t).2.failure = none) :
    ∃ a, run (newStmt v e span) t = (some t.stmts.size, { t with
      arena := a, failure := none,
      stmts := t.stmts.push ⟨v, e, none, { span with file := t.file }, none⟩ }) := by
  have hs : t.failure.isSome = false := by simp [(newStmt_spec t v e span).1.sticky hf]
  obtain ⟨a, f, hrun, hok, -⟩ := charge_spec t stmtSize
  cases hc : (run (charge stmtSize) t).1
  · have h : run (newStmt v e span) t = (none, { t with arena := a, failure := f }) := by
      simp only [newStmt, run_bind, run_get, hs, Bool.false_eq_true, if_false, hrun, hc]
      rfl
    rw [h] at hf
    exact absurd (hok.2 hf) (by simp [hc])
  · refine ⟨a, ?_⟩
    rw [← hok.1 hc]
    simp only [newStmt, run_bind, run_get, hs, Bool.false_eq_true, hrun, hc, ↓reduceIte]
    rfl

/-- A program added without a failure, after its statements are linked. -/
theorem newProgram_clean (filename : String) (ss : List Nat)
    (hf : (run (newProgram filename ss) t).2.failure = none) :
    t.failure = none ∧ ∃ a, run (newProgram filename ss) t = (some t.programs.size, { t.link ss with
      arena := a, failure := none, programs := t.programs.push ⟨ss.head?, filename⟩ }) := by
  obtain ⟨st, hl, -, -⟩ := link_eq ss t
  by_cases hs : t.failure.isSome
  · have h : run (newProgram filename ss) t = (none, t) := by simp [newProgram, hs]
    rw [h] at hf
    simp [show t.failure = none from hf] at hs
  · refine ⟨by simpa using hs, ?_⟩
    obtain ⟨a, f, hrun, -⟩ := chargeString_spec (t.link ss) filename
    obtain ⟨a', f', hrun', hok', -⟩ := charge_spec { t.link ss with arena := a, failure := f } programSize
    cases hc : (run (charge programSize) { t.link ss with arena := a, failure := f }).1
    · have h : run (newProgram filename ss) t = (none, { t.link ss with arena := a', failure := f' }) := by
        simp only [newProgram, run_bind, run_get, hs, Bool.false_eq_true, if_false, run_set, hrun, hrun',
          hc]
        rfl
      rw [h] at hf
      exact absurd (hok'.2 hf) (by simp [hc])
    refine ⟨a', ?_⟩
    rw [← hok'.1 hc]
    simp only [newProgram, run_bind, run_get, hs, Bool.false_eq_true, run_set, hrun, hrun', hc,
      ↓reduceIte]
    simp [hl]

end Tree

/-! ### The combinator store -/

namespace Store

/-- A node added without a failure: the store had none, and only the arena and the nodes
change. -/
theorem newNode_clean (n : Node) (st : Store) (hf : (run (newNode n) st).2.failure = none) :
    st.failure = none ∧ ∃ a, run (newNode n) st = (some st.nodes.size,
      { st with tree := { st.tree with arena := a }, nodes := st.nodes.push n }) := by
  cases hs : st.failure.isSome
  · refine ⟨by simpa using hs, ?_⟩
    cases ha : st.tree.arena.alloc nodeSize.toUInt64 with
    | ok p => exact ⟨p.1, by simp [newNode, hs, ha]⟩
    | error e =>
      have h : run (newNode n) st = (none, { st with failure := some e }) := by
        simp [newNode, hs, ha]
      simp [h] at hf
  · have h : run (newNode n) st = (none, st) := by simp [newNode, hs]
    rw [h] at hf
    simp [show st.failure = none from hf] at hs

/-- A node added without a failure is the one record that changes. -/
theorem newNode_read (n : Node) (st : Store) (h : (run (newNode n) st).2.Clean) :
    st.Clean ∧ (run (newNode n) st).2.read = Function.update st.read (.node st.nodes.size) (some (.node n)) := by
  obtain ⟨ht, hs⟩ := h
  obtain ⟨hs₀, a, ha⟩ := newNode_clean n st hs
  rw [ha] at ht ⊢
  exact ⟨⟨ht, hs₀⟩, read_push_node st a n⟩

/-- An application of two built nodes adds a node, unless the store has failed. -/
theorem app_some (l r : Nat) (st : Store) (hf : (run (app (some l) (some r)) st).2.failure = none) :
    run (app (some l) (some r)) st = run (newNode (.app l r)) st := by
  by_cases hs : st.failure.isSome
  · have h : run (app (some l) (some r)) st = (none, st) := by simp [app, hs]
    rw [h] at hf
    simp [show st.failure = none from hf] at hs
  · simp [app, hs]

/-- A reference to a built term adds a node, unless the store has failed. -/
theorem ref_some (target j : Nat) (st : Store) :
    run (ref (some target) j) st = run (newNode (.ref target j)) st := by
  by_cases hs : st.failure.isSome
  · simp [ref, newNode, hs]
  · simp [ref, hs]

end Store

/-! ### Each call writes what it lists -/

namespace RecordCall

open Store in
/-- The links of a program do not depend on the successors already set. -/
theorem linkWrites_modify_next (a b : Nat) (t : Tree) : ∀ ss : List Nat,
    linkWrites { t with stmts := t.stmts.modify a fun s => { s with next := some b } } ss = linkWrites t ss
  | x :: y :: rest => by
    rw [linkWrites, linkWrites, linkWrites_modify_next a b t (y :: rest), Tree.stmt_modify]
    by_cases hax : a = x ∧ a < t.stmts.size
    · obtain ⟨rfl, ha⟩ := hax
      simp [ha]
    · simp [hax]
  | [] => rfl
  | [_] => rfl

/-- Linking the statements of a program writes their links. -/
theorem read_link : ∀ (ss : List Nat) (st : Store),
    ({ st with tree := st.tree.link ss } : Store).read = applyWrites (linkWrites st.tree ss) st.read
  | a :: b :: rest, st => by
    let t' : Tree := { st.tree with stmts := st.tree.stmts.modify a fun s => { s with next := some b } }
    have ih : ({ st with tree := t'.link (b :: rest) } : Store).read =
        applyWrites (linkWrites t' (b :: rest)) ({ st with tree := t' } : Store).read :=
      read_link (b :: rest) { st with tree := t' }
    rw [Tree.link, linkWrites, applyWrites_append, ih, linkWrites_modify_next, Store.read_modify_stmt]
    congr 1
    cases h : st.tree.stmts[a]? with
    | none => simp [Nat.not_lt.mpr (Array.getElem?_eq_none_iff.mp h)]
    | some s =>
      have hs : st.tree.stmt a = s := by simp [Tree.stmt, h]
      simp [(Array.getElem?_eq_some_iff.mp h).1, hs]
  | [], _ => rfl
  | [_], _ => rfl


/-- An expression added without a failure is the one record that changes. -/
theorem pushExpr_read (e : Expr) (st : Store) (h : (st.onTree (Tree.pushExpr e)).Clean) :
    st.Clean ∧ (st.onTree (Tree.pushExpr e)).read =
      Function.update st.read (.expr st.tree.exprs.size) (some (.expr e)) := by
  obtain ⟨ht, hs⟩ := h
  obtain ⟨a, ha⟩ := Tree.pushExpr_clean st.tree e ht
  refine ⟨⟨(Tree.pushExpr_spec st.tree e).1.sticky ht, hs⟩, ?_⟩
  simp only [Store.onTree, ha]
  exact Store.read_push_expr st a none e

/-- One call that ends without a failure started without one, and changes exactly the records
it writes. -/
theorem exec_read (c : RecordCall) (st : Store) (h : (c.exec st).Clean) :
    st.Clean ∧ (c.exec st).read = applyWrites (c.writes st) st.read := by
  obtain ⟨ht, hs⟩ := h
  cases c with
  | token l r c e sp =>
    obtain ⟨a, ha⟩ := Tree.newToken_ok st.tree l r c e sp ht
    refine ⟨⟨(Tree.newToken_spec st.tree l r c e sp).1.sticky ht, hs⟩, ?_⟩
    simp only [exec, Store.onTree, ha, writes, applyWrites_singleton]
    exact Store.read_push_token st a none _
  | ident tok next =>
    obtain ⟨a, ha⟩ := Tree.newIdent_clean st.tree tok next ht
    refine ⟨⟨(Tree.newIdent_spec st.tree tok next).1.sticky ht, hs⟩, ?_⟩
    simp only [exec, Store.onTree, ha, writes, applyWrites_singleton]
    exact Store.read_push_ident st a none _
  -- the three expression constructors only compute the record that `pushExpr` adds
  | ref v =>
    simp only [exec, Store.onTree, Tree.newRef_eq] at ht hs ⊢
    exact pushExpr_read _ st ⟨ht, hs⟩
  | app l r =>
    simp only [exec, Store.onTree, Tree.newApp_eq] at ht hs ⊢
    exact pushExpr_read _ st ⟨ht, hs⟩
  | abs sp p b =>
    simp only [exec, Store.onTree, Tree.newAbs_eq] at ht hs ⊢
    exact pushExpr_read _ st ⟨ht, hs⟩
  | stmt v e sp =>
    obtain ⟨a, ha⟩ := Tree.newStmt_clean st.tree v e sp ht
    refine ⟨⟨(Tree.newStmt_spec st.tree v e sp).1.sticky ht, hs⟩, ?_⟩
    simp only [exec, Store.onTree, ha, writes, applyWrites_singleton]
    exact Store.read_push_stmt st a none _
  | program fn ss =>
    obtain ⟨ht₀, a, ha⟩ := Tree.newProgram_clean st.tree fn ss ht
    obtain ⟨_, hl, -, -⟩ := Tree.link_eq ss st.tree
    have hp : (st.tree.link ss).programs = st.tree.programs := by rw [hl]
    refine ⟨⟨ht₀, hs⟩, ?_⟩
    simp only [exec, Store.onTree, ha, writes, applyWrites_append, applyWrites_singleton]
    rw [← read_link, ← hp]
    exact Store.read_push_program { st with tree := st.tree.link ss } a none _
  | detach i =>
    cases hd : st.tree.idents[i]? with
    | none =>
      have hrun : run (Tree.detach i) st.tree = (none, st.tree) := by simp [Tree.detach, Tree.ident, hd]; rfl
      simp only [exec, Store.onTree, hrun] at ht hs ⊢
      exact ⟨⟨ht, hs⟩, by simp [writes, hd]⟩
    | some d =>
      cases hn : d.next with
      | none =>
        have hrun : run (Tree.detach i) st.tree = (none, st.tree) := by simp [Tree.detach, Tree.ident, hd, hn]
        simp only [exec, Store.onTree, hrun] at ht hs ⊢
        exact ⟨⟨ht, hs⟩, by simp [writes, hd, hn]⟩
      | some n =>
        have hrun : run (Tree.detach i) st.tree = (some n, { st.tree with
            idents := st.tree.idents.modify i fun d' => { d' with
              next := none, span := (st.tree.token d.token).span } }) := by
          simp [Tree.detach, Tree.ident, hd, hn]
        simp only [exec, Store.onTree, hrun] at ht hs ⊢
        refine ⟨⟨ht, hs⟩, ?_⟩
        rw [Store.read_modify_ident, hd]
        simp [writes, hd, hn]
  | setAbs i p b =>
    -- only an abstraction changes; any other record stops the program and changes nothing
    have he : st.tree.expr i = (st.tree.exprs[i]?).getD default := rfl
    cases hd : st.tree.exprs[i]? with
    | none =>
      have hdef : st.tree.expr i = .app default default default := by rw [he, hd]; rfl
      simp only [exec, Store.onTree, Tree.setAbs, run_modify, hdef] at ht hs ⊢
      exact ⟨⟨ht, hs⟩, by rw [Store.read_crashWith]; simp [writes, hd]⟩
    | some e =>
      cases e with
      | abs p' b' sp =>
        simp only [exec, Store.onTree, Tree.setAbs, run_modify, he, hd, Option.getD_some] at ht hs ⊢
        refine ⟨⟨ht, hs⟩, ?_⟩
        rw [Store.read_modify_expr, hd]
        simp [writes, hd]
      | app l r sp =>
        simp only [exec, Store.onTree, Tree.setAbs, run_modify, he, hd, Option.getD_some] at ht hs ⊢
        exact ⟨⟨ht, hs⟩, by rw [Store.read_crashWith]; simp [writes, hd]⟩
      | ref v sp =>
        simp only [exec, Store.onTree, Tree.setAbs, run_modify, he, hd, Option.getD_some] at ht hs ⊢
        exact ⟨⟨ht, hs⟩, by rw [Store.read_crashWith]; simp [writes, hd]⟩
  | setCompiled i n =>
    -- a slot already written stops the program and changes nothing
    have hs' : st.tree.stmt i = (st.tree.stmts[i]?).getD default := rfl
    cases hd : st.tree.stmts[i]? with
    | none =>
      simp only [exec, Store.onTree, Tree.setCompiled, run_modify, hs', hd, Option.getD_none] at ht hs ⊢
      refine ⟨⟨ht, hs⟩, ?_⟩
      rw [show (default : Stmt).compiled = none from rfl]
      simp only [Option.isSome_none, Bool.false_eq_true, if_false]
      rw [Store.read_modify_stmt, hd]
      simp [writes, hd]
    | some s =>
      cases hc : s.compiled with
      | some m =>
        simp only [exec, Store.onTree, Tree.setCompiled, run_modify, hs', hd, Option.getD_some, hc,
          Option.isSome_some, if_true] at ht hs ⊢
        exact ⟨⟨ht, hs⟩, by rw [Store.read_crashWith]; simp [writes, hd, hc]⟩
      | none =>
        simp only [exec, Store.onTree, Tree.setCompiled, run_modify, hs', hd, Option.getD_some, hc,
          Option.isSome_none, Bool.false_eq_true, if_false] at ht hs ⊢
        refine ⟨⟨ht, hs⟩, ?_⟩
        rw [Store.read_modify_stmt, hd]
        simp [writes, hd, hc]
  -- the shared nodes are built once; the store keeps their index besides the node itself
  | sComb =>
    cases hsn : st.sNode with
    | some i =>
      have hrun : run Store.sComb st = (some i, st) := by simp [Store.sComb, hsn]
      simp only [exec, hrun] at ht hs ⊢
      exact ⟨⟨ht, hs⟩, by simp [writes, hsn]⟩
    | none =>
      have hrun : run Store.sComb st = ((run (Store.newNode .s) st).1,
          { (run (Store.newNode .s) st).2 with sNode := (run (Store.newNode .s) st).1 }) := by
        simp [Store.sComb, hsn]
      simp only [exec, hrun, writes, hsn, Option.isSome_none, Bool.false_eq_true, ↓reduceIte,
        applyWrites_singleton] at ht hs ⊢
      exact Store.newNode_read .s st ⟨ht, hs⟩
  | kComb =>
    cases hkn : st.kNode with
    | some i =>
      have hrun : run Store.kComb st = (some i, st) := by simp [Store.kComb, hkn]
      simp only [exec, hrun] at ht hs ⊢
      exact ⟨⟨ht, hs⟩, by simp [writes, hkn]⟩
    | none =>
      have hrun : run Store.kComb st = ((run (Store.newNode .k) st).1,
          { (run (Store.newNode .k) st).2 with kNode := (run (Store.newNode .k) st).1 }) := by
        simp [Store.kComb, hkn]
      simp only [exec, hrun, writes, hkn, Option.isSome_none, Bool.false_eq_true, ↓reduceIte,
        applyWrites_singleton] at ht hs ⊢
      exact Store.newNode_read .k st ⟨ht, hs⟩
  | nodeApp l r =>
    have hrun := Store.app_some l r st hs
    simp only [exec, hrun, writes, applyWrites_singleton] at ht hs ⊢
    exact Store.newNode_read _ st ⟨ht, hs⟩
  | nodeRef tgt s =>
    have hrun := Store.ref_some tgt s st
    simp only [exec, hrun, writes, applyWrites_singleton] at ht hs ⊢
    exact Store.newNode_read _ st ⟨ht, hs⟩
  | freeLeaf v =>
    simp only [exec, Store.freeLeaf, writes, applyWrites_singleton] at ht hs ⊢
    exact Store.newNode_read _ st ⟨ht, hs⟩

/-- Runs calls one after the other. -/
def execAll : List RecordCall → Store → Store
  | [], st => st
  | c :: cs, st => execAll cs (c.exec st)

/-- The records a run of calls writes, in the order it writes them. -/
def runWrites : List RecordCall → Store → List (RecordRef × RecordVal)
  | [], _ => []
  | c :: cs, st => c.writes st ++ runWrites cs (c.exec st)

/-- A run of calls that ends without a failure started without one, and every record reads as
the last call that wrote it wrote it, or as before the run. By induction on the calls, with
`exec_read` for each. -/
theorem execAll_read : ∀ (cs : List RecordCall) (st : Store), (execAll cs st).Clean →
    st.Clean ∧ (execAll cs st).read = applyWrites (runWrites cs st) st.read
  | [], _, h => ⟨h, rfl⟩
  | c :: cs, st, h => by
    obtain ⟨hc, ih⟩ := execAll_read cs (c.exec st) h
    obtain ⟨hst, hstep⟩ := exec_read c st hc
    refine ⟨hst, ?_⟩
    rw [execAll, ih, runWrites, applyWrites_append, hstep]

end RecordCall

/-- Records read back as they were last written. After any run of constructor and mutator calls
on a syntax tree and its combinator store during which nothing fails, every record decodes to
the value the last call that wrote it gave it, and a record no call wrote decodes as before; and
every byte string copied into an arena, whatever its bytes, reads back as itself. -/
theorem records_read_as_last_written :
    (∀ (cs : List RecordCall) (st : Store), (RecordCall.execAll cs st).Clean →
      (RecordCall.execAll cs st).read = applyWrites (RecordCall.runWrites cs st) st.read) ∧
    ∀ (a b : Arena) (bytes : ByteArray) (q : Ptr), a.Reachable → a.strdup bytes = .ok (b, q) →
      b.string q = .ok bytes :=
  ⟨fun cs st h => (RecordCall.execAll_read cs st h).2, fun _ _ _ _ ha h => ha.string_strdup h⟩

end Combinatory
