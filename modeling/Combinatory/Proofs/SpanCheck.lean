import Combinatory.Proofs.Decode
import Combinatory.Proofs.Lexing
import Combinatory.Proofs.Records
import Combinatory.Tree.Invariants

/-! The spans of a parsed program pass the span check, whichever statements failed: the lexer
lays its tokens in order inside the file (`SourceFile.tokens_laid`) and the parser only reads
on, so every record spans the tokens it read (`parseFile_checkSpans`). -/
namespace Combinatory

open Pass Grammar

/-! ### Spans -/

namespace Span

/-- The span lies between offsets `lo` and `hi`, and starts before it stops. -/
def Within (sp : Span) (lo hi : Nat) : Prop := lo ≤ sp.start ∧ sp.start ≤ sp.stop ∧ sp.stop ≤ hi

theorem contains_iff {s inner : Span} :
    s.contains inner = true ↔ s.file = inner.file ∧ s.start ≤ inner.start ∧ inner.stop ≤ s.stop := by
  simp [contains, and_assoc]

theorem contains_trans {a b c : Span} (hab : a.contains b = true) (hbc : b.contains c = true) :
    a.contains c = true := by
  rw [contains_iff] at *
  omega

/-- Two spans of one file are covered from the first start to the last stop. -/
theorem cover_of_file {s o : Span} (h : s.file = o.file) :
    s.cover o = { s with start := min s.start o.start, stop := max s.stop o.stop } := by
  simp [cover, h]

theorem contains_cover_left {s o : Span} (h : s.file = o.file) : (s.cover o).contains s = true := by
  rw [cover_of_file h, contains_iff]
  exact ⟨rfl, Nat.min_le_left _ _, Nat.le_max_left _ _⟩

theorem contains_cover_right {s o : Span} (h : s.file = o.file) : (s.cover o).contains o = true := by
  rw [cover_of_file h, contains_iff]
  exact ⟨h, Nat.min_le_right _ _, Nat.le_max_right _ _⟩

theorem Within.cover {s o : Span} {lo hi : Nat} (hs : s.Within lo hi) (ho : o.Within lo hi)
    (h : s.file = o.file) : (s.cover o).Within lo hi := by
  rw [cover_of_file h]
  simp only [Within] at *
  omega

theorem Within.mono {sp : Span} {lo hi lo' hi' : Nat} (h : sp.Within lo hi) (hlo : lo' ≤ lo)
    (hhi : hi ≤ hi') : sp.Within lo' hi' :=
  ⟨Nat.le_trans hlo h.1, h.2.1, Nat.le_trans h.2.2 hhi⟩

/-- Placing in file `f` the cover of two spans of `f` changes nothing. -/
theorem cover_file {s o : Span} {f : Nat} (hs : s.file = f) (ho : o.file = f) :
    { s.cover o with file := f } = s.cover o := by
  rw [cover_of_file (hs.trans ho.symm)]
  subst hs
  rfl

end Span

/-! ### Nested expression records -/

namespace Tree

variable {fid : Nat} {t t' : Tree}

/-- Expression record `i` is in file `fid`, and holds the records below it, which come before
it. -/
def NestedAt (fid : Nat) (t : Tree) (i : Nat) : Prop :=
  (t.exprSpan i).file = fid ∧
    match t.expr i with
    | .app l r sp => l < i ∧ r < i ∧ sp.contains (t.exprSpan l) ∧ sp.contains (t.exprSpan r)
    | .abs _ b sp => b < i ∧ sp.contains (t.exprSpan b)
    | .ref .. => True

/-- A record kept by the parse keeps its span. -/
theorem Adds.exprSpan (h : Adds t t') {i : Nat} (hi : i < t.exprs.size) : t'.exprSpan i = t.exprSpan i := by
  obtain ⟨c, hc⟩ := h.exprs
  simp only [Tree.exprSpan, Tree.expr, hc, getD_append_left _ hi]

/-- Every expression record is nested. -/
def Nested (fid : Nat) (t : Tree) : Prop := ∀ i < t.exprs.size, t.NestedAt fid i

theorem Nested.of_exprs (h : t.Nested fid) (hex : t'.exprs = t.exprs) : t'.Nested fid := by
  simpa only [Nested, NestedAt, exprSpan, expr, hex] using h

/-- Adding a nested record keeps the tree nested: the records before it do not move. -/
theorem Nested.push {e : Expr} (h : t.Nested fid) (hex : t'.exprs = t.exprs.push e)
    (hnew : t'.NestedAt fid t.exprs.size) : t'.Nested fid := by
  have hold : ∀ k < t.exprs.size, t'.expr k = t.expr k := fun k hk => by
    simp [expr, hex, Array.getElem?_push_lt hk, hk]
  intro i hi
  rw [hex, Array.size_push] at hi
  rcases Nat.lt_succ_iff_lt_or_eq.1 hi with hi | rfl
  · obtain ⟨hf, hn⟩ := h i hi
    refine ⟨by rw [exprSpan, hold i hi]; exact hf, ?_⟩
    rw [hold i hi]
    split at hn
    · obtain ⟨hl, hr, hcl, hcr⟩ := hn
      exact ⟨hl, hr, by rwa [exprSpan, hold _ (Nat.lt_trans hl hi)],
        by rwa [exprSpan, hold _ (Nat.lt_trans hr hi)]⟩
    · obtain ⟨hb, hcb⟩ := hn
      exact ⟨hb, by rwa [exprSpan, hold _ (Nat.lt_trans hb hi)]⟩
    · trivial
  · exact hnew

/-- Below a nested record inside `outer`, nothing fails the span check. By induction on the
fuel: each record inside `outer` holds its children, so they are inside `outer` too. -/
theorem Nested.spanFailures (h : t.Nested fid) (outer : Span) :
    ∀ (fuel i : Nat), i < t.exprs.size → outer.contains (t.exprSpan i) = true →
      Invariants.spanFailures t outer fuel i = []
  | 0, _, _, _ => rfl
  | fuel + 1, i, hi, ho => by
    obtain ⟨-, hn⟩ := h i hi
    have ho' : outer.contains (t.expr i).span = true := ho
    rw [Invariants.spanFailures]
    simp only [ho', Bool.not_true, Bool.false_eq_true, ↓reduceIte]
    split at hn
    · rename_i l r sp he
      obtain ⟨hl, hr, hcl, hcr⟩ := hn
      have hsp : (t.expr i).span = sp := by rw [he]; rfl
      rw [he]
      simp only [Expr.span, hcl, hcr, Bool.not_true, Bool.or_self, Bool.false_eq_true, ↓reduceIte]
      rw [Nested.spanFailures h outer fuel l (Nat.lt_trans hl hi) (Span.contains_trans (hsp ▸ ho') hcl),
        Nested.spanFailures h outer fuel r (Nat.lt_trans hr hi) (Span.contains_trans (hsp ▸ ho') hcr)]
      rfl
    · rename_i p b sp he
      obtain ⟨hb, hcb⟩ := hn
      have hsp : (t.expr i).span = sp := by rw [he]; rfl
      rw [he]
      simp only [Expr.span, hcb, Bool.not_true, Bool.false_eq_true, ↓reduceIte]
      exact Nested.spanFailures h outer fuel b (Nat.lt_trans hb hi) (Span.contains_trans (hsp ▸ ho') hcb)
    · rename_i v sp he
      simp only [he]


/-- Statement `j` passes the checks of one statement for file `fid` of `size` bytes: its span
holds a byte, lies inside the file and holds its name and its expression, a record of the
tree. -/
structure StmtChecked (fid size : Nat) (t : Tree) (j : Nat) : Prop where
  nonempty : (t.stmt j).span.start < (t.stmt j).span.stop
  file : (t.stmt j).span.file = fid
  inside : (t.stmt j).span.stop ≤ size
  name : (t.stmt j).span.contains (t.ident (t.stmt j).var).span = true
  var_lt : (t.stmt j).var < t.idents.size
  expr_lt : (t.stmt j).expr < t.exprs.size
  expr : (t.stmt j).span.contains (t.exprSpan (t.stmt j).expr) = true

/-- Checked statements that come in order, each starting after the one before and the first
after `prevEnd`, pass the span check of a nested tree. By induction on the statements. -/
theorem Nested.spanStmts {size : Nat} (hn : t.Nested fid) : ∀ (L : List Nat) (idx prevEnd : Nat),
    (∀ j ∈ L, StmtChecked fid size t j) →
    (L.map fun j => (t.stmt j).span).Pairwise (fun x y => x.stop ≤ y.start) →
    (∀ j ∈ L, prevEnd ≤ (t.stmt j).span.start) →
    Invariants.spanStmts t fid size idx prevEnd L = .ok ()
  | [], _, _, _, _, _ => rfl
  | j :: L, idx, prevEnd, hc, hord, hprev => by
    obtain ⟨hne, hfile, hin, hname, -, hlt, hexpr⟩ := hc j List.mem_cons_self
    have hfail := hn.spanFailures _ (t.exprs.size + 1) _ hlt hexpr
    have hempty : (t.stmt j).span.isEmpty = false := by simp [Span.isEmpty]; omega
    have hstart : ¬(t.stmt j).span.start < prevEnd := Nat.not_lt.2 (hprev j List.mem_cons_self)
    rw [List.map_cons, List.pairwise_cons] at hord
    have ih := Nested.spanStmts hn L (idx + 1) (t.stmt j).span.stop
      (fun k hk => hc k (List.mem_cons_of_mem _ hk)) hord.2
      (fun k hk => hord.1 _ (List.mem_map_of_mem hk))
    simp [Invariants.spanStmts, hempty, hfile, Nat.not_lt.2 hin, hstart, hname, hfail, ih]

/-- Statement `j` of `t'` is checked when its record spans its name and its expression, records
of `t` that `t'` holds as they are, in file `fid` and inside the file. -/
theorem StmtChecked.of_record {size j : Nat} (st : Stmt) (hst : t'.stmt j = st)
    (hid : t'.idents = t.idents) (hex : t'.exprs = t.exprs)
    (hne : st.span.start < st.span.stop) (hfile : st.span.file = fid) (hin : st.span.stop ≤ size)
    (hname : st.span.contains (t.ident st.var).span = true) (hv : st.var < t.idents.size)
    (he : st.expr < t.exprs.size) (hexpr : st.span.contains (t.exprSpan st.expr) = true) :
    StmtChecked fid size t' j := by
  have hi : t'.ident st.var = t.ident st.var := by simp [Tree.ident, hid]
  have hx : t'.exprSpan st.expr = t.exprSpan st.expr := by simp [Tree.exprSpan, Tree.expr, hex]
  subst hst
  exact ⟨hne, hfile, hin, hi ▸ hname, hid ▸ hv, hex ▸ he, hx ▸ hexpr⟩

/-- A checked statement stays checked in a tree that only adds records and keeps the statement,
but for its link. -/
theorem StmtChecked.keep {size j : Nat} (h : StmtChecked fid size t j) (hg : Grows t t')
    (hst : ∃ n, t'.stmt j = { t.stmt j with next := n }) : StmtChecked fid size t' j := by
  obtain ⟨n, hn⟩ := hst
  obtain ⟨-, ⟨b, hb⟩, ⟨c, hc⟩⟩ := hg
  have hid : t'.ident (t.stmt j).var = t.ident (t.stmt j).var := by
    simp only [Tree.ident, hb, getD_append_left _ h.var_lt]
  have hex : t'.exprSpan (t.stmt j).expr = t.exprSpan (t.stmt j).expr := by
    simp only [Tree.exprSpan, Tree.expr, hc, getD_append_left _ h.expr_lt]
  have hvar : (t.stmt j).var < t'.idents.size := by
    have := h.var_lt
    simp only [hb, Array.size_append]
    omega
  have hlt : (t.stmt j).expr < t'.exprs.size := by
    have := h.expr_lt
    simp only [hc, Array.size_append]
    omega
  refine ⟨?_, ?_, ?_, ?_, ?_, ?_, ?_⟩ <;> simp only [hn]
  · exact h.nonempty
  · exact h.file
  · exact h.inside
  · rw [hid]
    exact h.name
  · exact hvar
  · exact hlt
  · rw [hex]
    exact h.expr

/-- Statements `L` of `t` in order: each is a checked record, starts after the one before stops,
and stops by `hi`. -/
structure StmtsChecked (fid size : Nat) (t : Tree) (L : List Nat) (hi : Nat) : Prop where
  stmt : ∀ j ∈ L, j < t.stmts.size ∧ StmtChecked fid size t j
  ordered : (L.map fun j => (t.stmt j).span).Pairwise fun x y => x.stop ≤ y.start
  before : ∀ j ∈ L, (t.stmt j).span.stop ≤ hi

namespace StmtsChecked

variable {size hi hi' j : Nat} {L : List Nat}

theorem nil (t : Tree) (hi : Nat) : StmtsChecked fid size t [] hi :=
  ⟨fun _ h => (nomatch h), List.Pairwise.nil, fun _ h => (nomatch h)⟩

/-- The statements stay checked in a tree that only adds records and keeps them, but for their
links. -/
theorem keep (h : StmtsChecked fid size t L hi) (hg : Grows t t')
    (hst : ∀ j ∈ L, ∃ n, t'.stmt j = { t.stmt j with next := n })
    (hsz : t.stmts.size ≤ t'.stmts.size) (hle : hi ≤ hi') : StmtsChecked fid size t' L hi' := by
  have hspan : ∀ j ∈ L, (t'.stmt j).span = (t.stmt j).span := fun j hj => by
    obtain ⟨n, hn⟩ := hst j hj
    rw [hn]
  refine ⟨fun j hj => ⟨Nat.lt_of_lt_of_le (h.stmt j hj).1 hsz, (h.stmt j hj).2.keep hg (hst j hj)⟩,
    ?_, fun j hj => ?_⟩
  · rw [List.map_congr_left hspan]
    exact h.ordered
  · rw [hspan j hj]
    exact Nat.le_trans (h.before j hj) hle

theorem grow (h : StmtsChecked fid size t L hi) (ha : Adds t t') (hle : hi ≤ hi') :
    StmtsChecked fid size t' L hi' :=
  h.keep ha.grows (fun j hj => ⟨(t.stmt j).next, ha.stmt (h.stmt j hj).1⟩) ha.stmts_size hle

/-- One more checked statement, starting after the others stop. -/
theorem snoc (h : StmtsChecked fid size t L hi) (hj : j < t.stmts.size) (hc : StmtChecked fid size t j)
    (hlo : hi ≤ (t.stmt j).span.start) (hhi : (t.stmt j).span.stop ≤ hi') :
    StmtsChecked fid size t (L ++ [j]) hi' := by
  have hle : hi ≤ hi' := Nat.le_trans hlo (Nat.le_trans (Nat.le_of_lt hc.nonempty) hhi)
  refine ⟨fun k hk => ?_, ?_, fun k hk => ?_⟩
  · rcases List.mem_append.1 hk with hk | hk
    · exact h.stmt k hk
    · rw [List.mem_singleton.1 hk]
      exact ⟨hj, hc⟩
  · rw [List.map_append, List.pairwise_append]
    refine ⟨h.ordered, List.pairwise_singleton _ _, fun x hx y hy => ?_⟩
    obtain ⟨k, hk, rfl⟩ := List.mem_map.1 hx
    rw [List.map_singleton, List.mem_singleton] at hy
    subst hy
    exact Nat.le_trans (h.before k hk) hlo
  · rcases List.mem_append.1 hk with hk | hk
    · exact Nat.le_trans (h.before k hk) hle
    · rw [List.mem_singleton.1 hk]
      exact hhi

end StmtsChecked

end Tree


/-! ### Reading on -/

/-- Where the current token starts. -/
def ParseState.offset (s : ParseState) : Nat := s.cur.span.start

@[simp] theorem ParseState.offset_tree (s : ParseState) (t : Tree) :
    ({ s with tree := t } : ParseState).offset = s.offset := rfl

theorem ParseState.offset_of_rest_eq {s s₁ : ParseState} (h : s₁.rest = s.rest) : s₁.offset = s.offset := by
  simp [ParseState.offset, ParseState.cur, h]

namespace Parser

theorem Looked.offset {s s₁ : ParseState} (h : Looked s s₁) : s₁.offset = s.offset :=
  ParseState.offset_of_rest_eq h.rest

theorem Looked.suffix {s s₁ : ParseState} (h : Looked s s₁) : s₁.rest <:+ s.rest :=
  h.rest ▸ List.suffix_refl _

/-- Step `x` reads on: it leaves a suffix of the tokens left, which still ends the file. -/
def Forward {α : Type} (x : ParseM α) : Prop :=
  ∀ s, Terminated s.rest → Terminated (run x s).2.rest ∧ (run x s).2.rest <:+ s.rest

namespace Forward

variable {α β : Type} {x : ParseM α} {f : α → ParseM β}

theorem pure (a : α) : Forward (Pure.pure a : ParseM α) := fun _ h => ⟨h, List.suffix_refl _⟩

theorem bind (hx : Forward x) (hf : ∀ a, Forward (f a)) : Forward (x >>= f) := fun s h => by
  rw [run_bind]
  obtain ⟨h₁, hs₁⟩ := hx s h
  obtain ⟨h₂, hs₂⟩ := hf _ _ h₁
  exact ⟨h₂, hs₂.trans hs₁⟩

/-- A step that leaves the tokens as they are. -/
theorem of_rest (hx : ∀ s, (run x s).2.rest = s.rest) : Forward x := fun s h => by
  rw [hx s]
  exact ⟨h, List.suffix_refl _⟩

end Forward

/-- Consuming a token moves to the next, except at the end of the file, which stays. -/
theorem advance_forward : Forward advance := by
  intro s ht
  obtain ⟨x, u, hrest⟩ := List.exists_cons_of_ne_nil ht.ne_nil
  by_cases hx : x.kind = .eof
  · -- the end of the file is the last token: the position does not move
    have hu := (hrest ▸ ht).eq_nil hx
    have hlen := congrArg List.length hrest
    simp only [ParseState.rest, List.length_drop, Array.length_toList, hu, List.length_cons,
      List.length_nil] at hlen
    have hpos : ¬s.pos + 1 < s.tokens.size := by omega
    obtain ⟨r, l, hl⟩ := lexUpTo_looked s s.pos
    have hr : (run advance s).2.rest = s.rest := by
      simp only [advance, peek_run, run_bind, run_modify, run_pure, hl, ParseState.rest, hpos,
        ↓reduceIte]
    rw [hr]
    exact ⟨ht, List.suffix_refl _⟩
  · obtain ⟨hu, htu⟩ := (hrest ▸ ht).tail hx
    rw [advance_rest s hrest hu, hrest]
    exact ⟨htu, List.suffix_cons x u⟩

theorem peek_forward : Forward peek := .of_rest fun s => (peek_looked s).rest

theorem isAt_forward (k : TokenKind) : Forward (isAt k) := .of_rest fun s => (isAt_looked s k).rest

theorem fail_forward (code : Nat) (msg : String) (notes : List Note) : Forward (fail code msg notes) :=
  .of_rest fun s => (fail_flags s code msg notes).1

theorem expect_forward (k : TokenKind) (code : Nat) (msg : String) : Forward (expect k code msg) := by
  intro s h
  have hp := peek_looked s
  rw [expect_run]
  split
  · obtain ⟨h₁, hs₁⟩ := advance_forward _ (hp.rest ▸ h)
    exact ⟨h₁, hp.rest ▸ hs₁⟩
  · obtain ⟨h₁, hs₁⟩ := fail_forward code msg [] _ (hp.rest ▸ h)
    exact ⟨h₁, hp.rest ▸ hs₁⟩

theorem params_forward : ∀ (n : Nat) (acc : List Token), Forward (params n acc)
  | 0, _ => .pure _
  | n + 1, acc => by
    rw [params]
    refine .bind (expect_forward _ _ _) fun o => ?_
    split
    · refine .bind (isAt_forward _) fun b => ?_
      split
      · exact .bind advance_forward fun _ => params_forward n _
      · refine .bind (isAt_forward _) fun b => ?_
        split
        · exact params_forward n _
        · exact .pure _
    · exact .pure _

theorem resync_forward : ∀ n : Nat, Forward (resync n)
  | 0 => .pure _
  | n + 1 => by
    rw [resync]
    refine .bind peek_forward fun tok => ?_
    dsimp only
    split
    · exact .pure _
    · split
      · exact .bind advance_forward fun _ => .pure _
      · exact .bind advance_forward fun _ => resync_forward n

/-- What a parse of file `fid` of `size` bytes keeps: the tokens left end the file and lie in
reading order inside it, the tree is of the file, and its expression records are nested. -/
structure Reading (fid size : Nat) (s : ParseState) : Prop where
  terminated : Terminated s.rest
  laid : Lexer.Laid fid size s.rest
  file : s.tree.file = fid
  nested : s.tree.Nested fid

section Reading

variable {fid size : Nat} {s s₁ : ParseState}

/-- Reading on, with the same tree. -/
theorem Reading.forward (h : Reading fid size s) (ht : Terminated s₁.rest) (hs : s₁.rest <:+ s.rest)
    (htree : s₁.tree = s.tree) : Reading fid size s₁ :=
  ⟨ht, h.laid.suffix hs, htree ▸ h.file, htree ▸ h.nested⟩

theorem Reading.looked (h : Reading fid size s) (hl : Looked s s₁) : Reading fid size s₁ :=
  h.forward (hl.rest ▸ h.terminated) (hl.rest ▸ List.suffix_refl _) hl.tree

/-- A syntax error reported after a look at the current token keeps reading where it was. -/
theorem Reading.of_fail (h : Reading fid size s) (hl : Looked s s₁) (code : Nat) (msg : String)
    (notes : List Note) :
    Reading fid size (run (fail code msg notes) s₁).2 ∧ (run (fail code msg notes) s₁).2.rest <:+ s.rest := by
  have hr : (run (fail code msg notes) s₁).2.rest = s.rest := (fail_flags s₁ code msg notes).1.trans hl.rest
  exact ⟨h.forward (hr ▸ h.terminated) (hr ▸ List.suffix_refl _) (by simp [hl.tree]), hr ▸ List.suffix_refl _⟩

/-- Consuming the current token, after a look at it, when it neither ends the file nor is
invalid: the parse keeps reading, on the tokens after it, with the same tree. -/
theorem Reading.of_advance (h : Reading fid size s) (hl : Looked s s₁) {x : Token} {u : List Token}
    (hrest : s.rest = x :: u) (hx : x.kind ≠ .eof) (hi : x.kind ≠ .invalid) :
    (run advance s₁).1 = x ∧ (run advance s₁).2.rest = u ∧ (run advance s₁).2.tree = s.tree ∧
      Reading fid size (run advance s₁).2 ∧ (run advance s₁).2.rest <:+ s.rest := by
  obtain ⟨htok, hr, -, ht⟩ := advance_looked s hl hrest h.terminated hx hi
  have hsuf : (run advance s₁).2.rest <:+ s.rest := by rw [hr, hrest]; exact List.suffix_cons _ _
  exact ⟨htok, hr, ht, h.forward (hr ▸ ((hrest ▸ h.terminated).tail hx).2) hsuf ht, hsuf⟩

/-- A tree of the file whose expression records are as they were. -/
theorem Reading.of_exprs (h : Reading fid size s) {t : Tree} (hfile : t.file = s.tree.file)
    (hex : t.exprs = s.tree.exprs) : Reading fid size { s with tree := t } :=
  ⟨h.terminated, h.laid, hfile.trans h.file, h.nested.of_exprs hex⟩

/-- A step that changes only the tree, keeping its file and its expression records. -/
theorem Reading.of_frame (h : Reading fid size s) (hfr : s₁ = { s with tree := s₁.tree })
    (hfile : s₁.tree.file = s.tree.file) (hex : s₁.tree.exprs = s.tree.exprs) : Reading fid size s₁ := by
  rw [hfr]
  exact h.of_exprs hfile hex

/-- Reading on moves the current token no earlier. -/
theorem Reading.offset_le (h : Reading fid size s) (ht : Terminated s₁.rest) (hs : s₁.rest <:+ s.rest) :
    s.offset ≤ s₁.offset := by
  obtain ⟨u, hu⟩ := hs
  obtain ⟨y, v, hy⟩ := List.exists_cons_of_ne_nil ht.ne_nil
  cases u with
  | nil =>
    simp only [List.nil_append] at hu
    simp [ParseState.offset, ParseState.cur, hu]
  | cons x u =>
    have hrest : s.rest = x :: (u ++ y :: v) := by rw [← hu, hy]; rfl
    have hxy : x.span.stop ≤ y.span.start :=
      (List.pairwise_cons.1 (hrest ▸ h.laid.ordered)).1 y (by simp)
    have hx := h.laid.le x (by rw [hrest]; exact List.mem_cons_self)
    simp only [ParseState.offset, s.cur_of_rest hrest, s₁.cur_of_rest hy]
    omega

/-- A token read ends where or before the current token starts. -/
theorem Reading.stop_le_offset (h : Reading fid size s) {x : Token} {u : List Token} (hx : s.rest = x :: u)
    (ht : Terminated s₁.rest) (hs : s₁.rest <:+ u) : x.span.stop ≤ s₁.offset := by
  obtain ⟨y, v, hy⟩ := List.exists_cons_of_ne_nil ht.ne_nil
  have hmem : y ∈ u := hs.subset (by rw [hy]; exact List.mem_cons_self)
  have hxy : x.span.stop ≤ y.span.start := (List.pairwise_cons.1 (hx ▸ h.laid.ordered)).1 y hmem
  simpa [ParseState.offset, s₁.cur_of_rest hy] using hxy

/-- The next token is where the parse stands. -/
theorem offset_of_rest {x : Token} {u : List Token} (hx : s.rest = x :: u) : s.offset = x.span.start := by
  simp [ParseState.offset, s.cur_of_rest hx]

theorem Reading.token_le (h : Reading fid size s) {x : Token} {u : List Token} (hx : s.rest = x :: u) :
    x.span.start ≤ x.span.stop :=
  h.laid.le x (by rw [hx]; exact List.mem_cons_self)

theorem Reading.token_file (h : Reading fid size s) {x : Token} {u : List Token} (hx : s.rest = x :: u) :
    x.span.file = fid :=
  h.laid.file x (by rw [hx]; exact List.mem_cons_self)

/-- Adding an expression record whose span is in the file and holds the records below it,
which are records of the tree: the parse keeps reading, and the record is the last one. -/
theorem Reading.pushExpr (h : Reading fid size s) (e : Expr)
    (hf : (run (Tree.pushExpr e) s.tree).2.failure = none) (hfile : e.span.file = fid)
    (hkids : match e with
      | .app l r sp => l < s.tree.exprs.size ∧ r < s.tree.exprs.size ∧
          sp.contains (s.tree.exprSpan l) = true ∧ sp.contains (s.tree.exprSpan r) = true
      | .abs _ b sp => b < s.tree.exprs.size ∧ sp.contains (s.tree.exprSpan b) = true
      | .ref .. => True) :
    Reading fid size { s with tree := (run (Tree.pushExpr e) s.tree).2 } ∧
      (run (Tree.pushExpr e) s.tree).1 = some s.tree.exprs.size ∧
      s.tree.exprs.size < (run (Tree.pushExpr e) s.tree).2.exprs.size ∧
      (run (Tree.pushExpr e) s.tree).2.exprSpan s.tree.exprs.size = e.span := by
  obtain ⟨-, -, hs⟩ := Tree.pushExpr_spec s.tree e
  obtain ⟨hres, hex⟩ := hs hf
  obtain ⟨hlt, he⟩ := expr_push hex
  have hold : ∀ k < s.tree.exprs.size, (run (Tree.pushExpr e) s.tree).2.exprSpan k = s.tree.exprSpan k :=
    fun k hk => by simp [Tree.exprSpan, Tree.expr, hex, Array.getElem?_push_lt hk, hk]
  have hspan : (run (Tree.pushExpr e) s.tree).2.exprSpan s.tree.exprs.size = e.span := by
    rw [Tree.exprSpan, he]
  refine ⟨⟨h.terminated, h.laid, by simp [h.file], h.nested.push hex ⟨by rw [hspan, hfile], ?_⟩⟩,
    hres, hlt, hspan⟩
  rw [he]
  cases e with
  | app l r sp =>
    obtain ⟨hl, hr, hcl, hcr⟩ := hkids
    exact ⟨hl, hr, by rwa [hold l hl], by rwa [hold r hr]⟩
  | abs p b sp =>
    obtain ⟨hb, hcb⟩ := hkids
    exact ⟨hb, by rwa [hold b hb]⟩
  | ref v sp => trivial

end Reading


/-! ### Expressions -/

section Expressions

variable (fid size : Nat)

/-- A parse from `s` to `s'` with result `r`, of an expression that starts at offset `lo`: it
keeps reading, reads on, and a result is a record spanning from `lo` to where it stopped. -/
structure SpanRead (lo : Nat) (s s' : ParseState) (r : Option Nat) : Prop where
  reading : Reading fid size s'
  suffix : s'.rest <:+ s.rest
  result : ∀ i, r = some i → i < s'.tree.exprs.size ∧ (s'.tree.exprSpan i).Within lo s'.offset

/-- Parser `x` reads spans: from every reading state whose current token is of a kind `pre`
admits, when the tree does not fail, it returns a record spanning from where it started. -/
def ReadsSpans (pre : TokenKind → Prop) (x : ParseM (Option Nat)) : Prop :=
  ∀ s, Reading fid size s → pre s.cur.kind → (run x s).2.tree.failure = none →
    SpanRead fid size s.offset s (run x s).2 (run x s).1

/-- The operands loop reads spans onto an application that spans from `lo`. -/
def ReadsSpansOnto (x : Option Nat → ParseM (Option (Option Nat))) : Prop :=
  ∀ s lo acc, Reading fid size s → acc < s.tree.exprs.size → (s.tree.exprSpan acc).Within lo s.offset →
    (run (x (some acc)) s).2.tree.failure = none →
      SpanRead fid size lo s (run (x (some acc)) s).2 ((run (x (some acc)) s).1.bind id)

variable {fid size} {lo lo' : Nat} {s s₁ s₂ : ParseState} {r : Option Nat}

theorem SpanRead.nothing (h : Reading fid size s₁) (hs : s₁.rest <:+ s.rest) : SpanRead fid size lo s s₁ none :=
  ⟨h, hs, fun _ h => nomatch h⟩

/-- Steps that read on before a parse, with a lower start. -/
theorem SpanRead.widen (h : SpanRead fid size lo s₁ s₂ r) (hlo : lo' ≤ lo) (hs : s₁.rest <:+ s.rest) :
    SpanRead fid size lo' s s₂ r :=
  ⟨h.reading, h.suffix.trans hs, fun i hi => ⟨(h.result i hi).1, (h.result i hi).2.mono hlo (Nat.le_refl _)⟩⟩

/-- Steps that read on after a parse, with the same tree. -/
theorem SpanRead.then (h : SpanRead fid size lo s s₁ r) (hR : Reading fid size s₂) (hs : s₂.rest <:+ s₁.rest)
    (ht : s₂.tree = s₁.tree) : SpanRead fid size lo s s₂ r := by
  refine ⟨hR, hs.trans h.suffix, fun i hi => ?_⟩
  obtain ⟨hlt, hw⟩ := h.result i hi
  rw [ht]
  exact ⟨hlt, hw.mono (Nat.le_refl _) (h.reading.offset_le hR.terminated hs)⟩

/-- An identifier operand: the reference spans its token. -/
theorem operand_readsSpans {n : Nat} (he : ReadsSpans fid size (fun _ => True) (expr n)) :
    ReadsSpans fid size (fun _ => True) (operand (n + 1)) := by
  intro s hs _ hf
  obtain ⟨x, u, hrest⟩ := List.exists_cons_of_ne_nil hs.terminated.ne_nil
  have hl₁ := isAt_looked s .ident
  by_cases hx : x.kind = .ident
  · -- a reference: an identifier record for the token, then a reference to it
    have hi : (run (isAt .ident) s).1 = true := by simp [isAt_fst s hrest, hx]
    obtain ⟨htok, hr₂, -, hR₂, -⟩ := hs.of_advance hl₁ hrest (by simp [hx]) (by simp [hx])
    generalize hs₂ : run advance (run (isAt .ident) s).2 = r₂ at htok hr₂ hR₂
    obtain ⟨tok, s₂⟩ := r₂
    dsimp only at htok hr₂ hR₂
    subst htok
    obtain ⟨-, hex₃, hs₃⟩ := newIdentOf_spec s₂ tok none
    have hrec₃ := newIdentOf_record s₂ tok none
    have hfile₃ := newIdentOf_file s₂ tok none
    have hfr₃ := newIdentOf_frame s₂ tok none
    cases hv : (run (newIdentOf tok none) s₂).1 with
    | none =>
      -- no identifier only after a failure, which the end of the operand would keep
      have hf₃ := newIdentOf_failed s₂ tok none hv
      have hrun : run (operand (n + 1)) s = (none, (run (newIdentOf tok none) s₂).2) := by
        simp [operand, hi, hs₂, hv, onTree_run, Tree.newRef_failed _ hf₃]
      rw [hrun] at hf
      simp only at hf
      simp [hf] at hf₃
    | some v =>
      generalize hs₃' : (run (newIdentOf tok none) s₂).2 = s₃ at hex₃ hs₃ hrec₃ hfile₃ hfr₃
      have hrun : run (operand (n + 1)) s = run (onTree (Tree.newRef (some v))) s₃ := by
        simp [operand, hi, hs₂, hv, hs₃']
      rw [hrun, onTree_run, Tree.newRef_eq] at hf ⊢
      have hf₃ := (Tree.pushExpr_spec s₃.tree _).1.sticky hf
      obtain ⟨hv', -, -, -⟩ := hs₃ hf₃
      rw [hv] at hv'
      cases hv'
      -- the identifier spans its token, in the file
      have hsp : (s₃.tree.ident s₂.tree.idents.size).span = { tok.span with file := fid } := by
        rw [(hrec₃ hf₃).2.2 rfl, hR₂.file]
      have hr₃ : s₃.rest = u := by rw [hfr₃]; exact hr₂
      have hR₃ : Reading fid size s₃ := by
        rw [hfr₃]
        exact hR₂.of_exprs hfile₃ hex₃
      obtain ⟨hR₄, hres, hlt, hspan⟩ := hR₃.pushExpr (.ref _ _) hf (by simp [Expr.span, hsp]) trivial
      -- the reference spans its token, which was the current one
      have hw : Span.Within { tok.span with file := fid } s.offset s₃.offset :=
        ⟨Nat.le_of_eq (offset_of_rest hrest), hs.token_le hrest,
          hs.stop_le_offset hrest hR₃.terminated (by simp only [hr₃, List.suffix_refl])⟩
      have hsuf : s₃.rest <:+ s.rest := by rw [hr₃, hrest]; exact List.suffix_cons _ _
      refine ⟨hR₄, hsuf, fun i hi => ?_⟩
      rw [hres] at hi
      cases hi
      rw [hspan]
      exact ⟨hlt, hsp ▸ hw⟩
  · have hi : (run (isAt .ident) s).1 = false := by simp [isAt_fst s hrest, hx]
    generalize hs₁ : (run (isAt .ident) s).2 = s₁ at hl₁
    by_cases hlp : x.kind = .lparen
    · -- a parenthesized expression: it spans what the parentheses hold
      obtain ⟨-, -, -, hR₂, hsuf₂⟩ := hs.of_advance (hl₁.trans (peek_looked s₁)) hrest
        (by simp [hlp]) (by simp [hlp])
      have hexp : run (expect .lparen DiagCode.expectExpression "expected identifier or '('") s₁ =
          (some x, (run advance (run peek s₁).2).2) := by
        rw [expect_run, hl₁.cur, s.cur_of_rest hrest, if_pos hlp]
      generalize hs₂ : (run advance (run peek s₁).2).2 = s₂ at hR₂ hsuf₂ hexp
      have hlo := hs.offset_le hR₂.terminated hsuf₂
      have hre := he s₂ hR₂ trivial
      cases hin : (run (expr n) s₂).1 with
      | none =>
        have hrun : run (operand (n + 1)) s = (none, (run (expr n) s₂).2) := by
          simp [operand, hi, hs₁, hexp, hin]
        rw [hrun] at hf ⊢
        exact SpanRead.nothing (hre hf).reading ((hre hf).suffix.trans hsuf₂)
      | some inner =>
        generalize hs₃ : (run (expr n) s₂).2 = s₃ at hre
        rw [hin] at hre
        have hl₄ := isAt_looked s₃ .rparen
        by_cases hc : (run (isAt .rparen) s₃).1 = true
        · -- the closing parenthesis
          have hrun : run (operand (n + 1)) s = (some inner, (run advance (run (isAt .rparen) s₃).2).2) := by
            simp [operand, hi, hs₁, hexp, hin, hs₃, hc]
          rw [hrun] at hf ⊢
          have hre := hre (by simpa [hl₄.tree] using hf)
          obtain ⟨ht₅, hs₅⟩ := advance_forward _ (hl₄.rest ▸ hre.reading.terminated)
          rw [hl₄.rest] at hs₅
          exact (hre.then (hre.reading.forward ht₅ hs₅ (by simp [hl₄.tree])) hs₅ (by simp [hl₄.tree])).widen
            hlo hsuf₂
        · -- no closing parenthesis: a syntax error
          have hrun : run (operand (n + 1)) s = (none, (run (fail DiagCode.unclosedParen "expected ')'"
              [⟨x.span, "parenthesis opened here"⟩]) (run (isAt .rparen) s₃).2).2) := by
            simp [operand, hi, hs₁, hexp, hin, hs₃, hc]
          rw [hrun] at hf ⊢
          have hre := hre (by simpa using hf)
          obtain ⟨hR₅, hs₅⟩ := hre.reading.of_fail hl₄ DiagCode.unclosedParen "expected ')'"
            [⟨x.span, "parenthesis opened here"⟩]
          exact SpanRead.nothing hR₅ (hs₅.trans (hre.suffix.trans hsuf₂))
    · -- neither an identifier nor a parenthesis: a syntax error
      have hexp : run (expect .lparen DiagCode.expectExpression "expected identifier or '('") s₁ =
          (none, (run (fail DiagCode.expectExpression "expected identifier or '('") (run peek s₁).2).2) := by
        rw [expect_run, hl₁.cur, s.cur_of_rest hrest, if_neg hlp]
      have hrun : run (operand (n + 1)) s = (none, (run (fail DiagCode.expectExpression
          "expected identifier or '('") (run peek s₁).2).2) := by
        simp [operand, hi, hs₁, hexp]
      rw [hrun]
      obtain ⟨hR₅, hs₅⟩ := hs.of_fail (hl₁.trans (peek_looked s₁)) DiagCode.expectExpression
        "expected identifier or '('" []
      exact SpanRead.nothing hR₅ hs₅

/-- Further operands: each application covers what came before, which spans from `lo`, and its
argument, read after it. -/
theorem operands_readsSpans {n : Nat} (hop : ReadsSpans fid size (fun _ => True) (operand n))
    (hrec : ReadsSpansOnto fid size (operands n)) : ReadsSpansOnto fid size (operands (n + 1)) := by
  intro s lo acc hs hacc hw hf
  have hl₁ := atOperand_looked s
  by_cases ha : (run atOperand s).1 = true
  · generalize hs₁ : (run atOperand s).2 = s₁ at hl₁
    have hro := hop s₁ (hs.looked hl₁) trivial
    have hadd₂ := ((parses n).2.2.1 s₁).adds
    cases harg : (run (operand n) s₁).1 with
    | none =>
      have hrun : run (operands (n + 1) (some acc)) s = (none, (run (operand n) s₁).2) := by
        simp [operands, hs₁, ha, harg]
      rw [hrun] at hf ⊢
      have h := hro hf
      exact .nothing h.reading (h.suffix.trans hl₁.suffix)
    | some arg =>
      generalize hs₂ : (run (operand n) s₁).2 = s₂ at hro hadd₂
      rw [harg] at hro
      have ha₃ := Tree.pushExpr_spec s₂.tree
        (.app acc arg ((s₂.tree.exprSpan acc).cover (s₂.tree.exprSpan arg)))
      have hrun : run (operands (n + 1) (some acc)) s =
          run (operands n (run (onTree (Tree.newApp (some acc) (some arg))) s₂).1)
            (run (onTree (Tree.newApp (some acc) (some arg))) s₂).2 := by
        simp [operands, hs₁, ha, harg, hs₂]
      rw [hrun, onTree_run, Tree.newApp_eq] at hf ⊢
      have hf₃ := operands_sticky n _ _ hf
      have hro := hro (ha₃.1.sticky hf₃)
      obtain ⟨hlt, hwa⟩ := hro.result arg rfl
      -- what came before is a kept record of the file, as is the argument
      have hadd : Tree.Adds s.tree s₂.tree := hl₁.tree ▸ hadd₂
      have hacc₂ : acc < s₂.tree.exprs.size := Nat.lt_of_lt_of_le hacc hadd.exprs_size
      have hfile : (s₂.tree.exprSpan acc).file = (s₂.tree.exprSpan arg).file := by
        rw [(hro.reading.nested acc hacc₂).1, (hro.reading.nested arg hlt).1]
      obtain ⟨hR₃, hres, hlt₃, hspan⟩ := hro.reading.pushExpr
        (.app acc arg ((s₂.tree.exprSpan acc).cover (s₂.tree.exprSpan arg))) hf₃
        (by simp only [Expr.span]; rw [Span.cover_of_file hfile]; exact (hro.reading.nested acc hacc₂).1)
        ⟨hacc₂, hlt, Span.contains_cover_left hfile, Span.contains_cover_right hfile⟩
      rw [hres] at hf ⊢
      have hsuf₂ : s₂.rest <:+ s.rest := hro.suffix.trans hl₁.suffix
      have hlo : lo ≤ s₁.offset := by
        rw [hl₁.offset]
        exact Nat.le_trans hw.1 (Nat.le_trans hw.2.1 hw.2.2)
      have hwacc : (s₂.tree.exprSpan acc).Within lo s₂.offset := by
        rw [hadd.exprSpan hacc]
        exact hw.mono (Nat.le_refl _) (hs.offset_le hro.reading.terminated hsuf₂)
      have hw₃ := hwacc.cover (hwa.mono hlo (Nat.le_refl _)) hfile
      simp only [Expr.span] at hspan
      rw [← hspan] at hw₃
      exact (hrec _ lo _ hR₃ hlt₃ hw₃ hf).widen (Nat.le_refl _) hsuf₂
  · -- no more operands: what came before is the result
    have hrun : run (operands (n + 1) (some acc)) s = (some (some acc), (run atOperand s).2) := by
      simp [operands, ha]
    rw [hrun]
    refine ⟨hs.looked hl₁, hl₁.suffix, fun i hi => ?_⟩
    simp only [Option.bind_some, id_eq, Option.some.injEq] at hi
    subst hi
    rw [hl₁.tree, hl₁.offset]
    exact ⟨hacc, hw⟩

/-- An application: its operands, then possibly an abstraction as the last argument. -/
theorem application_readsSpans {n : Nat} (hop : ReadsSpans fid size (fun _ => True) (operand n))
    (hops : ReadsSpansOnto fid size (operands n))
    (hab : ReadsSpans fid size (· = .lambda) (abstraction n)) :
    ReadsSpans fid size (fun _ => True) (application (n + 1)) := by
  intro s hs _ hf
  have hl₁ := atOperand_looked s
  by_cases ha : (run atOperand s).1 = true
  · generalize hs₁ : (run atOperand s).2 = s₁ at hl₁
    have hro := hop s₁ (hs.looked hl₁) trivial
    cases hfirst : (run (operand n) s₁).1 with
    | none =>
      have hrun : run (application (n + 1)) s = (none, (run (operand n) s₁).2) := by
        simp [application, hs₁, ha, hfirst]
      rw [hrun] at hf ⊢
      have h := hro hf
      exact .nothing h.reading (h.suffix.trans hl₁.suffix)
    | some first =>
      generalize hs₂ : (run (operand n) s₁).2 = s₂ at hro
      rw [hfirst] at hro
      -- the operands, once the tree is known not to fail after them
      have hmore : (run (operands n (some first)) s₂).2.tree.failure = none →
          SpanRead fid size s.offset s (run (operands n (some first)) s₂).2
            ((run (operands n (some first)) s₂).1.bind id) := by
        intro hf₃
        have hro := hro (operands_sticky n _ s₂ hf₃)
        obtain ⟨hlt, hw⟩ := hro.result first rfl
        rw [hl₁.offset] at hw
        exact (hops s₂ s.offset first hro.reading hlt hw hf₃).widen (Nat.le_refl _)
          (hro.suffix.trans hl₁.suffix)
      have hne := operands_after_first s₁ hfirst
      rw [hs₂] at hne
      cases he : (run (operands n (some first)) s₂).1 with
      | none =>
        have hrun : run (application (n + 1)) s = (none, (run (operands n (some first)) s₂).2) := by
          simp [application, hs₁, ha, hfirst, hs₂, he]
        rw [hrun] at hf ⊢
        have h := hmore hf
        exact .nothing h.reading h.suffix
      | some e =>
        generalize hs₃ : (run (operands n (some first)) s₂).2 = s₃ at hmore hne
        rw [he] at hmore hne
        have hl₄ := isAt_looked s₃ .lambda
        generalize hs₄ : (run (isAt .lambda) s₃).2 = s₄ at hl₄
        by_cases hlam : (run (isAt .lambda) s₃).1 = true
        · -- a trailing abstraction is the last argument
          have hpre : s₄.cur.kind = .lambda := by
            rw [hl₄.cur]
            simpa [isAt_run] using hlam
          have hadds := ((parses n).2.1 s₄).adds
          cases harg : (run (abstraction n) s₄).1 with
          | none =>
            have hrun : run (application (n + 1)) s = (none, (run (abstraction n) s₄).2) := by
              simp [application, hs₁, ha, hfirst, hs₂, he, hs₃, hs₄, hlam, harg]
            rw [hrun] at hf ⊢
            have hm := hmore (hl₄.tree ▸ hadds.sticky hf)
            have hb := hab s₄ (hm.reading.looked hl₄) hpre hf
            exact .nothing hb.reading (hb.suffix.trans (hl₄.suffix.trans hm.suffix))
          | some arg =>
            generalize hs₅ : (run (abstraction n) s₄).2 = s₅ at hadds
            have hrun : run (application (n + 1)) s = run (onTree (Tree.newApp e (some arg))) s₅ := by
              simp [application, hs₁, ha, hfirst, hs₂, he, hs₃, hs₄, hlam, harg, hs₅]
            rw [hrun, onTree_run] at hf ⊢
            have hf₅ := Tree.newApp_sticky _ e (some arg) hf
            have hf₃ : s₃.tree.failure = none := hl₄.tree ▸ hadds.sticky hf₅
            have hm := hmore hf₃
            -- the operands gave an application, since the tree did not fail
            obtain ⟨e, rfl⟩ : ∃ e', e = some e' := Option.ne_none_iff_exists'.mp fun h => hne hf₃ (h ▸ rfl)
            have ha₆ := Tree.pushExpr_spec s₅.tree
              (.app e arg ((s₅.tree.exprSpan e).cover (s₅.tree.exprSpan arg)))
            rw [Tree.newApp_eq] at hf ⊢
            obtain ⟨hlt₃, hw₃⟩ := hm.result e rfl
            have hb := hab s₄ (hm.reading.looked hl₄) hpre (hs₅ ▸ hf₅)
            rw [harg, hs₅] at hb
            obtain ⟨hltb, hwb⟩ := hb.result arg rfl
            -- the operands' record is kept, in the file, as is the abstraction's
            have hadd : Tree.Adds s₃.tree s₅.tree := hl₄.tree ▸ hadds
            have hlt₅ : e < s₅.tree.exprs.size := Nat.lt_of_lt_of_le hlt₃ hadd.exprs_size
            have hfile : (s₅.tree.exprSpan e).file = (s₅.tree.exprSpan arg).file := by
              rw [(hb.reading.nested e hlt₅).1, (hb.reading.nested arg hltb).1]
            obtain ⟨hR₆, hres, hlt₆, hspan⟩ := hb.reading.pushExpr
              (.app e arg ((s₅.tree.exprSpan e).cover (s₅.tree.exprSpan arg))) hf
              (by simp only [Expr.span]; rw [Span.cover_of_file hfile]; exact (hb.reading.nested e hlt₅).1)
              ⟨hlt₅, hltb, Span.contains_cover_left hfile, Span.contains_cover_right hfile⟩
            have hwe : (s₅.tree.exprSpan e).Within s.offset s₅.offset := by
              rw [hadd.exprSpan hlt₃]
              exact hw₃.mono (Nat.le_refl _)
                (hm.reading.offset_le hb.reading.terminated (hb.suffix.trans hl₄.suffix))
            have hwa : (s₅.tree.exprSpan arg).Within s.offset s₅.offset := by
              refine hwb.mono ?_ (Nat.le_refl _)
              rw [hl₄.offset]
              exact hs.offset_le hm.reading.terminated hm.suffix
            have hw₆ := hwe.cover hwa hfile
            simp only [Expr.span] at hspan
            rw [← hspan] at hw₆
            refine ⟨hR₆, hb.suffix.trans (hl₄.suffix.trans hm.suffix), fun i hi => ?_⟩
            rw [hres] at hi
            cases hi
            exact ⟨hlt₆, hw₆⟩
        · -- the operands are the whole application
          have hrun : run (application (n + 1)) s = (e, s₄) := by
            simp [application, hs₁, ha, hfirst, hs₂, he, hs₃, hlam, hs₄]
          rw [hrun] at hf ⊢
          have hm := hmore (hl₄.tree ▸ hf)
          exact hm.then (hm.reading.looked hl₄) hl₄.suffix hl₄.tree
  · -- no operand: a syntax error
    have hrun : run (application (n + 1)) s =
        (none, (run (fail DiagCode.expectExpression "expected expression") (run atOperand s).2).2) := by
      simp [application, ha]
    rw [hrun]
    obtain ⟨hR₅, hs₅⟩ := hs.of_fail hl₁ DiagCode.expectExpression "expected expression" []
    exact .nothing hR₅ hs₅

/-- An abstraction spans its `λ` and its body. -/
theorem abstraction_readsSpans {n : Nat} (he : ReadsSpans fid size (fun _ => True) (expr n)) :
    ReadsSpans fid size (· = .lambda) (abstraction (n + 1)) := by
  intro s hs hlam hf
  obtain ⟨x, u, hrest⟩ := List.exists_cons_of_ne_nil hs.terminated.ne_nil
  have hx : x.kind = .lambda := by simpa [s.cur_of_rest hrest] using hlam
  obtain ⟨htok, hr₁, -, hR₁, hsuf₁⟩ := hs.of_advance (.refl s) hrest (by simp [hx]) (by simp [hx])
  generalize hs₁ : run advance s = r₁ at htok hr₁ hR₁ hsuf₁
  obtain ⟨lam, s₁⟩ := r₁
  dsimp only at htok hr₁ hR₁ hsuf₁
  subst htok
  obtain ⟨hpt, hps⟩ := params_forward (n + 1) [] s₁ hR₁.terminated
  have hR₂ : Reading fid size (run (params (n + 1) []) s₁).2 := hR₁.forward hpt hps (params_tree _ _ _)
  cases hp : (run (params (n + 1) []) s₁).1 with
  | none =>
    have hrun : run (abstraction (n + 1)) s = (none, (run (params (n + 1) []) s₁).2) := by
      simp [abstraction, hs₁, hp]
    rw [hrun]
    exact .nothing hR₂ (hps.trans hsuf₁)
  | some ps =>
    generalize hs₂ : (run (params (n + 1) []) s₁).2 = s₂ at hR₂ hps
    have hpk := peek_looked s₂
    by_cases hclose : (run peek s₂).1.kind = .dot ∨ (run peek s₂).1.kind = .arrow
    · -- the closing mark, then the body
      have hk' : ¬(¬(run peek s₂).1.kind = .dot ∧ ¬(run peek s₂).1.kind = .arrow) :=
        fun h => hclose.elim h.1 h.2
      obtain ⟨ht₄, hs₄⟩ := advance_forward (run peek s₂).2 (hpk.rest ▸ hR₂.terminated)
      generalize hs₄' : (run advance (run peek s₂).2).2 = s₄ at ht₄ hs₄
      have hsuf₄ : s₄.rest <:+ s₁.rest := (hpk.rest ▸ hs₄).trans hps
      have hR₄ : Reading fid size s₄ := hR₂.forward ht₄ (hpk.rest ▸ hs₄) (by rw [← hs₄']; simp [hpk.tree])
      have hre := he s₄ hR₄ trivial
      cases hb : (run (expr n) s₄).1 with
      | none =>
        have hrun : run (abstraction (n + 1)) s = (none, (run (expr n) s₄).2) := by
          simp [abstraction, hs₁, hp, hs₂, hk', hs₄', hb]
        rw [hrun] at hf ⊢
        have h := hre hf
        exact .nothing h.reading (h.suffix.trans (hsuf₄.trans hsuf₁))
      | some body =>
        generalize hs₅ : (run (expr n) s₄).2 = s₅ at hre
        rw [hb] at hre
        obtain ⟨ha₆, hex₆, -⟩ := chainOf_spec ps.reverse none [] s₅ fun _ => rfl
        have hfr₆ := chainOf_frame ps.reverse none s₅
        have hfile₆ := chainOf_file ps.reverse none s₅
        cases hc : (run (chainOf ps.reverse none) s₅).1 with
        | none =>
          have hrun : run (abstraction (n + 1)) s = (none, (run (chainOf ps.reverse none) s₅).2) := by
            simp [abstraction, hs₁, hp, hs₂, hk', hs₄', hb, hs₅, hc]
          rw [hrun] at hf ⊢
          have h := hre (ha₆.sticky hf)
          exact .nothing (h.reading.of_frame hfr₆ hfile₆ hex₆)
            ((clean_of_frame hfr₆).2 ▸ h.suffix.trans (hsuf₄.trans hsuf₁))
        | some chain =>
          generalize hs₆ : (run (chainOf ps.reverse none) s₅).2 = s₆ at ha₆ hex₆ hfr₆ hfile₆
          have ha₇ := Tree.pushExpr_spec s₆.tree (.abs chain body
            { lam.span.cover (s₆.tree.exprSpan body) with file := s₆.tree.file })
          have hrun : run (abstraction (n + 1)) s = run (onTree (Tree.pushExpr (.abs chain body
              { lam.span.cover (s₆.tree.exprSpan body) with file := s₆.tree.file }))) s₆ := by
            simp [abstraction, hs₁, hp, hs₂, hk', hs₄', hb, hs₅, hc, hs₆, onTree_run, Tree.newAbs_eq]
          rw [hrun, onTree_run] at hf ⊢
          have hf₆ := ha₇.1.sticky hf
          have hre := hre (ha₆.sticky hf₆)
          obtain ⟨hltb, hwb⟩ := hre.result body rfl
          have hR₆ : Reading fid size s₆ := hre.reading.of_frame hfr₆ hfile₆ hex₆
          have hr₆ : s₆.rest = s₅.rest := (clean_of_frame hfr₆).2
          have hsuf₆ : s₆.rest <:+ s₁.rest := hr₆ ▸ hre.suffix.trans hsuf₄
          have hbody : s₆.tree.exprSpan body = s₅.tree.exprSpan body := by
            simp [Tree.exprSpan, Tree.expr, hex₆]
          -- the `λ` and the body are both of the file, so the span covers them
          have hlf : lam.span.file = fid := hs.token_file hrest
          have hbf : (s₆.tree.exprSpan body).file = fid := hbody ▸ (hre.reading.nested body hltb).1
          have hsp : { lam.span.cover (s₆.tree.exprSpan body) with file := s₆.tree.file } =
              lam.span.cover (s₆.tree.exprSpan body) := by
            rw [hR₆.file]
            exact Span.cover_file hlf hbf
          have hwl : lam.span.Within s.offset s₆.offset :=
            ⟨Nat.le_of_eq (offset_of_rest hrest), hs.token_le hrest,
              Nat.le_trans (hs.stop_le_offset hrest hR₁.terminated (by simp only [hr₁, List.suffix_refl]))
                (hR₁.offset_le hR₆.terminated hsuf₆)⟩
          have hwb₆ : (s₆.tree.exprSpan body).Within s.offset s₆.offset := by
            rw [hbody, ParseState.offset_of_rest_eq hr₆]
            exact hwb.mono (hs.offset_le hR₄.terminated (hsuf₄.trans hsuf₁)) (Nat.le_refl _)
          obtain ⟨hR₇, hres, hlt₇, hspan⟩ := hR₆.pushExpr (.abs chain body
              { lam.span.cover (s₆.tree.exprSpan body) with file := s₆.tree.file }) hf
            (by simp only [Expr.span]; rw [hR₆.file])
            ⟨hex₆ ▸ hltb, by rw [hsp]; exact Span.contains_cover_right (hlf.trans hbf.symm)⟩
          have hw₇ := hwl.cover hwb₆ (hlf.trans hbf.symm)
          simp only [Expr.span] at hspan
          rw [← hsp, ← hspan] at hw₇
          refine ⟨hR₇, hsuf₆.trans hsuf₁, fun i hi => ?_⟩
          rw [hres] at hi
          cases hi
          exact ⟨hlt₇, hw₇⟩
    · -- no closing mark: a syntax error
      have hk' : ¬(run peek s₂).1.kind = .dot ∧ ¬(run peek s₂).1.kind = .arrow := not_or.1 hclose
      have hrun : run (abstraction (n + 1)) s = (none, (run (fail DiagCode.expectParamsClose
          "expected '.' or '->' after parameters") (run peek s₂).2).2) := by
        simp [abstraction, hs₁, hp, hs₂, hk']
      rw [hrun]
      obtain ⟨hR₅, hs₅⟩ := hR₂.of_fail hpk DiagCode.expectParamsClose
        "expected '.' or '->' after parameters" []
      exact .nothing hR₅ (hs₅.trans (hps.trans hsuf₁))

theorem expr_readsSpans {n : Nat} (hab : ReadsSpans fid size (· = .lambda) (abstraction n))
    (hap : ReadsSpans fid size (fun _ => True) (application n)) :
    ReadsSpans fid size (fun _ => True) (expr (n + 1)) := by
  intro s hs _ hf
  have hl := isAt_looked s .lambda
  by_cases hlam : s.cur.kind = .lambda
  · have hrun : run (expr (n + 1)) s = run (abstraction n) (run (isAt .lambda) s).2 := by
      simp [expr, isAt_run, hlam]
    rw [hrun] at hf ⊢
    exact (hab _ (hs.looked hl) (by rw [hl.cur]; exact hlam) hf).widen (Nat.le_of_eq hl.offset.symm)
      hl.suffix
  · have hrun : run (expr (n + 1)) s = run (application n) (run (isAt .lambda) s).2 := by
      simp [expr, isAt_run, hlam]
    rw [hrun] at hf ⊢
    exact (hap _ (hs.looked hl) trivial hf).widen (Nat.le_of_eq hl.offset.symm) hl.suffix

/-- Every expression parser reads spans, whatever its fuel. By induction on the fuel, as each
parser calls the others with less. -/
theorem readsSpans : ∀ n, ReadsSpans fid size (fun _ => True) (expr n) ∧
    ReadsSpans fid size (· = .lambda) (abstraction n) ∧ ReadsSpans fid size (fun _ => True) (operand n) ∧
    ReadsSpansOnto fid size (operands n) ∧ ReadsSpans fid size (fun _ => True) (application n)
  | 0 => ⟨fun s hs _ _ => by simpa [expr] using SpanRead.nothing hs (List.suffix_refl s.rest),
      fun s hs _ _ => by simpa [abstraction] using SpanRead.nothing hs (List.suffix_refl s.rest),
      fun s hs _ _ => by simpa [operand] using SpanRead.nothing hs (List.suffix_refl s.rest),
      fun s _ _ hs _ _ _ => by simpa [operands] using SpanRead.nothing hs (List.suffix_refl s.rest),
      fun s hs _ _ => by simpa [application] using SpanRead.nothing hs (List.suffix_refl s.rest)⟩
  | n + 1 =>
    have ⟨he, hab, hop, hops, hap⟩ := readsSpans n
    ⟨expr_readsSpans hab hap, abstraction_readsSpans he, operand_readsSpans he,
      operands_readsSpans hop hops, application_readsSpans hop hops hab⟩

end Expressions

/-! ### Statements -/

section Statements

variable (fid size : Nat)

/-- A statement parse from `s` to `s'` with result `r`, of a statement whose first token starts
at `lo`: it keeps reading, reads on, and a result is a checked statement record spanning from
`lo` to where it stopped. -/
structure StmtRead (lo : Nat) (s s' : ParseState) (r : Option Nat) : Prop where
  reading : Reading fid size s'
  suffix : s'.rest <:+ s.rest
  result : ∀ j, r = some j → j < s'.tree.stmts.size ∧ Tree.StmtChecked fid size s'.tree j ∧
    lo ≤ (s'.tree.stmt j).span.start ∧ (s'.tree.stmt j).span.stop ≤ s'.offset

variable {fid size} {lo : Nat} {s s₁ : ParseState}

theorem StmtRead.nothing (h : Reading fid size s₁) (hs : s₁.rest <:+ s.rest) :
    StmtRead fid size lo s s₁ none :=
  ⟨h, hs, fun _ h => nomatch h⟩

/-- A statement's tail: its record spans from `start`, a span of the file at or before the name
token, to its `;`, and holds its name and its expression. -/
theorem stmtTail_readsSpans (fuel : Nat) (start : Span) (s : ParseState) (hs : Reading fid size s)
    (hfile : start.file = fid) (hlo : start.start ≤ s.cur.span.start)
    (hhi : start.stop ≤ s.cur.span.stop) (hf : (run (stmtTail fuel start) s).2.tree.failure = none) :
    StmtRead fid size start.start s (run (stmtTail fuel start) s).2 (run (stmtTail fuel start) s).1 := by
  obtain ⟨x, u, hrest⟩ := List.exists_cons_of_ne_nil hs.terminated.ne_nil
  rw [s.cur_of_rest hrest] at hlo hhi
  have hp := peek_looked s
  by_cases hx : x.kind = .ident
  · -- the name
    obtain ⟨-, hr₁, -, hR₁, hsuf₁⟩ := hs.of_advance hp hrest (by simp [hx]) (by simp [hx])
    generalize hs₁ : (run advance (run peek s).2).2 = s₁ at hr₁ hR₁ hsuf₁
    have hexp : run (expect .ident DiagCode.expectIdentifier "expected identifier to bind") s =
        (some x, s₁) := by
      rw [expect_run, if_pos (by rw [s.cur_of_rest hrest, hx]), s.cur_of_rest hrest, hs₁]
    obtain ⟨ha₂, hex₂, hname⟩ := newIdentOf_spec s₁ x none
    have hrec₂ := newIdentOf_record s₁ x none
    have hfile₂ := newIdentOf_file s₁ x none
    have hfr₂ := newIdentOf_frame s₁ x none
    generalize hn₂ : run (newIdentOf x none) s₁ = r₂ at ha₂ hex₂ hname hrec₂ hfile₂ hfr₂
    obtain ⟨name, s₂⟩ := r₂
    dsimp only at ha₂ hex₂ hname hrec₂ hfile₂ hfr₂
    have hR₂ : Reading fid size s₂ := hR₁.of_frame hfr₂ hfile₂ hex₂
    have hu₂ : s₂.rest = u := by rw [(clean_of_frame hfr₂).2, hr₁]
    have hsuf₂ : s₂.rest <:+ s.rest := (clean_of_frame hfr₂).2 ▸ hsuf₁
    obtain ⟨y, u', hu'⟩ := List.exists_cons_of_ne_nil (hr₁ ▸ hR₁.terminated.ne_nil)
    have hp₂ := peek_looked s₂
    by_cases hy : y.kind = .assign
    · -- `=`, then the expression
      obtain ⟨-, -, ht₃, hR₃, hsuf₃⟩ := hR₂.of_advance hp₂ (hu₂.trans hu') (by simp [hy]) (by simp [hy])
      generalize hs₃ : (run advance (run peek s₂).2).2 = s₃ at ht₃ hR₃ hsuf₃
      have hexp₃ : run (expect .assign DiagCode.expectAssign ("expected '=' after " ++ x.textString)) s₂ =
          (some y, s₃) := by
        rw [expect_run, if_pos (by rw [s₂.cur_of_rest (hu₂.trans hu'), hy]),
          s₂.cur_of_rest (hu₂.trans hu'), hs₃]
      have hre := (readsSpans fuel).1 s₃ hR₃ trivial
      cases he : (run (expr fuel) s₃).1 with
      | none =>
        have hrun : run (stmtTail fuel start) s = (none, (run (expr fuel) s₃).2) := by
          simp [stmtTail, hexp, hn₂, hexp₃, he]
        rw [hrun] at hf ⊢
        have h := hre hf
        exact .nothing h.reading (h.suffix.trans (hsuf₃.trans hsuf₂))
      | some e =>
        have ha₄ := ((parses fuel).1 s₃).adds
        generalize hs₄ : (run (expr fuel) s₃).2 = s₄ at hre ha₄
        rw [he] at hre
        have hp₄ := peek_looked s₄
        by_cases hz : s₄.cur.kind = .semicolon
        · -- `;`, then the statement record
          have hexp₅ : run (expect .semicolon DiagCode.expectSemicolon "expected ';' after expression") s₄ =
              (some s₄.cur, (run advance (run peek s₄).2).2) := by
            rw [expect_run, if_pos hz]
          generalize hs₅ : (run advance (run peek s₄).2).2 = s₅ at hexp₅
          have ht₅ : s₅.tree = s₄.tree := by rw [← hs₅]; simp [hp₄.tree]
          by_cases hfail : s₅.tree.failure.isSome
          · have hrun : run (stmtTail fuel start) s = (none, s₅) := by
              simp [stmtTail, hexp, hn₂, hexp₃, he, hs₄, hexp₅, onTree_run, Tree.newStmt_failed _ hfail]
            rw [hrun] at hf
            simp only at hf
            simp [hf] at hfail
          · have hf₅ : s₅.tree.failure = none := by simpa using hfail
            have hre := hre (ht₅ ▸ hf₅)
            obtain ⟨hlt, hwe⟩ := hre.result e rfl
            obtain ⟨z, w, hzw⟩ := List.exists_cons_of_ne_nil hre.reading.terminated.ne_nil
            have hz' : z.kind = .semicolon := by rwa [s₄.cur_of_rest hzw] at hz
            obtain ⟨-, hr₅, -, hR₅, hsuf₅⟩ := hre.reading.of_advance hp₄ hzw (by simp [hz']) (by simp [hz'])
            rw [hs₅] at hr₅ hR₅ hsuf₅
            -- the name's identifier record, which spans the name token
            have hf₂ : s₂.tree.failure = none := ht₃ ▸ ha₄.sticky (ht₅ ▸ hf₅)
            obtain ⟨hv, -, -, hsize₂⟩ := hname hf₂
            have hid := (hrec₂ hf₂).2.2 rfl
            rw [hR₁.file] at hid
            subst hv
            have hrun : run (stmtTail fuel start) s = run (onTree (Tree.newStmt (some s₁.tree.idents.size)
                (some e) (start.cover s₄.cur.span))) s₅ := by
              simp [stmtTail, hexp, hn₂, hexp₃, he, hs₄, hexp₅]
            rw [hrun, onTree_run, s₄.cur_of_rest hzw] at hf ⊢
            obtain ⟨a, hst⟩ := Tree.newStmt_clean s₅.tree _ e _ hf
            rw [hst]
            refine ⟨hR₅.of_exprs rfl rfl, hsuf₅.trans (hre.suffix.trans (hsuf₃.trans hsuf₂)),
              fun j hj => ?_⟩
            simp only [Option.some.injEq] at hj
            subst hj
            -- where each piece lies: the name, then the expression, then the `;`
            have hxz : x.span.stop ≤ s₂.offset := hs.stop_le_offset hrest hR₂.terminated (hu₂ ▸ List.suffix_refl _)
            have h₂₃ : s₂.offset ≤ s₃.offset := hR₂.offset_le hR₃.terminated hsuf₃
            have h₄ : s₄.offset = z.span.start := offset_of_rest hzw
            have hzs : z.span.start < z.span.stop :=
              hre.reading.laid.nonempty z (by rw [hzw]; exact List.mem_cons_self) (by simp [hz'])
            have hz₅ : z.span.stop ≤ s₅.offset :=
              hre.reading.stop_le_offset hzw hR₅.terminated (hr₅ ▸ List.suffix_refl _)
            have hzin : z.span.stop ≤ size := hre.reading.laid.inside z (by rw [hzw]; exact List.mem_cons_self)
            have hxin : x.span.stop ≤ size := hs.laid.inside x (by rw [hrest]; exact List.mem_cons_self)
            have hxle := hs.token_le hrest
            have hzf := hre.reading.token_file hzw
            have hef : (s₄.tree.exprSpan e).file = fid := (hre.reading.nested e hlt).1
            have hcov := Span.cover_of_file (hfile.trans hzf.symm)
            have hidents : s₁.tree.idents.size < s₄.tree.idents.size := by
              have := ha₄.idents_size
              rw [ht₃] at this
              omega
            have hid₄ : s₄.tree.ident s₁.tree.idents.size = s₂.tree.ident s₁.tree.idents.size := by
              obtain ⟨b, hb⟩ := ha₄.idents
              rw [ht₃] at hb
              simp only [Tree.ident, hb, Tree.getD_append_left _ (by omega : s₁.tree.idents.size < s₂.tree.idents.size)]
            obtain ⟨he₁, he₂, he₃⟩ := hwe
            refine ⟨by simp, Tree.StmtChecked.of_record (t := s₄.tree) ⟨s₁.tree.idents.size, e, none,
                { start.cover z.span with file := s₅.tree.file }, none⟩ (by simp [Tree.stmt]) (by simp [ht₅])
              (by simp [ht₅]) ?_ (by simp [hR₅.file]) ?_ ?_ hidents hlt ?_, ?_, ?_⟩ <;>
              simp only [hcov, hR₅.file, hef, Span.contains_iff, hid₄, hid, true_and, Tree.stmt,
                Array.getElem?_push_size, Option.getD_some, ParseState.offset_tree] <;>
              omega
        · -- no `;`: a syntax error
          have hrun : run (stmtTail fuel start) s = (none, (run (fail DiagCode.expectSemicolon
              "expected ';' after expression") (run peek s₄).2).2) := by
            simp [stmtTail, hexp, hn₂, hexp₃, he, hs₄, expect_run, hz]
          rw [hrun] at hf ⊢
          have hre := hre (by simpa [hp₄.tree] using hf)
          obtain ⟨hR₆, hs₆⟩ := hre.reading.of_fail hp₄ DiagCode.expectSemicolon
            "expected ';' after expression" []
          exact .nothing hR₆ (hs₆.trans (hre.suffix.trans (hsuf₃.trans hsuf₂)))
    · -- no `=`: a syntax error
      have hrun : run (stmtTail fuel start) s = (none, (run (fail DiagCode.expectAssign
          ("expected '=' after " ++ x.textString)) (run peek s₂).2).2) := by
        simp [stmtTail, hexp, hn₂, expect_run, s₂.cur_of_rest (hu₂.trans hu'), hy]
      rw [hrun]
      obtain ⟨hR₆, hs₆⟩ := hR₂.of_fail hp₂ DiagCode.expectAssign ("expected '=' after " ++ x.textString) []
      exact .nothing hR₆ (hs₆.trans hsuf₂)
  · -- no name: a syntax error
    have hrun : run (stmtTail fuel start) s = (none, (run (fail DiagCode.expectIdentifier
        "expected identifier to bind") (run peek s).2).2) := by
      simp [stmtTail, expect_run, s.cur_of_rest hrest, hx]
    rw [hrun]
    obtain ⟨hR₆, hs₆⟩ := hs.of_fail hp DiagCode.expectIdentifier "expected identifier to bind" []
    exact .nothing hR₆ hs₆

/-- A statement, with or without `let`, spans from its first token to its `;`. -/
theorem stmt_readsSpans (fuel : Nat) (s : ParseState) (hs : Reading fid size s)
    (hf : (run (stmt fuel) s).2.tree.failure = none) :
    StmtRead fid size s.offset s (run (stmt fuel) s).2 (run (stmt fuel) s).1 := by
  obtain ⟨x, u, hrest⟩ := List.exists_cons_of_ne_nil hs.terminated.ne_nil
  have hl := (peek_looked s).trans (isAt_looked (run peek s).2 .kwLet)
  have hcur := s.cur_of_rest hrest
  have hxf : s.cur.span.file = fid := by rw [hcur]; exact hs.token_file hrest
  rw [stmt_run] at hf ⊢
  by_cases hk : s.cur.kind = .kwLet
  · -- the `let` starts the statement, and the name comes after it
    have hx : x.kind = .kwLet := by rwa [hcur] at hk
    rw [if_pos hk] at hf ⊢
    obtain ⟨-, hr₁, -, hR₁, hsuf₁⟩ := hs.of_advance hl hrest (by simp [hx]) (by simp [hx])
    generalize hs₁ : (run advance (run (isAt .kwLet) (run peek s).2).2).2 = s₁ at hr₁ hR₁ hsuf₁ hf ⊢
    obtain ⟨y, v, hy⟩ := List.exists_cons_of_ne_nil hR₁.terminated.ne_nil
    have hxy : x.span.stop ≤ s₁.offset :=
      hs.stop_le_offset hrest hR₁.terminated (by simp only [hr₁, List.suffix_refl])
    have hx₁ := hs.token_le hrest
    have hy₁ := hR₁.token_le hy
    rw [offset_of_rest hy] at hxy
    have h := stmtTail_readsSpans fuel s.cur.span s₁ hR₁ hxf
      (by rw [hcur, s₁.cur_of_rest hy]; omega) (by rw [hcur, s₁.cur_of_rest hy]; omega) hf
    exact ⟨h.reading, h.suffix.trans hsuf₁, h.result⟩
  · rw [if_neg hk] at hf ⊢
    have h := stmtTail_readsSpans fuel s.cur.span _ (hs.looked hl) hxf (Nat.le_of_eq (by rw [hl.cur]))
      (Nat.le_of_eq (by rw [hl.cur])) hf
    exact ⟨h.reading, h.suffix.trans hl.suffix, h.result⟩

/-- The statement loop keeps its statements checked, in order and before where the parse
stands. A failed statement adds no record, and resynchronization only reads on. By induction
on the fuel. -/
theorem stmts_readsSpans : ∀ (n : Nat) (acc : List Nat) (s : ParseState), Reading fid size s →
    Tree.StmtsChecked fid size s.tree acc s.offset → (run (stmts n acc) s).2.tree.failure = none →
    Reading fid size (run (stmts n acc) s).2 ∧
      Tree.StmtsChecked fid size (run (stmts n acc) s).2.tree (run (stmts n acc) s).1
        (run (stmts n acc) s).2.offset
  | 0, _, _, hs, hc, _ => ⟨hs, hc⟩
  | n + 1, acc, s, hs, hc, hf => by
    have hl₁ := isAt_looked s .eof
    have hc₁ : Tree.StmtsChecked fid size (run (isAt .eof) s).2.tree acc (run (isAt .eof) s).2.offset := by
      rw [hl₁.tree, hl₁.offset]
      exact hc
    by_cases he : (run (isAt .eof) s).1 = true
    · have hrun : run (stmts (n + 1) acc) s = (acc, (run (isAt .eof) s).2) := by simp [stmts, he]
      rw [hrun]
      exact ⟨hs.looked hl₁, hc₁⟩
    generalize hs₁ : (run (isAt .eof) s).2 = s₁ at hl₁ hc₁
    have hR₁ := hs.looked hl₁
    by_cases hstop : (s₁.maxErrors > 0 ∧ s₁.errors ≥ s₁.maxErrors) ∨ s₁.tree.failure.isSome
    · have hrun : run (stmts (n + 1) acc) s = (acc, s₁) := by simp [stmts, he, hs₁, hstop]
      rw [hrun]
      exact ⟨hR₁, hc₁⟩
    have hadd := (stmt_spec (4 * s₁.tokens.size + 4) s₁).adds
    cases hst : (run (stmt (4 * s₁.tokens.size + 4)) s₁).1 with
    | some j =>
      -- the new statement comes after the others
      have hrun : run (stmts (n + 1) acc) s =
          run (stmts n (acc ++ [j])) (run (stmt (4 * s₁.tokens.size + 4)) s₁).2 := by
        simp [stmts, he, hs₁, hstop, hst]
      rw [hrun] at hf ⊢
      have h := stmt_readsSpans _ s₁ hR₁ ((stmts_adds n _ _).sticky hf)
      obtain ⟨hj, hcj, hlo, hhi⟩ := h.result j hst
      exact stmts_readsSpans n _ _ h.reading ((hc₁.grow hadd (Nat.le_refl _)).snoc hj hcj hlo hhi) hf
    | none =>
      -- a failed statement, then what resynchronization skips
      have hrun : run (stmts (n + 1) acc) s = run (stmts n acc)
          (run (resync (s₁.tokens.size + 1)) (run (stmt (4 * s₁.tokens.size + 4)) s₁).2).2 := by
        simp [stmts, he, hs₁, hstop, hst]
      rw [hrun] at hf ⊢
      have h := stmt_readsSpans _ s₁ hR₁ ((resync_tree _ _) ▸ (stmts_adds n _ _).sticky hf)
      obtain ⟨ht₃, hs₃⟩ := resync_forward (s₁.tokens.size + 1) _ h.reading.terminated
      have hR₃ := h.reading.forward ht₃ hs₃ (resync_tree _ _)
      have hadd₃ : Tree.Adds s₁.tree
          (run (resync (s₁.tokens.size + 1)) (run (stmt (4 * s₁.tokens.size + 4)) s₁).2).2.tree := by
        rw [resync_tree]
        exact hadd
      exact stmts_readsSpans n acc _ hR₃
        (hc₁.grow hadd₃ (hR₁.offset_le hR₃.terminated (hs₃.trans h.suffix))) hf

end Statements

end Parser

/-! ### Files -/

/-- A program the parser returns passes the span check against its file: each statement spans
at least one byte inside the file after the one before, and holds its name and expression,
each application covering its operands and each abstraction its body. -/
theorem parseFile_checkSpans (file : SourceFile) (tree : Tree) (rep : Reporter) (maxErrors : Nat)
    (hfile : tree.file = file.id) (hnested : tree.Nested file.id) {p : Nat}
    (hp : (parseFile file tree rep maxErrors).1.program = some p) :
    (parseFile file tree rep maxErrors).2.1.checkSpans p file.id file.content.size = .ok () := by
  obtain ⟨s₀, hs₀⟩ : ∃ s₀ : ParseState,
      s₀ = ⟨file, file.tokens.toArray, 0, 0, ⟨file.id, 0, 0⟩, false, 0, maxErrors, rep, tree⟩ := ⟨_, rfl⟩
  have hrest₀ : s₀.rest = file.tokens := by simp [hs₀, ParseState.rest]
  have hR₀ : Parser.Reading file.id file.content.size s₀ :=
    ⟨hrest₀ ▸ file.tokens_terminated, hrest₀ ▸ file.tokens_laid, by rw [hs₀]; exact hfile,
      by rw [hs₀]; exact hnested⟩
  obtain ⟨-, hs⟩ := Parser.stmts_spec (file.tokens.toArray.size + 1) [] s₀
    fun _ => ⟨List.nodup_nil, by simp, fun _ => default, by simp, by simp, by simp, by simp⟩
  have hread := Parser.stmts_readsSpans (file.tokens.toArray.size + 1) [] s₀ hR₀
    (Tree.StmtsChecked.nil _ _)
  rw [parseFile_eq, ← hs₀] at hp ⊢
  generalize run (Parser.stmts (file.tokens.toArray.size + 1) []) s₀ = r at hs hread hp ⊢
  obtain ⟨ss, s₁⟩ := r
  -- the program is added only when the tree did not fail
  by_cases hf : s₁.tree.failure.isSome
  · simp only [if_pos hf] at hp
    cases hp
  · simp only [if_neg hf] at hp ⊢
    have hf₁ : s₁.tree.failure = none := by simpa using hf
    obtain ⟨hR, hc⟩ := hread hf₁
    -- the program record links the statements and keeps every other record as it was
    obtain ⟨-, -, -, hst, htok, hid, hex⟩ := Tree.newProgram_spec s₁.tree file.path ss hp
    obtain ⟨st, hl, hsz, hj⟩ := Tree.link_eq ss s₁.tree
    have hc' : Tree.StmtsChecked file.id file.content.size (run (Tree.newProgram file.path ss) s₁.tree).2
        ss s₁.offset :=
      hc.keep ⟨⟨#[], by simp [htok]⟩, ⟨#[], by simp [hid]⟩, ⟨#[], by simp [hex]⟩⟩
        (fun j _ => by
          obtain ⟨n, hn⟩ := hj j
          exact ⟨n, by simp [Tree.stmt, hst, hl, hn]⟩)
        (by simp [hst, hl, hsz]) (Nat.le_refl _)
    rw [Tree.checkSpans, (hs hf₁).programStmts file.path hp]
    exact (hR.nested.of_exprs hex).spanStmts ss 0 0 (fun j hj => (hc'.stmt j hj).2) hc'.ordered
      fun _ _ => Nat.zero_le _

theorem parseFile_checkSpans_pair :
    freshTree.file = (textFile "i = λx.x;\nk = λx y.x y;\n").id ∧ freshTree.Nested (textFile "i = λx.x;\nk = λx y.x y;\n").id ∧
      (parseFile (textFile "i = λx.x;\nk = λx y.x y;\n") freshTree Reporter.none 0).1.program = some 0 ∧
      (parseFile (textFile "i = λx.x;\nk = λx y.x y;\n") freshTree Reporter.none 0).2.1.checkSpans 0 (textFile "i = λx.x;\nk = λx y.x y;\n").id
        (textFile "i = λx.x;\nk = λx y.x y;\n").content.size = .ok () :=
  have hfile : freshTree.file = (textFile "i = λx.x;\nk = λx y.x y;\n").id := by decide +kernel
  have hempty : freshTree.exprs.size = 0 := by decide +kernel
  have hnested : freshTree.Nested (textFile "i = λx.x;\nk = λx y.x y;\n").id := fun i hi => absurd (hempty ▸ hi) (Nat.not_lt_zero i)
  have hp : (parseFile (textFile "i = λx.x;\nk = λx y.x y;\n") freshTree Reporter.none 0).1.program = some 0 := by decide +kernel
  ⟨hfile, hnested, hp, parseFile_checkSpans (textFile "i = λx.x;\nk = λx y.x y;\n") freshTree Reporter.none 0 hfile hnested hp⟩

end Combinatory
