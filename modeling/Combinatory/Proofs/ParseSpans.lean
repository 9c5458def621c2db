import Combinatory.Proofs.Decode

/-! What the parser keeps of a tree: a property of trees that each tree operation keeps holds
of the tree a parse leaves (`parseFile_keeps`), so identifiers span their tokens after a parse
(`parseFile_spansTokens`). -/
namespace Combinatory

open Pass

namespace Tree

variable {t t' : Tree}

/-- Adding tokens and identifiers in the tree's own file keeps every old identifier as it was;
the new ones are checked one by one. -/
theorem SpansTokens.grow (h : t.SpansTokens) (hg : Grows t t') (hfile : t'.file = t.file)
    (hnew : ∀ v, t.idents.size ≤ v → v < t'.idents.size → t'.Spanned v) : t'.SpansTokens := by
  intro v hv
  by_cases hold : v < t.idents.size
  · obtain ⟨⟨toks,htoks⟩,⟨ids,hids⟩,-⟩ := hg
    obtain ⟨hlt,hf,hsp⟩ := h v hold
    have hid : t'.ident v = t.ident v := by simp only [ident,hids,getD_append_left _ hold]
    have htok : t'.token (t.ident v).token = t.token (t.ident v).token := by
      simp only [token,htoks,getD_append_left _ hlt]
    refine ⟨?_,?_,?_⟩ <;> rw [hid]
    · rw [htoks,Array.size_append]
      omega
    · rw [htok,hfile]
      exact hf
    · rw [htok]
      exact hsp
  · exact hnew v (Nat.le_of_not_lt hold) hv

theorem SpansTokens.of_idents (h : t.SpansTokens) (hg : Grows t t') (hfile : t'.file = t.file)
    (hids : t'.idents = t.idents) : t'.SpansTokens :=
  h.grow hg hfile fun _ _ hv => absurd hv (by rw [hids]; omega)

section Ops

variable (t)

@[simp] theorem pushExpr_idents (e : Expr) : (run (pushExpr e) t).2.idents = t.idents := by
  obtain ⟨a,f,h,-⟩ := charge_spec t exprSize
  cases hc : (run (charge exprSize) t).1 <;> simp [pushExpr,hc,h]

@[simp] theorem newStmt_idents (v e : Nat) (span : Span) :
    (run (newStmt (some v) (some e) span) t).2.idents = t.idents := by
  obtain ⟨a,f,h,-⟩ := charge_spec t stmtSize
  by_cases hf : t.failure.isSome
  · simp [newStmt,hf]
  · cases hc : (run (charge stmtSize) t).1 <;> simp [newStmt,hf,h,hc]

/-- The program record changes no token, identifier or expression, whether or not it is
added. -/
theorem newProgram_records (filename : String) (ss : List Nat) :
    (run (newProgram filename ss) t).2.file = t.file ∧
      (run (newProgram filename ss) t).2.tokens = t.tokens ∧
      (run (newProgram filename ss) t).2.idents = t.idents ∧
      (run (newProgram filename ss) t).2.exprs = t.exprs := by
  obtain ⟨st,hl,-,-⟩ := link_eq ss t
  by_cases hf : t.failure.isSome
  · simp [newProgram,hf]
  · obtain ⟨a,f,hrun,-⟩ := chargeString_spec (t.link ss) filename
    obtain ⟨a',f',hrun',-,-⟩ := charge_spec { t.link ss with arena := a, failure := f } programSize
    cases hc : (run (charge programSize) { t.link ss with arena := a, failure := f }).1
    · have h : run (newProgram filename ss) t = (none, { t.link ss with arena := a', failure := f' }) := by
        simp only [newProgram,run_bind,run_get,hf,Bool.false_eq_true,if_false,run_set,hrun,hrun',hc]
        rfl
      simp [h,hl]
    · simp only [newProgram,run_bind,run_get,hf,Bool.false_eq_true,if_false,run_set,hrun,hrun',hc]
      simp [hl]

/-- An identifier record that is not added leaves the identifiers as they were. -/
theorem newIdent_idents_of_failed {tok : Nat} {next : Option Nat}
    (hf : (run (newIdent tok next) t).2.failure ≠ none) : (run (newIdent tok next) t).2.idents = t.idents := by
  by_cases ht : t.failure.isSome
  · simp [newIdent,ht]
  · obtain ⟨a,f,hrun,hok,-⟩ := charge_spec t identSize
    cases hc : (run (charge identSize) t).1
    · simp [newIdent,ht,hrun,hc]
    · -- the charge succeeded, so the identifier was added and the tree did not fail
      exfalso
      apply hf
      simp [newIdent,ht,hrun,hc,hok.1 hc]

/-- A token record that is added is a record of the tree's file. -/
theorem newToken_spanned (lexeme : String) (row col endCol : Nat) (span : Span) (k : Nat)
    (hk : (run (newToken lexeme row col endCol span) t).1 = some k) :
    k < (run (newToken lexeme row col endCol span) t).2.tokens.size ∧
      ((run (newToken lexeme row col endCol span) t).2.token k).span.file =
        (run (newToken lexeme row col endCol span) t).2.file := by
  obtain ⟨-,-,-,-,hs⟩ := newToken_spec t lexeme row col endCol span
  obtain ⟨a,h⟩ := newToken_ok t lexeme row col endCol span (hs k hk).1
  rw [h] at hk ⊢
  cases hk
  simp [token]

end Ops

/-! ### The tree operations keep the identifiers spanning their tokens -/

theorem newToken_spansTokens (h : t.SpansTokens) (lexeme : String) (row col endCol : Nat)
    (span : Span) : (run (newToken lexeme row col endCol span) t).2.SpansTokens := by
  obtain ⟨ha,hid,-⟩ := newToken_spec t lexeme row col endCol span
  exact h.of_idents ha.grows (newToken_file t lexeme row col endCol span) hid

/-- An identifier for a token of the tree's file spans that token when it ends its chain. -/
theorem newIdent_spansTokens (h : t.SpansTokens) {tok : Nat} (next : Option Nat)
    (htok : tok < t.tokens.size) (hfile : (t.token tok).span.file = t.file) :
    (run (newIdent tok next) t).2.SpansTokens := by
  obtain ⟨ha,-⟩ := newIdent_spec t tok next
  by_cases hf : (run (newIdent tok next) t).2.failure = none
  · obtain ⟨a,sp,hrun,hsp⟩ := newIdent_ok t tok next hf
    refine h.grow ha.grows (newIdent_file t tok next) fun v hv hv' => ?_
    rw [hrun] at hv' ⊢
    -- the one new identifier is the pushed record
    obtain rfl : v = t.idents.size := by
      simp only [Array.size_push] at hv'
      omega
    simp only [Spanned,ident,token,Array.getElem?_push_size,Option.getD_some]
    exact ⟨htok,hfile,hsp⟩
  · exact h.of_idents ha.grows (newIdent_file t tok next) (newIdent_idents_of_failed t hf)

theorem pushExpr_spansTokens (h : t.SpansTokens) (e : Expr) :
    (run (pushExpr e) t).2.SpansTokens :=
  h.of_idents (pushExpr_spec t e).1.grows (pushExpr_file t e) (pushExpr_idents t e)

theorem newStmt_spansTokens (h : t.SpansTokens) (v e : Nat) (span : Span) :
    (run (newStmt (some v) (some e) span) t).2.SpansTokens :=
  h.of_idents (newStmt_spec t v e span).1.grows (newStmt_file t v e span) (newStmt_idents t v e span)

/-- A complaint leaves the identifiers and their tokens alone. -/
theorem crashWith_spansTokens (h : t.SpansTokens) (msg : String) : (t.crashWith msg).SpansTokens :=
  h

theorem newProgram_spansTokens (h : t.SpansTokens) (filename : String) (ss : List Nat) :
    (run (newProgram filename ss) t).2.SpansTokens := by
  obtain ⟨hfile,htoks,hids,hexprs⟩ := newProgram_records t filename ss
  exact h.of_idents ⟨⟨#[],by simp [htoks]⟩,⟨#[],by simp [hids]⟩,⟨#[],by simp [hexprs]⟩⟩ hfile hids

end Tree

namespace Parser

open Combinatory.Tree

/-- Parser step `x` keeps property `I` of the tree: from every state whose tree has it, the
tree `x` leaves has it. -/
def KeepsTree (I : Tree → Prop) {α : Type} (x : ParseM α) : Prop :=
  ∀ s, I s.tree → I (run x s).2.tree

namespace KeepsTree

variable {I : Tree → Prop} {α β : Type}

theorem pure (a : α) : KeepsTree I (Pure.pure a : ParseM α) := fun _ h => h

theorem bind {x : ParseM α} {f : α → ParseM β} (hx : KeepsTree I x)
    (hf : ∀ a, KeepsTree I (f a)) : KeepsTree I (x >>= f) := fun s h => by
  rw [run_bind]
  exact hf _ _ (hx s h)

/-- A step that leaves the tree as it is keeps every property of it. -/
theorem of_tree {x : ParseM α} (hx : ∀ s, (run x s).2.tree = s.tree) : KeepsTree I x :=
  fun s h => by rw [hx s]; exact h

theorem onTree {f : StateM Tree α} (hf : ∀ t, I t → I (run f t).2) : KeepsTree I (Parser.onTree f) :=
  fun s h => by rw [onTree_run]; exact hf _ h

end KeepsTree

/-- A property of trees that every tree operation of the parser keeps, a complaint of a
constructor given a missing part included. -/
structure TreeInvariant (I : Tree → Prop) : Prop where
  newIdentOf : ∀ tok next, KeepsTree I (newIdentOf tok next)
  pushExpr : ∀ t e, I t → I (run (Tree.pushExpr e) t).2
  newStmt : ∀ t v e span, I t → I (run (Tree.newStmt (some v) (some e) span) t).2
  newProgram : ∀ t filename ss, I t → I (run (Tree.newProgram filename ss) t).2
  crashWith : ∀ t msg, I t → I (t.crashWith msg)

section Keeps

variable {I : Tree → Prop} (hI : TreeInvariant I)
include hI

/-! Each constructor either leaves a failed tree alone, complains of a missing part, or builds
its record. -/

theorem TreeInvariant.newRef (v : Option Nat) : KeepsTree I (Parser.onTree (Tree.newRef v)) :=
  .onTree fun t h => by
    by_cases hf : t.failure.isSome
    · rw [newRef_failed t hf]
      exact h
    · cases v with
      | none => simpa [Tree.newRef,hf] using hI.crashWith t _ h
      | some v => rw [newRef_eq]; exact hI.pushExpr t _ h

theorem TreeInvariant.newApp (l r : Option Nat) : KeepsTree I (Parser.onTree (Tree.newApp l r)) :=
  .onTree fun t h => by
    by_cases hf : t.failure.isSome
    · rw [newApp_failed t hf]
      exact h
    · -- a missing operand only records the complaint
      cases l with
      | none => simpa [Tree.newApp,hf] using hI.crashWith t _ h
      | some l =>
        cases r with
        | none => simpa [Tree.newApp,hf] using hI.crashWith t _ h
        | some r => rw [newApp_eq]; exact hI.pushExpr t _ h

theorem TreeInvariant.newAbs (sp : Span) (p b : Option Nat) :
    KeepsTree I (Parser.onTree (Tree.newAbs sp p b)) :=
  .onTree fun t h => by
    by_cases hf : t.failure.isSome
    · rw [newAbs_failed t hf]
      exact h
    · cases p with
      | none => simpa [Tree.newAbs,hf] using hI.crashWith t _ h
      | some p =>
        cases b with
        | none => simpa [Tree.newAbs,hf] using hI.crashWith t _ h
        | some b => rw [newAbs_eq]; exact hI.pushExpr t _ h

theorem TreeInvariant.newStmt' (v e : Option Nat) (span : Span) :
    KeepsTree I (Parser.onTree (Tree.newStmt v e span)) :=
  .onTree fun t h => by
    by_cases hf : t.failure.isSome
    · rw [newStmt_failed t hf]
      exact h
    · cases v with
      | none => simpa [Tree.newStmt,hf] using hI.crashWith t _ h
      | some v =>
        cases e with
        | none => simpa [Tree.newStmt,hf] using hI.crashWith t _ h
        | some e => exact hI.newStmt t v e span h

theorem chainOf_keeps : ∀ (toks : List Token) (next : Option Nat), KeepsTree I (chainOf toks next)
  | [], _ => .pure _
  | tok :: rest, next => .bind (hI.newIdentOf tok next) fun v => chainOf_keeps rest v

theorem operand_keeps {fuel : Nat} (he : KeepsTree I (expr fuel)) :
    KeepsTree I (operand (fuel + 1)) := by
  rw [operand]
  refine .bind (.of_tree (isAt_tree · _)) fun b => ?_
  split
  · -- a reference: its identifier, then its record
    exact .bind (.of_tree advance_tree) fun tok => .bind (hI.newIdentOf tok none) fun v? => hI.newRef v?
  · -- a parenthesized expression
    refine .bind (.of_tree (expect_tree · _ _ _)) fun o => ?_
    split
    · refine .bind he fun r => ?_
      split
      · refine .bind (.of_tree (isAt_tree · _)) fun c => ?_
        split
        · exact .bind (.of_tree (fail_tree · _ _ _)) fun _ => .pure _
        · exact .bind (.of_tree advance_tree) fun _ => .pure _
      · exact .pure _
    · exact .pure _

theorem operands_keeps {fuel : Nat} (hop : KeepsTree I (operand fuel))
    (hrec : ∀ acc, KeepsTree I (operands fuel acc)) (acc : Option Nat) :
    KeepsTree I (operands (fuel + 1) acc) := by
  rw [operands]
  refine .bind (.of_tree atOperand_tree) fun b => ?_
  split
  · refine .bind hop fun a? => ?_
    split
    · exact .bind (hI.newApp _ _) fun app => hrec app
    · exact .pure _
  · exact .pure _

theorem application_keeps {fuel : Nat} (hop : KeepsTree I (operand fuel))
    (hops : ∀ acc, KeepsTree I (operands fuel acc)) (hab : KeepsTree I (abstraction fuel)) :
    KeepsTree I (application (fuel + 1)) := by
  rw [application]
  refine .bind (.of_tree atOperand_tree) fun b => ?_
  split
  · exact .bind (.of_tree (fail_tree · _ _ _)) fun _ => .pure _
  · refine .bind hop fun f? => ?_
    split
    · refine .bind (hops _) fun e? => ?_
      split
      · refine .bind (.of_tree (isAt_tree · _)) fun l => ?_
        split
        · refine .bind hab fun a? => ?_
          split
          · exact hI.newApp _ _
          · exact .pure _
        · exact .pure _
      · exact .pure _
    · exact .pure _

theorem abstraction_keeps {fuel : Nat} (he : KeepsTree I (expr fuel)) :
    KeepsTree I (abstraction (fuel + 1)) := by
  rw [abstraction]
  refine .bind (.of_tree advance_tree) fun lam => .bind (.of_tree (params_tree _ _)) fun ps? => ?_
  split
  · refine .bind (.of_tree peek_tree) fun tok => ?_
    dsimp only
    split
    · exact .bind (.of_tree (fail_tree · _ _ _)) fun _ => .pure _
    · refine .bind (.of_tree advance_tree) fun _ => .bind he fun b? => ?_
      split
      · refine .bind (chainOf_keeps hI _ _) fun c? => ?_
        split
        · exact .bind (.of_tree fun _ => rfl) fun _ => hI.newAbs _ _ _
        · exact .pure _
      · exact .pure _
  · exact .pure _

omit hI in
theorem expr_keeps {fuel : Nat} (hab : KeepsTree I (abstraction fuel))
    (hap : KeepsTree I (application fuel)) : KeepsTree I (expr (fuel + 1)) := by
  rw [expr]
  refine .bind (.of_tree (isAt_tree · _)) fun b => ?_
  split
  · exact hab
  · exact hap

/-- Every expression parser, at every fuel, keeps the invariant. -/
theorem exprs_keeps : ∀ fuel, KeepsTree I (expr fuel) ∧ KeepsTree I (abstraction fuel) ∧
    KeepsTree I (operand fuel) ∧ (∀ acc, KeepsTree I (operands fuel acc)) ∧
    KeepsTree I (application fuel)
  | 0 => ⟨fun _ h => h,fun _ h => h,fun _ h => h,fun _ _ h => h,fun _ h => h⟩
  | fuel + 1 =>
    have ⟨he,hab,hop,hops,hap⟩ := exprs_keeps fuel
    ⟨expr_keeps hab hap,abstraction_keeps hI he,operand_keeps hI he,operands_keeps hI hop hops,
      application_keeps hI hop hops hab⟩

theorem stmtTail_keeps (fuel : Nat) (start : Span) : KeepsTree I (stmtTail fuel start) := by
  rw [stmtTail]
  refine .bind (.of_tree (expect_tree · _ _ _)) fun n? => ?_
  split
  · refine .bind (hI.newIdentOf _ _) fun name => .bind (.of_tree (expect_tree · _ _ _)) fun a? => ?_
    split
    · refine .bind (exprs_keeps hI fuel).1 fun e? => ?_
      split
      · refine .bind (.of_tree (expect_tree · _ _ _)) fun semi? => ?_
        split
        · exact hI.newStmt' _ _ _
        · exact .pure _
      · exact .pure _
    · exact .pure _
  · exact .pure _

theorem stmt_keeps (fuel : Nat) : KeepsTree I (stmt fuel) := fun s h => by
  obtain ⟨s',ht,hrun⟩ := stmt_eq fuel s
  rw [hrun]
  exact stmtTail_keeps hI fuel _ s' (ht ▸ h)

theorem stmts_keeps : ∀ (fuel : Nat) (acc : List Nat), KeepsTree I (stmts fuel acc)
  | 0, _ => fun _ h => h
  | fuel + 1, acc => by
    rw [stmts]
    refine .bind (.of_tree (isAt_tree · _)) fun e => ?_
    split
    · exact .pure _
    · refine .bind (.of_tree fun _ => rfl) fun s => ?_
      split
      · exact .pure _
      · refine .bind (stmt_keeps hI _) fun r => ?_
        split
        · exact stmts_keeps fuel _
        · exact .bind (.of_tree (resync_tree _)) fun _ => stmts_keeps fuel acc

end Keeps

/-- The identifier the parser adds for a token is for the token record it has just added. -/
theorem newIdentOf_spansTokens (tok : Token) (next : Option Nat) :
    KeepsTree Tree.SpansTokens (newIdentOf tok next) := by
  intro s h
  have h₁ := newToken_spansTokens h tok.textString (s.file.lineCol tok.span.start).line
    (s.file.lineCol tok.span.start).col (s.file.lineCol tok.span.stop).col tok.span
  have hk := Tree.newToken_spanned s.tree tok.textString (s.file.lineCol tok.span.start).line
    (s.file.lineCol tok.span.start).col (s.file.lineCol tok.span.stop).col tok.span
  generalize hr : run (Tree.newToken tok.textString (s.file.lineCol tok.span.start).line
    (s.file.lineCol tok.span.start).col (s.file.lineCol tok.span.stop).col tok.span) s.tree = r at h₁ hk
  obtain ⟨k?,t₁⟩ := r
  have hrun₁ : run (newToken tok) s = (k?, { s with tree := t₁ }) := by
    simp [newToken,onTree_run,hr]
  by_cases hf : t₁.failure.isSome
  · simpa [newIdentOf,hrun₁,onTree_run,newIdent_failed t₁ hf] using h₁
  · cases k? with
    | none => simpa [newIdentOf,hrun₁,onTree_run,Tree.newIdent,hf] using crashWith_spansTokens h₁ _
    | some k =>
      obtain ⟨hlt,hfile⟩ := hk k rfl
      simpa [newIdentOf,hrun₁,onTree_run] using newIdent_spansTokens h₁ next hlt hfile

/-- Identifiers spanning their tokens are kept by every tree operation of the parser. -/
theorem spansTokens_invariant : TreeInvariant Tree.SpansTokens :=
  ⟨newIdentOf_spansTokens,fun _ e h => pushExpr_spansTokens h e,
    fun _ v e span h => newStmt_spansTokens h v e span,
    fun _ filename ss h => newProgram_spansTokens h filename ss,
    fun _ msg h => crashWith_spansTokens h msg⟩

end Parser

/-- A tree property kept by every tree operation of the parser holds of the tree a parse
leaves, when it held of the tree the parse started from. -/
theorem parseFile_keeps {I : Tree → Prop} (hI : Parser.TreeInvariant I) (file : SourceFile)
    (tree : Tree) (rep : Reporter) (maxErrors : Nat) (h : I tree) :
    I (parseFile file tree rep maxErrors).2.1 := by
  have hs := Parser.stmts_keeps hI (file.tokens.toArray.size + 1) []
    ⟨file,file.tokens.toArray,0,0,⟨file.id,0,0⟩,false,0,maxErrors,rep,tree⟩ h
  rw [parseFile_eq]
  dsimp only
  split
  · exact hs
  · exact hI.newProgram _ _ _ hs

/-- The empty tree a compilation starts from has no identifier to check. -/
theorem Tree.empty_spansTokens (a : Arena) (file : Nat) : (Tree.empty a file).SpansTokens :=
  fun _ hv => absurd hv (by simp [Tree.empty])

/-- The parser leaves every identifier spanning its token in the tree's file when it ends its
chain, as it found them. -/
theorem parseFile_spansTokens (file : SourceFile) (tree : Tree) (rep : Reporter) (maxErrors : Nat)
    (h : tree.SpansTokens) : (parseFile file tree rep maxErrors).2.1.SpansTokens :=
  parseFile_keeps Parser.spansTokens_invariant file tree rep maxErrors h

end Combinatory
