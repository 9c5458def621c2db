import Combinatory.Syntax.Stream
import Combinatory.Proofs.Lexing

/-! The lexer's stream hands out the tokens of the file. One `scan` is one token step of
`Lexer.run` after its trivia steps (`run_scan`), so the stream follows the tokens of the file
(`Follows`): `next` takes them in order, the end of the file over and over, `peek` takes none, and
each token is reported when first lexed (`Follows.perform`, `Follows.all`). -/

namespace Combinatory

namespace Lexer

open Grammar

/-- The token the `i`-th `next` call takes from a lexer handing out `ts`, counting from zero: past
the end of the file, the end of the file again. -/
def tokenAt (ts : List Token) (i : Nat) : Token := ts.getD i (ts.getLastD default)

namespace Stream

/-- The tokens lexing gives from where the stream stands, the peeked one aside. -/
def lexes (s : Stream) : List Token := run s.file s.rest s.offset s.hold

/-- One while a token is peeked. -/
def peeked (s : Stream) : Nat := if s.look.isSome then 1 else 0

/-! ### One token -/

theorem piece_of_trivia {gs : List Glyph} {k : TriviaKind} {n : Nat} (h : trivia? gs = some (k, n)) :
    piece gs = (.trivia k, n) := by
  simp [piece, h]

theorem piece_of_token {gs : List Glyph} (h : trivia? gs = none) : piece gs = (.token (token gs).1, (token gs).2) := by
  simp [piece, h]

@[simp] theorem collect_file (s : Stream) : s.collect.file = s.file := by
  fun_induction collect s with
  | case1 s k n h stop ih => exact ih
  | case2 => rfl

@[simp] theorem collect_reporter (s : Stream) : s.collect.reporter = s.reporter := by
  fun_induction collect s with
  | case1 s k n h stop ih => exact ih
  | case2 => rfl

theorem trivia_collect (s : Stream) : trivia? s.collect.rest = none := by
  fun_induction collect s with
  | case1 s k n h stop ih => exact ih
  | case2 s h => exact h

/-- Collecting trivia makes the trivia steps of lexing. -/
theorem lexes_collect (s : Stream) : s.collect.lexes = s.lexes := by
  fun_induction collect s with
  | case1 s k n h stop ih =>
    rw [ih]
    obtain ⟨g, more, hgs⟩ : ∃ g more, s.rest = g :: more := by
      cases hr : s.rest with
      | nil => simp [hr, trivia?] at h
      | cons g more => exact ⟨g, more, rfl⟩
    have hp := piece_of_trivia (hgs ▸ h)
    simp only [lexes]
    conv_rhs => rw [hgs, run]
    simp only [stop, hp, hgs]
  | case2 => rfl

/-- The end-of-file token at offset `off` of file `file`. -/
def eofAt (file off : Nat) : Token :=
  { kind := .eof, span := ⟨file, off, off⟩, text := [], leading := [] }

theorem lexes_of_rest_nil {s : Stream} (h : s.rest = []) : s.lexes = [eofAt s.file s.offset] := by
  simp [lexes, h, run, eofAt]

theorem scan_of_rest_nil {s : Stream} (h : s.collect.rest = []) :
    s.scan = (eofAt s.file s.collect.offset, s.collect) := by
  simp [scan, h, eofAt]

/-- A scan is a token step of lexing after its trivia steps: it takes the first token lexing gives,
and leaves what follows, or at the end of the file leaves the end of the file to come again. -/
theorem lexes_scan (s : Stream) :
    s.lexes = if s.scan.1.kind = .eof then [s.scan.1] else s.scan.1 :: s.scan.2.lexes := by
  rw [← lexes_collect]
  cases hr : s.collect.rest with
  | nil =>
    rw [scan_of_rest_nil hr, lexes_of_rest_nil hr]
    simp [eofAt]
  | cons g more =>
    have hp := piece_of_token (hr ▸ trivia_collect s)
    have hk : (if (token (g :: more)).1 = .ident then keyword (bytesOf ((g :: more).take (token (g :: more)).2))
        else (token (g :: more)).1) ≠ .eof := by
      split
      · exact keyword_ne_eof _
      · exact token_ne_eof g more
    simp only [lexes]
    conv_lhs => rw [hr, run]
    simp [hp, scan, hr, hk]

theorem scan_eof_lexes {s : Stream} (h : s.scan.1.kind = .eof) : s.scan.2.lexes = [s.scan.1] := by
  cases hr : s.collect.rest with
  | nil =>
    rw [scan_of_rest_nil hr, lexes_of_rest_nil hr]
    simp
  | cons g more =>
    simp [scan, hr] at h
    exact absurd h (by split <;> simp [keyword_ne_eof, token_ne_eof])

theorem scan_look (s : Stream) : s.scan.2.look = s.look := by
  cases hr : s.collect.rest with
  | nil => rw [scan_of_rest_nil hr, collect_look]
  | cons g more => simp [scan, hr, collect_look]

theorem scan_reporter (s : Stream) : s.scan.2.reporter = reportToken s.reporter s.scan.1 := by
  cases hr : s.collect.rest with
  | nil => simp [scan_of_rest_nil hr, reportToken, eofAt]
  | cons g more => simp [scan, hr]

theorem next_look (s : Stream) : s.next.2.look = none := by
  unfold next
  cases hl : s.look with
  | some t => rfl
  | none => exact (scan_look s).trans hl

@[simp] theorem peeked_next (s : Stream) : s.next.2.peeked = 0 := by
  simp [peeked, next_look]

@[simp] theorem peeked_peek (s : Stream) : s.peek.2.peeked = 1 := rfl

@[simp] theorem lexes_peek (s : Stream) : s.peek.2.lexes = s.next.2.lexes := rfl

@[simp] theorem reporter_peek (s : Stream) : s.peek.2.reporter = s.next.2.reporter := rfl

end Stream

/-! ### The tokens handed out -/

section Handed

variable {ts : List Token} {n : Nat} {t : Token} {u : List Token}

theorem tokenAt_eq (ts : List Token) (n : Nat) :
    tokenAt ts n = (ts[min n (ts.length - 1)]?).getD default := by
  by_cases hn : n < ts.length
  · rw [Nat.min_eq_left (by omega)]
    simp [tokenAt, List.getD_eq_getElem?_getD, List.getElem?_eq_getElem hn]
  · rw [Nat.min_eq_right (by omega)]
    simp [tokenAt, List.getD_eq_getElem?_getD, List.getElem?_eq_none (Nat.le_of_not_lt hn),
      List.getLastD_eq_getLast?, List.getLast?_eq_getElem?]

theorem tokenAt_of_drop (h : ts.drop (min n (ts.length - 1)) = t :: u) : tokenAt ts n = t := by
  have h0 : (ts.drop (min n (ts.length - 1)))[0]? = some t := by rw [h]; rfl
  rw [List.getElem?_drop, Nat.add_zero] at h0
  rw [tokenAt_eq, h0]
  rfl

/-- Past a token with more after it, the stream moves on by one. -/
theorem drop_succ_of_cons (h : ts.drop (min n (ts.length - 1)) = t :: u) (hu : u ≠ []) :
    ts.drop (min (n + 1) (ts.length - 1)) = u := by
  have hlen := congrArg List.length h
  have hu' : 0 < u.length := List.length_pos_iff.2 hu
  simp only [List.length_drop, List.length_cons] at hlen
  rw [Nat.min_eq_left (show n ≤ ts.length - 1 by omega)] at h
  rw [Nat.min_eq_left (show n + 1 ≤ ts.length - 1 by omega), ← List.drop_drop, h]
  rfl

/-- At the end of the file, the stream stays there. -/
theorem drop_succ_of_single (h : ts.drop (min n (ts.length - 1)) = [t]) :
    ts.drop (min (n + 1) (ts.length - 1)) = [t] := by
  have hlen := congrArg List.length h
  simp only [List.length_drop, List.length_singleton] at hlen
  have : min (n + 1) (ts.length - 1) = min n (ts.length - 1) := by omega
  rw [this, h]

theorem drop_cons_of_lt (h : n < ts.length - 1) :
    ts.drop (min n (ts.length - 1)) = tokenAt ts n :: ts.drop (min (n + 1) (ts.length - 1)) := by
  rw [Nat.min_eq_left (by omega), Nat.min_eq_left (by omega), tokenAt_eq, Nat.min_eq_left (by omega),
    List.getElem?_eq_getElem (by omega)]
  exact List.drop_eq_getElem_cons (by omega)

end Handed

end Lexer

namespace Grammar.Terminated

open Lexer

variable {ts : List Token} {n : Nat}

/-- From the last token on, the stream hands out the end of the file. -/
theorem tokenAt_last (h : Terminated ts) (hn : ts.length - 1 ≤ n) : (tokenAt ts n).kind = .eof := by
  obtain ⟨u, e, rfl, he, -⟩ := h
  rw [tokenAt_eq, Nat.min_eq_right (by simpa using hn)]
  simpa using he

/-- Before the last token, it hands out none. -/
theorem tokenAt_ne_eof (h : Terminated ts) (hn : n < ts.length - 1) : (tokenAt ts n).kind ≠ .eof := by
  obtain ⟨u, e, rfl, -, hu⟩ := h
  simp only [List.length_append, List.length_singleton, Nat.add_sub_cancel] at hn
  rw [tokenAt_eq, Nat.min_eq_left (by simp; omega), List.getElem?_append_left hn,
    List.getElem?_eq_getElem hn]
  exact hu _ (List.getElem_mem hn)

theorem drop_last (h : Terminated ts) (hn : ts.length - 1 ≤ n) :
    ts.drop (min n (ts.length - 1)) = [tokenAt ts n] := by
  obtain ⟨u, e, rfl, -, -⟩ := h
  rw [tokenAt_eq, Nat.min_eq_right hn]
  simp

/-- Reporting one more token reports the one handed out next, and nothing past the end. -/
theorem reportUnknown_take_succ (h : Terminated ts) (r : Reporter) (n : Nat) :
    reportUnknown r (ts.take (n + 1)) = reportToken (reportUnknown r (ts.take n)) (tokenAt ts n) := by
  by_cases hn : n < ts.length
  · rw [List.take_add_one, List.getElem?_eq_getElem hn, tokenAt_eq, Nat.min_eq_left (by omega),
      List.getElem?_eq_getElem hn]
    simp only [reportUnknown, Option.toList_some, List.foldl_append, List.foldl_cons, List.foldl_nil,
      Option.getD_some]
  · have he := h.tokenAt_last (n := n) (by omega)
    rw [List.take_of_length_le (by omega), List.take_of_length_le (by omega)]
    simp [reportToken, he]

end Grammar.Terminated

namespace Lexer

open Grammar

/-! ### Following the tokens of a file -/

namespace Stream

/-- A lexer follows the tokens `ts`, `n` of them taken by `next` so far: lexing from where it
stands gives the tokens after those it has lexed (the end of the file past the last), a peeked
token is the next to take, and the invalid tokens among those lexed have been reported. -/
structure Follows (ts : List Token) (r : Reporter) (s : Stream) (n : Nat) : Prop where
  terminated : Terminated ts
  lexes : s.lexes = ts.drop (min (n + s.peeked) (ts.length - 1))
  look : ∀ t, s.look = some t → t = tokenAt ts n
  reported : s.reporter = reportUnknown r (ts.take (n + s.peeked))

variable {ts : List Token} {r : Reporter} {s : Stream} {n : Nat}

/-- Taking a token takes the next of the file and reports it, or takes the peeked one. -/
theorem Follows.next (h : Follows ts r s n) : s.next.1 = tokenAt ts n ∧ Follows ts r s.next.2 (n + 1) := by
  cases hl : s.look with
  | some t =>
    have hp : s.peeked = 1 := by simp [peeked, hl]
    have hs : s.next = (t, { s with look := none }) := by simp [Stream.next, hl]
    have hlex := h.lexes
    have hrep := h.reported
    rw [hp] at hlex hrep
    rw [hs]
    exact ⟨h.look t hl, h.terminated, hlex, fun _ h' => by simp at h', hrep⟩
  | none =>
    have hp : s.peeked = 0 := by simp [peeked, hl]
    have hs : s.next = s.scan := by simp [Stream.next, hl]
    have hlex := h.lexes
    rw [hp, Nat.add_zero, lexes_scan] at hlex
    -- the token lexed is the next of the file, whether or not it ends the file
    have htok : s.scan.1 = tokenAt ts n := by
      split at hlex
      · exact (tokenAt_of_drop hlex.symm).symm
      · exact (tokenAt_of_drop hlex.symm).symm
    have hrep : s.scan.2.reporter = reportUnknown r (ts.take (n + 1)) := by
      rw [scan_reporter, h.reported, hp, Nat.add_zero, h.terminated.reportUnknown_take_succ, htok]
    have hlook : s.scan.2.look = none := (scan_look s).trans hl
    have hpeek : s.scan.2.peeked = 0 := by simp [peeked, hlook]
    rw [hs]
    refine ⟨htok, h.terminated, ?_, fun _ h' => by simp [hlook] at h', by rw [hpeek, Nat.add_zero, hrep]⟩
    rw [hpeek, Nat.add_zero]
    split at hlex
    · rename_i he
      rw [scan_eof_lexes he]
      exact (drop_succ_of_single hlex.symm).symm
    · exact (drop_succ_of_cons hlex.symm (run_terminated _ _ _ _).ne_nil).symm

/-- Peeking looks at the next token of the file and takes none. -/
theorem Follows.peek (h : Follows ts r s n) : s.peek.1 = tokenAt ts n ∧ Follows ts r s.peek.2 n := by
  obtain ⟨ht, h'⟩ := h.next
  refine ⟨ht, h.terminated, ?_, fun t hl => ?_, ?_⟩
  · rw [lexes_peek, h'.lexes, peeked_next, peeked_peek]
  · have hl' : some s.next.1 = some t := hl
    rw [← Option.some.inj hl', ht]
  · rw [reporter_peek, h'.reported, peeked_next, peeked_peek]

/-- Any sequence of calls takes, through `next`, the tokens of the file in order, and leaves the
lexer following them. -/
theorem Follows.perform (h : Follows ts r s n) (cs : List Call) :
    (s.perform cs).1 = (List.range (cs.count .next)).map (fun i => tokenAt ts (n + i)) ∧
      Follows ts r (s.perform cs).2 (n + cs.count .next) := by
  induction cs generalizing s n with
  | nil => exact ⟨rfl, h⟩
  | cons c cs ih =>
    cases c with
    | next =>
      obtain ⟨ht, h'⟩ := h.next
      obtain ⟨hts, hf⟩ := ih h'
      refine ⟨?_, ?_⟩
      · simp only [Stream.perform, hts, ht, List.count_cons_self, List.range_succ_eq_map,
          List.map_cons, List.map_map, Nat.add_zero]
        congr 1
        refine List.map_congr_left fun i _ => ?_
        simp only [Function.comp_apply]
        congr 1
        omega
      · have hc : n + (List.count Call.next (Call.next :: cs)) = n + 1 + cs.count .next := by
          simp only [List.count_cons_self]
          omega
        rw [hc]
        exact hf
    | peek =>
      obtain ⟨-, h'⟩ := h.peek
      have hc : List.count Call.next (Call.peek :: cs) = cs.count .next := by simp
      rw [hc]
      exact ih h'

/-- Taking every token takes those of the file from the next on, and reports them all. -/
theorem Follows.all (h : Follows ts r s n) :
    s.all.1 = ts.drop (min n (ts.length - 1)) ∧ s.all.2.reporter = reportUnknown r ts := by
  fun_induction Stream.all s generalizing n with
  | case1 s he =>
    obtain ⟨ht, h'⟩ := h.next
    have hn : ts.length - 1 ≤ n := by
      by_contra hlt
      exact h.terminated.tokenAt_ne_eof (by omega) (ht ▸ he)
    refine ⟨by rw [h.terminated.drop_last hn, ← ht], ?_⟩
    rw [h'.reported, peeked_next, Nat.add_zero, List.take_of_length_le (by omega)]
  | case2 s he x =>
    rename_i ih
    obtain ⟨ht, h'⟩ := h.next
    have hn : n < ts.length - 1 := by
      by_contra hle
      exact he (ht ▸ h.terminated.tokenAt_last (by omega))
    obtain ⟨hall, hrep⟩ := ih h'
    simp only [x]
    exact ⟨by rw [hall, ht, drop_cons_of_lt hn], hrep⟩

theorem follows_start (f : SourceFile) (r : Reporter) : Follows f.tokens r (start f r) 0 := by
  refine ⟨SourceFile.tokens_terminated f, ?_, fun _ h => by simp [start] at h, ?_⟩
  · simp [lexes, start, peeked, SourceFile.tokens]
  · simp [start, peeked, reportUnknown]

/-- Taking every token from the start of a file gives its tokens and reports each invalid one. -/
theorem all_start (f : SourceFile) (r : Reporter) :
    (start f r).all.1 = f.tokens ∧ (start f r).all.2.reporter = reportUnknown r f.tokens := by
  obtain ⟨hall, hrep⟩ := (follows_start f r).all
  rw [Nat.zero_min, List.drop_zero] at hall
  exact ⟨hall, hrep⟩

end Stream

end Lexer

open Lexer in
/-- The lexer hands out the tokens of the file however `next` and `peek` interleave: taking every
token gives the file's tokens and reports each invalid one once, in order; any sequence of calls
takes through `next` those tokens in order, the end of the file over and over, having reported
those it lexed. The tokens keep the text up to its trailing trivia, an invalid one being one
glyph. -/
theorem SourceFile.lexer_keeps_text_and_reports (f : SourceFile) (r : Reporter) :
    (Stream.start f r).all.1 = f.tokens ∧
      (Stream.start f r).all.2.reporter = reportUnknown r f.tokens ∧
      (∀ cs : List Call,
        ((Stream.start f r).perform cs).1 = (List.range (cs.count .next)).map (tokenAt f.tokens) ∧
        ((Stream.start f r).perform cs).2.reporter =
          reportUnknown r (f.tokens.take (cs.count .next + ((Stream.start f r).perform cs).2.peeked)) ∧
        (f.tokens.length ≤ cs.count .next →
          ((Stream.start f r).perform cs).2.reporter = (Stream.start f r).all.2.reporter)) ∧
      ∃ toks pre rest,
        f.tokens = toks ++
          [{ kind := .eof, span := ⟨f.id, f.content.size, f.content.size⟩, text := [],
             leading := [] }] ∧
        Glyph.decode f.content.toList = pre ++ rest ∧ AllTrivia rest ∧
        (∀ t ∈ toks, t.Lexed f.content.toList) ∧
        Contiguous f.id 0 (toks.flatMap Token.spans) (lengthOf pre) ∧
        (toks.map (Token.source f.content.toList)).flatten = bytesOf pre ∧
        ((toks.map (Token.source f.content.toList)).flatten = f.content.toList ↔ rest = []) := by
  obtain ⟨hall, hrep⟩ := Stream.all_start f r
  refine ⟨hall, hrep, fun cs => ?_, SourceFile.tokens_keep_text f⟩
  obtain ⟨hout, hf⟩ := (Stream.follows_start f r).perform cs
  have hrep' := hf.reported
  rw [Nat.zero_add] at hrep'
  refine ⟨by simpa using hout, hrep', fun hlen => ?_⟩
  rw [hrep', hrep, List.take_of_length_le (by omega)]

/-- A file holding one blank. -/
def oneBlank : SourceFile := ⟨0, "blank", ⟨#[32]⟩, SourceFile.lineFeeds ⟨#[32]⟩, default, rfl⟩

/-- The blank of a one-blank file lies in no token: taking every token gives only the end of the
file, after the blank and with no trivia, so the trivia and texts of the tokens spell nothing. -/
theorem SourceFile.all_loses_trailing_blank :
    (Lexer.Stream.start oneBlank Reporter.none).all.1 =
        [{ kind := .eof, span := ⟨0, 1, 1⟩, text := [], leading := [] }] ∧
      ((Lexer.Stream.start oneBlank Reporter.none).all.1.map
          (Token.source oneBlank.content.toList)).flatten ≠ oneBlank.content.toList := by
  have htoks : oneBlank.tokens = [{ kind := .eof, span := ⟨0, 1, 1⟩, text := [], leading := [] }] := by
    decide +kernel
  rw [(Lexer.Stream.all_start oneBlank Reporter.none).1, htoks]
  refine ⟨rfl, ?_⟩
  rw [Region.toList_eq]
  simp [Token.source, oneBlank]

end Combinatory
