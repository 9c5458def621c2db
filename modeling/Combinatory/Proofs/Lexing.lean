import Combinatory.Proofs.Glyphs
import Combinatory.Proofs.Grammar

/-!
# What the tokens keep of the text

Lexing a file loses nothing but the trivia at its end (`SourceFile.tokens_keep_text`): the
spans of the tokens and their trivia run from the start without gap (`Lexer.Contiguous`), and
the trivia after the last token lies in no token.
-/

namespace Combinatory

/-- The bytes of `bs` under a span. -/
def Span.slice (s : Span) (bs : List UInt8) : List UInt8 :=
  (bs.drop s.start).take (s.stop - s.start)

namespace Token

/-- The spans under a token, in order: its trivia's, then its own. -/
def spans (t : Token) : List Span := t.leading.map Trivia.span ++ [t.span]

/-- The text a token stands for in the bytes `bs` of its file: its trivia, then its own text. -/
def source (bs : List UInt8) (t : Token) : List UInt8 :=
  (t.leading.map fun x => x.span.slice bs).flatten ++ t.text

/-- What the lexer promises of each token before the end of the file. -/
structure Lexed (bs : List UInt8) (t : Token) : Prop where
  not_eof : t.kind ≠ .eof
  text : t.text = t.span.slice bs
  /-- An invalid token is one glyph: a character or a stray byte. -/
  invalid : t.kind = .invalid → ∃ g : Glyph, t.text = g.toBytes

theorem source_eq {bs : List UInt8} {t : Token} (h : t.text = t.span.slice bs) :
    t.source bs = (t.spans.map (Span.slice · bs)).flatten := by
  simp [source, spans, h, Function.comp_def]

theorem flatten_source {bs : List UInt8} {toks : List Token}
    (h : ∀ t ∈ toks, t.text = t.span.slice bs) :
    (toks.map (source bs)).flatten = ((toks.flatMap spans).map (Span.slice · bs)).flatten := by
  induction toks with
  | nil => rfl
  | cons t toks ih =>
    simp only [List.map_cons, List.flatten_cons, List.flatMap_cons, List.map_append,
      List.flatten_append]
    rw [source_eq (h t (by simp)), ih (fun x hx => h x (by simp [hx]))]

end Token

namespace Lexer

/-! ### Spans laid end to end -/

/-- Spans of file `file` laid end to end from offset `a` to offset `b`. -/
inductive Contiguous (file : Nat) : Nat → List Span → Nat → Prop
  | nil (a : Nat) : Contiguous file a [] a
  | cons {a b c : Nat} {rest : List Span} (hab : a ≤ b) (h : Contiguous file b rest c) :
      Contiguous file a (⟨file, a, b⟩ :: rest) c

namespace Contiguous

variable {file a b c : Nat} {xs ys : List Span}

theorem le (h : Contiguous file a xs b) : a ≤ b := by
  induction h with
  | nil => exact Nat.le_refl _
  | cons hab _ ih => exact Nat.le_trans hab ih

theorem single (hab : a ≤ b) : Contiguous file a [⟨file, a, b⟩] b := .cons hab (.nil b)

theorem append (h₁ : Contiguous file a xs b) (h₂ : Contiguous file b ys c) :
    Contiguous file a (xs ++ ys) c := by
  induction h₁ with
  | nil => exact h₂
  | cons hab _ ih => exact .cons hab (ih h₂)

/-- The bytes under spans laid end to end are the bytes from the first start to the last stop. -/
theorem slices (h : Contiguous file a xs b) (bs : List UInt8) :
    (xs.map (Span.slice · bs)).flatten = (bs.drop a).take (b - a) := by
  induction h with
  | nil => simp
  | @cons a b c rest hab hrest ih =>
    have hbc := hrest.le
    rw [List.map_cons, List.flatten_cons, ih]
    simp only [Span.slice]
    rw [show c - a = (b - a) + (c - b) by omega, List.take_add, List.drop_drop,
      Nat.add_sub_cancel' hab]

end Contiguous

/-! ### Glyphs and their bytes -/

theorem bytesOf_append (xs ys : List Glyph) : bytesOf (xs ++ ys) = bytesOf xs ++ bytesOf ys := by
  simp [bytesOf]

theorem bytesOf_eq_nil {gs : List Glyph} : bytesOf gs = [] ↔ gs = [] := by
  cases gs with
  | nil => simp [bytesOf]
  | cons g gs => simp [bytesOf, Glyph.toBytes_ne_nil]

theorem lengthOf_eq (gs : List Glyph) : lengthOf gs = (bytesOf gs).length := by
  induction gs with
  | nil => rfl
  | cons g gs ih =>
    have hcons : lengthOf (g :: gs) = g.byteLength + lengthOf gs := rfl
    simp [hcons, ih, bytesOf]

theorem lengthOf_append (xs ys : List Glyph) : lengthOf (xs ++ ys) = lengthOf xs + lengthOf ys := by
  simp [lengthOf_eq, bytesOf_append]

theorem lengthOf_take_add_drop (gs : List Glyph) (n : Nat) :
    lengthOf (gs.take n) + lengthOf (gs.drop n) = lengthOf gs := by
  rw [← lengthOf_append, List.take_append_drop]

theorem lengthOf_take_add (gs : List Glyph) (n k : Nat) :
    lengthOf (gs.take (n + k)) = lengthOf (gs.take n) + lengthOf ((gs.drop n).take k) := by
  rw [List.take_add, lengthOf_append]

section Window

variable {bs : List UInt8} {off : Nat} {gs : List Glyph}

theorem bytesOf_split (gs : List Glyph) (n : Nat) :
    bytesOf gs = bytesOf (gs.take n) ++ bytesOf (gs.drop n) := by
  rw [← bytesOf_append, List.take_append_drop]

/-- The first `n` glyphs from offset `off` are the bytes under the span they take. -/
theorem slice_take (hbs : bs.drop off = bytesOf gs) (file n : Nat) :
    Span.slice ⟨file, off, off + lengthOf (gs.take n)⟩ bs = bytesOf (gs.take n) := by
  simp only [Span.slice, Nat.add_sub_cancel_left, hbs, bytesOf_split gs n, lengthOf_eq]
  exact List.take_left

/-- Past the first `n` glyphs from offset `off` come the bytes of the rest. -/
theorem drop_take (hbs : bs.drop off = bytesOf gs) (n : Nat) :
    bs.drop (off + lengthOf (gs.take n)) = bytesOf (gs.drop n) := by
  rw [← List.drop_drop, hbs, bytesOf_split gs n, lengthOf_eq, List.drop_left]

end Window

/-! ### Trivia to the end -/

/-- Glyphs that the lexer takes as trivia, one piece after another, to the end. -/
inductive AllTrivia : List Glyph → Prop
  | nil : AllTrivia []
  | trivia {gs : List Glyph} {k : TriviaKind} {n : Nat} (h : trivia? gs = some (k, n))
      (rest : AllTrivia (gs.drop n)) : AllTrivia gs

/-- The spans `xs` run from `a` without gap over the glyphs `gs` that start at offset `off`, up
to a point from which every glyph is trivia. -/
def CoversUpTo (file a : Nat) (xs : List Span) (off : Nat) (gs : List Glyph) : Prop :=
  ∃ k, AllTrivia (gs.drop k) ∧ Contiguous file a xs (off + lengthOf (gs.take k))

namespace CoversUpTo

variable {file a b off : Nat} {xs ys : List Span} {gs : List Glyph}

theorem of_drop {n : Nat} (h : CoversUpTo file a xs (off + lengthOf (gs.take n)) (gs.drop n)) :
    CoversUpTo file a xs off gs := by
  obtain ⟨k, hall, hcont⟩ := h
  refine ⟨n + k, ?_, ?_⟩
  · simpa [List.drop_drop, Nat.add_comm] using hall
  · rwa [lengthOf_take_add, ← Nat.add_assoc]

theorem prepend (hxs : Contiguous file a xs b) (h : CoversUpTo file b ys off gs) :
    CoversUpTo file a (xs ++ ys) off gs := by
  obtain ⟨k, hall, hcont⟩ := h
  exact ⟨k, hall, hxs.append hcont⟩

theorem of_allTrivia (hall : AllTrivia gs) (hxs : Contiguous file a xs off) :
    CoversUpTo file a xs off gs :=
  ⟨0, by simpa using hall, by simpa [lengthOf] using hxs⟩

end CoversUpTo

/-! ### One step of the lexer -/

theorem piece_trivia {gs : List Glyph} {k : TriviaKind} (h : (piece gs).1 = .trivia k) :
    trivia? gs = some (k, (piece gs).2) := by
  unfold piece at h ⊢
  split at h
  · rename_i k' n hk
    cases h
    simp [hk]
  · simp at h

theorem token_invalid {g : Glyph} {rest : List Glyph} (h : (token (g :: rest)).1 = .invalid) :
    (token (g :: rest)).2 = 1 := by
  by_cases hs : isIdentStart g
  · simp [token, hs] at h
  · cases rest with
    | nil => simp [token, hs]
    | cons x more =>
      by_cases ha : isChar '-' g = true ∧ isChar '>' x = true
      · simp [token, hs, ha] at h
      · simp [token, hs, ha]

/-- An invalid token takes one glyph. -/
theorem piece_invalid {g : Glyph} {rest : List Glyph} (h : (piece (g :: rest)).1 = .token .invalid) :
    (piece (g :: rest)).2 = 1 := by
  unfold piece at h ⊢
  split at h
  · simp at h
  · rename_i hnone
    simp only [Piece.token.injEq] at h
    simp [token_invalid h]

theorem keyword_ne_invalid (text : List UInt8) : keyword text ≠ .invalid := by
  unfold keyword
  split <;> simp

/-- The token that a token step makes keeps the lexer's promises. -/
theorem token_lexed (file : Nat) (held : List Trivia) {bs : List UInt8} {off : Nat}
    {g : Glyph} {rest : List Glyph} {k : TokenKind}
    (hk : (piece (g :: rest)).1 = .token k) (hbs : bs.drop off = bytesOf (g :: rest)) :
    Token.Lexed bs
      { kind := if k = .ident then keyword (bytesOf ((g :: rest).take (piece (g :: rest)).2)) else k,
        span := ⟨file, off, off + lengthOf ((g :: rest).take (piece (g :: rest)).2)⟩,
        text := bytesOf ((g :: rest).take (piece (g :: rest)).2), leading := held } := by
  refine ⟨?_, (slice_take hbs file _).symm, ?_⟩
  · show (if k = .ident then keyword _ else k) ≠ .eof
    split
    · exact keyword_ne_eof _
    · exact piece_ne_eof hk
  · intro hinv
    change (if k = .ident then keyword _ else k) = .invalid at hinv
    split at hinv
    · exact absurd hinv (keyword_ne_invalid _)
    · subst hinv
      exact ⟨g, by simp [piece_invalid hk, bytesOf]⟩

/-! ### A whole run -/

/-- Lexing from offset `off`, with the trivia `held` laid from `a` to `off`, gives tokens that
keep their promises (`Token.Lexed`) and then the end-of-file token; their spans run from `a`
without gap up to a point from which every glyph is trivia. -/
theorem run_cover (file : Nat) (gs : List Glyph) (off : Nat) (held : List Trivia)
    {bs : List UInt8} (hbs : bs.drop off = bytesOf gs) :
    ∀ {a : Nat}, Contiguous file a (held.map Trivia.span) off →
    ∃ toks, run file gs off held = toks ++
        [{ kind := .eof, span := ⟨file, off + lengthOf gs, off + lengthOf gs⟩, text := [],
           leading := [] }] ∧
      (∀ t ∈ toks, t.Lexed bs) ∧
      ((toks = [] ∧ AllTrivia gs) ∨ CoversUpTo file a (toks.flatMap Token.spans) off gs) := by
  -- the offset moves with each step, and with it what `hbs` says
  revert hbs
  fun_induction run file gs off held with
  | case1 off held =>
    intro _ a _
    exact ⟨[], by simp [lengthOf], by simp, .inl ⟨rfl, .nil⟩⟩
  | case2 off held g rest n k hk taken stop =>
    rename_i ih
    intro hbs a hheld
    have hstop : off ≤ stop := Nat.le_add_right _ _
    -- the trivia joins the held ones and lexing goes on past it
    obtain ⟨toks, hrun, hlexed, hcover⟩ :=
      ih (drop_take hbs n) (a := a) (by simpa using hheld.append (.single hstop))
    have hend : stop + lengthOf ((g :: rest).drop n) = off + lengthOf (g :: rest) := by
      rw [Nat.add_assoc, lengthOf_take_add_drop]
    refine ⟨toks, ?_, hlexed, ?_⟩
    · simpa only [hk, hend] using hrun
    · rcases hcover with ⟨rfl, hall⟩ | hcover
      · exact .inl ⟨rfl, .trivia (piece_trivia hk) hall⟩
      · exact .inr hcover.of_drop
  | case3 off held g rest n k hk taken stop =>
    rename_i ih
    intro hbs a hheld
    have hstop : off ≤ stop := Nat.le_add_right _ _
    obtain ⟨toks, hrun, hlexed, hcover⟩ := ih (drop_take hbs n) (a := stop) (.nil stop)
    have hend : stop + lengthOf ((g :: rest).drop n) = off + lengthOf (g :: rest) := by
      rw [Nat.add_assoc, lengthOf_take_add_drop]
    -- the token carries the held trivia; its spans reach from `a` to where it stops
    have hspans : Contiguous file a
        ((held.map Trivia.span ++ [⟨file, off, stop⟩])) stop := hheld.append (.single hstop)
    let tok : Token := { kind := if k = .ident then keyword (bytesOf taken) else k,
                         span := ⟨file, off, stop⟩, text := bytesOf taken, leading := held }
    refine ⟨tok :: toks, ?_, ?_, ?_⟩
    · simp only [hk, List.cons_append, tok]
      rw [← hend]
      exact congrArg _ hrun
    · intro t ht
      rcases List.mem_cons.1 ht with rfl | ht
      · exact token_lexed file held hk hbs
      · exact hlexed t ht
    · refine .inr ?_
      rw [List.flatMap_cons]
      rcases hcover with ⟨rfl, hall⟩ | hcover
      · exact .of_drop (.of_allTrivia hall (by simpa [Token.spans] using hspans))
      · exact .of_drop (hcover.prepend hspans)

end Lexer

open Lexer in
/-- Lexing a file loses only the trivia at its end: the tokens end with one end-of-file token
with an empty span at the end, their spans and trivia run from the start without gap, and
their trivia and texts spell the text less its trailing trivia. -/
theorem SourceFile.tokens_keep_text (f : SourceFile) :
    ∃ toks pre rest,
      f.tokens = toks ++
        [{ kind := .eof, span := ⟨f.id, f.content.size, f.content.size⟩, text := [],
           leading := [] }] ∧
      Glyph.decode f.content.toList = pre ++ rest ∧ Lexer.AllTrivia rest ∧
      (∀ t ∈ toks, t.Lexed f.content.toList) ∧
      Lexer.Contiguous f.id 0 (toks.flatMap Token.spans) (Lexer.lengthOf pre) ∧
      (toks.map (Token.source f.content.toList)).flatten = Lexer.bytesOf pre ∧
      ((toks.map (Token.source f.content.toList)).flatten = f.content.toList ↔ rest = []) := by
  set bs := f.content.toList with hbs
  have hdecode : bytesOf (Glyph.decode bs) = bs := Glyph.toBytes_decode bs
  have hsize : lengthOf (Glyph.decode bs) = f.content.size := by
    rw [lengthOf_eq, hdecode, hbs, Region.toList_eq]
    simp
  obtain ⟨toks, hrun, hlexed, hcover⟩ :=
    run_cover f.id (Glyph.decode bs) 0 []
      (show bs.drop 0 = bytesOf (Glyph.decode bs) by rw [List.drop_zero, hdecode]) (.nil 0)
  -- the glyphs the tokens cover, and the trivia left after them
  obtain ⟨k, hall, hcont⟩ : CoversUpTo f.id 0 (toks.flatMap Token.spans) 0 (Glyph.decode bs) := by
    rcases hcover with ⟨rfl, hall⟩ | hcover
    · exact .of_allTrivia hall (.nil 0)
    · exact hcover
  set pre := (Glyph.decode bs).take k
  set rest := (Glyph.decode bs).drop k
  have hsplit : bs = bytesOf pre ++ bytesOf rest := by rw [← bytesOf_split, hdecode]
  have hflat : (toks.map (Token.source bs)).flatten = bytesOf pre :=
    calc (toks.map (Token.source bs)).flatten
        = ((toks.flatMap Token.spans).map (Span.slice · bs)).flatten :=
          Token.flatten_source fun t ht => (hlexed t ht).text
      _ = bs.take (bytesOf pre).length := by simp [hcont.slices bs, lengthOf_eq]
      _ = bytesOf pre := by
          have h : (bytesOf pre ++ bytesOf rest).take (bytesOf pre).length = bytesOf pre :=
            List.take_left
          rwa [← hsplit] at h
  refine ⟨toks, pre, rest, ?_, (List.take_append_drop k _).symm, hall, hlexed,
    by simpa using hcont, hflat, ?_⟩
  · rw [SourceFile.tokens, hrun, Nat.zero_add, hsize]
  · rw [hflat]
    conv_rhs => rw [← bytesOf_eq_nil]
    constructor
    · intro h
      rw [hsplit] at h
      exact List.self_eq_append_right.1 h
    · intro h
      rw [hsplit, h, List.append_nil]

/-! ### Tokens in reading order -/

namespace Lexer

/-- Tokens laid in reading order inside file `fid` of `size` bytes: each ends where or before
the next starts, none ends before it starts or past the end of the file, and only the end of
the file is empty. -/
structure Laid (fid size : Nat) (ts : List Token) : Prop where
  ordered : ts.Pairwise fun x y => x.span.stop ≤ y.span.start
  file : ∀ x ∈ ts, x.span.file = fid
  le : ∀ x ∈ ts, x.span.start ≤ x.span.stop
  nonempty : ∀ x ∈ ts, x.kind ≠ .eof → x.span.start < x.span.stop
  inside : ∀ x ∈ ts, x.span.stop ≤ size

theorem Laid.suffix {fid size : Nat} {ts ts' : List Token} (h : Laid fid size ts) (hs : ts' <:+ ts) :
    Laid fid size ts' :=
  ⟨h.ordered.sublist hs.sublist, fun x hx => h.file x (hs.subset hx), fun x hx => h.le x (hs.subset hx),
    fun x hx => h.nonempty x (hs.subset hx), fun x hx => h.inside x (hs.subset hx)⟩

namespace Contiguous

variable {file a b : Nat} {xs : List Span}

/-- Spans laid end to end lie, each in order, between the two ends, in the file. -/
theorem bounds (h : Contiguous file a xs b) :
    ∀ s ∈ xs, s.file = file ∧ a ≤ s.start ∧ s.start ≤ s.stop ∧ s.stop ≤ b := by
  induction h with
  | nil => simp
  | @cons a b c rest hab hrest ih =>
    intro s hs
    rcases List.mem_cons.1 hs with rfl | hs
    · exact ⟨rfl, Nat.le_refl _, hab, hrest.le⟩
    · obtain ⟨hf, hb, hle, hc⟩ := ih s hs
      exact ⟨hf, Nat.le_trans hab hb, hle, hc⟩

theorem pairwise (h : Contiguous file a xs b) : xs.Pairwise fun s t => s.stop ≤ t.start := by
  induction h with
  | nil => exact List.Pairwise.nil
  | cons _ hrest ih => exact List.pairwise_cons.2 ⟨fun t ht => (hrest.bounds t ht).2.1, ih⟩

end Contiguous

/-- Every token before the end of the file holds at least one byte. -/
theorem run_nonempty (file : Nat) (gs : List Glyph) (off : Nat) (held : List Trivia) :
    ∀ t ∈ run file gs off held, t.kind ≠ .eof → t.span.start < t.span.stop := by
  fun_induction run file gs off held with
  | case1 off held => simp
  | case2 off held g rest n k hk taken stop =>
    rename_i ih
    simpa only [hk] using ih
  | case3 off held g rest n k hk taken stop =>
    rename_i ih
    simp only [hk]
    intro t ht hne
    rcases List.mem_cons.1 ht with rfl | ht
    · -- a token takes at least one glyph, and a glyph at least one byte
      have hn : n ≠ 0 := Nat.pos_iff_ne_zero.1 (piece_pos g rest)
      have htaken : taken ≠ [] := by simp [taken, hn]
      have hlen : 0 < lengthOf taken := by
        rw [lengthOf_eq, List.length_pos_iff]
        exact fun h => htaken (bytesOf_eq_nil.1 h)
      show off < off + lengthOf taken
      omega
    · exact ih t ht hne

end Lexer

/-- The own spans of some tokens come in the order of all their spans, trivia included. -/
theorem Token.map_span_sublist (toks : List Token) : (toks.map Token.span).Sublist (toks.flatMap Token.spans) := by
  induction toks with
  | nil => exact List.Sublist.slnil
  | cons t toks ih =>
    rw [List.map_cons, List.flatMap_cons, Token.spans, List.append_assoc]
    exact (ih.cons_cons t.span).trans (List.sublist_append_right _ _)

/-- The glyphs of a file have as many bytes as the file. -/
theorem SourceFile.lengthOf_decode (f : SourceFile) :
    Lexer.lengthOf (Glyph.decode f.content.toList) = f.content.size := by
  have hdecode : Lexer.bytesOf (Glyph.decode f.content.toList) = f.content.toList :=
    Glyph.toBytes_decode _
  rw [Lexer.lengthOf_eq, hdecode, Region.toList_eq]
  simp

open Lexer in
/-- The tokens of a file lie in reading order inside it: each ends where or before the next
starts, and every token but the end of the file holds at least one byte. -/
theorem SourceFile.tokens_laid (f : SourceFile) : Laid f.id f.content.size f.tokens := by
  obtain ⟨toks, pre, rest, htoks, hsplit, -, -, hcont, -, -⟩ := f.tokens_keep_text
  have hpre : lengthOf pre ≤ f.content.size := by
    rw [← f.lengthOf_decode, hsplit, lengthOf_append]
    omega
  -- the own span of each token is among the spans laid end to end
  have hbound : ∀ x ∈ toks, x.span.file = f.id ∧ x.span.start ≤ x.span.stop ∧ x.span.stop ≤ lengthOf pre :=
    fun x hx => by
      obtain ⟨hf, -, hle, hstop⟩ := hcont.bounds x.span
        ((Token.map_span_sublist toks).subset (List.mem_map_of_mem hx))
      exact ⟨hf, hle, hstop⟩
  have hord : toks.Pairwise fun x y => x.span.stop ≤ y.span.start :=
    List.pairwise_map.1 (hcont.pairwise.sublist (Token.map_span_sublist toks))
  have hnonempty : ∀ x ∈ f.tokens, x.kind ≠ .eof → x.span.start < x.span.stop :=
    fun x hx => run_nonempty _ _ _ _ x (by rwa [SourceFile.tokens] at hx)
  rw [htoks] at hnonempty ⊢
  refine ⟨?_, fun x hx => ?_, fun x hx => ?_, hnonempty, fun x hx => ?_⟩
  · refine List.pairwise_append.2 ⟨hord, List.pairwise_singleton _ _, fun x hx y hy => ?_⟩
    rw [List.mem_singleton.1 hy]
    exact Nat.le_trans (hbound x hx).2.2 hpre
  -- the end of the file is an empty span at the end of the text
  all_goals rcases List.mem_append.1 hx with hx | hx
  · exact (hbound x hx).1
  · rw [List.mem_singleton.1 hx]
  · exact (hbound x hx).2.1
  · obtain rfl := List.mem_singleton.1 hx
    exact Nat.le_refl _
  · exact Nat.le_trans (hbound x hx).2.2 hpre
  · obtain rfl := List.mem_singleton.1 hx
    exact Nat.le_refl _

end Combinatory
