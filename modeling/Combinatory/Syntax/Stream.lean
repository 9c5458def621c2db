import Combinatory.Syntax.Lexer
import Combinatory.Diagnostic.Bag
import Combinatory.Text.Quoted

/-!
# The lexer as a stream of tokens

The lexer hands out one token at a time: `next` takes it, `peek` looks at it and leaves it to be
taken, `all` takes the tokens up to the end of the file. A token is lexed when it is first looked
at, and an invalid one is then reported as an unknown character.
-/

namespace Combinatory

/-- The diagnostic of an invalid token. -/
def Token.unknownCharacter (t : Token) : Diagnostic :=
  (Diagnostic.error DiagCode.unknownCharacter t.span
    ("unknown character " ++ Quoted.quote t.text)).withSubject t.text

namespace Lexer

/-- Reports `t` when it is invalid. -/
def reportToken (r : Reporter) (t : Token) : Reporter :=
  if t.kind = .invalid then r.report t.unknownCharacter else r

/-- Reports each invalid token of `ts`, in order. -/
def reportUnknown (r : Reporter) (ts : List Token) : Reporter := ts.foldl reportToken r

/-- The lexer over a file: the glyphs left to read and the offset they start at, the token
peeked and not yet taken, the trivia held for the next token, and the reporter. -/
structure Stream where
  file : Nat
  rest : List Glyph
  offset : Nat
  look : Option Token
  hold : List Trivia
  reporter : Reporter
  deriving Inhabited

/-- A call of the lexer. -/
inductive Call where
  | next
  | peek
  deriving DecidableEq, Repr, Inhabited

namespace Stream

/-- A lexer at the start of file `f`, reporting to `r`. -/
def start (f : SourceFile) (r : Reporter) : Stream :=
  ⟨f.id, Glyph.decode f.content.toList, 0, none, [], r⟩

theorem length_drop_lt {gs : List Glyph} {k : TriviaKind} {n : Nat} (h : trivia? gs = some (k, n)) :
    (gs.drop n).length < gs.length := by
  have hn := trivia_pos h
  cases gs with
  | nil => simp [trivia?] at h
  | cons g rest => simp only [List.length_drop, List.length_cons]; omega

/-- Takes the trivia at the head of the input into the held trivia. -/
def collect (s : Stream) : Stream :=
  match h : trivia? s.rest with
  | some (k, n) =>
    let stop := s.offset + lengthOf (s.rest.take n)
    collect { s with rest := s.rest.drop n, offset := stop,
                     hold := s.hold ++ [⟨k, ⟨s.file, s.offset, stop⟩⟩] }
  | none => s
termination_by s.rest.length
decreasing_by exact length_drop_lt h

/-- Lexes a token after the trivia: the end of the file, which leaves the trivia held, or the
token at the head of the input, which takes them, and is reported when invalid. -/
def scan (s : Stream) : Token × Stream :=
  let s := s.collect
  match s.rest with
  | [] => ({ kind := .eof, span := ⟨s.file, s.offset, s.offset⟩, text := [], leading := [] }, s)
  | g :: more =>
    let n := (token (g :: more)).2
    let taken := (g :: more).take n
    let stop := s.offset + lengthOf taken
    let text := bytesOf taken
    let k := (token (g :: more)).1
    let tok : Token :=
      { kind := if k = .ident then keyword text else k, span := ⟨s.file, s.offset, stop⟩, text,
        leading := s.hold }
    (tok, { s with rest := (g :: more).drop n, offset := stop, hold := [],
                   reporter := reportToken s.reporter tok })

/-- Takes the next token: the peeked one, if any. -/
def next (s : Stream) : Token × Stream :=
  match s.look with
  | some t => (t, { s with look := none })
  | none => s.scan

/-- Looks at the next token and leaves it to be taken. -/
def peek (s : Stream) : Token × Stream :=
  let r := s.next
  (r.1, { r.2 with look := some r.1 })

/-- The glyphs left to lex, and one more while a token is peeked. -/
def remaining (s : Stream) : Nat := s.rest.length + if s.look.isSome then 1 else 0

theorem collect_rest_le (s : Stream) : s.collect.rest.length ≤ s.rest.length := by
  fun_induction collect s with
  | case1 s k n h stop ih => exact Nat.le_trans ih (Nat.le_of_lt (length_drop_lt h))
  | case2 => exact Nat.le_refl _

theorem collect_look (s : Stream) : s.collect.look = s.look := by
  fun_induction collect s with
  | case1 s k n h stop ih => exact ih
  | case2 => rfl

/-- Taking a token short of the end of the file lexes at least one glyph, or takes the peeked
token. -/
theorem remaining_next_lt (s : Stream) (h : s.next.1.kind ≠ .eof) :
    s.next.2.remaining < s.remaining := by
  have hle := collect_rest_le s
  have hlook := collect_look s
  unfold next at h ⊢
  cases hl : s.look with
  | some t => simp [remaining, hl]
  | none =>
    simp only [hl, scan] at h ⊢
    split at h
    · simp at h
    · rename_i g more hrest
      have hpos := token_pos g more
      simp only [hrest, remaining, hlook, hl, List.length_drop, List.length_cons] at hle ⊢
      simp
      omega

/-- Takes the tokens up to and including the end of the file. -/
def all (s : Stream) : List Token × Stream :=
  if h : s.next.1.kind = .eof then ([s.next.1], s.next.2)
  else
    let r := all s.next.2
    (s.next.1 :: r.1, r.2)
termination_by s.remaining
decreasing_by exact remaining_next_lt s h

/-- Makes calls in order, giving the tokens the `next` calls take. -/
def perform (s : Stream) : List Call → List Token × Stream
  | [] => ([], s)
  | .next :: cs => let r := s.next.2.perform cs; (s.next.1 :: r.1, r.2)
  | .peek :: cs => s.peek.2.perform cs

end Stream

end Lexer

end Combinatory
