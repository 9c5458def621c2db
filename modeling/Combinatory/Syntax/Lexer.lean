import Combinatory.Syntax.Token
import Combinatory.Text.Category

/-!
# Splitting source text into tokens

At each point the lexer takes any trivia, then the longest identifier, else a punctuation mark,
else one glyph as an invalid token. The list ends with one end-of-file token, an empty span at
the end of the text.
-/

namespace Combinatory

namespace Lexer

/-- A piece of text the lexer takes in one step: trivia or a token. -/
inductive Piece where
  | trivia (k : TriviaKind)
  | token (k : TokenKind)
  deriving DecidableEq, Repr, Inhabited

/-- Whether a glyph is the character `c`. -/
def isChar (c : Char) : Glyph → Bool
  | .scalar d => d = c
  | .stray _ => false

/-- Blanks other than the line feed. -/
def isBlank : Glyph → Bool
  | .scalar c => c = ' ' ∨ c = '\t' ∨ c = '\r' ∨ c = '\x0c' ∨ c = '\x0b'
  | .stray _ => false

/-- The first glyph of an identifier: an underscore or a letter other than `λ`. -/
def isIdentStart : Glyph → Bool
  | .scalar c => c = '_' ∨ (c ≠ 'λ' ∧ Unicode.isLetter c)
  | .stray _ => false

/-- A later glyph of an identifier: also primes and numbers. -/
def isIdentRest : Glyph → Bool
  | .scalar c => c = '_' ∨ c = '\'' ∨ (c ≠ 'λ' ∧ Unicode.isLetter c) ∨ Unicode.isNumber c
  | .stray _ => false

/-- The kind of a one-glyph punctuation mark. -/
def punct? : Glyph → Option TokenKind
  | .scalar 'λ' => some .lambda
  | .scalar '\\' => some .lambda
  | .scalar '=' => some .assign
  | .scalar ';' => some .semicolon
  | .scalar ',' => some .comma
  | .scalar '.' => some .dot
  | .scalar '(' => some .lparen
  | .scalar ')' => some .rparen
  | _ => none

/-- The trivia at the head of the glyphs, with the number of glyphs it takes. -/
def trivia? : List Glyph → Option (TriviaKind × Nat)
  | [] => none
  | g :: rest =>
    if isBlank g then some (.space, 1 + (rest.takeWhile isBlank).length)
    else if isChar '\n' g then some (.newline, 1)
    else if isChar '#' g then some (.lineComment, 1 + (rest.takeWhile (!isChar '\n' ·)).length)
    else match rest with
      | h :: more =>
        if isChar '-' g ∧ isChar '-' h then
          some (.lineComment, 2 + (more.takeWhile (!isChar '\n' ·)).length)
        else none
      | [] => none

/-- The token at the head of non-empty glyphs, with the number of glyphs it takes (an
identifier's kind is settled by `keyword`). -/
def token : List Glyph → TokenKind × Nat
  | [] => (.eof, 0)
  | g :: rest =>
    if isIdentStart g then (.ident, 1 + (rest.takeWhile isIdentRest).length)
    else match rest with
      | h :: _ =>
        if isChar '-' g ∧ isChar '>' h then (.arrow, 2)
        else ((punct? g).getD .invalid, 1)
      | [] => ((punct? g).getD .invalid, 1)

/-- The next piece at the head of non-empty glyphs and the number of glyphs it takes. -/
def piece (gs : List Glyph) : Piece × Nat :=
  match trivia? gs with
  | some (k, n) => (.trivia k, n)
  | none => let (k, n) := token gs; (.token k, n)

theorem token_pos (g : Glyph) (rest : List Glyph) : 0 < (token (g :: rest)).2 := by
  cases rest with
  | nil => by_cases hs : isIdentStart g <;> simp [token, hs]
  | cons h more =>
    by_cases hs : isIdentStart g
    · simp [token, hs] <;> omega
    · by_cases ha : isChar '-' g = true ∧ isChar '>' h = true <;> simp [token, hs, ha]

theorem trivia_pos {gs : List Glyph} {k : TriviaKind} {n : Nat} (h : trivia? gs = some (k, n)) :
    0 < n := by
  match gs with
  | [] => simp [trivia?] at h
  | g :: rest =>
    simp only [trivia?] at h
    split at h
    · simp at h; omega
    · split at h
      · simp at h; omega
      · split at h
        · simp at h; omega
        · match rest with
          | [] => simp at h
          | x :: more =>
            simp only at h
            split at h
            · simp at h; omega
            · simp at h

theorem piece_pos (g : Glyph) (rest : List Glyph) : 0 < (piece (g :: rest)).2 := by
  unfold piece
  split
  · rename_i k n h
    exact trivia_pos h
  · exact token_pos g rest

/-- The kind of an identifier: the keyword `let` or a plain identifier. -/
def keyword (text : List UInt8) : TokenKind :=
  if text = "let".toUTF8.toList then .kwLet else .ident

/-- The bytes of some glyphs. -/
def bytesOf (gs : List Glyph) : List UInt8 := gs.flatMap Glyph.toBytes

/-- The byte length of some glyphs. -/
def lengthOf (gs : List Glyph) : Nat := (gs.map Glyph.byteLength).foldr (· + ·) 0

/-- Lexes glyphs starting at byte offset `off` of file `file`, with the trivia held for the
next token. -/
def run (file : Nat) (gs : List Glyph) (off : Nat) (held : List Trivia) : List Token :=
  match hgs : gs with
  | [] => [{ kind := .eof, span := ⟨file, off, off⟩, text := [], leading := [] }]
  | g :: rest =>
    let n := (piece (g :: rest)).2
    let taken := gs.take n
    let stop := off + lengthOf taken
    match (piece (g :: rest)).1 with
    | .trivia k => run file (gs.drop n) stop (held ++ [⟨k, ⟨file, off, stop⟩⟩])
    | .token k =>
      let text := bytesOf taken
      let kind := if k = .ident then keyword text else k
      { kind, span := ⟨file, off, stop⟩, text, leading := held } :: run file (gs.drop n) stop []
termination_by gs.length
decreasing_by
  all_goals
    have := piece_pos g rest
    simp_all only [List.length_drop, List.length_cons]
    omega

end Lexer

/-- The tokens of a file, ending with the end-of-file token. -/
def SourceFile.tokens (f : SourceFile) : List Token :=
  Lexer.run f.id (Glyph.decode f.content.toList) 0 []

end Combinatory
