import Combinatory.Source.File

/-!
# Tokens of the lambda notation

The notation has identifiers, the keyword `let`, the lambda (written `λ` or a backslash), the
punctuation `=`, `;`, `,`, `.`, `->`, `(` and `)`, an end-of-file token and a token for any
character that belongs to none of these. Blanks, line feeds and comments (from `#` or `--` to
the end of the line) are trivia: each token carries the trivia that preceded it.
-/

namespace Combinatory

/-- The kinds of token, numbered in this order. -/
inductive TokenKind where
  | invalid
  | eof
  | ident
  | kwLet
  | lambda
  | assign
  | semicolon
  | comma
  | dot
  | arrow
  | lparen
  | rparen
  deriving DecidableEq, Repr, Inhabited

namespace TokenKind

/-- All kinds, in their numbering order. -/
def all : List TokenKind :=
  [invalid, eof, ident, kwLet, lambda, assign, semicolon, comma, dot, arrow, lparen, rparen]

/-- The name of a kind. -/
def name : TokenKind → String
  | invalid => "Invalid" | eof => "EOF" | ident => "Ident" | kwLet => "KwLet"
  | lambda => "Lambda" | assign => "Assign" | semicolon => "Semicolon" | comma => "Comma"
  | dot => "Dot" | arrow => "Arrow" | lparen => "LParen" | rparen => "RParen"

/-- How a kind is spelled in messages. -/
def describe : TokenKind → String
  | invalid => "invalid token" | eof => "end of file" | ident => "identifier"
  | kwLet => "'let'" | lambda => "'λ'" | assign => "'='" | semicolon => "';'"
  | comma => "','" | dot => "'.'" | arrow => "'->'" | lparen => "'('" | rparen => "')'"

/-- The name of the kind numbered `n`, for any number. -/
def nameOf (n : Nat) : String := ((all[n]?).map name).getD "Kind(?)"

/-- The spelling of the kind numbered `n`, for any number. -/
def describeOf (n : Nat) : String := ((all[n]?).map describe).getD "invalid token"

end TokenKind

/-- The kinds of trivia. -/
inductive TriviaKind where
  | space
  | newline
  | lineComment
  deriving DecidableEq, Repr, Inhabited

namespace TriviaKind

/-- The name of a trivia kind. -/
def name : TriviaKind → String
  | space => "Space" | newline => "Newline" | lineComment => "LineComment"

/-- The name of the trivia kind numbered `n`, for any number. -/
def nameOf (n : Nat) : String :=
  (([space, newline, lineComment][n]?).map name).getD "TriviaKind(?)"

end TriviaKind

/-- A piece of trivia: its kind and span. -/
structure Trivia where
  kind : TriviaKind
  span : Span
  deriving DecidableEq, Repr, Inhabited

/-- A token: its kind, span, bytes and the trivia before it. -/
structure Token where
  kind : TokenKind
  span : Span
  text : List UInt8
  leading : List Trivia
  deriving DecidableEq, Repr, Inhabited

namespace Token

/-- The text of a token as a string (stray bytes become replacement characters). -/
def textString (t : Token) : String := Glyph.lossy t.text

end Token

end Combinatory
