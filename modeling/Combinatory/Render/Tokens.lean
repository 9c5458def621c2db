import Combinatory.Syntax.Token
import Combinatory.Source.File
import Combinatory.Text.Quoted

/-!
# Token dumps

The tokens up to the end of input, each with its kind, text, start and end (line and byte
column) and the kinds of its leading trivia.
-/

namespace Combinatory

/-- One row of a token dump. -/
structure TokenRow where
  kind : String
  text : List UInt8
  line : Nat
  col : Nat
  endLine : Nat
  endCol : Nat
  leading : List String
  deriving DecidableEq, Repr, Inhabited

namespace TokenRow

/-- The tokens up to the first end of input, included. -/
def upToEnd : List Token → List Token
  | [] => []
  | t :: rest => if t.kind = .eof then [t] else t :: upToEnd rest

/-- The rows of the tokens of file `f`. -/
def ofTokens (f : SourceFile) (tokens : List Token) : List TokenRow :=
  (upToEnd tokens).map fun t =>
    let s := f.lineCol t.span.start
    let e := f.lineCol t.span.stop
    { kind := t.kind.name, text := t.text, line := s.line, col := s.col, endLine := e.line,
      endCol := e.col, leading := t.leading.map (·.kind.name) }

/-- `s` padded with blanks on the left to `n` characters. -/
def padLeft (s : String) (n : Nat) : String := String.ofList (List.replicate (n - s.length) ' ') ++ s

/-- `s` padded with blanks on the right to `n` characters. -/
def padRight (s : String) (n : Nat) : String := s ++ String.ofList (List.replicate (n - s.length) ' ')

/-- The pretty line of row number `i` (from one). -/
def pretty (i : Nat) (r : TokenRow) : String :=
  let text := if r.text.isEmpty then "" else " " ++ Quoted.quote r.text
  let leading := if r.leading.isEmpty then "" else " (leading: " ++ ", ".intercalate r.leading ++ ")"
  padLeft (toString i) 3 ++ ": " ++ padRight r.kind 10 ++ text ++
    s!" at {r.line}:{r.col}-{r.endLine}:{r.endCol}" ++ leading ++ "\n"

end TokenRow

/-- The pretty dump of the tokens of file `f`. -/
def formatTokens (f : SourceFile) (tokens : List Token) : String :=
  String.join ((TokenRow.ofTokens f tokens).zipIdx.map fun (r, i) => TokenRow.pretty (i + 1) r)

end Combinatory
