import Combinatory.Tree.Basic
import Combinatory.Syntax.Stream
import Combinatory.Diagnostic.Bag
import Combinatory.Text.Quoted

/-!
# Parsing statements into a syntax tree

    program     := stmt* EOF
    stmt        := ['let'] IDENT '=' expr ';'
    expr        := abstraction | application
    abstraction := ('λ' | '\') IDENT ([','] IDENT)* ('.' | '->') expr
    application := operand+ [abstraction]
    operand     := IDENT | '(' expr ')'

A statement that fails reports one syntax error and parsing resumes after the next `;`.
-/

namespace Combinatory

/-- The state of the parser. -/
structure ParseState where
  file : SourceFile
  tokens : Array Token
  pos : Nat
  lexed : Nat
  lastSpan : Span
  invalid : Bool
  errors : Nat
  maxErrors : Nat
  reporter : Reporter
  tree : Tree
  deriving Inhabited

/-- What parsing a file gives: the program record (if built), the number of statements, the
number of syntax errors counted and whether an invalid token was met. -/
structure ParseResult where
  program : Option Nat
  stmts : Nat
  errors : Nat
  invalid : Bool
  deriving DecidableEq, Repr, Inhabited

namespace ParseResult

/-- Whether parsing failed: a syntax error, an invalid token or no program. -/
def failed (r : ParseResult) : Bool := r.errors > 0 || r.invalid || r.program.isNone

end ParseResult

namespace Parser

abbrev ParseM := StateM ParseState

/-- Runs a tree operation. -/
def onTree {α} (f : StateM Tree α) : ParseM α := do
  let s ← get
  let (a, t) := f.run s.tree
  set { s with tree := t }
  return a

/-- Lexes the tokens up to index `i`: the lexer reports the unknown characters among those not
lexed yet, as its stream does when it first hands them out. -/
def lexUpTo (i : Nat) : ParseM Unit := do
  let s ← get
  if s.lexed ≤ i then
    let fresh := (s.tokens.extract s.lexed (i + 1)).toList
    set { s with reporter := Lexer.reportUnknown s.reporter fresh, lexed := i + 1 }

/-- The current token. -/
def peek : ParseM Token := do
  let s ← get
  lexUpTo s.pos
  return s.tokens[s.pos]?.getD default

/-- Whether the current token has kind `k`. -/
def isAt (k : TokenKind) : ParseM Bool := return (← peek).kind = k

/-- Consumes the current token. -/
def advance : ParseM Token := do
  let tok ← peek
  modify fun s => { s with
    pos := if s.pos + 1 < s.tokens.size then s.pos + 1 else s.pos,
    invalid := s.invalid || tok.kind = .invalid,
    lastSpan := if tok.kind = .eof ∨ tok.kind = .invalid then s.lastSpan else tok.span }
  return tok

/-- The span of a syntax error: just after the last token at the end of the file, the
current token otherwise. -/
def diagnosticSpan : ParseM Span := do
  let tok ← peek
  let s ← get
  if tok.kind = .eof ∧ s.lastSpan.stop > 0 then
    return ⟨s.lastSpan.file, s.lastSpan.stop, s.lastSpan.stop⟩
  return tok.span

/-- Counts a syntax error and reports it unless past the limit. -/
def report (d : Diagnostic) : ParseM Unit :=
  modify fun s =>
    let n := s.errors + 1
    if s.maxErrors > 0 ∧ n > s.maxErrors then { s with errors := n }
    else { s with errors := n, reporter := s.reporter.report d }

/-- How a token is named in a syntax error. -/
def describe (t : Token) : String :=
  if t.kind = .ident then "identifier " ++ t.textString else t.kind.describe

/-- Reports a syntax error about the current token, unless it is invalid. -/
def fail (code : Nat) (msg : String) (notes : List Note := []) : ParseM Unit := do
  let tok ← peek
  if tok.kind = .invalid then
    modify fun s => { s with invalid := true }
  else
    let sp ← diagnosticSpan
    report { Diagnostic.error code sp (msg ++ ", found " ++ describe tok) with notes }

/-- Consumes a token of kind `k`, or reports a syntax error about the current one. -/
def expect (k : TokenKind) (code : Nat) (msg : String) : ParseM (Option Token) := do
  if ← isAt k then return some (← advance)
  fail code msg
  return none

/-- A token record for a lexer token. -/
def newToken (tok : Token) : ParseM (Option Nat) := do
  let f := (← get).file
  let start := f.lineCol tok.span.start
  let stop := f.lineCol tok.span.stop
  onTree (Tree.newToken tok.textString start.line start.col stop.col tok.span)

/-- An identifier record for a lexer token, in front of chain `next`. -/
def newIdentOf (tok : Token) (next : Option Nat) : ParseM (Option Nat) := do
  onTree (Tree.newIdent (← newToken tok) next)

/-- Whether the current token starts an operand. -/
def atOperand : ParseM Bool := do
  let k := (← peek).kind
  return k = .ident ∨ k = .lparen

/-- Parameter names up to the `.` or `->`. -/
def params : Nat → List Token → ParseM (Option (List Token))
  | 0, _ => return none
  | fuel + 1, acc => do
    let some tok ← expect .ident DiagCode.expectIdentifier "expected parameter name"
      | return none
    let acc := acc ++ [tok]
    if ← isAt .comma then
      let _ ← advance
      params fuel acc
    else if ← isAt .ident then params fuel acc
    else return some acc

/-- Builds a parameter chain from the last parameter to the first. -/
def chainOf : List Token → Option Nat → ParseM (Option Nat)
  | [], next => return next
  | tok :: rest, next => do
    let next ← newIdentOf tok next
    chainOf rest next

mutual

/-- An expression. -/
def expr : Nat → ParseM (Option Nat)
  | 0 => return none
  | fuel + 1 => do
    if ← isAt .lambda then abstraction fuel else application fuel

/-- An abstraction: the lambda, its parameters, the body. -/
def abstraction : Nat → ParseM (Option Nat)
  | 0 => return none
  | fuel + 1 => do
    let lam ← advance
    let some ps ← params (fuel + 1) [] | return none
    let k := (← peek).kind
    if !(k = .dot ∨ k = .arrow) then
      fail DiagCode.expectParamsClose "expected '.' or '->' after parameters"
      return none
    let _ ← advance
    let some body ← expr fuel | return none
    let some chain ← chainOf ps.reverse none | return none
    let sp := lam.span.cover ((← get).tree.exprSpan body)
    onTree (Tree.newAbs sp (some chain) (some body))

/-- An operand: an identifier or a parenthesized expression. -/
def operand : Nat → ParseM (Option Nat)
  | 0 => return none
  | fuel + 1 => do
    if ← isAt .ident then
      let tok ← advance
      onTree (Tree.newRef (← newIdentOf tok none))
    else
      let some opening ← expect .lparen DiagCode.expectExpression "expected identifier or '('"
        | return none
      let some inner ← expr fuel | return none
      if !(← isAt .rparen) then
        fail DiagCode.unclosedParen "expected ')'" [⟨opening.span, "parenthesis opened here"⟩]
        return none
      let _ ← advance
      return some inner

/-- Further operands, each applied to what came before: the application, missing once an
allocation failed, or nothing after a syntax error. -/
def operands : Nat → Option Nat → ParseM (Option (Option Nat))
  | 0, _ => return none
  | fuel + 1, acc => do
    if ← atOperand then
      let some arg ← operand fuel | return none
      operands fuel (← onTree (Tree.newApp acc (some arg)))
    else return some acc

/-- An application: operands, then possibly an abstraction as the last argument. -/
def application : Nat → ParseM (Option Nat)
  | 0 => return none
  | fuel + 1 => do
    if !(← atOperand) then
      fail DiagCode.expectExpression "expected expression"
      return none
    let some first ← operand fuel | return none
    let some e ← operands fuel (some first) | return none
    if ← isAt .lambda then
      let some arg ← abstraction fuel | return none
      onTree (Tree.newApp e (some arg))
    else return e

end

/-- A statement. -/
def stmt (fuel : Nat) : ParseM (Option Nat) := do
  let start := (← peek).span
  if ← isAt .kwLet then
    let _ ← advance
  let some nameTok ← expect .ident DiagCode.expectIdentifier "expected identifier to bind"
    | return none
  let name ← newIdentOf nameTok none
  let some _ ← expect .assign DiagCode.expectAssign ("expected '=' after " ++ nameTok.textString)
    | return none
  let some e ← expr fuel | return none
  let some semi ← expect .semicolon DiagCode.expectSemicolon "expected ';' after expression"
    | return none
  onTree (Tree.newStmt name (some e) (start.cover semi.span))

/-- Skips to just past the next `;`, or to the end. -/
def resync : Nat → ParseM Unit
  | 0 => return
  | fuel + 1 => do
    let k := (← peek).kind
    if k = .eof then return
    if k = .semicolon then
      let _ ← advance
      return
    let _ ← advance
    resync fuel

/-- Statements until the end, the error limit or an allocation failure. -/
def stmts : Nat → List Nat → ParseM (List Nat)
  | 0, acc => return acc
  | fuel + 1, acc => do
    if ← isAt .eof then return acc
    let s ← get
    if (s.maxErrors > 0 ∧ s.errors ≥ s.maxErrors) ∨ s.tree.failure.isSome then return acc
    match ← stmt (4 * s.tokens.size + 4) with
    | some st => stmts fuel (acc ++ [st])
    | none =>
      resync (s.tokens.size + 1)
      stmts fuel acc

end Parser

/-- Parses a file into a tree, reporting to `reporter`; `maxErrors` of zero means no limit. -/
def parseFile (file : SourceFile) (tree : Tree) (reporter : Reporter) (maxErrors : Nat) :
    ParseResult × Tree × Reporter :=
  let tokens := file.tokens.toArray
  let st : ParseState :=
    { file := file, tokens := tokens, pos := 0, lexed := 0, lastSpan := ⟨file.id, 0, 0⟩,
      invalid := false, errors := 0, maxErrors := maxErrors, reporter := reporter, tree := tree }
  let run : Parser.ParseM ParseResult := do
    let ss ← Parser.stmts (tokens.size + 1) []
    let s ← get
    let res : ParseResult := ⟨none, ss.length, s.errors, s.invalid⟩
    if s.tree.failure.isSome then return res
    let p ← Parser.onTree (Tree.newProgram file.path ss)
    return { res with program := p }
  let (res, s) := run.run st
  (res, s.tree, s.reporter)

end Combinatory
