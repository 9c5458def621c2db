import Combinatory.Text.Utf8
import Combinatory.Text.Category
import Combinatory.Text.Quoted

/-!
# Lexing TOML documents

A machine over the bytes of a document: each state reads a little, may emit items and names
the next state, and a stack holds the states to return to after nested constructs. The first
error ends the item stream; the items before it are kept.
-/

namespace Combinatory.Toml

/-- What an item of the lexer stands for. -/
inductive ItemKind where
  | eof | text | string | stringEsc | rawString | multilineString | rawMultilineString
  | bool | integer | float | datetime | array | arrayEnd | tableStart | tableEnd
  | arrayTableStart | arrayTableEnd | keyStart | keyEnd | commentStart
  | inlineTableStart | inlineTableEnd
  deriving DecidableEq, Repr, Inhabited

/-- An item: its kind, the bytes it spans and the line the lexer was on when it emitted it. -/
structure Item where
  kind : ItemKind
  val : List UInt8
  line : Nat
  deriving Repr, Inhabited

/-- An error of the lexer: the line it is reported on and its text. -/
structure LexError where
  line : Nat
  message : String
  deriving Repr, Inhabited

/-- The states of the lexer. -/
inductive Phase where
  | top | topEnd | tableStart | tableEnd | arrayTableEnd | tableNameStart | tableNameEnd
  | bareName | quotedName | keyStart | keyNameStart | keyEnd | value | arrayValue
  | arrayValueEnd | arrayEnd | inlineTableValue | inlineTableValueEnd | inlineTableEnd
  | string | multilineString | rawString | multilineRawString | multilineStringEscape
  | stringEscape | shortUnicodeEscape | longUnicodeEscape | numberOrDateStart | numberOrDate
  | datetime | hexInteger | octalInteger | binaryInteger | decimalNumber | decimalNumberStart
  | baseNumberOrDate | float | bool | commentStart | comment | done
  deriving DecidableEq, Repr, Inhabited

/-- The machine: the input and reading position, the widths of the last four characters (for
stepping back), the return stack, the items emitted and the first error. -/
structure Lexer where
  input : ByteArray
  start : Nat := 0
  pos : Nat := 0
  line : Nat := 1
  widths : Nat × Nat × Nat × Nat := (0, 0, 0, 0)
  nprev : Nat := 0
  atEOF : Bool := false
  stack : List Phase := []
  esc : Bool := false
  items : Array Item := #[]
  error : Option LexError := none

/-- The character read at the end of input. -/
def eof : Nat := 0

/-- The character read in place of one that is not valid. -/
def runeError : Nat := 0xFFFD

/-- Tab and space. -/
def isWhitespace (r : Nat) : Bool := r = 9 || r = 32

/-- Line feed and carriage return. -/
def isNL (r : Nat) : Bool := r = 10 || r = 13

/-- Control characters other than tab, line feed and carriage return. -/
def isControl (r : Nat) : Bool :=
  if r = 9 || r = 10 || r = 13 then false else r ≤ 0x1F || r = 0x7F

/-- Decimal digits. -/
def isDigit (r : Nat) : Bool := 48 ≤ r && r ≤ 57

/-- Binary digits. -/
def isBinary (r : Nat) : Bool := r = 48 || r = 49

/-- Octal digits. -/
def isOctal (r : Nat) : Bool := 48 ≤ r && r ≤ 55

/-- Hexadecimal digits of either case. -/
def isHexadecimal (r : Nat) : Bool :=
  isDigit r || (97 ≤ r && r ≤ 102) || (65 ≤ r && r ≤ 70)

/-- Characters of a bare key: ASCII letters and digits, underscore and hyphen. -/
def isBareKeyChar (r : Nat) : Bool :=
  (65 ≤ r && r ≤ 90) || (97 ≤ r && r ≤ 122) || isDigit r || r = 95 || r = 45

/-- Unicode letters. -/
def isLetter (r : Nat) : Bool := r ≠ 0 && Unicode.isLetter (Char.ofNat r)

/-- The character `r` between single quotes, escaped as a quoted character literal is. -/
def quoteRune (r : Nat) : String :=
  let c := Char.ofNat r
  let inner :=
    if c = '\'' then "\\'"
    else if c = '\\' then "\\\\"
    else if Unicode.isPrintable c then String.singleton c
    else Quoted.escapeChar c
  "'" ++ inner ++ "'"

/-- The character `r` between single quotes, or the words for the end of input. -/
def runeOrEOF (r : Nat) : String :=
  if r = eof then "end of file" else "'" ++ String.singleton (Char.ofNat r) ++ "'"

/-- The text of a byte string, which the lexer has already checked to be valid. -/
def textOf (bs : List UInt8) : String := Glyph.lossy bs

/-- The lexer as a state computation. -/
abbrev LexM := StateM Lexer

namespace Lexer

/-- Records an error on `line` unless one was recorded already. -/
def failOn (line : Nat) (message : String) : LexM Unit :=
  modify fun lx => if lx.error.isSome then lx else { lx with error := some ⟨line, message⟩ }

/-- Raises an error at the reading position, on the line before when the end of input has
been read; lexing stops. -/
def raise (message : String) : LexM Phase := do
  let lx ← get
  failOn (if lx.atEOF then lx.line - 1 else lx.line) message
  return .done

/-- Raises an error on the line before the current one; lexing stops. -/
def raisePrevLine (message : String) : LexM Phase := do
  let lx ← get
  failOn (lx.line - 1) message
  return .done

/-- The message for an invalid UTF-8 byte. -/
def utf8Message (b : UInt8) : String := "invalid UTF-8 byte: 0x" ++ Quoted.hex 2 b.toNat

/-- Reads the next character, or `eof` at the end of input. A character that cannot be read
records an error and reads as `runeError` without advancing. -/
def next : LexM Nat := do
  let lx ← get
  if lx.pos ≥ lx.input.size then
    set { lx with atEOF := true }
    return eof
  let b := lx.input.get! lx.pos
  let line := if b = 10 then lx.line + 1 else lx.line
  let (w0, w1, w2, _) := lx.widths
  set { lx with line, widths := (w0, w0, w1, w2), nprev := min (lx.nprev + 1) 4 }
  let (g, extra) := Glyph.first (lx.input.extract lx.pos (lx.pos + 4)).toList
  let r := match g with
    | .stray _ => runeError
    | .scalar c => c.toNat
  if r = runeError then
    failOn line (utf8Message b)
    return runeError
  let lone := r = 13 && (lx.pos + 1 = lx.input.size || lx.input.get! (lx.pos + 1) ≠ 10)
  if isControl r || lone then
    failOn line ("TOML files cannot contain control characters: '0x" ++ Quoted.hex 2 r ++ "'")
    return runeError
  modify fun lx => { lx with widths := (extra + 1, w0, w1, w2), pos := lx.pos + extra + 1 }
  return r

/-- Steps back over the last character read. -/
def backup : LexM Unit := modify fun lx =>
  if lx.atEOF then { lx with atEOF := false }
  else
    let (w0, w1, w2, w3) := lx.widths
    let pos := lx.pos - w0
    let line := if pos < lx.input.size ∧ lx.input.get! pos = 10 then lx.line - 1 else lx.line
    { lx with widths := (w1, w2, w3, w3), nprev := lx.nprev - 1, pos, line }

/-- Reads the next character when it is `c`. -/
def accept (c : Nat) : LexM Bool := do
  if (← next) = c then return true
  backup
  return false

/-- The next character, not read. -/
def peek : LexM Nat := do
  let r ← next
  backup
  return r

/-- Drops the pending input. -/
def ignore : LexM Unit := modify fun lx => { lx with start := lx.pos }

/-- The pending input. -/
def current : LexM (List UInt8) := do
  let lx ← get
  return (lx.input.extract lx.start lx.pos).toList

/-- Reads past every character that satisfies `p`, and drops it. -/
def skip (p : Nat → Bool) : LexM Unit := do
  let rec go : Nat → LexM Unit
    | 0 => pure ()
    | fuel + 1 => do
      let r ← next
      if p r then go fuel
      else
        backup
        ignore
  go ((← get).input.size + 1)

/-- Emits the pending input as an item of kind `k`. -/
def emitWith (k : ItemKind) (f : List UInt8 → List UInt8) : LexM Unit := do
  let lx ← get
  if lx.start > lx.pos then
    if lx.error.isNone then
      discard <| raise (utf8Message (lx.input.get! lx.pos))
  else if lx.error.isNone then
    let item : Item := ⟨k, f (lx.input.extract lx.start lx.pos).toList, lx.line⟩
    set { lx with items := lx.items.push item, start := lx.pos }

/-- Emits the pending input as an item of kind `k`. -/
def emit (k : ItemKind) : LexM Unit := emitWith k id

/-- Emits the pending input without surrounding spaces. -/
def emitTrim (k : ItemKind) : LexM Unit :=
  emitWith k fun bs =>
    let blank (b : UInt8) : Bool := b = 32 || b = 9 || b = 10 || b = 13 || b = 11 || b = 12
    ((bs.dropWhile blank).reverse.dropWhile blank).reverse

/-- Pushes a state to return to. -/
def push (p : Phase) : LexM Unit := modify fun lx => { lx with stack := p :: lx.stack }

/-- Pops the state to return to. -/
def pop : LexM Phase := do
  let lx ← get
  match lx.stack with
  | [] => raise "BUG in lexer: no states to pop"
  | p :: rest =>
    set { lx with stack := rest }
    return p

/-- Whether a byte list ends with `suffix`. -/
def endsWith (bs suffix : List UInt8) : Bool := suffix.reverse.isPrefixOf bs.reverse

/-- Reads a run of letters, which must spell a boolean. -/
def lexBool : LexM Phase := do
  let rec go : Nat → List Nat → LexM (List Nat)
    | 0, acc => pure acc.reverse
    | fuel + 1, acc => do
      let r ← next
      if isLetter r then go fuel (r :: acc)
      else
        backup
        pure acc.reverse
  let rs ← go ((← get).input.size + 1) []
  let s := String.ofList (rs.map Char.ofNat)
  if s = "true" || s = "false" then
    emit .bool
    pop
  else raise ("expected value but found " ++ Quoted.quote s.toUTF8.toList ++ " instead")

/-- Reads `n` hexadecimal digits of a Unicode escape. -/
def lexUnicodeEscape (n : Nat) (what : String) : LexM Phase := do
  let rec go : Nat → LexM Bool
    | 0 => pure true
    | k + 1 => do
      if isHexadecimal (← next) then go k else pure false
  if ← go n then pop
  else
    let cur ← current
    raise ("expected " ++ what ++ " hexadecimal digits after '\\" ++
      (if n = 4 then "u" else "U") ++ "', but got " ++ Quoted.quote cur ++ " instead")

/-- Reads the rest of a basic string: one character per step. -/
def lexString : LexM Phase := do
  let r ← next
  if r = eof then raise "unexpected EOF; expected '\"'"
  else if isNL r then raisePrevLine "strings cannot contain newlines"
  else if r = 92 then
    push .string
    return .stringEscape
  else if r = 34 then
    backup
    if (← get).esc then
      modify fun lx => { lx with esc := false }
      emit .stringEsc
    else emit .string
    discard next
    ignore
    pop
  else return .string

/-- Reads the rest of a multi-line basic string. -/
def lexMultilineString : LexM Phase := do
  let r ← next
  if r = eof then raise "unexpected EOF; expected '\"\"\"'"
  else if r = 92 then return .multilineStringEscape
  else if r = 34 then
    if ← accept 34 then
      if ← accept 34 then
        if (← peek) = 34 then
          let cur ← current
          let five := "\"\"\"\"\"".toUTF8.toList
          if endsWith cur five && !endsWith cur (92 :: five) then
            return (← raise "unexpected '\"\"\"\"\"\"'")
          backup
          backup
          return .multilineString
        backup
        backup
        backup
        modify fun lx => { lx with esc := false }
        emit .multilineString
        discard next
        discard next
        discard next
        ignore
        return (← pop)
      backup
    return .multilineString
  else return .multilineString

/-- Reads the rest of a literal string. -/
def lexRawString : LexM Phase := do
  let r ← next
  if r = eof then raise "unexpected EOF; expected \"'\""
  else if isNL r then raisePrevLine "strings cannot contain newlines"
  else if r = 39 then
    backup
    emit .rawString
    discard next
    ignore
    pop
  else return .rawString

/-- Reads the rest of a multi-line literal string. -/
def lexMultilineRawString : LexM Phase := do
  let r ← next
  if r = eof then raise "unexpected EOF; expected \"'''\""
  else if r = 39 then
    if ← accept 39 then
      if ← accept 39 then
        if (← peek) = 39 then
          let cur ← current
          if endsWith cur "'''''".toUTF8.toList then
            return (← raise "unexpected \"''''''\"")
          backup
          backup
          return .multilineRawString
        backup
        backup
        backup
        emit .rawMultilineString
        discard next
        discard next
        discard next
        ignore
        return (← pop)
      backup
    return .multilineRawString
  else return .multilineRawString

/-- Reads the character after a backslash. -/
def lexStringEscape : LexM Phase := do
  modify fun lx => { lx with esc := true }
  let r ← next
  let simple := [98, 116, 110, 102, 114, 34, 32, 9, 92]
  if simple.contains r then pop
  else if r = 117 then return .shortUnicodeEscape
  else if r = 85 then return .longUnicodeEscape
  else raise ("invalid escape in string '\\" ++ String.singleton (Char.ofNat r) ++ "'")

/-- Reads a value, after optional blanks. -/
def lexValue : LexM Phase := do
  let r ← next
  if isWhitespace r then
    ignore
    return .value
  if isDigit r then
    backup
    return .numberOrDateStart
  if r = 91 then
    ignore
    emit .array
    return .arrayValue
  if r = 123 then
    ignore
    emit .inlineTableStart
    return .inlineTableValue
  if r = 34 then
    if ← accept 34 then
      if ← accept 34 then
        ignore
        return .multilineString
      backup
    ignore
    return .string
  if r = 39 then
    if ← accept 39 then
      if ← accept 39 then
        ignore
        return .multilineRawString
      backup
    ignore
    return .rawString
  if r = 46 then return (← raise "floats must start with a digit, not '.'")
  if r = 105 || r = 110 then
    let inf ← (do if ← accept 110 then accept 102 else pure false)
    let special ← (do if inf then pure true else do if ← accept 97 then accept 110 else pure false)
    if special then
      emit .float
      return (← pop)
  if r = 45 || r = 43 then return .decimalNumberStart
  if isLetter r then
    backup
    return .bool
  if r = eof then raise "unexpected EOF; expected value"
  else raise ("expected value but found " ++ quoteRune r ++ " instead")

/-- Reads the first character of a number after its sign. -/
def lexDecimalNumberStart : LexM Phase := do
  let r ← next
  if r = 105 then
    let ok ← (do if ← accept 110 then accept 102 else pure false)
    if !ok then return (← raise ("invalid float: '" ++ textOf (← current) ++ "'"))
    emit .float
    return (← pop)
  if r = 110 then
    let ok ← (do if ← accept 97 then accept 110 else pure false)
    if !ok then return (← raise ("invalid float: '" ++ textOf (← current) ++ "'"))
    emit .float
    return (← pop)
  if r = 48 then
    let p ← peek
    if p = 98 || p = 111 || p = 120 then
      return (← raise ("cannot use sign with non-decimal numbers: '" ++ textOf (← current) ++
        String.singleton (Char.ofNat p) ++ "'"))
  if r = 46 then return (← raise "floats must start with a digit, not '.'")
  if isDigit r then return .decimalNumber
  raise ("expected a digit but got " ++ quoteRune r)

/-- Reads what follows a leading zero: a base prefix, more digits or a fraction. -/
def lexBaseNumberOrDate : LexM Phase := do
  let r ← next
  if isDigit r then return .numberOrDate
  if r = 95 then return .decimalNumber
  if r = 46 || r = 101 || r = 69 then return .float
  let based (ok : Nat → Bool) (what : String) (nextPhase : Phase) : LexM Phase := do
    let p ← peek
    if !ok p then
      raise ("not " ++ what ++ " number: '" ++ textOf (← current) ++
        String.singleton (Char.ofNat p) ++ "'")
    else return nextPhase
  if r = 98 then return (← based isBinary "a binary" .binaryInteger)
  if r = 111 then return (← based isOctal "an octal" .octalInteger)
  if r = 120 then return (← based isHexadecimal "a hexidecimal" .hexInteger)
  backup
  emit .integer
  pop

/-- Reads digits accepted by `ok` and underscores, then emits an integer. -/
def lexDigits (ok : Nat → Bool) (self : Phase) : LexM Phase := do
  let r ← next
  if ok r || r = 95 then return self
  backup
  emit .integer
  pop

/-- Runs one state of the machine and names the next one. -/
def step : Phase → LexM Phase
  | .top => do
    let r ← next
    if isWhitespace r || isNL r then
      ignore
      return .top
    if r = 35 then
      push .top
      return .commentStart
    if r = 91 then return .tableStart
    if r = eof then
      let lx ← get
      if lx.pos > lx.start then return (← raise "unexpected EOF")
      emit .eof
      return .done
    backup
    push .topEnd
    return .keyStart
  | .topEnd => do
    let r ← next
    if r = 35 then
      push .top
      return .commentStart
    if isWhitespace r then return .topEnd
    if isNL r then
      ignore
      return .top
    if r = eof then
      emit .eof
      return .done
    raise ("expected a top-level item to end with a newline, comment, or EOF, but got " ++
      quoteRune r ++ " instead")
  | .tableStart => do
    if (← peek) = 91 then
      discard next
      emit .arrayTableStart
      push .arrayTableEnd
    else
      emit .tableStart
      push .tableEnd
    return .tableNameStart
  | .tableEnd => do
    emit .tableEnd
    return .topEnd
  | .arrayTableEnd => do
    let r ← next
    if r ≠ 93 then
      return (← raise ("expected end of table array name delimiter ']', but got " ++
        quoteRune r ++ " instead"))
    emit .arrayTableEnd
    return .topEnd
  | .tableNameStart => do
    skip isWhitespace
    let r ← peek
    if r = 93 || r = eof then raise "unexpected end of table name (table names cannot be empty)"
    else if r = 46 then raise "unexpected table separator (table names cannot be empty)"
    else if r = 34 || r = 39 then
      ignore
      push .tableNameEnd
      return .quotedName
    else
      push .tableNameEnd
      return .bareName
  | .tableNameEnd => do
    skip isWhitespace
    let r ← next
    if isWhitespace r then return .tableNameEnd
    if r = 46 then
      ignore
      return .tableNameStart
    if r = 93 then return (← pop)
    raise ("expected '.' or ']' to end table name, but got " ++ quoteRune r ++ " instead")
  | .bareName => do
    let r ← next
    if isBareKeyChar r then return .bareName
    backup
    emit .text
    pop
  | .quotedName => do
    let r ← next
    if isWhitespace r then
      ignore
      return .value
    if r = 34 then
      ignore
      return .string
    if r = 39 then
      ignore
      return .rawString
    if r = eof then raise "unexpected EOF; expected value"
    else raise ("expected value but found " ++ quoteRune r ++ " instead")
  | .keyStart => do
    skip isWhitespace
    let r ← peek
    if r = 61 || r = eof then return (← raise "unexpected '=': key name appears blank")
    if r = 46 then return (← raise "unexpected '.': keys cannot start with a '.'")
    if r = 34 || r = 39 then ignore
    emit .keyStart
    return .keyNameStart
  | .keyNameStart => do
    skip isWhitespace
    let r ← peek
    if r = 61 || r = eof then raise "unexpected '='"
    else if r = 46 then raise "unexpected '.'"
    else if r = 34 || r = 39 then
      ignore
      push .keyEnd
      return .quotedName
    else
      push .keyEnd
      return .bareName
  | .keyEnd => do
    skip isWhitespace
    let r ← next
    if isWhitespace r then
      ignore
      return .keyEnd
    if r = eof then return (← raise "unexpected EOF; expected key separator '='")
    if r = 46 then
      ignore
      return .keyNameStart
    if r = 61 then
      emit .keyEnd
      ignore
      return .value
    raise ("expected '.' or '=', but got " ++ quoteRune r ++ " instead")
  | .value => lexValue
  | .arrayValue => do
    let r ← next
    if isWhitespace r || isNL r then
      ignore
      return .arrayValue
    if r = 35 then
      push .arrayValue
      return .commentStart
    if r = 44 then return (← raise "unexpected comma")
    if r = 93 then return .arrayEnd
    backup
    push .arrayValueEnd
    return .value
  | .arrayValueEnd => do
    let r ← next
    if isWhitespace r || isNL r then
      ignore
      return .arrayValueEnd
    if r = 35 then
      push .arrayValueEnd
      return .commentStart
    if r = 44 then
      ignore
      return .arrayValue
    if r = 93 then return .arrayEnd
    raise ("expected a comma (',') or array terminator (']'), but got " ++ runeOrEOF r)
  | .arrayEnd => do
    ignore
    emit .arrayEnd
    pop
  | .inlineTableValue => do
    let r ← next
    if isWhitespace r then
      ignore
      return .inlineTableValue
    if isNL r then return (← raisePrevLine "newlines not allowed within inline tables")
    if r = 35 then
      push .inlineTableValue
      return .commentStart
    if r = 44 then return (← raise "unexpected comma")
    if r = 125 then return .inlineTableEnd
    backup
    push .inlineTableValueEnd
    return .keyStart
  | .inlineTableValueEnd => do
    let r ← next
    if isWhitespace r then
      ignore
      return .inlineTableValueEnd
    if isNL r then return (← raisePrevLine "newlines not allowed within inline tables")
    if r = 35 then
      push .inlineTableValueEnd
      return .commentStart
    if r = 44 then
      ignore
      skip isWhitespace
      if (← peek) = 125 then return (← raise "trailing comma not allowed in inline tables")
      return .inlineTableValue
    if r = 125 then return .inlineTableEnd
    raise ("expected a comma or an inline table terminator '\x7d', but got " ++ runeOrEOF r ++
      " instead")
  | .inlineTableEnd => do
    ignore
    emit .inlineTableEnd
    pop
  | .string => lexString
  | .multilineString => lexMultilineString
  | .rawString => lexRawString
  | .multilineRawString => lexMultilineRawString
  | .multilineStringEscape => do
    if isNL (← next) then return .multilineString
    backup
    push .multilineString
    lexStringEscape
  | .stringEscape => lexStringEscape
  | .shortUnicodeEscape => lexUnicodeEscape 4 "four"
  | .longUnicodeEscape => lexUnicodeEscape 8 "eight"
  | .numberOrDateStart => do
    let r ← next
    if r = 48 then return .baseNumberOrDate
    if !isDigit r then return (← raise ("expected a digit but got " ++ quoteRune r))
    return .numberOrDate
  | .numberOrDate => do
    let r ← next
    if isDigit r then return .numberOrDate
    if r = 45 || r = 58 then return .datetime
    if r = 95 then return .decimalNumber
    if r = 46 || r = 101 || r = 69 then return .float
    backup
    emit .integer
    pop
  | .datetime => do
    let r ← next
    if isDigit r || [45, 58, 84, 116, 32, 46, 90, 122, 43].contains r then return .datetime
    backup
    emitTrim .datetime
    pop
  | .hexInteger => lexDigits isHexadecimal .hexInteger
  | .octalInteger => lexDigits isOctal .octalInteger
  | .binaryInteger => lexDigits isBinary .binaryInteger
  | .decimalNumber => do
    let r ← next
    if isDigit r || r = 95 then return .decimalNumber
    if r = 46 || r = 101 || r = 69 then return .float
    backup
    emit .integer
    pop
  | .decimalNumberStart => lexDecimalNumberStart
  | .baseNumberOrDate => lexBaseNumberOrDate
  | .float => do
    let r ← next
    if isDigit r || [95, 46, 45, 43, 101, 69].contains r then return .float
    backup
    emit .float
    pop
  | .bool => lexBool
  | .commentStart => do
    ignore
    emit .commentStart
    return .comment
  | .comment => do
    let r ← next
    if isNL r || r = eof then
      backup
      emit .text
      pop
    else return .comment
  | .done => return .done

/-- Runs the machine from `p` until it stops or records an error, at most `fuel` steps. -/
def run : Nat → Phase → LexM Unit
  | 0, _ => pure ()
  | fuel + 1, p => do
    if p = .done || (← get).error.isSome then return
    let q ← step p
    run fuel q

end Lexer

/-- The items of a document up to its end or to the first error, and that error. -/
def lex (input : ByteArray) : Array Item × Option LexError :=
  let lx : Lexer := { input }
  let (_, lx) := (Lexer.run (64 * (input.size + 1)) .top).run lx
  (lx.items, lx.error)

end Combinatory.Toml
