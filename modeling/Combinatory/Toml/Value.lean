import Combinatory.Toml.Lexer
import Combinatory.Number.Decimal

/-!
# TOML values

The values a document holds, how keys are written back, and the readings of the lexer's items:
integers, floats (by exact decimal rounding), dates and times, and string escapes.
-/

namespace Combinatory.Toml

/-- A value of a document. Tables keep their keys in the order they were first set; an array
of tables is a list of tables, of which the last is the one new keys go into. -/
inductive Value where
  | string (s : String)
  | integer (i : Int)
  | float (f : Float)
  | bool (b : Bool)
  | datetime (text : String)
  | array (vs : List Value)
  | table (t : List (String × Value))
  | tables (ts : List (List (String × Value)))
  deriving Inhabited

namespace Value

/-- The name of the type a decoded value has. -/
def typeName : Value → String
  | .string _ => "string"
  | .integer _ => "int64"
  | .float _ => "float64"
  | .bool _ => "bool"
  | .datetime _ => "time.Time"
  | .array _ => "[]interface \x7b\x7d"
  | .table _ => "map[string]interface \x7b\x7d"
  | .tables _ => "[]map[string]interface \x7b\x7d"

end Value

/-- A key written back: a bare key as it is, any other between double quotes with the quote,
the backslash and the control characters escaped. -/
def quoteKeyPart (k : String) : String :=
  if k.isEmpty then "\"\""
  else if k.toList.all fun c => isBareKeyChar c.toNat then k
  else
    let esc (c : Char) : String :=
      if c = '"' then "\\\""
      else if c = '\\' then "\\\\"
      else if c = '\x08' then "\\b"
      else if c = '\t' then "\\t"
      else if c = '\n' then "\\n"
      else if c = '\x0c' then "\\f"
      else if c = '\r' then "\\r"
      else if c.toNat < 0x20 ∨ c.toNat = 0x7F then "\\u" ++ Quoted.hex 4 c.toNat
      else String.singleton c
    "\"" ++ String.join (k.toList.map esc) ++ "\""

/-- A dotted key written back. -/
def keyString (key : List String) : String := ".".intercalate (key.map quoteKeyPart)

/-! ## Numbers -/

/-- Whether every underscore stands between two characters that are not underscores, and the
text ends in a hexadecimal digit (the special floats pass). -/
def underscoresOK (s : List UInt8) : Bool :=
  let special := ["nan", "+nan", "-nan", "inf", "-inf", "+inf"].map fun t => t.toUTF8.toList
  if special.contains s then true
  else
    let rec go : List UInt8 → Bool → Bool
      | [], accept => accept
      | b :: rest, accept =>
        if b = 95 && !accept then false else go rest (isHexadecimal b.toNat)
    go s false

/-- Whether a number has a leading zero that is not alone and not a base prefix. -/
def hasLeadingZero (s : List UInt8) : Bool :=
  match s with
  | 48 :: c :: _ => !(c = 98 || c = 111 || c = 120)
  | sign :: 48 :: _ :: _ => sign = 45 || sign = 43
  | _ => false

/-- Whether every period is followed by a digit. -/
def periodsOK (s : List UInt8) : Bool :=
  let rec go : List UInt8 → Bool → Bool
    | [], period => !period
    | b :: rest, period => if period && !isDigit b.toNat then false else go rest (b = 46)
  go s false

/-- The value of one digit in base 36, if it is one. -/
def digitValue (b : UInt8) : Option Nat :=
  let n := b.toNat
  if 48 ≤ n ∧ n ≤ 57 then some (n - 48)
  else if 97 ≤ n ∧ n ≤ 122 then some (n - 87)
  else if 65 ≤ n ∧ n ≤ 90 then some (n - 55)
  else none

/-- The digits of a numeral in base `base`, skipping underscores. -/
def readDigits (base : Nat) (ds : List UInt8) : Option Nat :=
  if ds.isEmpty then none
  else
    ds.foldl (fun acc b =>
      acc.bind fun n =>
        if b = 95 then some n
        else (digitValue b).bind fun d => if d < base then some (n * base + d) else none) (some 0)

/-- How reading an integer fails: its text is not a numeral, or it does not fit 64 bits. -/
inductive IntError where
  | malformed
  | range
  deriving DecidableEq, Repr

/-- Reads a signed 64-bit integer, the base taken from a `0x`, `0o` or `0b` prefix, a leading
zero meaning octal, and underscores allowed between digits. -/
def parseInt64 (s : List UInt8) : Except IntError Int :=
  let (neg, body) := match s with
    | 45 :: rest => (true, rest)
    | 43 :: rest => (false, rest)
    | _ => (false, s)
  let (base, digits) := match body with
    | 48 :: c :: rest =>
      if c = 120 || c = 88 then (16, rest)
      else if c = 111 || c = 79 then (8, rest)
      else if c = 98 || c = 66 then (2, rest)
      else (8, c :: rest)
    | _ => (10, body)
  match readDigits base digits with
  | none => if body = [48] then .ok 0 else .error .malformed
  | some n =>
    if neg then (if n ≤ 2 ^ 63 then .ok (-(n : Int)) else .error .range)
    else if n < 2 ^ 63 then .ok n else .error .range

/-- Reads a decimal float: a sign, digits with an optional fraction, an optional exponent, or
one of the words for infinity and not-a-number; `none` when the text is not one, and
`.error ()` when the value is too large for a double. -/
def parseFloat64 (s : List UInt8) : Option (Except Unit Float) :=
  let lower := s.map fun b => if 65 ≤ b.toNat ∧ b.toNat ≤ 90 then b + 32 else b
  let (neg, body) := match lower with
    | 45 :: rest => (true, rest)
    | 43 :: rest => (false, rest)
    | _ => (false, lower)
  let inf := Float.ofBits 0x7FF0000000000000
  if body = "inf".toUTF8.toList ∨ body = "infinity".toUTF8.toList then
    some (.ok (if neg then -inf else inf))
  else if lower = "nan".toUTF8.toList then some (.ok (Float.ofBits 0x7FF8000000000001))
  else
    let isD (b : UInt8) : Bool := isDigit b.toNat
    let intPart := body.takeWhile isD
    let rest := body.drop intPart.length
    let (fracPart, rest) := match rest with
      | 46 :: more => (more.takeWhile isD, more.drop (more.takeWhile isD).length)
      | _ => ([], rest)
    if intPart.isEmpty && fracPart.isEmpty then none
    else
      let expPart : Option Int := match rest with
        | [] => some 0
        | 101 :: more =>
          let (eneg, eds) := match more with
            | 45 :: ds => (true, ds)
            | 43 :: ds => (false, ds)
            | _ => (false, more)
          if eds.isEmpty || !eds.all isD then none
          else
            let v := (readDigits 10 eds).getD 0
            some (if eneg then -(v : Int) else v)
        | _ => none
      match expPart with
      | none => none
      | some e =>
        let digits := (readDigits 10 (intPart ++ fracPart)).getD 0
        match Decimal.toFloat neg digits (e - fracPart.length) with
        | some f => some (.ok f)
        | none => some (.error ())

/-! ## Dates and times -/

/-- The number at the start of `s` of two digits, or of one when `fixed` is false. -/
def getNum (s : List UInt8) (fixed : Bool) : Option (Nat × List UInt8) :=
  match s with
  | a :: b :: rest =>
    if !isDigit a.toNat then none
    else if isDigit b.toNat then some ((a.toNat - 48) * 10 + (b.toNat - 48), rest)
    else if fixed then none
    else some (a.toNat - 48, b :: rest)
  | [a] => if isDigit a.toNat && !fixed then some (a.toNat - 48, []) else none
  | [] => none

/-- Whether `year` is a leap year. -/
def isLeap (year : Int) : Bool := year % 4 = 0 && (year % 100 ≠ 0 || year % 400 = 0)

/-- The number of days of a month. -/
def daysIn (month : Nat) (year : Int) : Nat :=
  if month = 2 then (if isLeap year then 29 else 28)
  else if month = 4 || month = 6 || month = 9 || month = 11 then 30
  else 31

/-- Reads a date `YYYY-MM-DD`: the year, month, day and the rest. -/
def parseDate (s : List UInt8) : Option (Int × Nat × Nat × List UInt8) := do
  if s.length < 4 || !isDigit (s.getD 0 0).toNat then none
  let year ← readDigits 10 (s.take 4)
  if !(s.take 4).all (fun b => isDigit b.toNat) then none
  let s := s.drop 4
  guard (s.head? = some 45)
  let (month, s) ← getNum (s.drop 1) true
  guard (1 ≤ month ∧ month ≤ 12)
  guard (s.head? = some 45)
  let (day, s) ← getNum (s.drop 1) true
  guard (day ≤ 31)
  return (year, month, day, s)

/-- Reads a time `hh:mm:ss` with optional fractional seconds: the rest. -/
def parseTime (s : List UInt8) : Option (List UInt8) := do
  let (hour, s) ← getNum s false
  guard (hour < 24)
  guard (s.head? = some 58)
  let (minute, s) ← getNum (s.drop 1) true
  guard (minute < 60)
  guard (s.head? = some 58)
  let (second, s) ← getNum (s.drop 1) true
  guard (second < 60)
  match s with
  | 46 :: d :: rest =>
    if isDigit d.toNat then some (rest.dropWhile fun b => isDigit b.toNat) else some s
  | _ => some s

/-- Reads a zone `Z` or `±hh:mm`: the rest. -/
def parseZone (s : List UInt8) : Option (List UInt8) :=
  match s with
  | 90 :: rest => some rest
  | sign :: h1 :: h2 :: 58 :: m1 :: m2 :: rest => do
    let (hr, _) ← getNum [h1, h2] true
    let (mm, _) ← getNum [m1, m2] true
    guard (hr ≤ 24 ∧ mm ≤ 60)
    guard (sign = 43 || sign = 45)
    return rest
  | _ => none

/-- Whether a date with time and zone, a local date with time, a date or a time reads in
full, in that order of layouts. -/
def layoutMatch : Nat → List UInt8 → Bool
  | 0, s => match parseDate s with
    | some (year, month, day, 84 :: rest) =>
      day ≥ 1 && day ≤ daysIn month year &&
        (match parseTime rest with
          | some rest => (parseZone rest).map List.isEmpty |>.getD false
          | none => false)
    | _ => false
  | 1, s => match parseDate s with
    | some (year, month, day, 84 :: rest) =>
      day ≥ 1 && day ≤ daysIn month year && ((parseTime rest).map List.isEmpty |>.getD false)
    | _ => false
  | 2, s => match parseDate s with
    | some (year, month, day, []) => day ≥ 1 && day ≤ daysIn month year
    | _ => false
  | _, s => (parseTime s).map List.isEmpty |>.getD false

/-- Whether a date or time is valid: it reads in full in one of the layouts (a date with time
and zone, a local date with time, a date, a time). -/
def checkDatetime (s : List UInt8) : Bool :=
  (List.range 4).any fun i => layoutMatch i s

/-- Normalises the separators of a date and time: `z` to `Z`, `t` and the space to `T`. -/
def normalizeDatetime (s : List UInt8) : List UInt8 :=
  s.map fun b => if b = 122 then 90 else if b = 116 || b = 32 then 84 else b

/-! ## Strings -/

/-- Drops the line break right after the opening delimiter of a multi-line string. -/
def stripFirstNewline : List UInt8 → List UInt8
  | 10 :: rest => rest
  | 13 :: 10 :: rest => rest
  | s => s

/-- Removes each backslash that ends a line, with the blanks and line breaks after it. -/
def stripEscapedNewlines (s : List UInt8) : List UInt8 :=
  let blank (b : UInt8) : Bool := b = 32 || b = 9 || b = 13 || b = 10
  let rec go : Nat → List UInt8 → List UInt8 → List UInt8
    | 0, acc, s => acc.reverse ++ s
    | _, acc, [] => acc.reverse
    | fuel + 1, acc, b :: rest =>
      if b ≠ 92 then go fuel (b :: acc) rest
      else match rest with
        | 92 :: more => go fuel (92 :: 92 :: acc) more
        | _ =>
          let ws := rest.takeWhile blank
          if ws.isEmpty || !ws.contains 10 then go fuel (92 :: acc) rest
          else go fuel acc (rest.drop ws.length)
  go (s.length + 1) [] s

/-- Why replacing escapes fails: a blank after a backslash, or a code point that is not a
character. -/
inductive EscapeError where
  | blank (c : Char)
  | invalid (hex : String)

/-- Replaces the escapes of a basic string. -/
def replaceEscapes (s : List UInt8) : Except EscapeError String :=
  let rec go : Nat → List UInt8 → List Char → Except EscapeError (List Char)
    | 0, _, acc => .ok acc.reverse
    | _, [], acc => .ok acc.reverse
    | fuel + 1, 92 :: c :: rest, acc =>
      let simple := [(98, '\x08'), (116, '\t'), (110, '\n'), (102, '\x0c'), (114, '\r'),
        (34, '"'), (92, '\\')]
      match simple.lookup c with
      | some ch => go fuel rest (ch :: acc)
      | none =>
        if c = 32 || c = 9 then .error (.blank (Char.ofNat c.toNat))
        else
          let n := if c = 117 then 4 else 8
          let hex := rest.take n
          let code := (readDigits 16 hex).getD 0
          let text := textOf hex
          if code ≥ 0xD800 ∧ code ≤ 0xDFFF ∨ code > 0x10FFFF then .error (.invalid text)
          else go fuel (rest.drop n) (Char.ofNat code :: acc)
    | fuel + 1, bs, acc =>
      let (g, extra) := Glyph.first bs
      go fuel (bs.drop (extra + 1)) (g.toChar :: acc)
  (go (s.length + 1) s []).map String.ofList

end Combinatory.Toml
