import Combinatory.Text.Quoted

/-!
# Reading integers and booleans from command-line text

`Numeral.parseInt` reads a signed 64-bit integer with an optional base prefix and underscores
between digits, reporting an overflow as soon as it happens; `Numeral.parseBool` reads the
usual spellings of true and false.
-/

namespace Combinatory

namespace Numeral

/-- Why a numeral does not read: it is malformed, or out of range. -/
inductive Failure where
  | invalid
  | outOfRange
  deriving DecidableEq, Repr

/-- The text of a failure. -/
def Failure.text : Failure → String
  | .invalid => "invalid syntax"
  | .outOfRange => "value out of range"

/-- A byte in lower case, when it is an ASCII letter. -/
def lower (b : UInt8) : UInt8 := if 65 ≤ b ∧ b ≤ 90 then b + 32 else b

/-- Whether the underscores of a numeral stand only between digits, or after a base
prefix. -/
def underscoresOK (s : List UInt8) : Bool :=
  let s := match s with
    | 45 :: rest | 43 :: rest => rest
    | _ => s
  let (hex, body, saw) := match s with
    | 48 :: c :: rest =>
      let l := lower c
      if l = 98 || l = 111 || l = 120 then (decide (l = 120), rest, '0') else (false, s, '^')
    | _ => (false, s, '^')
  let rec go : List UInt8 → Char → Bool
    | [], saw => saw ≠ '_'
    | c :: rest, saw =>
      if (48 ≤ c && c ≤ 57) || (hex && 97 ≤ lower c && lower c ≤ 102) then go rest '0'
      else if c = 95 then (if saw ≠ '0' then false else go rest '_')
      else if saw = '_' then false
      else go rest '!'
  go body saw

/-- Reads the digits of an unsigned numeral in `base`, failing at the first bad character or
as soon as the value passes `2 ^ 64 - 1`. -/
def digits (base : Nat) (underscore : Bool) : List UInt8 → Nat → Except Failure Nat
  | [], n => .ok n
  | c :: rest, n =>
    if c = 95 && underscore then digits base underscore rest n
    else
      let d :=
        if 48 ≤ c && c ≤ 57 then (c - 48).toNat
        else if 97 ≤ lower c && lower c ≤ 122 then (lower c - 97).toNat + 10
        else 99
      if d ≥ base then .error .invalid
      else
        let m := n * base + d
        if m ≥ 2 ^ 64 then .error .outOfRange else digits base underscore rest m

/-- Reads an unsigned 64-bit numeral with its base taken from its prefix. -/
def parseUnsigned (s : List UInt8) : Except Failure Nat :=
  if s.isEmpty then .error .invalid
  else
    let (base, body) := match s with
      | 48 :: c :: rest =>
        let l := lower c
        if rest.length ≥ 1 && l = 98 then (2, rest)
        else if rest.length ≥ 1 && l = 111 then (8, rest)
        else if rest.length ≥ 1 && l = 120 then (16, rest)
        else (8, c :: rest)
      | [48] => (8, [])
      | _ => (10, s)
    match digits base true body 0 with
    | .error e => .error e
    | .ok n => if s.contains 95 && !underscoresOK s then .error .invalid else .ok n

/-- Reads a signed 64-bit integer. -/
def parseInt (text : String) : Except Failure Int :=
  let s := text.toUTF8.toList
  if s.isEmpty then .error .invalid
  else
    let (neg, body) := match s with
      | 43 :: rest => (false, rest)
      | 45 :: rest => (true, rest)
      | _ => (false, s)
    match parseUnsigned body with
    | .error .invalid => .error .invalid
    | .error .outOfRange => .error .outOfRange
    | .ok n =>
      if !neg && n ≥ 2 ^ 63 then .error .outOfRange
      else if neg && n > 2 ^ 63 then .error .outOfRange
      else .ok (if neg then -(n : Int) else n)

/-- The error text of a failed integer read. -/
def intError (text : String) (e : Failure) : String :=
  "strconv.ParseInt: parsing " ++ Quoted.quote text.toUTF8.toList ++ ": " ++ e.text

/-- Reads a boolean. -/
def parseBool (text : String) : Option Bool :=
  if ["1", "t", "T", "TRUE", "true", "True"].contains text then some true
  else if ["0", "f", "F", "FALSE", "false", "False"].contains text then some false
  else none

/-- The error text of a failed boolean read. -/
def boolError (text : String) : String :=
  "strconv.ParseBool: parsing " ++ Quoted.quote text.toUTF8.toList ++ ": invalid syntax"

end Numeral

end Combinatory
