import Combinatory.Number.Numeral

/-!
# Command-line flags

Boolean, text and integer flags, read from left to right in long, short and clustered forms.
Every other argument is positional, and `--` ends the flags.
-/

namespace Combinatory

/-- The kind of value a flag holds. -/
inductive FlagKind where
  | bool
  | text
  | int
  deriving DecidableEq, Repr

/-- A flag: its name, short name, kind, default and usage. -/
structure FlagSpec where
  name : String
  short : Option Char
  kind : FlagKind
  default : String
  usage : String
  deriving Repr

/-- A value set to a flag. -/
inductive FlagValue where
  | bool (b : Bool)
  | text (s : String)
  | int (i : Int)
  deriving DecidableEq, Repr, Inhabited

/-- The flags read from a command line: the value of each flag set, in the order they were
set, and the positional arguments. -/
structure FlagReading where
  values : List (String × FlagValue)
  args : List String
  deriving Inhabited

namespace FlagSpec

/-- How the flag is named in an error about its value. -/
def errorName (f : FlagSpec) : String :=
  match f.short with
  | some c => "-" ++ String.singleton c ++ ", --" ++ f.name
  | none => "--" ++ f.name

/-- Whether the flag may stand without a value. -/
def optionalValue (f : FlagSpec) : Bool := f.kind = .bool

/-- Reads a value for the flag. -/
def read (f : FlagSpec) (v : String) : Except String FlagValue :=
  let bad (why : String) : Except String FlagValue :=
    .error ("invalid argument " ++ Quoted.quote v.toUTF8.toList ++ " for " ++
      Quoted.quote f.errorName.toUTF8.toList ++ " flag: " ++ why)
  match f.kind with
  | .text => .ok (.text v)
  | .bool =>
    match Numeral.parseBool v with
    | some b => .ok (.bool b)
    | none => bad (Numeral.boolError v)
  | .int =>
    match Numeral.parseInt v with
    | .ok i => .ok (.int i)
    | .error e => bad (Numeral.intError v e)

/-- The default value of the flag. -/
def defaultValue (f : FlagSpec) : FlagValue :=
  match f.kind with
  | .text => .text f.default
  | .bool => .bool (f.default = "true")
  | .int => .int ((Numeral.parseInt f.default).toOption.getD 0)

end FlagSpec

namespace FlagReading

/-- The value of flag `name`, its default when it was not set. -/
def get (r : FlagReading) (specs : List FlagSpec) (name : String) : FlagValue :=
  match r.values.lookup name with
  | some v => v
  | none => ((specs.find? (·.name = name)).map FlagSpec.defaultValue).getD (.text "")

/-- Whether flag `name` was set. -/
def changed (r : FlagReading) (name : String) : Bool := (r.values.lookup name).isSome

/-- The text value of a flag. -/
def text (r : FlagReading) (specs : List FlagSpec) (name : String) : String :=
  match r.get specs name with
  | .text s => s
  | _ => ""

/-- The boolean value of a flag. -/
def flag (r : FlagReading) (specs : List FlagSpec) (name : String) : Bool :=
  match r.get specs name with
  | .bool b => b
  | _ => false

/-- The integer value of a flag. -/
def int (r : FlagReading) (specs : List FlagSpec) (name : String) : Int :=
  match r.get specs name with
  | .int i => i
  | _ => 0

/-- Records a value. -/
def set (r : FlagReading) (name : String) (v : FlagValue) : FlagReading :=
  { r with values := (name, v) :: r.values.filter (·.1 ≠ name) }

end FlagReading

namespace Flags

/-- A byte of a short-flag cluster as a quoted character literal: the byte stands for the
character of the same number. -/
def quoteByte (b : UInt8) : String :=
  let c := Char.ofNat b.toNat
  let inner :=
    if c = '\'' then "\\'" else if c = '\\' then "\\\\"
    else if Unicode.isPrintable c then String.singleton c
    else Quoted.escapeChar c
  "'" ++ inner ++ "'"

/-- Sets a flag from a value text. -/
def assign (r : FlagReading) (f : FlagSpec) (v : String) : Except String FlagReading :=
  (f.read v).map (r.set f.name)

/-- Reads a long flag `--body`, with the arguments after it: the reading and the arguments
left. -/
def long (specs : List FlagSpec) (r : FlagReading) (arg body : String) (rest : List String) :
    Except String (FlagReading × List String) :=
  if body.isEmpty || body.startsWith "-" || body.startsWith "=" then
    .error ("bad flag syntax: " ++ arg)
  else
    let (name, value) := match body.splitOn "=" with
      | [n] => (n, none)
      | n :: more => (n, some ("=".intercalate more))
      | [] => (body, none)
    match specs.find? (·.name = name) with
    | none => .error ("unknown flag: --" ++ name)
    | some f =>
      match value with
      | some v => (assign r f v).map (·, rest)
      | none =>
        if f.optionalValue then (assign r f "true").map (·, rest)
        else match rest with
          | v :: more => (assign r f v).map (·, more)
          | [] => .error ("flag needs an argument: " ++ arg)

/-- Reads a cluster of short flags, byte by byte, with the arguments after it. What is left
of a cluster from `test.` on is ignored. -/
def shorts (specs : List FlagSpec) : Nat → FlagReading → List UInt8 → List String →
    Except String (FlagReading × List String)
  | 0, r, _, rest => .ok (r, rest)
  | _, r, [], rest => .ok (r, rest)
  | fuel + 1, r, c :: more, rest =>
    let cluster := Glyph.lossy (c :: more)
    if cluster.startsWith "test." then .ok (r, rest) else
    match specs.find? (·.short = some (Char.ofNat c.toNat)) with
    | none => .error ("unknown shorthand flag: " ++ quoteByte c ++ " in -" ++ cluster)
    | some f =>
      match more with
      | 61 :: v :: vs => (assign r f (Glyph.lossy (v :: vs))).map (·, rest)
      | _ =>
        if f.optionalValue then do
          let r ← assign r f "true"
          shorts specs fuel r more rest
        else if !more.isEmpty then (assign r f (Glyph.lossy more)).map (·, rest)
        else match rest with
          | v :: vs => (assign r f v).map (·, vs)
          | [] => .error ("flag needs an argument: " ++ quoteByte c ++ " in -" ++ cluster)

/-- Reads the arguments: the flags set and the positional arguments. -/
def parse (specs : List FlagSpec) (args : List String) : Except String FlagReading :=
  let rec go : Nat → FlagReading → List String → Except String FlagReading
    | 0, r, _ => .ok r
    | _, r, [] => .ok { r with args := r.args.reverse }
    | fuel + 1, r, a :: rest =>
      if a.utf8ByteSize ≤ 1 || !a.startsWith "-" then go fuel { r with args := a :: r.args } rest
      else if a = "--" then .ok { r with args := r.args.reverse ++ rest }
      else if a.startsWith "--" then do
        let (r, rest) ← long specs r a (a.drop 2).toString rest
        go fuel r rest
      else do
        let cluster := a.toUTF8.toList.drop 1
        let (r, rest) ← shorts specs (cluster.length + 1) r cluster rest
        go fuel r rest
  go (args.length + 1) ⟨[], []⟩ args

/-- Whether a long flag of `specs` takes no value. -/
def longIsBool (specs : List FlagSpec) (name : String) : Bool :=
  (specs.find? (·.name = name)).any (·.optionalValue)

/-- Whether a short flag of `specs` takes no value. -/
def shortIsBool (specs : List FlagSpec) (c : Char) : Bool :=
  (specs.find? (·.short = some c)).any (·.optionalValue)

/-- Whether argument `a` is a flag that takes the next argument as its value. -/
def takesNext (specs : List FlagSpec) (a : String) : Bool :=
  !a.contains '=' &&
    ((a.startsWith "--" && !longIsBool specs (a.drop 2).toString) ||
      (a.startsWith "-" && a.utf8ByteSize = 2 && !shortIsBool specs ((a.toList.getD 1 ' '))))

/-- The arguments that are not flags or flag values, as the search for a subcommand sees
them: a flag that takes a value hides the argument after it, and stops the search when
fewer than two arguments follow it. -/
def stripFlags (specs : List FlagSpec) (args : List String) : List String :=
  let rec go : List String → List String
    | [] => []
    | a :: rest =>
      if a = "--" then []
      else if takesNext specs a then
        match rest with
        | _ :: v :: more => go (v :: more)
        | _ => []
      else if a ≠ "" && !a.startsWith "-" then a :: go rest
      else go rest
  go args

/-- The arguments without the first positional one equal to `x`. -/
def withoutFirst (specs : List FlagSpec) (args : List String) (x : String) : List String :=
  let rec go : List String → List String → List String
    | acc, [] => acc.reverse
    | acc, a :: rest =>
      if a = "--" then acc.reverse ++ a :: rest
      else if takesNext specs a then
        match rest with
        | v :: more => go (v :: a :: acc) more
        | [] => (a :: acc).reverse
      else if !a.startsWith "-" && a = x then acc.reverse ++ rest
      else go (a :: acc) rest
  go [] args

end Flags

end Combinatory
