import Combinatory.Toml.Value

/-!
# Parsing TOML documents

The lexer's items are read into a tree of tables. Dotted keys and headers create implicit tables
on their way, which may later be defined once; any other key defined twice is an error.
-/

namespace Combinatory.Toml

/-- A table: its keys in the order they were first set. -/
abbrev Table := List (String × Value)

namespace Table

/-- The value at key `k`. -/
def get? (t : Table) (k : String) : Option Value := t.lookup k

/-- Sets key `k`, in place when it is present and at the end otherwise. -/
def put (t : Table) (k : String) (v : Value) : Table :=
  if t.any (·.1 = k) then t.map fun e => if e.1 = k then (k, v) else e else t ++ [(k, v)]

end Table

namespace Value

/-- The table a value leads into: the value itself when it is a table, the last table of an
array of tables. -/
def inner? : Value → Option Table
  | .table t => some t
  | .tables ts => ts.getLast?
  | _ => none

/-- Puts back the table a value leads into. -/
def withInner : Value → Table → Value
  | .tables ts, t => .tables (ts.dropLast ++ [t])
  | _, t => .table t

end Value

/-- How walking down a path of keys fails: the entry at the key with this 1-based index is
missing, or is not a table. -/
inductive WalkError where
  | missing (depth : Nat)
  | notTable (depth : Nat)

namespace Table

/-- The table reached by walking `path` down from `t`. -/
def descend (t : Table) : List String → Nat → Except WalkError Table
  | [], _ => .ok t
  | k :: ks, d =>
    match t.get? k with
    | none => .error (.missing (d + 1))
    | some v =>
      match v.inner? with
      | none => .error (.notTable (d + 1))
      | some inner => descend inner ks (d + 1)

/-- Replaces the table at `path` (as `descend` reaches it) by `new`. -/
def writeAt (t : Table) (new : Table) : List String → Table
  | [] => new
  | k :: ks =>
    match t.get? k with
    | some v =>
      match v.inner? with
      | some inner => t.put k (v.withInner (writeAt inner new ks))
      | none => t
    | none => t

/-- Walks `path` down from `t`, creating each missing table: the new tree and the 1-based
indices of the keys it created, or the index of a key that holds something else. -/
def ensure (t : Table) : List String → Nat → Except Nat (Table × List Nat)
  | [], _ => .ok (t, [])
  | k :: ks, d =>
    let (t, created) := match t.get? k with
      | none => (t.put k (.table []), [d + 1])
      | some _ => (t, [])
    match t.get? k with
    | none => .error (d + 1)
    | some v =>
      match v.inner? with
      | none => .error (d + 1)
      | some inner =>
        match ensure inner ks (d + 1) with
        | .error e => .error e
        | .ok (inner', more) => .ok (t.put k (v.withInner inner'), created ++ more)

end Table

/-- What the parser records of a key: the line of its value and whether it holds an array. -/
structure KeyInfo where
  line : Nat
  isArray : Bool
  deriving Inhabited

/-- A parse error: its line, the key being set and its text. -/
structure ParseError where
  line : Nat
  lastKey : String
  message : String
  deriving Inhabited

namespace ParseError

/-- The error as it is printed. -/
def text (e : ParseError) : String :=
  if e.lastKey.isEmpty then "toml: line " ++ toString e.line ++ ": " ++ e.message
  else
    "toml: line " ++ toString e.line ++ " (last key " ++ Quoted.quote e.lastKey.toUTF8.toList ++
      "): " ++ e.message

end ParseError

/-- The state of the parser. -/
structure Parser where
  items : Array Item
  lexError : Option LexError
  index : Nat := 0
  context : List String := []
  currentKey : String := ""
  posLine : Nat := 0
  ordered : Array (List String) := #[]
  keyInfo : List (String × KeyInfo) := []
  mapping : Table := []
  implicits : List String := []

/-- The parser as a state computation that may fail. -/
abbrev ParseM := StateT Parser (Except ParseError)

namespace Parser

/-- The full name of the key being set, or of the context when none is. -/
def current (p : Parser) : String :=
  if p.currentKey.isEmpty then keyString p.context
  else if p.context.isEmpty then p.currentKey
  else keyString p.context ++ "." ++ p.currentKey

/-- Fails on `line` with `message`. -/
def failAt {α : Type} (line : Nat) (message : String) : ParseM α := do
  throw ⟨line, (← get).current, message⟩

/-- Fails at the line of the last key read. -/
def failHere {α : Type} (message : String) : ParseM α := do
  failAt (← get).posLine message

/-- The next item; the lexer's error when the items have run out. -/
def next : ParseM Item := do
  let p ← get
  match p.items[p.index]? with
  | some it =>
    set { p with index := p.index + 1 }
    return it
  | none =>
    match p.lexError with
    | some e => failAt e.line e.message
    | none => failAt 0 "unexpected end of document"

/-- The next item, whose line becomes the line of later errors. -/
def nextPos : ParseM Item := do
  let it ← next
  modify fun p => { p with posLine := it.line }
  return it

/-- Records an implicit table. -/
def addImplicit (key : List String) : ParseM Unit :=
  modify fun p => { p with implicits := keyString key :: p.implicits }

/-- Forgets an implicit table. -/
def removeImplicit (key : List String) : ParseM Unit :=
  modify fun p => { p with implicits := p.implicits.filter (· ≠ keyString key) }

/-- Whether a table is implicit. -/
def isImplicit (key : List String) : ParseM Bool :=
  return (← get).implicits.contains (keyString key)

/-- Whether a key holds an array. -/
def isArray (key : List String) : ParseM Bool :=
  return (((← get).keyInfo.lookup (keyString key)).map (·.isArray)).getD false

/-- Records the line and kind of the value at `key` in the context (at the context itself when
`key` is empty). -/
def setType (key : String) (isArray : Bool) (line : Nat) : ParseM Unit := do
  let p ← get
  let full := p.context ++ (if key.isEmpty then [] else [key])
  let full := if full.isEmpty then [""] else full
  let name := keyString full
  set { p with keyInfo := (name, ⟨line, isArray⟩) :: p.keyInfo.filter (·.1 ≠ name) }

/-- Sets `key` in the table of the context. A key present already may be set again only when
it holds an array, and is left alone when it is an implicit table. -/
def setValue (key : String) (value : Value) : ParseM Unit := do
  let p ← get
  match p.mapping.descend p.context 0 with
  | .error (.missing d) =>
    failHere ("BUG: Context for key '" ++ keyString (p.context.take d) ++
      "' has not been established.")
  | .error (.notTable d) =>
    failHere ("Key '" ++ keyString (p.context.take d) ++ "' has already been defined.")
  | .ok hash =>
    let full := p.context ++ [key]
    if (hash.get? key).isSome then
      if ← isArray full then
        removeImplicit full
        modify fun p => { p with mapping := p.mapping.writeAt (hash.put key value) p.context }
      else if ← isImplicit full then
        removeImplicit full
      else failHere ("Key '" ++ keyString full ++ "' has already been defined.")
    else
      modify fun p => { p with mapping := p.mapping.writeAt (hash.put key value) p.context }

/-- Makes `key` the context, creating the tables on its way; with `array`, appends a new table
to the array of tables at `key`. -/
def addContext (key : List String) (array : Bool) : ParseM Unit := do
  let p ← get
  let pre := key.dropLast
  let last := key.getLastD ""
  match p.mapping.ensure pre 0 with
  | .error d => failHere ("Key '" ++ keyString (pre.take d) ++ "' was already created as a hash.")
  | .ok (mapping, created) =>
    for d in created do
      addImplicit (pre.take d)
    modify fun p => { p with mapping, context := pre }
    if array then
      match mapping.descend pre 0 with
      | .error _ => failHere "BUG: context vanished"
      | .ok hash =>
        let entry := (hash.get? last).getD (.tables [])
        match entry with
        | .tables ts =>
          modify fun p =>
            { p with mapping := p.mapping.writeAt (hash.put last (.tables (ts ++ [[]]))) pre }
        | _ =>
          failHere ("Key '" ++ keyString key ++ "' was already created and cannot be used as an array.")
    else setValue last (.table [])
    modify fun p => { p with context := pre ++ [last] }

/-- Marks `key` implicit and makes it the context. -/
def addImplicitContext (key : List String) : ParseM Unit := do
  addImplicit key
  addContext key false

/-- Reads the text of a string item. -/
def stringValue (it : Item) : ParseM String :=
  let escapes (bs : List UInt8) : ParseM String :=
    match replaceEscapes bs with
    | .ok s => pure s
    | .error (.blank c) => failAt it.line ("invalid escape: '\\" ++ String.singleton c ++ "'")
    | .error (.invalid hex) =>
      failAt it.line ("Escaped character '\\u" ++ hex ++ "' is not valid UTF-8.")
  match it.kind with
  | .stringEsc => escapes it.val
  | .multilineString => escapes (stripEscapedNewlines (stripFirstNewline it.val))
  | .rawMultilineString => pure (textOf (stripFirstNewline it.val))
  | _ => pure (textOf it.val)

/-- Whether an item is a string. -/
def isStringKind (k : ItemKind) : Bool :=
  k = .string || k = .stringEsc || k = .multilineString || k = .rawString ||
    k = .rawMultilineString

/-- Reads the parts of a key or header, starting with `first`, up to the item of kind
`stop`. -/
def keyParts (first : Item) (stop : ItemKind) : ParseM (List String) := do
  let rec go : Nat → Item → List String → ParseM (List String)
    | 0, _, acc => pure acc.reverse
    | fuel + 1, it, acc => do
      if it.kind = stop || it.kind = .eof then return acc.reverse
      let part ← if it.kind = .text then pure (textOf it.val)
        else if isStringKind it.kind then stringValue it
        else failAt it.line "BUG: Unexpected key type"
      go fuel (← next) (part :: acc)
  go ((← get).items.size + 1) first []

/-- Reads an integer item. -/
def valueInteger (it : Item) : ParseM Value := do
  let shown := Quoted.quote it.val
  if !underscoresOK it.val then
    failAt it.line ("Invalid integer " ++ shown ++ ": underscores must be surrounded by digits")
  if hasLeadingZero it.val then
    failAt it.line ("Invalid integer " ++ shown ++ ": cannot have leading zeroes")
  match parseInt64 it.val with
  | .ok n => return .integer n
  | .error .range => failAt it.line (textOf it.val ++ " is out of range for int64")
  | .error .malformed => failAt it.line ("BUG: Expected integer value, but got '" ++ textOf it.val ++ "'.")

/-- Splits at every `.`, `e` and `E`, dropping empty fields. -/
def floatFields (s : List UInt8) : List (List UInt8) :=
  (s.splitOn 46 |>.flatMap (·.splitOn 101) |>.flatMap (·.splitOn 69)).filter (!·.isEmpty)

/-- Reads a float item. -/
def valueFloat (it : Item) : ParseM Value := do
  let shown := Quoted.quote it.val
  let parts := floatFields it.val
  if parts.any (!underscoresOK ·) then
    failAt it.line ("Invalid float " ++ shown ++ ": underscores must be surrounded by digits")
  if hasLeadingZero (parts.headD []) then
    failAt it.line ("Invalid float " ++ shown ++ ": cannot have leading zeroes")
  if !periodsOK it.val then
    failAt it.line ("Invalid float " ++ shown ++ ": '.' must be followed by one or more digits")
  let v := it.val.filter (· ≠ 95)
  let v := if v = "+nan".toUTF8.toList || v = "-nan".toUTF8.toList then "nan".toUTF8.toList else v
  match parseFloat64 v with
  | some (.ok f) => return .float f
  | some (.error ()) => failAt it.line (textOf it.val ++ " is out of range for float64")
  | none => failAt it.line ("Invalid float value: " ++ shown)

/-- Reads a date and time item. -/
def valueDatetime (it : Item) : ParseM Value := do
  let v := normalizeDatetime it.val
  if checkDatetime v then return .datetime (textOf v)
  failAt it.line ("Invalid TOML Datetime: " ++ Quoted.quote v ++ ".")

mutual

/-- Reads the value that starts with item `it`, and whether it is an array; `parentIsArray`
when it is an element of an array. -/
def value : Nat → Item → Bool → ParseM (Value × Bool)
  | 0, it, _ => failAt it.line "BUG: nesting too deep"
  | fuel + 1, it, parentIsArray =>
    match it.kind with
    | .string | .stringEsc | .multilineString | .rawString | .rawMultilineString => do
      return (.string (← stringValue it), false)
    | .integer => do return (← valueInteger it, false)
    | .float => do return (← valueFloat it, false)
    | .bool => return (.bool (it.val = "true".toUTF8.toList), false)
    | .datetime => do return (← valueDatetime it, false)
    | .array => do
      setType (← get).currentKey true it.line
      let vs ← arrayItems fuel []
      return (.array vs, true)
    | .inlineTableStart => do
      let p ← get
      let outerContext := p.context
      let outerKey := p.currentKey
      let ctx := p.context ++ [p.currentKey]
      set { p with context := ctx, currentKey := "" }
      addImplicit ctx
      addContext ctx parentIsArray
      let hash ← inlineItems fuel ctx []
      modify fun p => { p with context := outerContext, currentKey := outerKey }
      return (.table hash, false)
    | _ => failAt it.line "BUG: Unexpected value type"

/-- Reads the elements of an array up to its end. -/
def arrayItems : Nat → List Value → ParseM (List Value)
  | 0, acc => pure acc.reverse
  | fuel + 1, acc => do
    let it ← next
    if it.kind = .arrayEnd then return acc.reverse
    if it.kind = .commentStart then
      discard next
      arrayItems fuel acc
    else
      let (v, _) ← value fuel it true
      arrayItems fuel (v :: acc)

/-- Reads the pairs of an inline table up to its end, in the context `ctx`. -/
def inlineItems : Nat → List String → Table → ParseM Table
  | 0, _, hash => pure hash
  | fuel + 1, ctx, hash => do
    let it ← next
    if it.kind = .inlineTableEnd then return hash
    if it.kind = .commentStart then
      discard next
      inlineItems fuel ctx hash
    else
      let k ← nextPos
      let key ← keyParts k .keyEnd
      let cur := key.getLastD ""
      modify fun p => { p with currentKey := cur }
      for part in key.dropLast do
        addImplicitContext ((← get).context ++ [part])
      modify fun p => { p with ordered := p.ordered.push (p.context ++ [cur]) }
      let (v, isArr) ← value fuel (← next) false
      setValue cur v
      setType cur isArr it.line
      modify fun p => { p with context := ctx }
      inlineItems fuel ctx (hash.put cur v)

end

/-- Handles one item at the top of the document. -/
def topLevel (it : Item) : ParseM Unit := do
  let fuel := 2 * (← get).items.size + 4
  match it.kind with
  | .commentStart => discard next
  | .tableStart | .arrayTableStart => do
    let array := it.kind = .arrayTableStart
    let name ← nextPos
    let key ← keyParts name (if array then .arrayTableEnd else .tableEnd)
    addContext key array
    setType "" false it.line
    modify fun p => { p with ordered := p.ordered.push key }
  | .keyStart => do
    let outerContext := (← get).context
    let k ← nextPos
    let key ← keyParts k .keyEnd
    let cur := key.getLastD ""
    modify fun p => { p with currentKey := cur }
    for part in key.dropLast do
      addImplicitContext ((← get).context ++ [part])
    modify fun p => { p with ordered := p.ordered.push (p.context ++ [cur]) }
    let vItem ← next
    let (v, isArr) ← value fuel vItem false
    setValue cur v
    setType cur isArr vItem.line
    modify fun p => { p with context := outerContext, currentKey := "" }
  | _ => failAt it.line "BUG: Unexpected type at top level"

/-- Handles the items of the document up to its end. -/
def document : Nat → ParseM Unit
  | 0 => pure ()
  | fuel + 1 => do
    let it ← next
    if it.kind = .eof then return
    topLevel it
    document fuel

end Parser

/-- A parsed document: its tree, what is known of each key, and its keys in document order. -/
structure Document where
  mapping : Table
  keyInfo : List (String × KeyInfo)
  ordered : List (List String)

/-- Parses a document. A byte order mark is skipped; a NUL byte among the first six bytes is
taken for UTF-16 text and refused. -/
def parse (data : ByteArray) : Except ParseError Document :=
  let bytes := data.toList
  let bytes :=
    match bytes with
    | 0xFF :: 0xFE :: rest | 0xFE :: 0xFF :: rest => rest
    | 0xEF :: 0xBB :: 0xBF :: rest => rest
    | _ => bytes
  if (bytes.take 6).contains 0 then
    .error ⟨1, "", "files cannot contain NULL bytes; probably using UTF-16; TOML files must be UTF-8"⟩
  else
    let (items, err) := lex (ByteArray.mk bytes.toArray)
    let p : Parser := { items, lexError := err }
    match (Parser.document (items.size + 1)).run p with
    | .error e => .error e
    | .ok (_, p) => .ok ⟨p.mapping, p.keyInfo, p.ordered.toList⟩

end Combinatory.Toml
