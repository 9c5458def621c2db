import Combinatory.Toml.Parser
import Combinatory.Config.Settings

/-!
# Reading the settings file

A TOML document with the tables `arena`, `symbols` and `diagnostics`, laid over the defaults: a
key names a field up to case and takes values of the field's type. Keys that name no field are
reported in document order.
-/

namespace Combinatory

namespace Settings

/-- Whether a key of the document names the field `name`: equal up to case, where the long
s and the Kelvin sign fold to `s` and `k`. -/
def keyNames (name key : String) : Bool :=
  key.length = name.length &&
    (key.toList.zip name.toList).all fun (k, n) =>
      k = n || (k.isUpper && k.toLower = n) || (k = 'ſ' && n = 's') || (k = 'K' && n = 'k')

/-- The fields of the settings file. -/
inductive Field where
  | capacity | blockSize | maxRegions | buckets | loadFactor | maxDiagnostics | color
  deriving DecidableEq, Repr

/-- The tables of the settings file: the name of each, the name of its type, and its fields
with their names. -/
def sections : List (String × String × List (String × Field)) :=
  [("arena", "config.ArenaConfig",
      [("capacity", .capacity), ("block_size", .blockSize), ("max_regions", .maxRegions)]),
    ("symbols", "config.SymbolsConfig", [("buckets", .buckets), ("load_factor", .loadFactor)]),
    ("diagnostics", "config.DiagnosticsConfig", [("max", .maxDiagnostics), ("color", .color)])]

/-- The entry of `entries` that `key` names: an exact match first, else one equal up to
case. -/
def lookupName {α : Type} (entries : List (String × α)) (key : String) : Option α :=
  match entries.find? (·.1 = key) with
  | some e => some e.2
  | none => (entries.find? fun e => keyNames e.1 key).map (·.2)

/-- Decoding state: the settings so far and the keys that named a field. -/
abbrev DecodeM := StateT (Settings × List String) (Except String)

/-- An error about the value at `ctx`, prefixed with the line of that value. -/
def decodeError {α : Type} (doc : Toml.Document) (ctx : List String) (msg : String) :
    DecodeM α :=
  let name := Toml.keyString ctx
  let line := ((doc.keyInfo.lookup name).map (·.line)).getD 0
  let shown := Quoted.quote name.toUTF8.toList
  if ctx.isEmpty then throw ("toml: " ++ msg)
  else if line > 0 then
    throw ("toml: line " ++ toString line ++ " (last key " ++ shown ++ "): " ++ msg)
  else throw ("toml: (last key " ++ shown ++ "): " ++ msg)

/-- An error about the range of the value at `ctx`, worded as a parse error. -/
def rangeError {α : Type} (doc : Toml.Document) (ctx : List String) (msg : String) :
    DecodeM α :=
  let name := Toml.keyString ctx
  let line := ((doc.keyInfo.lookup name).map (·.line)).getD 0
  throw (Toml.ParseError.text ⟨line, name, msg⟩)

/-- The error for a value of the wrong type. -/
def badType {α : Type} (doc : Toml.Document) (ctx : List String) (dest : String)
    (v : Toml.Value) : DecodeM α :=
  decodeError doc ctx
    ("incompatible types: TOML value has type " ++ v.typeName ++ "; destination has type " ++ dest)

/-- The largest integer below which every integer is a double. -/
def maxSafeInt : Int := 9007199254740991

/-- Sets one field from a value. -/
def decodeField (doc : Toml.Document) (ctx : List String) (f : Field) (v : Toml.Value) :
    DecodeM Unit := do
  let set (g : Settings → Settings) : DecodeM Unit := modify fun (s, d) => (g s, d)
  let unsigned (g : UInt64 → Settings → Settings) : DecodeM Unit :=
    match v with
    | .integer i => set (g (UInt64.ofNat (i % 2 ^ 64).toNat))
    | _ => badType doc ctx "integer" v
  let signed (g : Int → Settings → Settings) : DecodeM Unit :=
    match v with
    | .integer i => set (g i)
    | _ => badType doc ctx "integer" v
  match f with
  | .capacity => unsigned fun n s => { s with capacity := n }
  | .blockSize => unsigned fun n s => { s with blockSize := n }
  | .maxRegions => unsigned fun n s => { s with maxRegions := n }
  | .buckets => signed fun n s => { s with buckets := n }
  | .maxDiagnostics => signed fun n s => { s with maxDiagnostics := n }
  | .loadFactor =>
    match v with
    | .float x => set fun s => { s with loadFactor := x }
    | .integer i =>
      if i < -maxSafeInt ∨ i > maxSafeInt then
        rangeError doc ctx (toString i ++ " is out of range for float64")
      else set fun s => { s with loadFactor := Float.ofInt i }
    | _ => badType doc ctx "float" v
  | .color =>
    match v with
    | .string c => set fun s => { s with color := c }
    | _ => badType doc ctx "string" v

/-- Marks a key as naming a field. -/
def markDecoded (ctx : List String) : DecodeM Unit :=
  modify fun (s, d) => (s, Toml.keyString ctx :: d)

/-- Decodes one table of the file at `ctx`. -/
def decodeSection (doc : Toml.Document) (ctx : List String) (typeName : String)
    (fields : List (String × Field)) (v : Toml.Value) : DecodeM Unit := do
  match v with
  | .table t =>
    for (key, datum) in t do
      match lookupName fields key with
      | some f =>
        markDecoded (ctx ++ [key])
        decodeField doc (ctx ++ [key]) f datum
      | none => pure ()
  | _ =>
    decodeError doc ctx
      ("type mismatch for " ++ typeName ++ ": expected table but found " ++ v.typeName)

/-- Decodes the document over `base`: the settings and the keys that named a field. -/
def decode (doc : Toml.Document) (base : Settings) : Except String (Settings × List String) := do
  let run : DecodeM Unit := do
    for (key, v) in doc.mapping do
      match lookupName (sections.map fun (n, t, fs) => (n, (t, fs))) key with
      | some (typeName, fields) =>
        markDecoded [key]
        decodeSection doc [key] typeName fields v
      | none => pure ()
  let ((), result) ← run.run (base, [])
  return result

/-- Reads the settings file `path` with contents `data` over the defaults, and checks them. -/
def load (path : String) (data : ByteArray) : Except String Settings :=
  match Toml.parse data with
  | .error e => .error (path ++ ": failed to parse TOML: " ++ e.text)
  | .ok doc =>
    match decode doc default with
    | .error msg => .error (path ++ ": failed to parse TOML: " ++ msg)
    | .ok (s, decoded) =>
      let unknown := (doc.ordered.map Toml.keyString).filter (!decoded.contains ·)
      if !unknown.isEmpty then .error (path ++ ": unknown keys: " ++ ", ".intercalate unknown)
      else
        match s.validate with
        | .error e => .error (path ++ ": " ++ e)
        | .ok () => .ok { s with path }

end Settings

end Combinatory
