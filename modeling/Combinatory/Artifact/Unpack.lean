import Combinatory.Artifact.Basic

/-!
# Reading artifact payloads

A record is read from a map keyed by field names (unknown keys skipped, a repeated key read
again over the first reading), from an array of its fields, or from nil. Integers are cut to
the field's width, and error texts name the offending code in hexadecimal.
-/

namespace Combinatory

namespace Unpack

/-- A reader of MessagePack: the input, the position, and an error text on failure. -/
abbrev UnpackM := ReaderT ByteArray (StateT Nat (Except String))

/-- Lower-case hexadecimal without leading zeros. -/
def hexCode (c : UInt8) : String :=
  let d (n : Nat) : Char := Nat.digitChar n
  if c < 16 then String.singleton (d c.toNat)
  else String.ofList [d (c.toNat / 16), d (c.toNat % 16)]

/-- Reads one byte; `EOF` at the end. -/
def code : UnpackM UInt8 := do
  let data ← read
  let pos ← get
  match data[pos]? with
  | some b => set (pos + 1); return b
  | none => throw "EOF"

/-- Reads `n` bytes: `EOF` when none is left, `unexpected EOF` when some but too few. -/
def bytes (n : Nat) : UnpackM ByteArray := do
  let data ← read
  let pos ← get
  if n = 0 then return .empty
  if pos ≥ data.size then
    set data.size
    throw "EOF"
  if pos + n > data.size then
    set data.size
    throw "unexpected EOF"
  set (pos + n)
  return data.extract pos (pos + n)

/-- A big-endian unsigned integer of `n` bytes. -/
def bigEndian (n : Nat) : UnpackM Nat := do
  let b ← bytes n
  return b.foldl (fun acc x => acc * 256 + x.toNat) 0

/-- Whether a code is a positive or negative fixed integer. -/
def isFixNum (c : UInt8) : Bool := c ≤ 0x7f ∨ c ≥ 0xe0

/-- `n` as a signed integer of `bits` bits. -/
def signed (bits n : Nat) : Int := if n ≥ 2 ^ (bits - 1) then (n : Int) - 2 ^ bits else n

/-- An unsigned integer, as 64 bits, after its code `c`. -/
def uintAfter (c : UInt8) : UnpackM Nat := do
  if c = 0xc0 then return 0
  if isFixNum c then return (signed 8 c.toNat % 2 ^ 64).toNat
  match c.toNat with
  | 0xcc => bigEndian 1
  | 0xd0 => return (signed 8 (← bigEndian 1) % 2 ^ 64).toNat
  | 0xcd => bigEndian 2
  | 0xd1 => return (signed 16 (← bigEndian 2) % 2 ^ 64).toNat
  | 0xce => bigEndian 4
  | 0xd2 => return (signed 32 (← bigEndian 4) % 2 ^ 64).toNat
  | 0xcf | 0xd3 => bigEndian 8
  | _ => throw s!"msgpack: invalid code={hexCode c} decoding uint64"

/-- A signed integer, as 64 bits, after its code `c`. -/
def intAfter (c : UInt8) : UnpackM Int := do
  if c = 0xc0 then return 0
  if isFixNum c then return signed 8 c.toNat
  match c.toNat with
  | 0xcc => return (← bigEndian 1 : Nat)
  | 0xd0 => return signed 8 (← bigEndian 1)
  | 0xcd => return (← bigEndian 2 : Nat)
  | 0xd1 => return signed 16 (← bigEndian 2)
  | 0xce => return (← bigEndian 4 : Nat)
  | 0xd2 => return signed 32 (← bigEndian 4)
  | 0xcf | 0xd3 => return signed 64 (← bigEndian 8)
  | _ => throw s!"msgpack: invalid code={hexCode c} decoding int64"

/-- An unsigned integer cut to `bits` bits. -/
def uint (bits : Nat) : UnpackM Nat := do return (← uintAfter (← code)) % 2 ^ bits

/-- A signed integer cut to `bits` bits. -/
def int (bits : Nat) : UnpackM Int := do return signed bits ((← intAfter (← code)) % 2 ^ bits).toNat

/-- The length of a string or byte string after its code `c`; nil has none. -/
def bytesLen (c : UInt8) : UnpackM (Option Nat) := do
  if c = 0xc0 then return none
  if 0xa0 ≤ c ∧ c ≤ 0xbf then return some (c.toNat - 0xa0)
  match c.toNat with
  | 0xd9 | 0xc4 => return some (← bigEndian 1)
  | 0xda | 0xc5 => return some (← bigEndian 2)
  | 0xdb | 0xc6 => return some (← bigEndian 4)
  | _ => throw s!"msgpack: invalid code={hexCode c} decoding string/bytes length"

/-- A string; nil is the empty string. -/
def str : UnpackM (List UInt8) := do
  match ← bytesLen (← code) with
  | some n => return (← bytes n).toList
  | none => return []

/-- The length of a map after its code `c`; nil has none. -/
def mapLen (c : UInt8) : UnpackM (Option Nat) := do
  if c = 0xc0 then return none
  if 0x80 ≤ c ∧ c ≤ 0x8f then return some (c.toNat - 0x80)
  match c.toNat with
  | 0xde => return some (← bigEndian 2)
  | 0xdf => return some (← bigEndian 4)
  | _ => throw s!"msgpack: unexpected code={hexCode c} decoding map length"

/-- Whether `c` opens a map. -/
def isMapCode (c : UInt8) : Bool := c = 0xc0 ∨ (0x80 ≤ c ∧ c ≤ 0x8f) ∨ c = 0xde ∨ c = 0xdf

/-- The length of an array after its code `c`; nil has none. -/
def arrayLen (c : UInt8) : UnpackM (Option Nat) := do
  if c = 0xc0 then return none
  if 0x90 ≤ c ∧ c ≤ 0x9f then return some (c.toNat - 0x90)
  match c.toNat with
  | 0xdc => return some (← bigEndian 2)
  | 0xdd => return some (← bigEndian 4)
  | _ => throw s!"msgpack: invalid code={hexCode c} decoding array length"

/-- Whether `c` opens an array. -/
def isArrayCode (c : UInt8) : Bool := c = 0xc0 ∨ (0x90 ≤ c ∧ c ≤ 0x9f) ∨ c = 0xdc ∨ c = 0xdd

/-- Skips `n` bytes. -/
def skipBytes (n : Nat) : UnpackM Unit := do let _ ← bytes n

/-- The length of the data of an extension after its code `c`. -/
def extLen (c : UInt8) : UnpackM Nat := do
  match c.toNat with
  | 0xd4 => return 1
  | 0xd5 => return 2
  | 0xd6 => return 4
  | 0xd7 => return 8
  | 0xd8 => return 16
  | 0xc7 => bigEndian 1
  | 0xc8 => bigEndian 2
  | 0xc9 => bigEndian 4
  | _ => throw s!"msgpack: invalid code={hexCode c} decoding ext len"

/-- Reads the header of one value of any kind and skips its bytes; the number of values
nested in it, which are still to be skipped. -/
def skipHeader : UnpackM Nat := do
  let c ← code
  if isFixNum c then return 0
  if 0x80 ≤ c ∧ c ≤ 0x8f then return 2 * (c.toNat - 0x80)
  if 0x90 ≤ c ∧ c ≤ 0x9f then return c.toNat - 0x90
  if 0xa0 ≤ c ∧ c ≤ 0xbf then
    skipBytes (c.toNat - 0xa0)
    return 0
  match c.toNat with
  | 0xc0 | 0xc2 | 0xc3 => return 0
  | 0xcc | 0xd0 => skipBytes 1; return 0
  | 0xcd | 0xd1 => skipBytes 2; return 0
  | 0xce | 0xd2 | 0xca => skipBytes 4; return 0
  | 0xcf | 0xd3 | 0xcb => skipBytes 8; return 0
  | 0xc4 | 0xc5 | 0xc6 | 0xd9 | 0xda | 0xdb =>
    if let some n ← bytesLen c then skipBytes n
    return 0
  | 0xdc | 0xdd => return (← arrayLen c).getD 0
  | 0xde | 0xdf => return 2 * (← mapLen c).getD 0
  | 0xd4 | 0xd5 | 0xd6 | 0xd7 | 0xd8 | 0xc7 | 0xc8 | 0xc9 =>
    skipBytes ((← extLen c) + 1)
    return 0
  | _ => throw s!"msgpack: unknown code {hexCode c}"

/-- Skips `n` values, reading at most `fuel` headers; every header read consumes a byte. -/
def skipValues : Nat → Nat → UnpackM Unit
  | _, 0 => return
  | 0, _ => throw "EOF"
  | fuel + 1, n + 1 => do
    let nested ← skipHeader
    skipValues fuel (n + nested)

/-- Skips one value of any kind. -/
def skip (fuel : Nat) : UnpackM Unit := skipValues fuel 1

/-- Reads a record: a map of fields, an array of all `fields` fields in order, or nil for
the empty record `empty`. `field name r` reads the value of field `name` into `r`, or is
`none` when no field has that name; `ordered r` reads all the fields in order. -/
def record {α : Type} (fuel : Nat) (empty : α) (fields : Nat)
    (field : String → α → Option (UnpackM α)) (ordered : α → UnpackM α) (r : α) : UnpackM α := do
  let c ← code
  if isMapCode c then
    match ← mapLen c with
    | none => return empty
    | some n =>
      let mut r := r
      for _ in [0:n] do
        let key ← str
        match field (String.fromUTF8? ⟨key.toArray⟩ |>.getD "") r with
        | some rd => r ← rd
        | none => skip fuel
      return r
  else if isArrayCode c then
    match ← arrayLen c with
    | none => return empty
    | some 0 => return empty
    | some n =>
      if n ≠ fields then throw "msgpack: number of fields in array-encoded struct has changed"
      ordered r
  else
    let _ ← mapLen c
    return r

/-- A list read into as a slice is: every element that a reading of the field has made,
of which the first `length` are the list. A later reading of the same field reads into these
elements again, in place, so elements past the list's end come back as they were. -/
structure Slots (α : Type) where
  elems : List α
  length : Nat

/-- The list the slots hold. -/
def Slots.view {α : Type} (s : Slots α) : List α := s.elems.take s.length

/-- Reads a list of records into the slots `s`: nil empties them, and the `i`-th record read
updates the `i`-th element, a record with no fields when there is none yet. -/
def list {α : Type} [Inhabited α] (elem : α → UnpackM α) (s : Slots α) : UnpackM (Slots α) := do
  match ← arrayLen (← code) with
  | none => return ⟨[], 0⟩
  | some n =>
    let mut elems := (s.elems ++ List.replicate (n - s.elems.length) default).toArray
    for i in [0:n] do
      elems := elems.set! i (← elem (elems[i]?.getD default))
    return ⟨elems.toList, n⟩

/-- Reads a node. -/
def node (fuel : Nat) : ArtNode → UnpackM ArtNode :=
  record fuel default 4
    (fun name n => match name with
      | "k" => some do return { n with kind := ← uint 8 }
      | "a" => some do return { n with a := ← int 32 }
      | "b" => some do return { n with b := ← int 32 }
      | "n" => some do return { n with name := ← str }
      | _ => none)
    (fun _ => do
      let kind ← uint 8
      let a ← int 32
      let b ← int 32
      let name ← str
      return ⟨kind, a, b, name⟩)

/-- Reads a root. -/
def root (fuel : Nat) : ArtRoot → UnpackM ArtRoot :=
  record fuel default 2
    (fun name r => match name with
      | "name" => some do return { r with name := ← str }
      | "node" => some do return { r with node := ← int 32 }
      | _ => none)
    (fun _ => do
      let name ← str
      let node ← int 32
      return ⟨name, node⟩)

/-- An artifact being read: its lists as slots. -/
structure Draft where
  schema : Nat
  source : List UInt8
  nodes : Slots ArtNode
  roots : Slots ArtRoot

/-- The artifact a draft reads as. -/
def Draft.finish (d : Draft) : Artifact := ⟨d.schema, d.source, d.nodes.view, d.roots.view⟩

/-- Reads an artifact. -/
def artifact (fuel : Nat) : UnpackM Artifact := do
  let empty : Draft := ⟨0, [], ⟨[], 0⟩, ⟨[], 0⟩⟩
  let d ← record fuel empty 4
    (fun name a => match name with
      | "schema" => some do return { a with schema := ← uint 16 }
      | "source" => some do return { a with source := ← str }
      | "nodes" => some do return { a with nodes := ← list (node fuel) a.nodes }
      | "roots" => some do return { a with roots := ← list (root fuel) a.roots }
      | _ => none)
    (fun a => do
      let schema ← uint 16
      let source ← str
      let nodes ← list (node fuel) a.nodes
      let roots ← list (root fuel) a.roots
      return ⟨schema, source, nodes, roots⟩)
    empty
  return d.finish

end Unpack

/-- Reads an artifact from a payload; the error text on failure. -/
def Artifact.unpack (data : ByteArray) : Except String Artifact :=
  ((Unpack.artifact (data.size + 1)).run data |>.run 0).map (·.1)

end Combinatory
