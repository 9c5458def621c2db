import Combinatory.Artifact.Basic

/-!
# Writing artifacts

The payload is a MessagePack map per record keyed by field name, integers at their full width.
The file starts with the magic `SKB`, version 1, the codec byte and two 32-bit sizes.
-/

namespace Combinatory

namespace Pack

/-- `n` as `k` big-endian bytes. -/
def bigEndian (k n : Nat) : List UInt8 :=
  (List.range k).reverse.map fun i => (n / 2 ^ (8 * i) % 256).toUInt8

/-- `n` as `k` little-endian bytes. -/
def littleEndian (k n : Nat) : List UInt8 :=
  (List.range k).map fun i => (n / 2 ^ (8 * i) % 256).toUInt8

/-- A string. -/
def str (s : List UInt8) : List UInt8 :=
  let l := s.length
  let hdr :=
    if l < 32 then [(0xa0 + l).toUInt8]
    else if l < 256 then [0xd9, l.toUInt8]
    else if l < 65536 then 0xda :: bigEndian 2 l
    else 0xdb :: bigEndian 4 l
  hdr ++ s

/-- The header of an array of `l` items. -/
def arrayHeader (l : Nat) : List UInt8 :=
  if l < 16 then [(0x90 + l).toUInt8]
  else if l < 65536 then 0xdc :: bigEndian 2 l
  else 0xdd :: bigEndian 4 l

/-- The header of a map of `l` entries. -/
def mapHeader (l : Nat) : List UInt8 :=
  if l < 16 then [(0x80 + l).toUInt8]
  else if l < 65536 then 0xde :: bigEndian 2 l
  else 0xdf :: bigEndian 4 l

/-- An 8-bit unsigned integer. -/
def u8 (n : Nat) : List UInt8 := [0xcc, (n % 256).toUInt8]

/-- A 16-bit unsigned integer. -/
def u16 (n : Nat) : List UInt8 := 0xcd :: bigEndian 2 n

/-- A 32-bit signed integer. -/
def i32 (n : Int) : List UInt8 := 0xd2 :: bigEndian 4 (n % 2 ^ 32).toNat

/-- A map of the given entries. -/
def map (entries : List (String × List UInt8)) : List UInt8 :=
  mapHeader entries.length ++ (entries.map fun (k, v) => str k.toUTF8.toList ++ v).flatten

/-- A list of records, nil when empty. -/
def list (items : List (List UInt8)) : List UInt8 :=
  if items.isEmpty then [0xc0] else arrayHeader items.length ++ items.flatten

end Pack

namespace Artifact

/-- The payload of a node. -/
def packNode (n : ArtNode) : List UInt8 :=
  Pack.map <| [("k", Pack.u8 n.kind)] ++
    (if n.a ≠ 0 then [("a", Pack.i32 n.a)] else []) ++
    (if n.b ≠ 0 then [("b", Pack.i32 n.b)] else []) ++
    (if n.name.isEmpty then [] else [("n", Pack.str n.name)])

/-- The payload of a root. -/
def packRoot (r : ArtRoot) : List UInt8 :=
  Pack.map [("name", Pack.str r.name), ("node", Pack.i32 r.node)]

/-- The payload of an artifact. -/
def pack (a : Artifact) : List UInt8 :=
  Pack.map [("schema", Pack.u16 a.schema), ("source", Pack.str a.source),
    ("nodes", Pack.list (a.nodes.map packNode)), ("roots", Pack.list (a.roots.map packRoot))]

/-- The magic bytes that open an artifact file. -/
def magic : List UInt8 := [83, 75, 66, 1]

/-- The header of a payload of `raw` bytes stored compressed in `packed` bytes (zero when
stored as it is) with codec byte `codec`. -/
def header (codec raw packed : Nat) : List UInt8 :=
  magic ++ [codec.toUInt8] ++ Pack.littleEndian 4 raw ++ Pack.littleEndian 4 packed

end Artifact

end Combinatory
