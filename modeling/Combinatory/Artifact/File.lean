import Combinatory.Artifact.Encode
import Combinatory.Artifact.Unpack
import Combinatory.Artifact.Codec
import Combinatory.Compress.Lz4
import Combinatory.Compress.Zstd

/-!
# Artifact files

A 13-byte header and the payload, compressed when that made it shorter. Reading checks the
header, decompresses, reads the payload and validates the artifact.
-/

namespace Combinatory

namespace Artifact

/-- The size of the header. -/
def headerSize : Nat := 13

/-- The largest payload accepted. -/
def maxPayload : Nat := 2 ^ 30

/-- The compressed form of a payload, when the codec shortens it. -/
def compressWith (raw : ByteArray) : Codec → Except ArtifactError (Option ByteArray)
  | .none => .ok none
  | .lz4 => .ok (shorter (Lz4.compress raw))
  | .zstd => .ok (shorter (Zstd.compress raw))
  | c => .error (.badCodec c.name)
where
  shorter (packed : ByteArray) : Option ByteArray :=
    if packed.size = 0 ∨ packed.size ≥ raw.size then none else some packed

/-- The bytes of an artifact file with codec `c`. -/
def encode (a : Artifact) (c : Codec) : Except ArtifactError ByteArray := do
  let raw : ByteArray := ⟨a.pack.toArray⟩
  match ← compressWith raw c with
  | none => return ⟨(header c.code raw.size 0).toArray⟩ ++ raw
  | some packed => return ⟨(header c.code raw.size packed.size).toArray⟩ ++ packed

/-- The little-endian number of the four bytes at `i`. -/
def word32 (b : ByteArray) (i : Nat) : Nat :=
  b[i]!.toNat + 256 * b[i + 1]!.toNat + 65536 * b[i + 2]!.toNat + 16777216 * b[i + 3]!.toNat

/-- The text of a short read: nothing read at all, or some but not enough. -/
def shortRead (got : Nat) : String := if got = 0 then "EOF" else "unexpected EOF"

/-- Undoes the compression of `packed` with codec `c`, into `raw` bytes. -/
def decompressWith (packed : ByteArray) (raw : Nat) : Codec → Except ArtifactError ByteArray
  | .lz4 =>
    match Lz4.decompress packed raw with
    | none => .error (.codec "lz4" "lz4: invalid source or destination buffer too short")
    | some out => if out.size ≠ raw then .error (.codecCorrupt "lz4") else .ok out
  | .zstd =>
    match Zstd.decompress packed with
    | .error e => .error (.codec "zstd" e.message)
    | .ok out => if out.size ≠ raw then .error (.codecCorrupt "zstd") else .ok out
  | c => .error (.badCodec c.name)

/-- Reads and validates an artifact file. -/
def decode (data : ByteArray) : Except ArtifactError Artifact := do
  if data.size < headerSize then throw (.truncated (shortRead data.size))
  if (data.extract 0 4).toList ≠ magic then throw .badMagic
  let c := Codec.ofCode data[4]!.toNat
  let raw := word32 data 5
  let packed := word32 data 9
  if raw > maxPayload ∨ packed > raw then throw (.corrupt "")
  let size := if packed ≠ 0 then packed else raw
  let rest := data.size - headerSize
  if size > rest then throw (.truncated (shortRead rest))
  let body := data.extract headerSize (headerSize + size)
  let body ← if packed ≠ 0 then decompressWith body raw c else pure body
  let a ← match unpack body with
    | .ok a => pure a
    | .error e => throw (.corrupt e)
  a.validate
  return a

end Artifact

end Combinatory
