import Combinatory.Artifact.Encode

/-!
# Artifact codecs

The payload of an artifact file may be stored as it is or compressed with LZ4 (one block) or
Zstandard (one frame). A compressed form is kept only when it is shorter than the payload;
otherwise the payload is stored as it is and the compressed size in the header is zero.
-/

namespace Combinatory

/-- How the payload of an artifact file is stored: by codec byte. -/
inductive Codec where
  | none
  | lz4
  | zstd
  | other (code : Nat)
  deriving DecidableEq, Repr, Inhabited

namespace Codec

/-- The codec byte. -/
def code : Codec → Nat
  | .none => 0
  | .lz4 => 1
  | .zstd => 2
  | .other c => c

/-- The codec of a byte. -/
def ofCode : Nat → Codec
  | 0 => .none
  | 1 => .lz4
  | 2 => .zstd
  | c => .other c

/-- The name of a codec. -/
def name : Codec → String
  | .none => "none"
  | .lz4 => "lz4"
  | .zstd => "zstd"
  | .other _ => "unknown"

/-- The codec of a name; the empty name is no compression. -/
def parse? : String → Option Codec
  | "" | "none" => some .none
  | "lz4" => some .lz4
  | "zstd" => some .zstd
  | _ => Option.none

end Codec

end Combinatory
