import Combinatory.Number.Power

/-!
# LZ4 blocks

A block is a sequence of commands, each some literals and then a match copied from an offset
back in the output; the last has literals only. Decoding fails when a command would write or
read out of bounds.
-/

namespace Combinatory

namespace Lz4

/-- The shortest match. -/
def minMatch : Nat := 4

/-- Reads a length continued in extra bytes from position `si`, following at most `fuel`
bytes: the length and the position after it. -/
def extendLength (src : ByteArray) : Nat → Nat → Nat → Option (Nat × Nat)
  | 0, _, _ => none
  | fuel + 1, si, len =>
    match src[si]? with
    | none => none
    | some x =>
      let len := len + x.toNat
      if x = 255 then extendLength src fuel (si + 1) len else some (len, si + 1)

/-- Copies a match of `len` bytes from `offset` bytes back, byte by byte. -/
def copyMatch (out : ByteArray) (offset : Nat) : Nat → ByteArray
  | 0 => out
  | len + 1 => copyMatch (out.push (out.get! (out.size - offset))) offset len

/-- Decodes the commands from position `si`, at most `fuel` of them, into `out` of at most
`cap` bytes. -/
def decodeFrom (src : ByteArray) (cap : Nat) : Nat → Nat → ByteArray → Option ByteArray
  | 0, _, _ => none
  | fuel + 1, si, out =>
    match src[si]? with
    | none => some out
    | some token =>
      let si := si + 1
      let lit : Option (Nat × Nat) :=
        let l := token.toNat / 16
        if l = 15 then extendLength src src.size si 15 else some (l, si)
      match lit with
      | none => none
      | some (lLen, si) =>
        if si + lLen > src.size ∨ out.size + lLen > cap then none
        else
          let out := out ++ src.extract si (si + lLen)
          let si := si + lLen
          let m := token.toNat % 16
          if si = src.size ∧ m = 0 then some out
          else if si + 2 > src.size then none
          else
            let offset := src[si]!.toNat + 256 * src[si + 1]!.toNat
            let si := si + 2
            if offset = 0 then none
            else
              let mlen : Option (Nat × Nat) :=
                if m = 15 then extendLength src src.size si (15 + minMatch)
                else some (m + minMatch, si)
              match mlen with
              | none => none
              | some (mLen, si) =>
                if offset > out.size ∨ out.size + mLen > cap then none
                else decodeFrom src cap fuel si (copyMatch out offset mLen)

/-- Decodes a block into at most `cap` bytes; `none` when the block is malformed or does not
fit. The empty block is malformed. -/
def decompress (src : ByteArray) (cap : Nat) : Option ByteArray :=
  if src.size = 0 then none else decodeFrom src cap (src.size + 1) 0 .empty

/-- A length beyond 15 as continuation bytes. -/
def lengthBytes : Nat → Nat → List UInt8
  | 0, _ => [0]
  | fuel + 1, n => if n ≥ 255 then 255 :: lengthBytes fuel (n - 255) else [n.toUInt8]

/-- One command: literals `lit`, then a match of `mLen` bytes at `offset` (none for the
last command). -/
def command (lit : ByteArray) (m : Option (Nat × Nat)) : ByteArray :=
  let l := lit.size
  let (mNib, mExtra, off) := match m with
    | none => (0, [], [])
    | some (offset, mLen) =>
      let k := mLen - minMatch
      if k ≥ 15 then (15, lengthBytes (k + 1) (k - 15), [(offset % 256).toUInt8, (offset / 256).toUInt8])
      else (k, [], [(offset % 256).toUInt8, (offset / 256).toUInt8])
  let lNib := if l ≥ 15 then 15 else l
  let lExtra := if l ≥ 15 then lengthBytes (l + 1) (l - 15) else []
  let head : ByteArray := ⟨#[(lNib * 16 + mNib).toUInt8] ++ lExtra.toArray⟩
  head ++ lit ++ ⟨off.toArray⟩ ++ ⟨mExtra.toArray⟩

/-- The four bytes at `i` as a number. -/
def quad (src : ByteArray) (i : Nat) : Nat :=
  src[i]!.toNat + 256 * src[i + 1]!.toNat + 65536 * src[i + 2]!.toNat + 16777216 * src[i + 3]!.toNat

/-- The slot of four bytes in the table of recent positions. -/
def slot (q : Nat) : Nat := (q * 2654435761) % 2 ^ 32 / 2 ^ 20

/-- The length of the common run of `src` at `a` and at `b`, not reaching `limit`. -/
def runLength (src : ByteArray) (a b limit : Nat) : Nat → Nat
  | 0 => 0
  | fuel + 1 => if b < limit ∧ src[a]! = src[b]! then 1 + runLength src (a + 1) (b + 1) limit fuel else 0

/-- Encodes from position `i`, the pending literals starting at `anchor`. -/
def encodeFrom (src : ByteArray) (table : Array Nat) : Nat → Nat → Nat → ByteArray → ByteArray
  | 0, _, anchor, out => out ++ command (src.extract anchor src.size) none
  | fuel + 1, i, anchor, out =>
    if src.size < 13 ∨ i + 12 > src.size then out ++ command (src.extract anchor src.size) none
    else
      let q := quad src i
      let h := slot q
      let cand := table[h]!
      let table := table.set! h (i + 1)
      if cand > 0 ∧ i - (cand - 1) ≤ 65535 ∧ quad src (cand - 1) = q then
        let c := cand - 1
        let limit := src.size - 5
        let len := minMatch + runLength src (c + minMatch) (i + minMatch) limit src.size
        let out := out ++ command (src.extract anchor i) (some (i - c, len))
        encodeFrom src table fuel (i + len) (i + len) out
      else encodeFrom src table fuel (i + 1) anchor out

/-- Encodes a block. -/
def compress (src : ByteArray) : ByteArray :=
  encodeFrom src (Array.replicate 4096 0) (src.size + 1) 0 0 .empty

end Lz4

end Combinatory
