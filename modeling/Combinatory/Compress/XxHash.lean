import Combinatory.Number.Power

/-!
# The 64-bit xxHash

The checksum of Zstandard frames is the low 32 bits of the 64-bit xxHash of the content with
seed zero. The input is consumed in stripes of 32 bytes by four accumulators, then in words
of 8 and 4 bytes and single bytes, and the result is mixed by a final avalanche.
-/

namespace Combinatory

namespace XxHash

def prime1 : UInt64 := 0x9E3779B185EBCA87
def prime2 : UInt64 := 0xC2B2AE3D27D4EB4F
def prime3 : UInt64 := 0x165667B19E3779F9
def prime4 : UInt64 := 0x85EBCA77C2B2AE63
def prime5 : UInt64 := 0x27D4EB2F165667C5

/-- Rotation to the left. -/
def rotl (x : UInt64) (r : UInt64) : UInt64 := (x <<< r) ||| (x >>> (64 - r))

/-- The little-endian word of `n` bytes at `i`. -/
def word (b : ByteArray) (i n : Nat) : UInt64 :=
  (List.range n).foldr (fun k acc => (acc <<< 8) ||| (b.get! (i + k)).toUInt64) 0

/-- One round of an accumulator. -/
def round (acc input : UInt64) : UInt64 := rotl (acc + input * prime2) 31 * prime1

/-- Merges an accumulator into the hash. -/
def merge (h v : UInt64) : UInt64 := (h ^^^ round 0 v) * prime1 + prime4

/-- Consumes the stripes from `i`, at most `fuel` of them. -/
def stripes (b : ByteArray) : Nat → Nat → UInt64 × UInt64 × UInt64 × UInt64 →
    Nat × (UInt64 × UInt64 × UInt64 × UInt64)
  | 0, i, v => (i, v)
  | fuel + 1, i, (v1, v2, v3, v4) =>
    if i + 32 ≤ b.size then
      stripes b fuel (i + 32) (round v1 (word b i 8), round v2 (word b (i + 8) 8),
        round v3 (word b (i + 16) 8), round v4 (word b (i + 24) 8))
    else (i, (v1, v2, v3, v4))

/-- Consumes the tail from `i`, at most `fuel` pieces. -/
def tail (b : ByteArray) : Nat → Nat → UInt64 → UInt64
  | 0, _, h => h
  | fuel + 1, i, h =>
    if i + 8 ≤ b.size then
      tail b fuel (i + 8) (rotl (h ^^^ round 0 (word b i 8)) 27 * prime1 + prime4)
    else if i + 4 ≤ b.size then
      tail b fuel (i + 4) (rotl (h ^^^ word b i 4 * prime1) 23 * prime2 + prime3)
    else if i < b.size then
      tail b fuel (i + 1) (rotl (h ^^^ (b.get! i).toUInt64 * prime5) 11 * prime1)
    else h

/-- The hash of `b` with seed zero. -/
def hash64 (b : ByteArray) : UInt64 :=
  let (i, h) :=
    if b.size ≥ 32 then
      let (i, (v1, v2, v3, v4)) := stripes b (b.size / 32 + 1) 0 (prime1 + prime2, prime2, 0, 0 - prime1)
      let h := rotl v1 1 + rotl v2 7 + rotl v3 12 + rotl v4 18
      (i, merge (merge (merge (merge h v1) v2) v3) v4)
    else (0, prime5)
  let h := tail b (b.size + 1) i (h + b.size.toUInt64)
  let h := (h ^^^ (h >>> 33)) * prime2
  let h := (h ^^^ (h >>> 29)) * prime3
  h ^^^ (h >>> 32)

end XxHash

end Combinatory
