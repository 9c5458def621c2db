import Combinatory.Compress.XxHash
import Combinatory.Compress.ZstdBlock

/-!
# Zstandard frames

A stream is a sequence of frames, each a header and blocks (raw, one repeated byte or
compressed); skippable frames are skipped. Decoding keeps a default decoder's limits, and a
declared content size and a checksum must match.
-/

namespace Combinatory

namespace Zstd

/-- The largest window accepted. -/
def maxWindowSize : Nat := 2 ^ 29

/-- The smallest window. -/
def minWindowSize : Nat := 1024

/-- The most bytes a stream may decode to. -/
def maxDecodedSize : Nat := 64 * 2 ^ 30

/-- A reader over the input: the position, and why decoding stopped on failure. -/
abbrev ReadM := ReaderT ByteArray (StateT Nat (Except DecodeError))

/-- Takes `n` bytes. -/
def take (n : Nat) : ReadM ByteArray := do
  let data ← read
  let pos ← get
  if pos + n > data.size then throw .unexpectedEnd
  set (pos + n)
  return data.extract pos (pos + n)

/-- A little-endian number of `n` bytes. -/
def littleEndian (n : Nat) : ReadM Nat := do
  let b ← take n
  return b.toList.foldr (fun x acc => acc * 256 + x.toNat) 0

/-- What a frame header says. -/
structure FrameHeader where
  windowSize : Nat
  contentSize : Option Nat
  checksum : Bool
  deriving Inhabited

/-- Skips skippable frames, at most `fuel`; whether a frame follows (false at the end). -/
def skipSkippable : Nat → ReadM Bool
  | 0 => return false
  | fuel + 1 => do
    let data ← read
    let pos ← get
    if pos ≥ data.size then return false
    if pos + 4 > data.size then throw .unexpectedEnd
    let sig := data.extract pos (pos + 4)
    if sig[1]! = 0x2a ∧ sig[2]! = 0x4d ∧ sig[3]! = 0x18 ∧ sig[0]! &&& 0xf0 = 0x50 then
      set (pos + 4)
      let n ← littleEndian 4
      let _ ← take n
      skipSkippable fuel
    else return true

/-- Reads a frame header after the magic number. -/
def frameHeader : ReadM FrameHeader := do
  let fhd := (← take 1)[0]!.toNat
  let single := fhd / 32 % 2 = 1
  if fhd / 8 % 2 = 1 then throw .reservedHeaderBit
  let window ← if single then pure 0 else do
    let wd := (← take 1)[0]!.toNat
    let base := 2 ^ (10 + wd / 8)
    pure (base + base / 8 * (wd % 8))
  let dictSize := match fhd % 4 with
    | 3 => 4
    | k => k
  let dictId ← if dictSize = 0 then pure 0 else littleEndian dictSize
  let fcsSize := match fhd / 64 with
    | 0 => if single then 1 else 0
    | v => 2 ^ v
  let fcs ← if fcsSize = 0 then pure none else do
    let v ← littleEndian fcsSize
    pure (some (if fcsSize = 2 then v + 256 else v))
  let checksum := fhd / 4 % 2 = 1
  if window > maxWindowSize then throw .windowExceeded
  let window ←
    if window = 0 ∧ single then do
      let w := max (fcs.getD 0) minWindowSize
      if w > maxDecodedSize then throw .sizeLimit
      pure w
    else pure window
  if window < minWindowSize then throw .windowTooSmall
  if dictId ≠ 0 then throw .unknownDictionary
  return ⟨window, fcs, checksum⟩

/-- Decodes the blocks of a frame, at most `fuel` of them, appending to `out`; `start` is
where the frame's output begins. -/
def blocks (h : FrameHeader) (start : Nat) : Nat → BlockState → ReadM BlockState
  | 0, st => return st
  | fuel + 1, st => do
    let bh ← littleEndian 3
    let last := bh % 2 = 1
    let kind := bh / 2 % 4
    let size := bh / 8
    let st ← match kind with
      | 0 => do
        if size > maxBlockSize ∨ size > h.windowSize then throw .windowExceeded
        let data ← take size
        pure (st.append data)
      | 1 => do
        if size > maxBlockSize ∨ size > h.windowSize then throw .windowExceeded
        let b := (← take 1)[0]!
        pure (st.append ⟨Array.replicate size b⟩)
      | 2 => do
        if size > maxBlockSize ∨ size > h.windowSize then throw .compressedTooBig
        if size < 2 then throw .blockTooSmall
        let data ← take size
        match decodeCompressed data h.windowSize st with
        | .ok st => pure st
        | .error e => throw e
      | _ => throw .reservedBlock
    if st.out.size - start > maxDecodedSize then throw .sizeLimit
    if let some fcs := h.contentSize then
      if st.out.size - start > fcs then throw .frameExceeded
    if last then return st
    blocks h start fuel st

/-- Decodes frames, at most `fuel` of them, appending to `out`. -/
def frames : Nat → ByteArray → ReadM ByteArray
  | 0, out => return out
  | fuel + 1, out => do
    if !(← skipSkippable ((← read).size + 1)) then return out
    let magic ← take 4
    if magic.toList ≠ [0x28, 0xb5, 0x2f, 0xfd] then throw .badMagic
    let h ← frameHeader
    if let some fcs := h.contentSize then
      if fcs + out.size > maxDecodedSize then throw .sizeLimit
    let start := out.size
    let st ← blocks h start ((← read).size + 1) (BlockState.fresh out)
    let out := st.out
    if let some fcs := h.contentSize then
      if out.size - start ≠ fcs then throw .frameMismatch
    if h.checksum then
      let want ← littleEndian 4
      let got := (XxHash.hash64 (out.extract start out.size)).toNat % 2 ^ 32
      if got ≠ want then throw .checksum
    if (← get) ≥ (← read).size then return out
    frames fuel out

/-- Decodes a stream of frames. -/
def decompress (input : ByteArray) : Except DecodeError ByteArray :=
  ((frames (input.size + 1) .empty).run input |>.run 0).map (·.1)

/-- A frame holding `data` in raw blocks, with its content size and no checksum. -/
def compress (data : ByteArray) : ByteArray :=
  let fcs := data.size
  let header : List UInt8 := [0x28, 0xb5, 0x2f, 0xfd, 0xe0] ++
    (List.range 8).map fun i => (fcs / 2 ^ (8 * i) % 256).toUInt8
  let rec chunks : Nat → Nat → List UInt8
    | 0, _ => []
    | fuel + 1, pos =>
      let n := min maxBlockSize (data.size - pos)
      let last := pos + n ≥ data.size
      let bh := n * 8 + (if last then 1 else 0)
      [(bh % 256).toUInt8, (bh / 256 % 256).toUInt8, (bh / 65536 % 256).toUInt8] ++
        (data.extract pos (pos + n)).toList ++ (if last then [] else chunks fuel (pos + n))
  ⟨(header ++ chunks (data.size / maxBlockSize + 1) 0).toArray⟩

end Zstd

end Combinatory
