import Combinatory.Compress.Fse

/-!
# The sequences of a compressed block

A sequence copies some literals and then a match from some distance back. The lengths and
offsets are symbols of three FSE tables, each a baseline plus extra bits; offset codes zero and
one name a recent distance.
-/

namespace Combinatory

namespace Zstd

/-- Baselines from `base` up, each symbol spanning `2 ^ bits` values. -/
def fillBase (base : Nat) : List Nat → List (Nat × Nat)
  | [] => []
  | b :: bs => (base, b) :: fillBase (base + 2 ^ b) bs

/-- The baseline and extra bits of each literal-length symbol. -/
def literalLengthCodes : Array (Nat × Nat) :=
  ((List.range 16).map (·, 0) ++
    fillBase 16 [1, 1, 1, 1, 2, 2, 3, 3, 4, 6, 7, 8, 9, 10, 11, 12, 13, 14, 15, 16]).toArray

/-- The baseline and extra bits of each match-length symbol. -/
def matchLengthCodes : Array (Nat × Nat) :=
  ((List.range 32).map (· + 3, 0) ++
    fillBase 35 [1, 1, 1, 1, 2, 2, 3, 3, 4, 4, 5, 7, 8, 9, 10, 11, 12, 13, 14, 15, 16]).toArray

/-- The baseline and extra bits of each offset symbol: from code two on, the distance is
`2 ^ code - 3` plus the extra bits. -/
def offsetCodes : Array (Nat × Nat) :=
  #[(0, 0), (1, 1)] ++ (fillBase 1 ((List.range 29).map (· + 2))).toArray

/-- The normalized counts of the literal lengths' predefined table, accuracy 6. -/
def literalLengthCounts : List Int :=
  [4, 3, 2, 2, 2, 2, 2, 2, 2, 2, 2, 2, 2, 1, 1, 1,
   2, 2, 2, 2, 2, 2, 2, 2, 2, 3, 2, 1, 1, 1, 1, 1,
   -1, -1, -1, -1]

/-- The normalized counts of the match lengths' predefined table, accuracy 6. -/
def matchLengthCounts : List Int :=
  [1, 4, 3, 2, 2, 2, 2, 2, 2, 1, 1, 1, 1, 1, 1, 1,
   1, 1, 1, 1, 1, 1, 1, 1, 1, 1, 1, 1, 1, 1, 1, 1,
   1, 1, 1, 1, 1, 1, 1, 1, 1, 1, 1, 1, 1, 1, -1, -1,
   -1, -1, -1, -1, -1]

/-- The normalized counts of the offsets' predefined table, accuracy 5. -/
def offsetCounts : List Int :=
  [1, 1, 1, 1, 1, 1, 2, 2, 2, 1, 1, 1, 1, 1, 1, 1,
   1, 1, 1, 1, 1, 1, 1, 1, -1, -1, -1, -1, -1]

/-- One state of a sequence table: the value's baseline and extra bits, and how the next
state is read. -/
structure SeqCell where
  baseline : Nat
  addBits : Nat
  nbBits : Nat
  newState : Nat
  deriving Inhabited

/-- A sequence table: its accuracy, its states, and the most extra bits a state has. -/
structure SeqTable where
  log : Nat
  cells : Array SeqCell
  maxBits : Nat
  deriving Inhabited

/-- The state a next-state value leads to, taken modulo the decoder's 512 slots. -/
def SeqTable.cell (t : SeqTable) (i : Nat) : SeqCell := t.cells[i % 2 ^ 16 % 512]?.getD default

/-- The tables of a frame's blocks, none before a block has given one. -/
structure SeqTables where
  literalLengths : Option SeqTable
  offsets : Option SeqTable
  matchLengths : Option SeqTable
  deriving Inhabited

/-- One of the three kinds of sequence symbol: its name in errors, its codes, its predefined
counts and their accuracy, and its largest symbol. -/
structure SeqKind where
  name : String
  codes : Array (Nat × Nat)
  counts : List Int
  log : Nat
  maxSymbol : Nat

/-- Literal lengths. -/
def literalLengthKind : SeqKind := ⟨"litLengths", literalLengthCodes, literalLengthCounts, 6, 35⟩

/-- Offsets. -/
def offsetKind : SeqKind := ⟨"offsets", offsetCodes, offsetCounts, 5, 30⟩

/-- Match lengths. -/
def matchLengthKind : SeqKind := ⟨"matchLengths", matchLengthCodes, matchLengthCounts, 6, 52⟩

/-- The sequence table of FSE states, each symbol given its code. -/
def SeqKind.ofCells (k : SeqKind) (cells : Array FseCell) (log : Nat) :
    Except DecodeError SeqTable := do
  let mut out : Array SeqCell := #[]
  let mut maxBits := 0
  for h : i in [0:cells.size] do
    let c := cells[i]
    let some (baseline, addBits) := k.codes[c.symbol]?
      | throw (.badTableEntry i c.symbol k.codes.size)
    maxBits := max maxBits addBits
    out := out.push ⟨baseline, addBits, c.nbBits, c.newState⟩
  return ⟨log, out, maxBits⟩

/-- The largest accuracy of a table a block describes. -/
def maxSeqLog : Nat := 9

/-- Reads the table of kind `k` given in `mode` at byte `pos` of `data`: the table, none when
a repeated table was never given, and the position after it. -/
def SeqKind.read (k : SeqKind) (data : ByteArray) (pos mode : Nat) (prev : Option SeqTable) :
    Except DecodeError (Option SeqTable × Nat) := do
  match mode with
  | 0 =>
    let t ← k.ofCells (← buildCells k.counts k.log) k.log
    return (some t, pos)
  | 1 =>
    if pos ≥ data.size then throw .blockTooSmall
    let v := byteAt data pos
    let some (baseline, addBits) := k.codes[v]?
      | throw (.rleSymbol v k.codes.size)
    return (some ⟨0, #[⟨baseline, addBits, 0, 0⟩], addBits⟩, pos + 1)
  | 2 =>
    let (counts, log, next) ← readCounts data pos maxSeqLog (some k.maxSymbol)
    let t ← k.ofCells (← buildCells counts log) log
    return (some t, next)
  | _ => return (prev, pos)

/-- The number of sequences, the tables and where their bit stream starts, read from the
start of the sequences section `data`. -/
def sequenceHeader (data : ByteArray) (prev : SeqTables) :
    Except DecodeError (Nat × SeqTables × Nat) := do
  if data.size < 1 then throw .blockTooSmall
  let b0 := byteAt data 0
  let (count, pos) ←
    if b0 < 128 then pure (b0, 1)
    else if b0 < 255 then do
      if data.size < 2 then throw .blockTooSmall
      pure ((b0 - 128) * 256 + byteAt data 1, 2)
    else do
      if data.size < 3 then throw .blockTooSmall
      pure (0x7F00 + byteAt data 1 + 256 * byteAt data 2, 3)
  if count = 0 then
    if pos ≠ data.size then throw .sequencesTrailing
    return (0, prev, pos)
  if pos ≥ data.size then throw .blockTooSmall
  let modes := byteAt data pos
  if modes % 4 ≠ 0 then throw .reservedModeBits
  let check (p : Nat) : Except DecodeError Unit :=
    if p > data.size then .error .unexpectedEnd else .ok ()
  let (ll, pos) ← literalLengthKind.read data (pos + 1) (modes / 64) prev.literalLengths
  check pos
  let (of, pos) ← offsetKind.read data pos (modes / 16 % 4) prev.offsets
  check pos
  let (ml, pos) ← matchLengthKind.read data pos (modes / 4 % 4) prev.matchLengths
  check pos
  return (count, ⟨ll, of, ml⟩, pos)

/-- The three most recent match distances. -/
structure Recent where
  first : Nat
  second : Nat
  third : Nat
  deriving Inhabited

/-- The distances at the start of a frame. -/
def Recent.initial : Recent := ⟨1, 4, 8⟩

/-- The distance an offset value `mo` of a code with `addBits` extra bits names, after `ll`
literals, and the recent distances after it. -/
def Recent.resolve (r : Recent) (mo ll addBits : Nat) : Nat × Recent :=
  if addBits > 1 then (mo, ⟨mo, r.first, r.second⟩)
  else
    let mo := if ll = 0 then mo + 1 else mo
    if mo = 0 then (r.first, r)
    else
      let temp := if mo = 3 then r.first - 1 else if mo = 1 then r.second else r.third
      let temp := if temp = 0 then 1 else temp
      if mo = 1 then (temp, ⟨temp, r.first, r.third⟩) else (temp, ⟨temp, r.first, r.second⟩)

/-- Appends `n` bytes copied from `distance` back, one at a time, so that a copy may overlap
what it writes. -/
def copyBack (out : ByteArray) (distance : Nat) : Nat → ByteArray
  | 0 => out
  | n + 1 => copyBack (out.push (out[out.size - distance]?.getD 0)) distance n

/-- The longest match. -/
def maxMatchLength : Nat := 131074

/-- What decoding a block's sequences works with: the three tables, the literals, the window,
and where in the output the frame and the block start. -/
structure SeqContext where
  literalLengths : SeqTable
  offsets : SeqTable
  matchLengths : SeqTable
  literals : ByteArray
  window : Nat
  frameStart : Nat
  blockStart : Nat

/-- Where decoding a block's sequences has got to: the stream, the three states, the recent
distances, the output and the literals used. -/
structure SeqRun where
  reader : BackReader
  literalLength : SeqCell
  offset : SeqCell
  matchLength : SeqCell
  recent : Recent
  out : ByteArray
  used : Nat

namespace SeqContext

/-- The largest block: the window, at most 128 KiB. -/
def maxBlock (c : SeqContext) : Nat := min c.window 131072

/-- The extra bits the three tables' states may read at most. -/
def maxBits (c : SeqContext) : Nat :=
  c.literalLengths.maxBits + c.offsets.maxBits + c.matchLengths.maxBits

/-- The output a match may reach back over, as errors report it: the block's output when the
frame's output starts the whole output, the frame's output otherwise. -/
def history (c : SeqContext) (out : ByteArray) : Nat :=
  if c.frameStart = 0 then out.size - c.blockStart else out.size - c.frameStart

/-- Steps the three states on one read of all their bits. -/
def advance (c : SeqContext) (s : SeqRun) : SeqRun :=
  let nb := s.literalLength.nbBits + s.matchLength.nbBits + s.offset.nbBits
  if nb = 0 then
    { s with literalLength := c.literalLengths.cell s.literalLength.newState,
             matchLength := c.matchLengths.cell s.matchLength.newState,
             offset := c.offsets.cell s.offset.newState }
  else
    let (bits, r) := s.reader.take nb
    let llLow := (bits >>> ((s.offset.nbBits + s.matchLength.nbBits) % 32)) % 2 ^ 16
    let mlLow := (bits >>> (s.offset.nbBits % 32)) % 2 ^ 16 % 2 ^ (s.matchLength.nbBits % 16)
    let ofLow := bits % 2 ^ 16 % 2 ^ (s.offset.nbBits % 16)
    { s with reader := r,
             literalLength := c.literalLengths.cell (s.literalLength.newState + llLow),
             matchLength := c.matchLengths.cell (s.matchLength.newState + mlLow),
             offset := c.offsets.cell (s.offset.newState + ofLow) }

/-- Decodes and carries out one sequence; the states step unless it is the `last`. -/
def step (c : SeqContext) (last : Bool) (s : SeqRun) : Except DecodeError SeqRun :=
  match s with
  | ⟨reader, llCell, ofCell, mlCell, recent, out, used⟩ => do
    if reader.overread then throw .unexpectedEnd
    let r := reader.fill
    let (x, r) := r.bits ofCell.addBits
    let r := if c.maxBits > 32 then r.fill else r
    let (y, r) := r.bits mlCell.addBits
    let (z, r) := r.bits llCell.addBits
    let ml := mlCell.baseline + y
    let ll := llCell.baseline + z
    let (mo, recent) := recent.resolve (ofCell.baseline + x) ll ofCell.addBits
    let r := r.fill
    let remain := c.literals.size - used
    if ll > remain then
      throw (.literalShortage ll remain)
    if out.size - c.blockStart + ll + ml > c.maxBlock then
      throw (.blockTooLarge c.maxBlock)
    if ml > maxMatchLength then throw (.matchTooLong ml)
    let out := out ++ c.literals.extract used (used + ll)
    if mo = 0 ∧ ml > 0 then throw (.zeroOffset ml)
    if mo > out.size - c.frameStart ∨ mo > c.window then
      throw (.offsetTooFar mo (c.history out))
    let s : SeqRun := ⟨r, llCell, ofCell, mlCell, recent, copyBack out mo ml, used + ll⟩
    return if last then s else c.advance s

/-- Decodes `n` more sequences. -/
def run (c : SeqContext) : Nat → SeqRun → Except DecodeError SeqRun
  | 0, s => return s
  | n + 1, s => do run c n (← c.step (n = 0) s)

end SeqContext

/-- The first state of a table, read from the stream; the table must be given. -/
def firstState (k : SeqKind) (t : Option SeqTable) (r : BackReader) :
    Except DecodeError (SeqTable × SeqCell × BackReader) := do
  let some t := t | throw (.noSequenceTable k.name)
  let (i, r) := r.fill.bits t.log
  return (t, t.cell i, r)

/-- Decodes `count` sequences from the stream `stream` over the literals, appending to `out`
from the recent distances `recent`; the frame's output starts at `frameStart`. The output
and the recent distances after the block. -/
def decodeSequences (tables : SeqTables) (count : Nat) (stream literals : ByteArray)
    (window frameStart : Nat) (recent : Recent) (out : ByteArray) :
    Except DecodeError (ByteArray × Recent) := do
  let r ← BackReader.init stream
  let (ll, llCell, r) ← firstState literalLengthKind tables.literalLengths r
  let (of, ofCell, r) ← firstState offsetKind tables.offsets r
  let (ml, mlCell, r) ← firstState matchLengthKind tables.matchLengths r
  let c : SeqContext := ⟨ll, of, ml, literals, window, frameStart, out.size⟩
  match ← c.run count ⟨r, llCell, ofCell, mlCell, recent, out, 0⟩ with
  | ⟨reader, _, _, _, recent, out, used⟩ =>
    let remain := literals.size - used
    if out.size - c.blockStart + remain > c.maxBlock then
      throw (.blockTooLarge c.maxBlock)
    reader.close
    return (out ++ literals.extract used literals.size, recent)

end Zstd

end Combinatory
