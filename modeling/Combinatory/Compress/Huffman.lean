import Combinatory.Compress.Fse

/-!
# Huffman-coded literals

A table is described by symbol weights, four bits apiece or FSE-coded; codes are assigned by
increasing weight, then symbol. Literals are one stream or four, each decoded in bulk and then
symbol by symbol, which fixes the error a corrupt stream meets.
-/

namespace Combinatory

namespace Zstd

/-! ## FSE-coded weights -/

/-- A state of two that take turns. -/
structure WeightState where
  state : Nat

/-- The state's symbol, and the state after reading its bits. -/
def WeightState.next (t : Array FseCell) (s : WeightState) (r : BackReader) :
    Nat × WeightState × BackReader :=
  let c := t[s.state]?.getD default
  let (low, r) := r.bitsWithin c.nbBits
  (c.symbol, ⟨(c.newState + low) % 2 ^ 16⟩, r)

/-- Whether the stream is used up and the state would read more bits. -/
def WeightState.finished (t : Array FseCell) (s : WeightState) (r : BackReader) : Bool :=
  r.finished && (t[s.state]?.getD default).nbBits > 0

/-- The output limit on weights. -/
def weightLimit : Nat := 255

/-- Decodes in bulk, four symbols at a time, while eight bytes are left to load, at most
`fuel` rounds; the symbols go through a buffer of 256, flushed when it fills. -/
def weightsBulk (t : Array FseCell) : Nat → WeightState → WeightState → BackReader →
    Array Nat → Array Nat → Except DecodeError (WeightState × WeightState × BackReader × Array Nat)
  | 0, a, b, r, out, buf => return (a, b, r, out ++ buf)
  | fuel + 1, a, b, r, out, buf => do
    if r.cursor < 8 then return (a, b, r, out ++ buf)
    let r := r.fill
    let (x1, a, r) := a.next t r
    let (x2, b, r) := b.next t r
    let r := r.fill
    let (x3, a, r) := a.next t r
    let (x4, b, r) := b.next t r
    let buf := buf ++ #[x1, x2, x3, x4]
    if buf.size = 256 then
      let out := out ++ buf
      if out.size ≥ weightLimit then
        throw (.tooManyWeights out.size weightLimit)
      weightsBulk t fuel a b r out #[]
    else weightsBulk t fuel a b r out buf

/-- Decodes the last symbols one state at a time, at most `fuel` rounds. -/
def weightsTail (t : Array FseCell) : Nat → WeightState → WeightState → BackReader →
    Array Nat → Except DecodeError (BackReader × Array Nat)
  | 0, _, _, r, out => return (r, out)
  | fuel + 1, a, b, r, out => do
    if a.finished t r then
      return (r, out ++ #[(t[a.state]?.getD default).symbol, (t[b.state]?.getD default).symbol])
    let r := r.fill
    let (x, a, r) := a.next t r
    let out := out.push x
    if b.finished t r then
      return (r, out ++ #[(t[b.state]?.getD default).symbol, (t[a.state]?.getD default).symbol])
    let (y, b, r) := b.next t r
    let out := out.push y
    if out.size ≥ weightLimit then
      throw (.tooManyWeights out.size weightLimit)
    weightsTail t fuel a b r out

/-- Decodes FSE-coded weights: the counts, then the stream that takes the rest of `data`. -/
def fseWeights (data : ByteArray) : Except DecodeError (List Nat) := do
  let (counts, log, used) ← readCounts data 0 15 none
  let t ← buildCells counts log
  let r ← BackReader.init (data.extract used data.size)
  let (s1, r) := r.bitsWithin log
  let (s2, r) := r.bitsWithin log
  let (a, b, r, out) ← weightsBulk t (data.size + 1) ⟨s1⟩ ⟨s2⟩ r #[] #[]
  let (r, out) ← weightsTail t (weightLimit + 1) a b r out
  if r.overread then throw .unexpectedEnd
  return out.toList

/-! ## Tables -/

/-- A Huffman decoding table: indexed by the next `tableLog` bits, the symbol and its code
length. -/
structure HuffTable where
  tableLog : Nat
  entries : Array (Nat × Nat)
  deriving Inhabited

/-- The largest table accuracy. -/
def maxHuffLog : Nat := 11

namespace HuffTable

/-- The entry for the next bits `i`. -/
def lookup (t : HuffTable) (i : Nat) : Nat × Nat := t.entries[i]?.getD (0, 0)

/-- The table of the weights of symbols `0, 1, …`, the last weight implied. -/
def ofWeights (weights : List Nat) : Except DecodeError HuffTable := do
  if weights.any (· > maxHuffLog) then throw .weightTooLarge
  let total := weights.foldl (fun acc w => acc + 2 ^ w / 2) 0
  if total = 0 then throw .weightsZero
  let tableLog := highBit total + 1
  if tableLog > maxHuffLog then throw .huffmanTooDeep
  let rest := 2 ^ tableLog - total
  if 2 ^ highBit rest ≠ rest then throw .lastWeightNotPower
  let weights := weights ++ [highBit rest + 1]
  let ones := (weights.filter (· = 1)).length
  if ones < 2 ∨ ones % 2 ≠ 0 then throw .oddLightSymbols
  let entries := (List.range (tableLog + 1)).foldl (fun acc w =>
    if w = 0 then acc
    else weights.zipIdx.foldl (fun acc (ws, s) =>
      if ws = w then acc ++ Array.replicate (2 ^ (w - 1)) (s, tableLog + 1 - w) else acc) acc) #[]
  return ⟨tableLog, entries⟩

end HuffTable

/-- Reads a table description at the start of `data`: the table and the bytes it took. -/
def readHuffTable (data : ByteArray) : Except DecodeError (HuffTable × Nat) := do
  if data.size ≤ 1 then throw .tableTooShort
  let head := byteAt data 0
  if head ≥ 128 then
    let n := head - 127
    let used := (n + 1) / 2
    if used > data.size - 1 then throw .tableTooShort
    let ws := (List.range n).map fun i =>
      let b := byteAt data (1 + i / 2)
      if i % 2 = 0 then b / 16 else b % 16
    return (← HuffTable.ofWeights ws, 1 + used)
  else
    if data.size - 1 < head then
      throw (.tableShort head (data.size - 1))
    let ws ← match fseWeights (data.extract 1 (1 + head)) with
      | .ok ws => pure ws
      | .error e => throw (.weights e)
    if ws.length > 255 then throw .weightTableTooLarge
    return (← HuffTable.ofWeights ws, 1 + head)

/-! ## Streams -/

/-- Decodes one symbol. -/
def ShiftReader.decode (t : HuffTable) (r : ShiftReader) : Nat × ShiftReader :=
  let (sym, n) := t.lookup (r.peek t.tableLog)
  (sym, r.advance n)

/-- The bulk phase of a single stream: four symbols a round while eight bytes are left to
load, refusing a round once four more symbols would reach the room `cap`; at most `fuel`
rounds. -/
def single1Bulk (t : HuffTable) (cap : Nat) : Nat → ShiftReader → Array UInt8 →
    Except DecodeError (ShiftReader × Array UInt8)
  | 0, r, out => return (r, out)
  | fuel + 1, r, out => do
    if r.off < 8 then return (r, out)
    if out.size + 4 ≥ cap then throw .roomExceeded
    let r := r.fillFast
    let (a, r) := r.decode t
    let (b, r) := r.decode t
    let r := r.fillFast
    let (c, r) := r.decode t
    let (d, r) := r.decode t
    single1Bulk t cap fuel r (out ++ #[a.toUInt8, b.toUInt8, c.toUInt8, d.toUInt8])

/-- The last symbols of a single stream, while the bits left, counted in a byte, are not
zero; at most `fuel`. -/
def single1Tail (t : HuffTable) (cap : Nat) : Nat → ShiftReader → UInt8 → Array UInt8 →
    Except DecodeError (ShiftReader × Array UInt8)
  | 0, r, _, out => return (r, out)
  | fuel + 1, r, left, out => do
    if left = 0 then return (r, out)
    let r := r.fill
    if out.size ≥ cap then throw .roomExceeded
    let (sym, n) := t.lookup (r.peek t.tableLog)
    single1Tail t cap fuel (r.advance n) (left - n.toUInt8) (out.push sym.toUInt8)

/-- Decodes a single stream into room for `cap` symbols. Below four symbols of room there is
no bulk phase, and the output starts out filled. -/
def decodeSingle (t : HuffTable) (src : ByteArray) (cap : Nat) : Except DecodeError ByteArray := do
  let r ← ShiftReader.init src
  let (r, out) ← if cap ≥ 4 then single1Bulk t cap (cap + 1) r #[]
    else pure (r, Array.replicate cap 0)
  let left := r.off.toUInt8 * 8 + 64 - r.bitsRead
  let (r, out) ← single1Tail t cap (cap + 2) r left out
  if r.overread then throw .unexpectedEnd
  return ⟨out⟩

/-- The four streams after the jump table. -/
def fourStreams (src : ByteArray) : Except DecodeError (Array ShiftReader) := do
  let cut (start len : Nat) : Except DecodeError ShiftReader := do
    if start + len ≥ src.size then throw .streamsTruncated
    ShiftReader.init (src.extract start (start + len))
  let l1 := wordAt src 0 2
  let l2 := wordAt src 2 2
  let l3 := wordAt src 4 2
  let r1 ← cut 6 l1
  let r2 ← cut (6 + l1) l2
  let r3 ← cut (6 + l1 + l2) l3
  let r4 ← ShiftReader.init (src.extract (6 + l1 + l2 + l3) src.size)
  return #[r1, r2, r3, r4]

/-- Decodes `n` symbols, appending them to `out`. -/
def decodeN (t : HuffTable) : Nat → ShiftReader → Array UInt8 → ShiftReader × Array UInt8
  | 0, r, out => (r, out)
  | n + 1, r, out =>
    let (s, r) := r.decode t
    decodeN t n r (out.push s.toUInt8)

/-- Each stream decodes `n` symbols after `load` has refilled it. -/
def decodeEach (t : HuffTable) (n : Nat) (load : ShiftReader → ShiftReader)
    (rs : Array ShiftReader) (outs : Array (Array UInt8)) :
    Array ShiftReader × Array (Array UInt8) :=
  let step := (rs.zip outs).map fun (r, o) => decodeN t n (load r) o
  (step.map (·.1), step.map (·.2))

/-- The bulk phase of four streams: each round, each stream loads four bytes once more than
32 bits are used up and decodes `per` symbols; the rounds stop once a stream has fewer than
four bytes left to load or the symbols per stream reach `limit`; at most `fuel` rounds. The
symbols per stream so far are `done`. -/
def fourBulk (t : HuffTable) (per limit : Nat) : Nat → Array ShiftReader →
    Array (Array UInt8) → Nat → Array ShiftReader × Array (Array UInt8) × Nat
  | 0, rs, outs, done => (rs, outs, done)
  | fuel + 1, rs, outs, done =>
    let (rs, outs) := decodeEach t per ShiftReader.fillAbove rs outs
    let done := done + per
    if rs.any (·.off < 4) || done ≥ limit then (rs, outs, done)
    else fourBulk t per limit fuel rs outs done

/-- The last symbols of one of four streams, written from `offset` up to `endsAt`, while the
bits left are positive; at most `fuel` symbols. After the small-table bulk phase (`small`) the
bits left are a signed count and a stream found used up before a symbol is cut short; after
the other it is counted in a machine word, so a stream that overshoots its end goes on. -/
def fourTail (t : HuffTable) (endsAt : Nat) (small : Bool) : Nat → ShiftReader → Int → Nat →
    List UInt8 → Except DecodeError (ShiftReader × Nat × List UInt8)
  | 0, r, _, offset, acc => return (r, offset, acc.reverse)
  | fuel + 1, r, left, offset, acc => do
    if left ≤ 0 then return (r, offset, acc.reverse)
    if small && r.off == 0 && r.bitsRead ≥ 64 then throw .unexpectedEnd
    let r := r.fill
    if offset ≥ endsAt then throw (.streamOverrun 4)
    let (sym, n) := t.lookup (r.peek t.tableLog)
    let left := if small then left - n else (left - n) % 2 ^ 64
    fourTail t endsAt small fuel (r.advance n) left (offset + 1) (sym.toUInt8 :: acc)

/-- Finishes the four streams after a bulk phase that gave each `done` symbols, with the
streams' places `every` apart in an output of `size`; `small` as for `fourTail`. -/
def finishFour (t : HuffTable) (small : Bool) (size every done : Nat) (rs : Array ShiftReader)
    (heads : Array (Array UInt8)) : Except DecodeError ByteArray := do
  let remainBytes := every - done
  let len := size - done
  let mut decoded := 4 * done
  let mut out : Array UInt8 := #[]
  for i in [0:4] do
    let r := rs[i]?.getD default
    let offset := every * i
    let endsAt := min (offset + remainBytes) len
    let (r, reached, tail) ←
      fourTail t endsAt small (size + 2) r r.remaining offset []
    if reached ≠ endsAt then
      throw (.shortStream i reached endsAt)
    decoded := decoded + (reached - offset)
    if r.overread then throw .unexpectedEnd
    out := out ++ (heads[i]?.getD #[]) ++ tail.toArray
  if size ≠ decoded then throw .shortOutput
  return ⟨out⟩

/-- The bulk phase of four streams with tables of at most eight bits and little output: four
symbols a round from each stream while every stream has four bytes left to load, buffered 256
to a stream; a full buffer must fit its stream's place, and what is buffered at the end must
fit the output; at most `fuel` rounds. -/
def smallBulk (t : HuffTable) (size every : Nat) : Nat → Array ShiftReader →
    Array (Array UInt8) → Nat → Nat →
    Except DecodeError (Array ShiftReader × Array (Array UInt8) × Nat)
  | 0, rs, outs, done, _ => return (rs, outs, done)
  | fuel + 1, rs, outs, done, off => do
    if rs.any (·.off < 4) then
      if off > 0 then
        if (size : Int) - done < every * 3 + off then
          throw (.streamOverrun 3)
      return (rs, outs, done + off)
    let (rs, outs) := decodeEach t 4 ShiftReader.fillFast rs outs
    let off := off + 4
    if off = 256 then
      if 256 > every then throw (.streamOverrun 1)
      if (size : Int) - done - 256 < every * 3 then throw (.streamOverrun 2)
      smallBulk t size every fuel rs outs (done + 256) 0
    else smallBulk t size every fuel rs outs done off

/-- Decodes four streams into an output of `size` bytes. -/
def decodeFour (t : HuffTable) (src : ByteArray) (size : Nat) : Except DecodeError ByteArray := do
  if src.size < 10 then throw .inputTooSmall
  let rs ← fourStreams src
  let every := (size + 3) / 4
  let empty : Array (Array UInt8) := #[#[], #[], #[], #[]]
  if t.tableLog ≤ 8 ∧ size < 800 then
    let (rs, heads, done) ← smallBulk t size every (2 * src.size + 4) rs empty 0 0
    finishFour t true size every done rs heads
  else
    let (rs, heads, done) :=
      if size > 16 ∧ rs.all (·.off ≥ 4) then
        fourBulk t (if t.tableLog ≤ 8 then 4 else 2) (every - 4) (size + 1) rs empty 0
      else (rs, empty, 0)
    finishFour t false size every done rs heads

end Zstd

end Combinatory
