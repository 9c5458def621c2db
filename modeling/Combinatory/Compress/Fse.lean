import Combinatory.Compress.BitStream

/-!
# Finite-state entropy tables

An FSE table of accuracy `log` has `2 ^ log` states, each decoding to a symbol and moving to
`newState` plus the next `nbBits` bits. Tables are spread from normalized counts, which are
read from a little-endian bit field.
-/

namespace Combinatory

namespace Zstd

/-- One state of a table: its symbol, and how the next state is read. -/
structure FseCell where
  symbol : Nat
  nbBits : Nat
  newState : Nat
  deriving Inhabited, Repr

/-- The symbols of the states, rare ones at the top and the others spread by the step, and
the position the spreading ends at, which is back at zero for counts that add up. -/
def spread (counts : List Int) (log : Nat) : Array Nat × Nat :=
  let size := 2 ^ log
  let mask := size - 1
  let step := size / 2 + size / 8 + 3
  -- the rare symbols, from the top state down
  let (cells, high) := counts.zipIdx.foldl (fun (acc : Array Nat × Nat) (c, s) =>
    if c = -1 then (acc.1.set! acc.2 s, acc.2 - 1) else acc) (Array.replicate size 0, size - 1)
  let advance (pos : Nat) : Nat :=
    let rec skip : Nat → Nat → Nat
      | 0, p => p
      | fuel + 1, p => if p > high then skip fuel ((p + step) &&& mask) else p
    skip size ((pos + step) &&& mask)
  counts.zipIdx.foldl (fun (acc : Array Nat × Nat) (c, s) =>
    if c ≤ 0 then acc
    else (List.range c.toNat).foldl (fun (acc : Array Nat × Nat) _ =>
      (acc.1.set! acc.2 s, advance acc.2)) acc) (cells, 0)

/-- The states of normalized counts at accuracy `log`, in order. -/
def buildCells (counts : List Int) (log : Nat) : Except DecodeError (Array FseCell) := do
  let size := 2 ^ log
  let (symbols, pos) := spread counts log
  if pos ≠ 0 then throw .spreadMismatch
  let firstNext : Array Nat := (counts.map fun c => if c = -1 then 1 else c.toNat).toArray
  let (cells, _) := symbols.foldl (fun (acc : Array FseCell × Array Nat) s =>
    let k := acc.2[s]?.getD 1
    let bits := log - highBit k
    (acc.1.push ⟨s, bits, (k <<< bits) - size⟩, acc.2.set! s (k + 1))) (#[], firstNext)
  match cells.zipIdx.toList.find? (fun (c, u) => c.nbBits = 0 ∧ c.newState = u) with
  | some (c, u) => throw (.stuckState c.newState u)
  | none => return cells

/-- The reader of normalized counts: the byte its window starts at, the window and how many
of its bits are taken, the states still to give and the field width's threshold and width,
the total given, the counts read (in 256 slots, the symbol modulo 256) and their number, and
whether the last count was zero. -/
structure CountReader where
  off : Nat
  window : Nat
  bitCount : Nat
  remaining : Int
  threshold : Nat
  nbBits : Nat
  total : Int
  norm : Array Int
  charnum : Nat
  previous0 : Bool

/-- Whether the window may move forward by the whole bytes it has taken: seven bytes are
left, or four will be after the move. -/
def CountReader.canMove (data : ByteArray) (r : CountReader) : Bool :=
  let left : Int := data.size - r.off
  left ≥ 7 || left - (r.bitCount / 8 : Nat) ≥ 4

/-- The 32-bit window at byte `off`. -/
def windowAt (data : ByteArray) (off : Nat) : Nat := wordAt data off 4

/-- Skips runs of 24 zero counts (a repeat field of sixteen set bits), at most `fuel`. -/
def zeroRuns (data : ByteArray) : Nat → CountReader → Nat → CountReader × Nat
  | 0, r, n0 => (r, n0)
  | fuel + 1, r, n0 =>
    if r.window % 2 ^ 16 ≠ 0xFFFF then (r, n0)
    else if (data.size : Int) - r.off > 5 then
      zeroRuns data fuel
        { r with off := r.off + 2, window := windowAt data (r.off + 2) >>> r.bitCount } (n0 + 24)
    else
      zeroRuns data fuel { r with window := r.window >>> 16, bitCount := r.bitCount + 16 } (n0 + 24)

/-- Skips repeat fields of three zero counts, at most `fuel`. -/
def zeroTriples : Nat → CountReader → Nat → CountReader × Nat
  | 0, r, n0 => (r, n0)
  | fuel + 1, r, n0 =>
    if r.window % 4 ≠ 3 then (r, n0)
    else zeroTriples fuel { r with window := r.window >>> 2, bitCount := r.bitCount + 2 } (n0 + 3)

/-- Narrows the field while fewer states are left than its threshold. -/
def narrow : Nat → CountReader → CountReader
  | 0, r => r
  | fuel + 1, r =>
    if r.remaining < r.threshold then
      narrow fuel { r with nbBits := r.nbBits - 1, threshold := r.threshold / 2 }
    else r

/-- Reads the zero counts after a zero count. -/
def readZeros (data : ByteArray) (r : CountReader) : Except DecodeError CountReader := do
  let (r, n0) := zeroRuns data (data.size + 2) r r.charnum
  let (r, n0) := zeroTriples 16 r n0
  let n0 := n0 + r.window % 4
  let r := { r with bitCount := r.bitCount + 2 }
  if n0 > 255 then throw .zerosPastEnd
  let norm := (List.range (n0 - r.charnum)).foldl
    (fun (a : Array Int) i => a.set! ((r.charnum + i) % 256) 0) r.norm
  let r := { r with norm, charnum := max n0 r.charnum }
  if r.canMove data then
    let off := r.off + r.bitCount / 8
    let bitCount := r.bitCount % 8
    return { r with off, bitCount, window := windowAt data off >>> bitCount }
  else return { r with window := r.window >>> 2 }

/-- Reads one count. -/
def readCount (data : ByteArray) (r : CountReader) : CountReader :=
  let most : Int := 2 * r.threshold - 1 - r.remaining
  let low := r.window % r.threshold
  let (count, bitCount) : Int × Nat :=
    if (low : Int) < most then (low, r.bitCount + r.nbBits - 1)
    else
      let v := r.window % (2 * r.threshold)
      (if v ≥ r.threshold then v - most else v, r.bitCount + r.nbBits)
  let count := count - 1
  let r := { r with remaining := r.remaining - count.natAbs, total := r.total + count.natAbs,
                    norm := r.norm.set! (r.charnum % 256) count, charnum := r.charnum + 1,
                    previous0 := count = 0, bitCount }
  let r := narrow (r.nbBits + 1) r
  let r :=
    if r.canMove data then { r with off := r.off + r.bitCount / 8, bitCount := r.bitCount % 8 }
    else
      let last := data.size - 4
      { r with bitCount := (r.bitCount - 8 * ((last : Int) - r.off)).toNat, off := last }
  { r with window := windowAt data r.off >>> (r.bitCount % 32) }

/-- Reads counts while states are left to give and, when `maxSymbol` is given, the symbols
stay within it; at most `fuel` counts. -/
def readCountsLoop (data : ByteArray) (maxSymbol : Option Nat) :
    Nat → CountReader → Except DecodeError CountReader
  | 0, r => return r
  | fuel + 1, r => do
    if r.remaining ≤ 1 || maxSymbol.any (r.charnum > ·) then return r
    let r ← if r.previous0 then readZeros data r else pure r
    readCountsLoop data maxSymbol fuel (readCount data r)

/-- Reads normalized counts at byte `start` of `data`, of accuracy at most `maxLog` and,
when given, symbols up to `maxSymbol`: the counts, the accuracy, and the byte after them. -/
def readCounts (data : ByteArray) (start maxLog : Nat) (maxSymbol : Option Nat) :
    Except DecodeError (List Int × Nat × Nat) := do
  if start + 4 > data.size then throw .inputTooSmall
  let first := windowAt data start
  let log := first % 16 + 5
  if log > maxLog then throw .tableLogTooLarge
  let size := 2 ^ log
  let r ← readCountsLoop data maxSymbol (size + 260)
    ⟨start, first >>> 4, 4, (size + 1 : Nat), size, log + 1, 0,
      Array.replicate 256 0, 0, false⟩
  if r.charnum ≤ 1 then throw (.tooFewSymbols r.charnum)
  if r.charnum > 256 then throw (.tooManySymbols r.charnum)
  if r.remaining ≠ 1 then throw (.statesLeft r.remaining)
  if r.bitCount > 32 then throw (.countOverrun r.bitCount)
  if r.total ≠ size then throw (.countTotal r.total size)
  return ((r.norm.toList.take r.charnum), log, r.off + (r.bitCount + 7) / 8)

end Zstd

end Combinatory
