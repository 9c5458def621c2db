import Combinatory.Number.Power

/-!
# Why a Zstandard stream does not decode

Every way decoding can fail, grouped by the part of the format it concerns, with the text it is
reported with (`DecodeError.message`).
-/

namespace Combinatory

namespace Zstd

/-- A reason a Zstandard stream does not decode. -/
inductive DecodeError where
  /-- The input ends inside a frame, or a bit stream was read past its start. -/
  | unexpectedEnd
  /-- A frame does not start with the magic number. -/
  | badMagic
  /-- The reserved bit of a frame header is set. -/
  | reservedHeaderBit
  /-- A window above the largest accepted, or a block or its literals above the window or
  128 KiB. -/
  | windowExceeded
  /-- A window below 1 KiB. -/
  | windowTooSmall
  /-- Output, or a declared content size, beyond the limit on decoded bytes. -/
  | sizeLimit
  /-- A frame names a dictionary. -/
  | unknownDictionary
  /-- A block of the reserved kind. -/
  | reservedBlock
  /-- A compressed block above the window or 128 KiB. -/
  | compressedTooBig
  /-- A block or a section too short for what it says it holds. -/
  | blockTooSmall
  /-- A frame's output beyond its declared content size. -/
  | frameExceeded
  /-- A frame's output other than its declared content size. -/
  | frameMismatch
  /-- A content checksum that does not match. -/
  | checksum
  /-- An empty bit stream. -/
  | emptyStream
  /-- A bit stream whose last byte is zero, so it has no end marker. -/
  | noEndMark
  /-- A bit stream with `n` bits left unread. -/
  | extraBits (n : Nat)
  /-- Fewer bytes than a description needs to start. -/
  | inputTooSmall
  /-- A table accuracy above the largest allowed. -/
  | tableLogTooLarge
  /-- Zero counts that run past the last symbol. -/
  | zerosPastEnd
  /-- Counts for `n` symbols, fewer than two. -/
  | tooFewSymbols (n : Nat)
  /-- Counts for `n` symbols, more than 256. -/
  | tooManySymbols (n : Nat)
  /-- Counts that do not give out every state: `remaining` are left, plus one. -/
  | statesLeft (remaining : Int)
  /-- Counts read more than 32 bits past their last byte. -/
  | countOverrun (bitCount : Nat)
  /-- Counts adding up to `total` rather than the table size `size`. -/
  | countTotal (total : Int) (size : Nat)
  /-- Counts whose spreading does not come back to the first state. -/
  | spreadMismatch
  /-- A state that reads no bits and leads back to itself. -/
  | stuckState (newState old : Nat)
  /-- More than `limit` Huffman weights. -/
  | tooManyWeights (n limit : Nat)
  /-- A Huffman weight above eleven. -/
  | weightTooLarge
  /-- Huffman weights that are all zero. -/
  | weightsZero
  /-- A Huffman table deeper than eleven bits. -/
  | huffmanTooDeep
  /-- Huffman weights that leave a remainder that is not a power of two. -/
  | lastWeightNotPower
  /-- An odd or single count of symbols of weight one. -/
  | oddLightSymbols
  /-- A Huffman table description cut short. -/
  | tableTooShort
  /-- A Huffman table description of `want` bytes where `left` are left. -/
  | tableShort (want left : Nat)
  /-- The FSE-coded weights of a Huffman table do not decode. -/
  | weights (e : DecodeError)
  /-- FSE-coded weights for more than 255 symbols. -/
  | weightTableTooLarge
  /-- A Huffman stream decoding to more symbols than there is room for. -/
  | roomExceeded
  /-- Four-stream sizes that reach past the input. -/
  | streamsTruncated
  /-- A Huffman stream running past its place; `k` tells where it was found. -/
  | streamOverrun (k : Nat)
  /-- Stream `i` ending at `reached` rather than `ends`. -/
  | shortStream (i reached ends : Nat)
  /-- Four streams decoding to fewer symbols than the literals' size. -/
  | shortOutput
  /-- Coded literals decoding to `got` bytes where the header says `want`. -/
  | literalSizeMismatch (want got : Nat)
  /-- Treeless literals with no Huffman table before them. -/
  | noHuffmanTable
  /-- Bytes after a sequences header that declares no sequence. -/
  | sequencesTrailing
  /-- Reserved bits of the sequence table modes set. -/
  | reservedModeBits
  /-- A repeated sequence symbol `v` outside its code table of `size` entries. -/
  | rleSymbol (v size : Nat)
  /-- State `i` of a sequence table with symbol `symbol` outside its `size` codes. -/
  | badTableEntry (i symbol size : Nat)
  /-- A repeated sequence table never given before; `name` is its kind. -/
  | noSequenceTable (name : String)
  /-- A sequence wanting `want` literals where `left` are left. -/
  | literalShortage (want left : Nat)
  /-- A block growing past `limit` bytes. -/
  | blockTooLarge (limit : Nat)
  /-- A match longer than the longest allowed. -/
  | matchTooLong (len : Nat)
  /-- A match of length `len` at distance zero. -/
  | zeroOffset (len : Nat)
  /-- A match reaching back `offset` bytes where `history` are reported. -/
  | offsetTooFar (offset history : Nat)
  deriving Inhabited, Repr

/-- The text a failure is reported with. -/
def DecodeError.message : DecodeError → String
  | .unexpectedEnd => "unexpected EOF"
  | .badMagic => "invalid input: magic number mismatch"
  | .reservedHeaderBit => "reserved bit set on frame header"
  | .windowExceeded => "window size exceeded"
  | .windowTooSmall => "invalid input: window size was too small"
  | .sizeLimit => "decompressed size exceeds configured limit"
  | .unknownDictionary => "unknown dictionary"
  | .reservedBlock => "invalid input: reserved block type encountered"
  | .compressedTooBig => "invalid input: compressed size too big"
  | .blockTooSmall => "block too small"
  | .frameExceeded => "frame size exceeded"
  | .frameMismatch => "frame size does not match size on stream"
  | .checksum => "CRC check failed"
  | .emptyStream => "corrupt stream: too short"
  | .noEndMark => "corrupt stream, did not find end of stream"
  | .extraBits n => toString n ++ " extra bits on block, should be 0"
  | .inputTooSmall => "input too small"
  | .tableLogTooLarge => "tableLog too large"
  | .zerosPastEnd => "maxSymbolValue too small"
  | .tooFewSymbols n => s!"symbolLen ({n}) too small"
  | .tooManySymbols n => s!"symbolLen ({n}) too big"
  | .statesLeft r => s!"corruption detected (remaining {r} != 1)"
  | .countOverrun b => s!"corruption detected (bitCount {b} > 32)"
  | .countTotal t s => s!"corruption detected (total {t} != {s})"
  | .spreadMismatch => "corrupted input (position != 0)"
  | .stuckState n u => s!"newState ({n}) == oldState ({u}) and no bits"
  | .tooManyWeights n l => s!"output size ({n}) > DecompressLimit ({l})"
  | .weightTooLarge => "corrupt input: weight too large"
  | .weightsZero => "corrupt input: weights zero"
  | .huffmanTooDeep => "corrupt input: tableLog too big"
  | .lastWeightNotPower => "corrupt input: last value not power of two"
  | .oddLightSymbols => "corrupt input: min elt size, even check failed "
  | .tableTooShort => "input too small for table"
  | .tableShort w h => s!"input too small for table, want {w} bytes, have {h}"
  | .weights e => "fse decompress returned: " ++ e.message
  | .weightTableTooLarge => "corrupt input: output table too large"
  | .roomExceeded => "maximum output size exceeded"
  | .streamsTruncated => "truncated input (or invalid offset)"
  | .streamOverrun k => s!"corruption detected: stream overrun {k}"
  | .shortStream i r e => s!"corruption detected: short output block {i}, end {r} != {e}"
  | .shortOutput => "corruption detected: short output block"
  | .literalSizeMismatch w g => s!"literal output size mismatch want {w}, got {g}"
  | .noHuffmanTable => "literal block was treeless, but no history was defined"
  | .sequencesTrailing => "unexpected block size"
  | .reservedModeBits => "corrupt block: reserved bits not zero"
  | .rleSymbol v s => s!"rle symbol {v} >= max {s}"
  | .badTableEntry i y s => s!"invalid decoding table entry {i}, symbol {y} >= max ({s})"
  | .noSequenceTable name => name ++ ":sequence decoder not defined"
  | .literalShortage w h => s!"unexpected literal count, want {w} bytes, but only {h} is available"
  | .blockTooLarge l => s!"output bigger than max block size ({l})"
  | .matchTooLong n => s!"match len ({n}) bigger than max allowed length"
  | .zeroOffset n => s!"zero matchoff and matchlen ({n}) > 0"
  | .offsetTooFar o h => s!"match offset ({o}) bigger than current history ({h})"

end Zstd

end Combinatory
