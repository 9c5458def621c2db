import Combinatory.Source.Path
import Combinatory.Text.Canonical

/-!
# Source files, spans and line positions

A source file is a normalized byte string with its path, the offsets of its line feeds and
flags saying how it was normalized. Offsets become 1-based lines and byte columns through the
line index.
-/

namespace Combinatory

/-- A range `[start, end)` of byte offsets in file `file`. -/
structure Span where
  file : Nat
  start : Nat
  stop : Nat
  deriving DecidableEq, Repr, Inhabited

namespace Span

/-- Whether the span holds no byte. -/
def isEmpty (s : Span) : Bool := s.start = s.stop

/-- The length of a span as a 32-bit word, wrapping when it ends before it starts. -/
def len (s : Span) : Nat := (s.stop + 2 ^ 32 - s.start % 2 ^ 32) % 2 ^ 32

/-- Whether `s` holds `inner`: same file, and `inner` within its bounds. -/
def contains (s inner : Span) : Bool :=
  s.file = inner.file && s.start ≤ inner.start && inner.stop ≤ s.stop

/-- The least span of the file of `s` holding both spans; a span of another file leaves `s`
as it is. -/
def cover (s other : Span) : Span :=
  if s.file ≠ other.file then s
  else { s with start := min s.start other.start, stop := max s.stop other.stop }

/-- The text `file:start-end`. -/
def render (s : Span) : String := s!"{s.file}:{s.start}-{s.stop}"

end Span

/-- How a file's bytes were normalized when it was added. -/
structure FileFlags where
  virtual : Bool
  bom : Bool
  crlf : Bool
  nfc : Bool
  deriving DecidableEq, Repr, Inhabited

/-- A 1-based line and byte column. -/
structure LineCol where
  line : Nat
  col : Nat
  deriving DecidableEq, Repr, Inhabited

/-- The offsets of the line feeds of a byte string. -/
def SourceFile.lineFeeds (content : ByteArray) : Array Nat :=
  (content.toList.zipIdx.filterMap fun (b, i) => if b = 10 then some i else none).toArray

/-- A source file, whose line index is built from its content when the file is added. -/
structure SourceFile where
  id : Nat
  path : String
  content : ByteArray
  lineIndex : Array Nat
  flags : FileFlags
  lineIndex_eq : lineIndex = SourceFile.lineFeeds content

instance : Inhabited SourceFile :=
  ⟨{ id := 0, path := "", content := .empty, lineIndex := SourceFile.lineFeeds .empty,
     flags := default, lineIndex_eq := rfl }⟩

namespace SourceFile

/-- The line and column of byte offset `off`: the line is one more than the number of line
feeds before `off`, the column counts from the last of them (a 32-bit word). -/
def lineCol (f : SourceFile) (off : Nat) : LineCol :=
  let n := (f.lineIndex.toList.filter (· < off)).length
  if n = 0 then ⟨1, (off + 1) % 2 ^ 32⟩
  else ⟨n + 1, off - f.lineIndex.getD (n - 1) 0⟩

/-- Line `n` (1-based) without its line feed, or the empty text when there is no such line. -/
def lineBytes (f : SourceFile) (n : Nat) : ByteArray :=
  if n = 0 then .empty
  else
    let size := f.content.size
    let start? : Option Nat :=
      if n = 1 then some 0
      else (f.lineIndex[n - 2]?).map (· + 1)
    match start? with
    | none => .empty
    | some start =>
      let stop := min ((f.lineIndex[n - 1]?).getD size) size
      if start > size then .empty else f.content.extract start stop

end SourceFile

/-- Drops a leading byte order mark. -/
def dropBom (bs : List UInt8) : List UInt8 × Bool :=
  match bs with
  | 0xEF :: 0xBB :: 0xBF :: rest => (rest, true)
  | _ => (bs, false)

/-- Replaces every CR LF by LF. -/
def foldCrLf : List UInt8 → List UInt8
  | 13 :: 10 :: rest => 10 :: foldCrLf rest
  | b :: rest => b :: foldCrLf rest
  | [] => []

/-- Whether a byte string holds CR LF. -/
def hasCrLf : List UInt8 → Bool
  | 13 :: 10 :: _ => true
  | _ :: rest => hasCrLf rest
  | [] => false

/-- Normalizes file bytes: the byte order mark, line ends and composed normal form, with the
flags saying which steps changed something. -/
def normalizeSource (bs : List UInt8) : List UInt8 × Bool × Bool × Bool :=
  let (bs, bom) := dropBom bs
  let crlf := hasCrLf bs
  let bs := if crlf then foldCrLf bs else bs
  let composed := Unicode.normalizeBytes bs
  let nfc := composed ≠ bs
  (if nfc then composed else bs, bom, crlf, nfc)

/-- The files of a compilation, with the latest file added for each cleaned path. -/
structure FileSet where
  files : Array SourceFile
  latest : List (String × Nat)
  deriving Inhabited

namespace FileSet

/-- No file. -/
def empty : FileSet := ⟨#[], []⟩

/-- Adds already normalized bytes under `path`; the new file's id is the number of files
before it. -/
def add (fs : FileSet) (path : String) (content : ByteArray) (flags : FileFlags) :
    FileSet × Nat :=
  let id := fs.files.size
  let p := Path.clean path
  let file : SourceFile :=
    { id, path := p, content, lineIndex := SourceFile.lineFeeds content, flags, lineIndex_eq := rfl }
  ({ files := fs.files.push file, latest := (p, id) :: fs.latest.filter (·.1 ≠ p) }, id)

/-- Adds a file that lives only in memory: its bytes are normalized first. -/
def addVirtual (fs : FileSet) (name : String) (content : ByteArray) : FileSet × Nat :=
  let (bs, bom, crlf, nfc) := normalizeSource content.toList
  fs.add name ⟨bs.toArray⟩ { virtual := true, bom, crlf, nfc }

/-- Adds a file read from disk: its bytes are normalized first. -/
def addLoaded (fs : FileSet) (path : String) (content : ByteArray) : FileSet × Nat :=
  let (bs, bom, crlf, nfc) := normalizeSource content.toList
  fs.add path ⟨bs.toArray⟩ { virtual := false, bom, crlf, nfc }

/-- The file of an id. -/
def get? (fs : FileSet) (id : Nat) : Option SourceFile := fs.files[id]?

/-- The latest file added under a path, which is cleaned first. -/
def latestOf? (fs : FileSet) (path : String) : Option Nat :=
  (fs.latest.find? (·.1 = Path.clean path)).map (·.2)

end FileSet

end Combinatory
