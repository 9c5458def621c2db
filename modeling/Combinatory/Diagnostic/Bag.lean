import Combinatory.Diagnostic.Basic

/-!
# Collecting diagnostics

A bag keeps diagnostics in report order; with a positive limit it refuses all but fatal ones
once full, and counts them. A reporter may drop exact repeats. Bags sort by span, severity and
code.
-/

namespace Combinatory

/-- Diagnostics in report order, the limit and the count of refused ones. -/
structure Bag where
  items : Array Diagnostic
  limit : Int
  dropped : Nat
  deriving Inhabited

namespace Bag

/-- An empty bag with a limit (zero or less: no limit). -/
def empty (limit : Int) : Bag := ⟨#[], limit, 0⟩

/-- Adds a diagnostic unless the bag is full; fatal diagnostics are always kept. -/
def add (b : Bag) (d : Diagnostic) : Bag :=
  if b.limit > 0 ∧ (b.items.size : Int) ≥ b.limit ∧ d.severity ≠ .fatal then
    { b with dropped := b.dropped + 1 }
  else { b with items := b.items.push d }

/-- Whether some diagnostic is an error or fatal. -/
def hasErrors (b : Bag) : Bool := b.items.any (·.severity.fails)

/-- Whether some diagnostic is fatal. -/
def hasFatal (b : Bag) : Bool := b.items.any (·.severity = .fatal)

/-- The number of diagnostics with a code. -/
def count (b : Bag) (code : Nat) : Nat := (b.items.filter (·.code = code)).size

/-- Appends another bag's diagnostics, whatever the limit, and its refused count. -/
def merge (b other : Bag) : Bag :=
  { b with items := b.items ++ other.items, dropped := b.dropped + other.dropped }

/-- The order of `sort`: whether `a` goes strictly before `c`. -/
def before (a c : Diagnostic) : Bool :=
  if a.primary.file ≠ c.primary.file then a.primary.file < c.primary.file
  else if a.primary.start ≠ c.primary.start then a.primary.start < c.primary.start
  else if a.primary.stop ≠ c.primary.stop then a.primary.stop < c.primary.stop
  else if a.severity.rank ≠ c.severity.rank then a.severity.rank > c.severity.rank
  else a.code < c.code

/-- Sorts the diagnostics, keeping report order among equals. -/
def sort (b : Bag) : Bag :=
  { b with items := (b.items.toList.mergeSort fun a c => !before c a).toArray }

end Bag

/-- What identifies a repeated diagnostic. -/
structure RepeatKey where
  code : Nat
  severity : Severity
  span : Span
  message : String
  subject : List UInt8
  deriving DecidableEq

/-- Where reported diagnostics go: a bag, behind a filter of repeats when `dedup` holds;
a silent reporter keeps nothing. -/
structure Reporter where
  silent : Bool
  dedup : Bool
  bag : Bag
  seen : List RepeatKey
  suppressed : Nat
  deriving Inhabited

namespace Reporter

/-- A reporter into a bag. -/
def toBag (b : Bag) (dedup : Bool) : Reporter := ⟨false, dedup, b, [], 0⟩

/-- A reporter that keeps nothing. -/
def none : Reporter := ⟨true, false, Bag.empty 0, [], 0⟩

/-- Reports one diagnostic. -/
def report (r : Reporter) (d : Diagnostic) : Reporter :=
  if r.silent then r
  else if r.dedup then
    let key : RepeatKey := ⟨d.code, d.severity, d.primary, d.message, d.subject⟩
    if r.seen.contains key then { r with suppressed := r.suppressed + 1 }
    else { r with seen := key :: r.seen, bag := r.bag.add d }
  else { r with bag := r.bag.add d }

end Reporter

/-- One line of the short form. -/
structure ShortLine where
  severity : String
  code : String
  path : String
  line : Nat
  col : Nat
  message : List UInt8

/-- The short form of diagnostics: `severity CODE path:line:col message`, line feeds in the
message replaced by spaces, one per line with no final line feed. -/
def formatShort (ds : List Diagnostic) (files : FileSet) : List UInt8 :=
  let rows := ds.filterMap fun d =>
    (files.get? d.primary.file).map fun f =>
      let lc := f.lineCol d.primary.start
      ({ severity := d.severity.label, code := DiagCode.id d.code, path := f.path,
         line := lc.line, col := lc.col,
         message := d.text.map fun b => if b = 10 then 32 else b } : ShortLine)
  let before (a c : ShortLine) : Bool :=
    if a.path ≠ c.path then a.path < c.path
    else if a.line ≠ c.line then a.line < c.line
    else if a.col ≠ c.col then a.col < c.col
    else a.code < c.code
  let sorted := rows.mergeSort fun a c => !before c a
  let render (r : ShortLine) : List UInt8 :=
    (s!"{r.severity} {r.code} {r.path}:{r.line}:{r.col} ").toUTF8.toList ++ r.message
  ([10] : List UInt8).intercalate (sorted.map render)

end Combinatory
