import Combinatory.Diagnostic.Bag
import Combinatory.Text.Width
import Combinatory.Text.Ansi

/-!
# Printing diagnostics for people

Each diagnostic is printed with its phase tag, message and position, then the source line and
an underline: a caret at the start column and a tilde for each further cell.
-/

namespace Combinatory

/-- How diagnostics are printed. -/
structure PrettyOptions where
  color : Bool
  baseName : Bool
  showNotes : Bool
  deriving DecidableEq, Repr, Inhabited

namespace Pretty

/-- The bytes of a string. -/
def bytes (s : String) : List UInt8 := s.toUTF8.toList

/-- The source line of a span and its underline, each followed by a line feed. -/
def underline (f : SourceFile) (sp : Span) (color : Bool) : List UInt8 :=
  let lc := f.lineCol sp.start
  let line := (f.lineBytes lc.line).toList
  let startCol := min (lc.col - 1) line.length
  let stop := min (max (startCol + sp.len) startCol) line.length
  let pad := (Glyph.decode (line.take startCol)).flatMap fun g =>
    if g = .scalar '\t' then [(9 : UInt8)]
    else List.replicate (Unicode.cellWidth g.toChar) 32
  let width := max (Unicode.displayWidth ((line.drop startCol).take (stop - startCol))) 1
  let mark := "^" ++ String.ofList (List.replicate (width - 1) '~')
  line ++ [(10 : UInt8)] ++ pad ++ bytes (Ansi.paint color [Ansi.red] mark) ++ [(10 : UInt8)]

/-- The path of a file as printed. -/
def pathOf (f : SourceFile) (opts : PrettyOptions) : String :=
  if opts.baseName then Path.base f.path else f.path

/-- One diagnostic. -/
def one (files : FileSet) (opts : PrettyOptions) (d : Diagnostic) : List UInt8 :=
  let tag := DiagCode.tag d.code ++ (if d.severity.fails then "" else " " ++ d.severity.label)
  match files.get? d.primary.file with
  | none => bytes (tag ++ ": ") ++ d.text ++ [10]
  | some f =>
    let lc := f.lineCol d.primary.start
    let head := bytes (tag ++ ": ") ++ d.text ++
      bytes (s!" in file {pathOf f opts} at {lc.line}") ++ [10]
    let notes := if !opts.showNotes then [] else d.notes.flatMap fun n =>
      match files.get? n.span.file with
      | none => bytes s!"  note: {n.message}\n"
      | some nf =>
        bytes s!"  note: {n.message} in file {pathOf nf opts} at {(nf.lineCol n.span.start).line}\n"
          ++ underline nf n.span opts.color
    head ++ underline f d.primary opts.color ++ notes

end Pretty

/-- The report of a bag: every diagnostic, then how many were refused. -/
def Bag.pretty (b : Bag) (files : FileSet) (opts : PrettyOptions) : List UInt8 :=
  b.items.toList.flatMap (Pretty.one files opts) ++
    (if b.dropped > 0 then Pretty.bytes s!"... {b.dropped} more diagnostics not shown\n" else [])

end Combinatory
