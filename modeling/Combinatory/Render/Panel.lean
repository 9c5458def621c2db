import Combinatory.Arena.Ops
import Combinatory.Text.Terminal
import Combinatory.Number.Decimal

/-!
# Boxed panels

Lines drawn inside a box with rounded corners, padded to the widest in terminal cells. The
arena panel shows the mode, block size, capacity, bitmap, bytes used and regions of an arena.
-/

namespace Combinatory

namespace Panel

/-- Text as it is set: tabs widened to four spaces, then CR LF pairs made line feeds. -/
def setText (s : String) : String := (s.replace "\t" "    ").replace "\r\n" "\n"

/-- Spaces taking `n` cells. -/
def spaces (n : Nat) : String := String.ofList (List.replicate n ' ')

/-- Lines padded with spaces to the width of the widest. -/
def padLines (lines : List String) : List String :=
  let width := (lines.map Terminal.width).foldl max 0
  lines.map fun l => l ++ spaces (width - Terminal.width l)

/-- A block of text as it is set: a single line stays as it is, several are padded to the
widest. -/
def block (s : String) : String :=
  match (setText s).splitOn "\n" with
  | [l] => l
  | lines => "\n".intercalate (padLines lines)

/-- A text drawn in a rounded box, one space inside either side, without a final line feed. -/
def box (text : String) : String :=
  let lines := padLines (((setText text).splitOn "\n").map fun l => " " ++ l ++ " ")
  let width := (lines.map Terminal.width).foldl max 0
  let rule := String.ofList (List.replicate width '─')
  let body := lines.map fun l => "│" ++ l ++ "│"
  "\n".intercalate (("╭" ++ rule ++ "╮") :: body ++ ["╰" ++ rule ++ "╯"])

/-- The arena panel under `title`. -/
def arena (title : String) (s : ArenaStats) : String :=
  let total := s.capacity * s.regions
  let percent := if total = 0 then "0.0" else Decimal.fixedOfRatio (s.used * 100) total 1
  let rows : List (String × String) :=
    [("mode", if s.aligned then "aligned" else "packed"),
      ("block size", toString s.blockSize ++ " B"),
      ("capacity", toString s.capacity ++ " B"),
      ("bitmap", toString s.bitmapSize ++ " B"),
      ("used", toString s.used ++ " B (" ++ percent ++ "%)"),
      ("regions", toString s.regions ++ " / " ++ toString s.maxRegions)]
  box ("\n".intercalate (block title :: rows.map fun (k, v) => k ++ spaces (11 - k.length) ++ v))

end Panel

end Combinatory
