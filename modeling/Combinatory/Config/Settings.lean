import Combinatory.Arena.Ops
import Combinatory.Text.Space
import Combinatory.Text.Quoted
import Combinatory.Number.Dyadic

/-!
# Compiler settings

The settings of a compilation: the arena (capacity, block size, zero for a packed arena, and
the most regions it may chain), the table of statements (buckets and load threshold) and the
diagnostics (how many a bag keeps, zero or less for no limit, and the colour mode).
-/

namespace Combinatory

/-- When output is coloured. -/
inductive ColorMode where
  | auto
  | on
  | off
  deriving DecidableEq, Repr, Inhabited

namespace ColorMode

/-- The name of a mode. -/
def name : ColorMode → String
  | .auto => "auto"
  | .on => "on"
  | .off => "off"

/-- Reads a mode, case-insensitively and ignoring surrounding blanks. -/
def parse (s : String) : Except String ColorMode :=
  match Unicode.lowerAscii (Unicode.trimSpace s) with
  | "" | "auto" => .ok .auto
  | "on" | "always" | "true" => .ok .on
  | "off" | "never" | "false" => .ok .off
  | _ => .error s!"unknown color mode {Quoted.quote s.toUTF8.toList} (want auto, on or off)"

end ColorMode

/-- The compiler settings. -/
structure Settings where
  capacity : UInt64
  blockSize : UInt64
  maxRegions : UInt64
  buckets : Int
  loadFactor : Float
  maxDiagnostics : Int
  color : String
  path : String
  deriving Inhabited

namespace Settings

/-- The settings used when no file gives any. -/
def default : Settings :=
  { capacity := 1048576, blockSize := 64, maxRegions := 5, buckets := 32, loadFactor := 0.75,
    maxDiagnostics := 100, color := "auto", path := "" }

/-- Checks the settings; the first problem found. -/
def validate (s : Settings) : Except String Unit :=
  if s.capacity = 0 then .error "[arena].capacity must be positive"
  else if s.capacity.toNat > Arena.maxCapacity then
    .error s!"[arena].capacity must not exceed {Arena.maxCapacity}"
  else if s.blockSize ≠ 0 ∧ s.blockSize.toNat < Arena.wordSize then
    .error s!"[arena].block_size must be 0 or at least {Arena.wordSize}"
  else if s.maxRegions = 0 then .error "[arena].max_regions must be positive"
  else if s.buckets ≤ 0 then .error "[symbols].buckets must be positive"
  else if (Dyadic.ofFloat s.loadFactor).below 3 4 then
    .error "[symbols].load_factor must be at least 0.75"
  else if s.maxDiagnostics < 0 then .error "[diagnostics].max must not be negative"
  else match ColorMode.parse s.color with
    | .error e => .error ("[diagnostics].color: " ++ e)
    | .ok _ => .ok ()

/-- The arena the settings describe, in address space `space`. -/
def newArena (s : Settings) (space : Nat) : Except ArenaError Arena :=
  if s.blockSize = 0 then Arena.packed s.capacity s.maxRegions space
  else Arena.aligned s.capacity s.blockSize s.maxRegions space

end Settings

end Combinatory
