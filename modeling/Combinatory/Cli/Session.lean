import Combinatory.Cli.Commands
import Combinatory.Cli.Disk
import Combinatory.Config.Load
import Combinatory.Log.Record
import Combinatory.Diagnostic.Pretty

/-!
# A command-line session

A run works on a directory tree in memory and writes standard output and standard error; what
it cannot know itself (absolute paths, times, versions) comes from the host. Its settings come
from the nearest `skc.toml`, overridden by the flags.
-/

namespace Combinatory

/-- What the command line learns from the machine it runs on. -/
structure Host where
  workDir : String
  clock : String
  runtime : String
  elapsed : String
  tempTag : String
  deriving Inhabited

/-- The state of a run: the directory tree, the two output streams, and the heap-profile
path of a profiling session that was started. -/
structure Session where
  disk : Disk
  out : ByteArray
  err : ByteArray
  profile : Option String
  deriving Inhabited

/-- How a run stops early: with a failure already reported, or with an error message. -/
inductive Halt where
  | failed
  | error (message : String)
  deriving DecidableEq, Repr, Inhabited

/-- A step of a run. -/
abbrev CliM := ExceptT Halt (ReaderT Host (StateM Session))

namespace CliM

/-- Stops with an error message. -/
def fail {α : Type} (message : String) : CliM α := throw (.error message)

/-- Stops with a failure already reported. -/
def failed {α : Type} : CliM α := throw .failed

/-- The value of a check, or the error it gives. -/
def check {α : Type} : Except String α → CliM α
  | .ok a => pure a
  | .error e => fail e

/-- Writes bytes to standard output. -/
def outBytes (bs : List UInt8) : CliM Unit :=
  modify fun s => { s with out := s.out ++ ⟨bs.toArray⟩ }

/-- Writes text to standard output. -/
def say (text : String) : CliM Unit :=
  modify fun s => { s with out := s.out ++ text.toUTF8 }

/-- Writes bytes to standard error. -/
def errBytes (bs : List UInt8) : CliM Unit :=
  modify fun s => { s with err := s.err ++ ⟨bs.toArray⟩ }

/-- Writes text to standard error. -/
def warn (text : String) : CliM Unit :=
  modify fun s => { s with err := s.err ++ text.toUTF8 }

/-- The directory tree. -/
def disk : CliM Disk := return (← get).disk

/-- Replaces the directory tree. -/
def setDisk (d : Disk) : CliM Unit := modify fun s => { s with disk := d }

end CliM

open CliM

/-- The settings of a run, merged from `skc.toml` and the flags. -/
structure RunSettings where
  settings : Settings
  mode : ColorMode
  quiet : Bool
  timings : Bool
  level : LogLevel
  deriving Inhabited

namespace RunSettings

/-- Whether standard output is coloured: only when colour is on, since neither stream is a
terminal. -/
def color (s : RunSettings) : Bool := s.mode = .on

/-- Writes log records at or above the run's level to standard error. -/
def log (s : RunSettings) (rs : List LogRecord) : CliM Unit := do
  warn (LogRecord.renderAll (← read).clock s.level rs)

/-- Writes a bag's diagnostics to standard error, unless there is nothing to say. -/
def printDiagnostics (s : RunSettings) (b : Bag) (files : FileSet) : CliM Unit := do
  if b.items.size = 0 ∧ b.dropped = 0 then return
  errBytes (b.pretty files ⟨s.color, false, !s.quiet⟩)

/-- Writes the timing of each phase, when timings were asked for. -/
def printTimings (s : RunSettings) (phases : List String) : CliM Unit := do
  if !s.timings then return
  let elapsed := (← read).elapsed
  warn ("timings:\n" ++ String.join (phases.map fun p => "  " ++ p ++ " " ++ elapsed ++ " ms\n") ++
    "  total " ++ elapsed ++ " ms\n")

end RunSettings

namespace Settings

/-- The name of the settings file. -/
def fileName : String := "skc.toml"

/-- Loads the settings file at `path`, naming it `shown` in messages. -/
def loadFile (path shown : String) : CliM Settings := do
  match (← disk).readFileAs path shown with
  | .error e => fail (shown ++ ": failed to parse TOML: " ++ e.message)
  | .ok data => check (load shown data)

/-- The settings file nearest to directory `dir`: in it or in a directory above, up to the
working directory, shown by absolute path. Nothing above the working directory is looked at,
and a directory outside it has no settings file. -/
def discover (dir : String) : CliM Settings := do
  let host ← read
  let d ← disk
  match Disk.locate dir with
  | none => return default
  | some parts =>
    let rec walk : List String → Nat → CliM Settings
      | _, 0 => return default
      | here, n + 1 => do
        let candidate := here ++ [fileName]
        let shown := host.workDir ++ "/" ++ Disk.key candidate
        match d.stat (Disk.key candidate) shown with
        | .error e => fail ("failed to stat " ++ Quoted.quote shown.toUTF8.toList ++ ": " ++ e)
        | .ok true => loadFile (Disk.key candidate) shown
        | .ok false => if here.isEmpty then return default else walk here.dropLast n
    walk parts (parts.length + 1)

end Settings

/-- Reads the settings for source file `source` from the flags of a run. -/
def loadRunSettings (flags : List FlagSpec) (r : FlagReading) (source : String) :
    CliM RunSettings := do
  let configPath := r.text flags "config"
  let s ← if configPath ≠ "" then Settings.loadFile configPath configPath
    else Settings.discover (Path.dir source)
  let s := if r.changed "max-diagnostics" then
      { s with maxDiagnostics := r.int flags "max-diagnostics" } else s
  let s := if r.changed "color" then { s with color := r.text flags "color" } else s
  check s.validate
  let mode ← check (ColorMode.parse s.color)
  let level ← check (LogLevel.parse (r.text flags "log-level"))
  return { settings := s, mode, quiet := r.flag flags "quiet", timings := r.flag flags "timings",
           level }

end Combinatory
