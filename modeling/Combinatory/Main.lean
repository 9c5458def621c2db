import Combinatory.Cli.Run

/-!
# The `skc` executable

The thin layer that touches the machine: it loads the files a command line can reach, runs the
command line over them in memory, writes back what it changed and exits with its code.
-/

namespace Combinatory.Executable

/-- The texts of an argument that may name a path: the argument, what follows its first
`=`, and what follows a one-letter short flag. -/
def pathTexts (arg : String) : List String :=
  let afterEq := match arg.splitOn "=" with
    | _ :: v :: more => ["=".intercalate (v :: more)]
    | _ => []
  let afterShort := if arg.startsWith "-" && !arg.startsWith "--" then [String.ofList (arg.toList.drop 2)]
    else []
  (arg :: afterEq ++ afterShort).filter (!·.isEmpty)

/-- The located paths a command line may read: each path text, the directories leading to
it, and the settings file of each of those directories. -/
def candidates (args : List String) : List String :=
  let located := (args.flatMap pathTexts).filterMap Disk.locate
  let paths := located.flatMap fun parts =>
    let dirs := (List.range (parts.length + 1)).map fun k => parts.take k
    dirs.flatMap fun d => [Disk.key d, Disk.key (d ++ [Settings.fileName])]
  (paths.filter (!·.isEmpty)).eraseDups

/-- Reads one path: its bytes when it is a file, whether it is a directory otherwise. -/
def probe (path : String) : IO (Option ByteArray × Bool) := do
  try
    let data ← IO.FS.readBinFile path
    return (some data, false)
  catch e =>
    return (none, (toString e).contains "directory" && !(toString e).contains "no such")

/-- Reads the reachable files and directories into a directory tree. -/
def loadDisk (args : List String) : IO Disk := do
  let mut files : List (String × ByteArray) := []
  let mut dirs : List String := []
  for p in candidates args do
    let (data, isDir) ← probe p
    match data with
    | some d => files := files ++ [(p, d)]
    | none => if isDir then dirs := dirs ++ [p]
  return Disk.ofEntries files dirs

/-- Writes back the files that are new or changed. -/
def saveDisk (before after : Disk) : IO Unit := do
  for (p, data) in after.files do
    let same := match before.files.lookup p with
      | some old => old.data == data.data
      | none => false
    if !same then IO.FS.writeBinFile p data

end Combinatory.Executable

open Combinatory in
/-- Runs `skc` with the arguments of the process. -/
def main (args : List String) : IO UInt32 := do
  let disk ← Executable.loadDisk args
  let host : Host := ⟨(← IO.currentDir).toString, "-", "lean", "-", toString ((← IO.monoNanosNow) % 1000000)⟩
  let o := runCommandLine host disk args
  Executable.saveDisk disk o.disk
  let out ← IO.getStdout
  out.write o.out
  out.flush
  let err ← IO.getStderr
  err.write o.err
  err.flush
  return o.exit.toUInt32
