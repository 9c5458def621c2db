import Combinatory.Cli.Session
import Combinatory.Pipeline.Compile
import Combinatory.Pipeline.Paths
import Combinatory.Pipeline.Tokenize
import Combinatory.Render.Trees
import Combinatory.Render.Tokens
import Combinatory.Render.Json
import Combinatory.Render.Panel
import Combinatory.Artifact.File
import Combinatory.Text.Ansi

/-!
# Running a command line

A command line is resolved to a command, its flags are read, and the command runs or prints its
help or the version. An error is printed as `skc: message` and exits with code 1.
-/

namespace Combinatory

open CliM

/-- A command with the flags it was given. -/
structure Invocation where
  command : Command
  reading : FlagReading
  deriving Inhabited

namespace Invocation

/-- The text value of a flag. -/
def text (i : Invocation) (name : String) : String := i.reading.text i.command.flags name

/-- The boolean value of a flag. -/
def flag (i : Invocation) (name : String) : Bool := i.reading.flag i.command.flags name

/-- The positional arguments. -/
def args (i : Invocation) : List String := i.reading.args

/-- The settings of the run, for source file `source`. -/
def settings (i : Invocation) (source : String) : CliM RunSettings :=
  loadRunSettings i.command.flags i.reading source

end Invocation

/-- The flags of a compilation. -/
structure CompileFlags where
  emit : String
  compress : String
  stats : Bool
  tree : Bool
  noAst : Bool
  deriving Inhabited

namespace Cli

/-- The prefix of a failure outside the diagnostics. -/
def ioTag : String := "[IO]: "

/-- Reads a source file, failing with the text of a file that cannot be opened. -/
def readSource (path : String) : CliM ByteArray := do
  match (← disk).readFile path with
  | .ok data => return data
  | .error e => fail ("could not open input file " ++ path ++ ": " ++ e.message)

/-- Creates (or truncates) a file, failing with `prefix` and the reason. -/
def createFile (path pfx : String) (data : ByteArray) : CliM Unit := do
  match (← disk).writeFile path data with
  | .ok d => setDisk d
  | .error e => fail (pfx ++ e)

/-- Writes an artifact file: the bytes go to a temporary file in the target's directory,
which is then renamed onto the target; a directory in the way refuses the rename and the
temporary file is removed. -/
def writeArtifact (path : String) (bytes : ByteArray) : CliM Unit := do
  let dir := Path.dir path
  let temp := (if dir.endsWith "/" then dir else dir ++ "/") ++ ".skb-" ++ (← read).tempTag
  let d ← disk
  match d.canCreate temp with
  | .error e => fail (ioTag ++ e)
  | .ok _ =>
    match d.entry path with
    | .dir => fail (ioTag ++ "rename " ++ temp ++ " " ++ path ++ ": file exists")
    | _ =>
      match d.writeFile path bytes with
      | .ok d => setDisk d
      | .error e => fail (ioTag ++ "rename " ++ temp ++ " " ++ path ++ ": " ++ e)

/-- Compiles `path` with the flags of a compilation. -/
def compileFile (inv : Invocation) (path : String) (f : CompileFlags) : CliM Unit := do
  check (validatePath path)
  let codec ← match Codec.parse? f.compress with
    | some c => pure c
    | none => fail ("--compress " ++ Quoted.quote f.compress.toUTF8.toList ++
        ": emit: unknown codec")
  let rs ← inv.settings path
  let data ← readSource path
  let (files, id) := FileSet.empty.addLoaded path data
  let c ← match Compilation.startIn files ((files.get? id).getD default) rs.settings with
    | .ok c => pure c
    | .error e => fail e.message
  let c := Compilation.runStages .convert Stage.order c
  rs.log c.log.toList
  rs.printDiagnostics c.bag c.files
  if let some e := c.error then
    if e = .convert .unreachable then failed else fail e.message
  if !c.ok then failed
  let color := rs.color
  if !rs.quiet then
    say "Successfully checked AST\n"
    if !f.noAst then
      if let some p := c.program then say (c.tree.drawProgram p color)
  let roots := c.forest.getD []
  say (if f.tree then c.store.drawForest roots color else c.store.formatForest roots color)
  if f.emit ≠ "" then
    let art ← match c.store.toArtifact roots c.file.path with
      | .ok a => pure a
      | .error e => fail e.message
    let bytes ← match art.encode codec with
      | .ok b => pure b
      | .error e => fail (ioTag ++ e.message)
    writeArtifact f.emit bytes
    rs.log [⟨.info, "artifact written",
      [("path", .text f.emit), ("nodes", .int art.nodes.length), ("codec", .text codec.name)]⟩]
  if f.stats then say (Panel.arena c.file.path c.tree.arena.stats ++ "\n")
  rs.printTimings c.phases

/-- The outcome of one file of a check: a failure outside its diagnostics, or its
compilation. -/
inductive CheckedFile where
  | broken (message : String)
  | done (c : Compilation)
  deriving Inhabited

/-- Loads the files of a check into one file set, in order: each file's id, or the failure
that kept it out. -/
def loadAll (d : Disk) (files : FileSet) : List String → FileSet × List (Except String Nat)
  | [] => (files, [])
  | p :: rest =>
    let (files, this) : FileSet × Except String Nat :=
      match validatePath p with
      | .error e => (files, .error e)
      | .ok () =>
        match d.readFile p with
        | .error e => (files, .error ("could not open input file " ++ p ++ ": " ++ e.message))
        | .ok data =>
          let (files, id) := files.addLoaded p data
          (files, .ok id)
    let (files, more) := loadAll d files rest
    (files, this :: more)

/-- Checks every file. -/
def checkFiles (inv : Invocation) : CliM Unit := do
  let convert := inv.flag "convert"
  let short := inv.flag "short"
  let rs ← inv.settings (inv.args.headD "")
  let stop := if convert then Stage.convert else Stage.check
  let (files, loaded) := loadAll (← disk) FileSet.empty inv.args
  let mut results : List CheckedFile := []
  for l in loaded do
    match l with
    | .error e => results := results ++ [.broken e]
    | .ok id =>
      match Compilation.startIn files ((files.get? id).getD default) rs.settings with
      | .error e => results := results ++ [.broken e.message]
      | .ok c =>
        let c := Compilation.runStages stop Stage.order c
        rs.log c.log.toList
        results := results ++ [.done c]
  let all := (results.foldl (fun b r => match r with
    | .done c => b.merge c.bag
    | .broken _ => b) (Bag.empty 0)).sort
  if short then
    let text := formatShort all.items.toList files
    if !text.isEmpty then errBytes (text ++ [10])
  else rs.printDiagnostics all files
  let mut bad := 0
  for (r, path) in results.zip inv.args do
    match r with
    | .broken e =>
      bad := bad + 1
      warn (ioTag ++ e ++ "\n")
    | .done c =>
      if let some e := c.error then
        bad := bad + 1
        warn (ioTag ++ e.message ++ "\n")
      else if !c.ok then bad := bad + 1
      else if !rs.quiet then
        say (path ++ ": ok (" ++ toString (c.tree.programStmts c.prog).length ++ " statements)\n")
      rs.printTimings c.phases
  if bad > 0 then
    if !rs.quiet then warn (toString bad ++ " of " ++ toString results.length ++ " files failed\n")
    failed

/-- The JSON of a token row. -/
def tokenJson (r : TokenRow) : JsonText :=
  .obj ([("kind", .str r.kind.toUTF8.toList)] ++
    (if r.text.isEmpty then [] else [("text", .str r.text)]) ++
    [("line", .num r.line), ("col", .num r.col), ("end_line", .num r.endLine),
      ("end_col", .num r.endCol)] ++
    (if r.leading.isEmpty then []
     else [("leading", .arr (r.leading.map fun k => .str k.toUTF8.toList))]))

/-- Prints the tokens of a file. -/
def tokenizeFile (inv : Invocation) : CliM Unit := do
  let format := inv.text "format"
  let path := inv.args.headD ""
  let rs ← inv.settings path
  match validatePath path with
  | .error e => fail (ioTag ++ e)
  | .ok () => pure ()
  let data ← match (← disk).readFile path with
    | .ok data => pure data
    | .error e => fail (ioTag ++ "could not open input file " ++ path ++ ": " ++ e.message)
  let t := tokenizeSource path data rs.settings.maxDiagnostics
  rs.printDiagnostics t.bag t.files
  if format = "pretty" then say (formatTokens t.file t.tokens)
  else if format = "json" then
    say (JsonText.document (.arr ((TokenRow.ofTokens t.file t.tokens).map tokenJson)))
  else fail ("unknown format: " ++ format)
  if t.bag.hasErrors then failed

/-- A number right-aligned in four columns. -/
def width4 (n : Nat) : String :=
  let s := toString n
  String.ofList (List.replicate (4 - s.length) ' ') ++ s

/-- Prints the forest stored in an artifact file. -/
def inspectFile (inv : Invocation) : CliM Unit := do
  let path := inv.args.headD ""
  let data ← match (← disk).readFile path with
    | .ok data => pure data
    | .error (.opening m) => fail (ioTag ++ m)
    | .error (.reading m) => fail (ioTag ++ (ArtifactError.truncated m).message)
  let art ← match Artifact.decode data with
    | .ok a => pure a
    | .error e => fail (ioTag ++ e.message)
  let b (s : String) : List UInt8 := s.toUTF8.toList
  outBytes (b "source: " ++ art.source ++ b ("\nschema: " ++ toString art.schema ++
    "\nnodes:  " ++ toString art.nodes.length ++ "\nroots:  " ++ toString art.roots.length ++ "\n"))
  for (r, i) in art.roots.zipIdx do
    outBytes (r.name ++ b " = " ++ art.format i ++ [10])
  if inv.flag "nodes" then
    for (n, i) in art.nodes.zipIdx do
      outBytes (b (width4 i ++ ": kind=" ++ toString n.kind ++ " a=" ++ toString n.a ++ " b=" ++
        toString n.b ++ " ") ++ n.name ++ [10])

/-- Prints the version. -/
def showVersion (inv : Invocation) : CliM Unit := do
  let format := inv.text "format"
  let runtime := (← read).runtime
  if format = "pretty" then
    let on := inv.text "color" = "on"
    say (Ansi.paint on [Ansi.cyan, Ansi.bold] Command.program ++ " " ++
      Ansi.paint on [Ansi.green, Ansi.bold] Command.release ++ "\n" ++
      Ansi.paint on [Ansi.faint] ("go:     " ++ runtime) ++ "\n")
  else if format = "json" then
    say (JsonText.document (.obj [("version", .str Command.release.toUTF8.toList),
      ("go_version", .str runtime.toUTF8.toList)]))
  else fail ("unknown format: " ++ format)

/-- Starts profiling when a profile file was asked for: the CPU profile and the trace files
are created now, the heap profile at the end. -/
def startProfiling (inv : Invocation) : CliM Unit := do
  let cpu := inv.text "cpuprofile"
  let mem := inv.text "memprofile"
  let trace := inv.text "trace"
  if cpu = "" ∧ mem = "" ∧ trace = "" then return
  if cpu ≠ "" then createFile cpu "cpu profile: " .empty
  if trace ≠ "" then createFile trace "trace: " .empty
  modify fun s => { s with profile := some mem }

/-- What a command does. -/
def perform (inv : Invocation) : CliM Unit := do
  match inv.command with
  | .root =>
    match inv.args with
    | [path] => compileFile inv path ⟨"", "", false, false, false⟩
    | args =>
      say (Usage.usage .root)
      fail ("expected exactly one source file, got " ++ toString args.length)
  | .compile =>
    compileFile inv (inv.args.headD "")
      ⟨inv.text "emit", inv.text "compress", inv.flag "stats", inv.flag "tree", inv.flag "no-ast"⟩
  | .check => checkFiles inv
  | .tokenize => tokenizeFile inv
  | .inspect => inspectFile inv
  | .version => showVersion inv
  | .help => say (Usage.help (Command.find inv.args).1)
  | _ => pure ()

/-- Runs a command with its arguments. -/
def execute (c : Command) (args : List String) : CliM Unit := do
  let reading ← check (Flags.parse c.flags args)
  let inv : Invocation := ⟨c, reading⟩
  if inv.flag "help" then say (Usage.help c)
  else if c = .root ∧ inv.flag "version" then
    say (Command.program ++ " version " ++ Command.release ++ "\n")
  else if !c.runnable then say (Usage.help c)
  else
    check (c.checkArgs inv.args)
    startProfiling inv
    perform inv

end Cli

/-- What one command line did: its two output streams, its exit code, and the directory
tree after it. -/
structure Outcome where
  out : ByteArray
  err : ByteArray
  exit : Nat
  disk : Disk
  deriving Inhabited

/-- Ends a profiling session: writes the heap profile when one was asked for. -/
def Session.stopProfiling (s : Session) : Session :=
  match s.profile with
  | some mem =>
    if mem = "" then s
    else match s.disk.writeFile mem .empty with
      | .ok d => { s with disk := d }
      | .error e => { s with err := s.err ++ ("skc: heap profile: " ++ e ++ "\n").toUTF8 }
  | none => s

/-- Runs one command line over a directory tree. -/
def runCommandLine (host : Host) (disk : Disk) (args : List String) : Outcome :=
  let (c, rest) := Command.find args
  let (res, s) := ((Cli.execute c rest).run.run host).run ⟨disk, .empty, .empty, none⟩
  let s := s.stopProfiling
  match res with
  | .ok () => ⟨s.out, s.err, 0, s.disk⟩
  | .error .failed => ⟨s.out, s.err, 1, s.disk⟩
  | .error (.error m) => ⟨s.out, s.err ++ ("skc: " ++ m ++ "\n").toUTF8, 1, s.disk⟩

/-- Runs command lines one after another over the same directory tree. -/
def runCommandLines (host : Host) (disk : Disk) : List (List String) → List Outcome × Disk
  | [] => ([], disk)
  | args :: more =>
    let o := runCommandLine host disk args
    let (os, d) := runCommandLines host o.disk more
    (o :: os, d)

end Combinatory
