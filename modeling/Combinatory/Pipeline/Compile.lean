import Combinatory.Tree.Parser
import Combinatory.Tree.Curry
import Combinatory.Scope.Check
import Combinatory.Combinator.Convert
import Combinatory.Config.Settings
import Combinatory.Log.Record

/-!
# The compilation pipeline

Parse, check, curry and convert, in order, stopping at the first stage that fails or is not
good, or after the stage asked for. Every record lives in one arena, and diagnostics go to one
bag with the settings' limit.
-/

namespace Combinatory

/-- A stage of the pipeline. -/
inductive Stage where
  | none
  | parse
  | check
  | curry
  | convert
  deriving DecidableEq, Repr, Inhabited

namespace Stage

/-- The stages in order of discriminant. -/
def all : List Stage := [.none, .parse, .check, .curry, .convert]

/-- The name of a stage. -/
def name : Stage → String
  | .none => "none"
  | .parse => "parse"
  | .check => "check"
  | .curry => "curry"
  | .convert => "convert"

/-- The name of the stage with discriminant `n`. -/
def nameOf (n : Nat) : String := ((all[n]?).map name).getD "none"

/-- The stage of a name. -/
def ofName? (s : String) : Option Stage := all.find? (·.name = s)

/-- The stages that run, in order. -/
def order : List Stage := [.parse, .check, .curry, .convert]

end Stage

/-- Why a compilation stopped with an error. -/
inductive CompileError where
  | arena (e : ArenaError)
  | parse (e : ArenaError)
  | table (e : NameMapError)
  | curry (e : ArenaError)
  | convert (e : ConvertError)
  | standalone (e : ConvertError)
  | panic (msg : String)
  deriving DecidableEq, Repr, Inhabited

/-- The text of each error. -/
def CompileError.message : CompileError → String
  | .arena e => "arena: " ++ e.message
  | .parse e => "parse: " ++ Tree.failureMessage e
  | .table e => "sema: symbols: " ++ e.message
  | .curry e => "curry: " ++ Tree.failureMessage e
  | .convert .unreachable => ConvertError.unreachable.message
  | .convert e => "convert: " ++ e.message
  | .standalone e => e.message
  | .panic msg => "panic: " ++ msg

/-- The state of a compilation. -/
structure Compilation where
  files : FileSet
  file : SourceFile
  store : Store
  reporter : Reporter
  settings : Settings
  program : Option Nat
  check : Option CheckResult
  forest : Option (List Root)
  reached : Stage
  failed : Stage
  phases : List String
  error : Option CompileError
  log : Array LogRecord
  deriving Inhabited

namespace Compilation

/-- The syntax tree. -/
def tree (c : Compilation) : Tree := c.store.tree

/-- The bag of diagnostics. -/
def bag (c : Compilation) : Bag := c.reporter.bag

/-- Whether the pipeline ran to its end without errors. -/
def ok (c : Compilation) : Bool := c.failed = .none && !c.bag.hasErrors

/-- Sets the syntax tree. -/
def setTree (c : Compilation) (t : Tree) : Compilation := { c with store := { c.store with tree := t } }

/-- Adds a record about the file to the log. -/
def note (c : Compilation) (level : LogLevel) (message : String)
    (attrs : List (String × LogValue)) : Compilation :=
  { c with log := c.log.push ⟨level, message, ("file", .text c.file.path) :: attrs⟩ }

/-- Parses the file. -/
def parse (c : Compilation) : Compilation × Except CompileError Bool :=
  let maxErrors := c.settings.maxDiagnostics.toNat
  let (res, t, r) := parseFile c.file c.tree c.reporter maxErrors
  let c := { c.setTree t with reporter := r }
  match t.failure with
  | some e => (c, .error (.parse e))
  | none =>
    let c := c.note .debug "parsed" [("stmts", .int res.stmts), ("errors", .int res.errors)]
    ({ c with program := res.program }, .ok !res.failed)

/-- The program record, or the first one. -/
def prog (c : Compilation) : Nat := c.program.getD 0

/-- Checks the names. -/
def checkNames (c : Compilation) : Compilation × Except CompileError Bool :=
  let hints : TableHints := ⟨c.settings.buckets, c.settings.loadFactor⟩
  match checkProgram c.tree c.prog hints c.reporter with
  | .error e => (c, .error (.table e))
  | .ok (res, r) =>
    let c := { c with check := some res, reporter := r }
    let c := c.note .debug "checked"
      [("names", .int res.table.size), ("undeclared", .int res.undeclared),
        ("rebound", .int res.rebound)]
    (c, .ok res.ok)

/-- Curries the abstractions. -/
def curry (c : Compilation) : Compilation × Except CompileError Bool :=
  let t := c.tree.curry c.prog
  let c := c.setTree t
  match t.failure with
  | some e => (c, .error (.curry e))
  | none => (c, .ok true)

/-- The table of statements the check built, or an empty one. -/
def table (c : Compilation) : NameMap Nat :=
  match c.check with
  | some r => r.table
  | none => ⟨[], 1, Dyadic.ofFloat 0.75⟩

/-- Converts the statements into combinator terms. -/
def convert (c : Compilation) : Compilation × Except CompileError Bool :=
  let (res, store, r) := (Store.ofTree c.tree).convert c.prog c.table c.reporter
  let c := { c with store, reporter := r }
  match res with
  | .error e => (c, .error (.convert e))
  | .ok roots =>
    let c := c.note .debug "converted" [("roots", .int roots.length)]
    ({ c with forest := some roots }, .ok !c.bag.hasErrors)

/-- Runs one stage, without looking at a stopped program. -/
def runStage (c : Compilation) : Stage → Compilation × Except CompileError Bool
  | .parse => c.parse
  | .check => c.checkNames
  | .curry => c.curry
  | .convert => c.convert
  | .none => (c, .ok true)

/-- Runs one stage; a stage in which a constructor stopped the program ends with its
complaint. -/
def step (c : Compilation) (st : Stage) : Compilation × Except CompileError Bool :=
  let r := c.runStage st
  match r.1.tree.crash with
  | some msg => (r.1, .error (.panic msg))
  | none => r

/-- Logs the occupancy of the arena and the number of diagnostics, at the end of a pipeline
that nothing stopped. -/
def noteEnd (c : Compilation) : Compilation :=
  let s := c.tree.arena.stats
  let c := c.note .info "arena"
    [("regions", .int s.regions), ("used", .int s.used), ("capacity", .int s.capacity),
      ("aligned", .bool s.aligned)]
  c.note .debug "diagnostics"
    [("count", .int c.bag.items.size), ("duplicates", .int c.reporter.suppressed)]

/-- Runs stages in order until one fails or is not good, or after `stop`. -/
def runStages (stop : Stage) : List Stage → Compilation → Compilation
  | [], c => c.noteEnd
  | st :: rest, c =>
    let c := { c with phases := c.phases ++ [st.name] }
    match c.step st with
    | (c, .error e) =>
      let c := c.note .error "phase failed"
        [("phase", .text st.name), ("error", .text (CompileError.message e))]
      { c with failed := st, error := some e }
    | (c, .ok good) =>
      let c := c.note .debug "phase done" [("phase", .text st.name)]
      if !good then { c with failed := st }
      else
        let c := { c with reached := st }
        if st = stop then c.noteEnd else runStages stop rest c

/-- A compilation of `file` of the set `files`, before any stage ran; fails when the arena
cannot be made. -/
def startIn (files : FileSet) (file : SourceFile) (settings : Settings) :
    Except CompileError Compilation := do
  let arena ← (settings.newArena 1).mapError CompileError.arena
  let reporter := Reporter.toBag (Bag.empty settings.maxDiagnostics) true
  return { files, file, store := Store.ofTree (Tree.empty arena file.id), reporter, settings,
           program := none, check := none, forest := none, reached := .none, failed := .none,
           phases := [], error := none, log := #[] }

/-- A compilation of `content` under file name `name`, before any stage ran; fails when
the arena cannot be made. -/
def start (name : String) (content : ByteArray) (settings : Settings) :
    Except CompileError Compilation :=
  let (files, id) := FileSet.empty.addVirtual name content
  startIn files ((files.get? id).getD default) settings

/-- Converts the tree as it is, outside the pipeline, after a pipeline that ended with a
good check; a conversion with errors is the failed stage, one without the reached stage. -/
def convertUncurried (c : Compilation) : Compilation :=
  if c.error.isSome ∨ c.failed ≠ .none then c
  else
    let (res, store, r) := (Store.ofTree c.tree).convert c.prog c.table c.reporter
    let c := { c with store, reporter := r }
    let c := match res, c.tree.crash with
      | _, some msg => { c with error := some (.panic msg) }
      | .error e, none => { c with error := some (.standalone e) }
      | .ok roots, none => { c with forest := some roots }
    if c.bag.hasErrors then { c with failed := .convert }
    else if c.error.isNone then { c with reached := .convert }
    else c

/-- The position of statement `s` in the program. -/
def stmtIndex (c : Compilation) (s : Nat) : Nat := (c.tree.programStmts c.prog).idxOf s

/-- Whether every reference node of the forest points at the compiled term of the statement
it names. -/
def refsShareCompiled (c : Compilation) : Bool :=
  match c.forest with
  | none => true
  | some roots => roots.all fun r =>
    (c.store.links r.node).all fun (target, s) => (c.tree.stmt s).compiled = some target

end Compilation

/-- Compiles `content` under file name `name` up to stage `stop` (`none` for all); a
constructor that stopped the program leaves no compilation. -/
def compileSource (name : String) (content : ByteArray) (settings : Settings) (stop : Stage) :
    Except CompileError Compilation := do
  let c ← Compilation.start name content settings
  let stop := if stop = .none then .convert else stop
  let c := Compilation.runStages stop Stage.order c
  match c.error with
  | some (.panic msg) => throw (.panic msg)
  | _ => return c

end Combinatory
