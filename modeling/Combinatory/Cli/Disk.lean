import Combinatory.Source.Path

/-!
# A directory tree in memory

The files below the working directory by cleaned relative path, and the directories made.
Each operation fails as the operating system does, naming the operation, the path and why.
-/

namespace Combinatory

/-- What a path leads to. -/
inductive Entry where
  | file (data : ByteArray)
  | dir
  | missing
  | notDir

/-- Why reading a file failed: opening it, or reading from what was opened. -/
inductive ReadError where
  | opening (message : String)
  | reading (message : String)

/-- The text of a read error. -/
def ReadError.message : ReadError → String
  | .opening m | .reading m => m

/-- The files and directories below the working directory. -/
structure Disk where
  files : List (String × ByteArray)
  dirs : List String
  deriving Inhabited

namespace Disk

/-- The reason texts of the operating system. -/
def noEntry : String := "no such file or directory"

/-- A file stands where a directory is needed. -/
def notADir : String := "not a directory"

/-- A directory stands where a file is needed. -/
def isADir : String := "is a directory"

/-- The elements of a path below the working directory, or `none` when it leaves it. -/
def locate (p : String) : Option (List String) :=
  let c := Path.clean p
  if c.startsWith "/" || c = ".." || c.startsWith "../" then none
  else if c = "." then some []
  else some (c.splitOn "/")

/-- The key of a located path. -/
def key (parts : List String) : String := "/".intercalate parts

/-- What the elements `parts` lead to. -/
def entryAt (d : Disk) (parts : List String) : Entry :=
  if parts.isEmpty then .dir
  else
    let k := key parts
    match d.files.lookup k with
    | some data => .file data
    | none =>
      let under := k ++ "/"
      if d.dirs.contains k || d.files.any (·.1.startsWith under) || d.dirs.any (·.startsWith under)
      then .dir
      else if (List.range (parts.length - 1)).any fun i =>
          (d.files.lookup (key (parts.take (i + 1)))).isSome then .notDir
      else .missing

/-- What a path leads to. -/
def entry (d : Disk) (p : String) : Entry :=
  match locate p with
  | none => .missing
  | some parts => d.entryAt parts

/-- Reads a whole file, naming it `shown` in a failure. -/
def readFileAs (d : Disk) (p shown : String) : Except ReadError ByteArray :=
  match d.entry p with
  | .file data => .ok data
  | .dir => .error (.reading ("read " ++ shown ++ ": " ++ isADir))
  | .missing => .error (.opening ("open " ++ shown ++ ": " ++ noEntry))
  | .notDir => .error (.opening ("open " ++ shown ++ ": " ++ notADir))

/-- Reads a whole file. -/
def readFile (d : Disk) (p : String) : Except ReadError ByteArray := d.readFileAs p p

/-- Whether something is at a path; fails when a file stands on the way. -/
def stat (d : Disk) (p : String) (shown : String) : Except String Bool :=
  match d.entry p with
  | .file _ | .dir => .ok true
  | .missing => .ok false
  | .notDir => .error ("stat " ++ shown ++ ": " ++ notADir)

/-- Checks that a file can be created at `p`: its directory exists and `p` is not a
directory. -/
def canCreate (d : Disk) (p : String) : Except String (List String) :=
  let fail (why : String) : Except String (List String) := .error ("open " ++ p ++ ": " ++ why)
  match locate p with
  | none => fail noEntry
  | some parts =>
    if parts.isEmpty then fail isADir
    else
      match d.entryAt parts.dropLast with
      | .missing => fail noEntry
      | .notDir | .file _ => fail notADir
      | .dir =>
        match d.entryAt parts with
        | .dir => fail isADir
        | _ => .ok parts

/-- Writes a file at the located path, replacing what was there. -/
def put (d : Disk) (parts : List String) (data : ByteArray) : Disk :=
  let k := key parts
  { d with files := (d.files.filter (·.1 ≠ k)) ++ [(k, data)] }

/-- Creates or truncates the file at `p` and writes `data` to it. -/
def writeFile (d : Disk) (p : String) (data : ByteArray) : Except String Disk :=
  (d.canCreate p).map fun parts => d.put parts data

/-- The paths of every file, sorted. -/
def listing (d : Disk) : List String :=
  (d.files.map (·.1)).mergeSort (fun a b => decide (a ≤ b))

/-- A disk holding the given files and empty directories. -/
def ofEntries (files : List (String × ByteArray)) (dirs : List String) : Disk :=
  let d : Disk := ⟨[], (dirs.filterMap locate).map key⟩
  files.foldl (fun d (p, data) =>
    match locate p with
    | some parts => if parts.isEmpty then d else d.put parts data
    | none => d) d

end Disk

end Combinatory
