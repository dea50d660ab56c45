import ProgramRepair.CommandLine
import ProgramRepair.Shell.Execute

/-!
# The program

A call takes what it needs of the files of the system onto a disk: the
configuration, the project that it names, and the place of the report. Everything
else happens on that disk, and only the report is written back.
-/

namespace ProgramRepair.Call

/-- The name under which the program is called. -/
def programName : String := "tabu-repair"

/-- How deep directories are followed. -/
def depthLimit : Nat := 2048

/-- The exit code of a call that had no result. -/
def faultCode : Nat := 101

/-! ## From the system to the disk -/

/-- The attributes of what is taken from the system. -/
def attributes (facts : IO.FS.Metadata) : Attributes where
  mode := Disk.directoryMode
  own := true
  changed := facts.modified.sec * Nat.pow 10 9 + facts.modified.nsec.toNat
  number := none

/-- Puts an entry at a place, and directories on the way to it. -/
def place (d : Disk) (p : Place) (e : Entry) : Disk :=
  let ways := (List.range p.length).map p.take
  let d := ways.foldl (fun d q =>
    if (d.lookup q).isSome then d else d.put q (.directory (d.newAttributes Disk.directoryMode))) d
  d.put p e

/-- Takes what stands in a directory, with all that is below it. What cannot be read may not be
read on the disk either. -/
def takeEntry : (depth : Nat) → Disk → IO.FS.DirEntry → IO Disk
  | 0, d, _ => return d
  | depth + 1, d, e => do
    let p := Disk.segments e.path.toString
    let facts ← e.path.symlinkMetadata
    let a := attributes facts
    match facts.type with
    | .file =>
      try
        return d.put p (.file (← IO.FS.readBinFile e.path).toList a)
      catch _ => return d.put p (.file [] { a with mode := 0 })
    | .symlink =>
      try
        return d.put p (.link (← IO.FS.realPath e.path).toString)
      catch _ => return d
    | .dir =>
      try
        (← e.path.readDir).foldlM (takeEntry depth) (d.put p (.directory a))
      catch _ => return d.put p (.directory { a with mode := 0 })
    | .other => return d

/-- Takes the directory that a path leads to, with all that is in it. -/
def takeTree (d : Disk) (cwd : Place) (path : String) : IO Disk := do
  try
    let root ← IO.FS.realPath path
    let p := Disk.segments root.toString
    let named := Disk.startOf cwd path ++ Disk.segments path
    let d := place d p (.directory (attributes (← root.metadata)))
    let d := if ".." ∈ named ∨ "." ∈ named ∨ named = p then d
      else place d named (.link root.toString)
    (← root.readDir).foldlM (takeEntry depthLimit) d
  catch _ => return d

/-- Takes the file that a path leads to. -/
def takeFile (d : Disk) (cwd : Place) (path : String) : IO Disk := do
  try
    let found ← IO.FS.realPath path
    let facts ← found.metadata
    let p := match d.resolve cwd path with
      | .ok p => p
      | .error _ => Disk.segments found.toString
    match facts.type with
    | .dir => return place d p (.directory (attributes facts))
    | _ => return place d p (.file (← IO.FS.readBinFile found).toList (attributes facts))
  catch _ => return d

/-- The workspace of a call with some arguments. -/
def workspace (args : List String) : IO Workspace := do
  let cwd := Disk.segments (← IO.currentDir).toString
  let d := Shell.systemDisk
  let d := place d cwd (.directory (d.newAttributes Disk.directoryMode))
  let d ← args.foldlM (fun d path => takeFile d cwd path) d
  let d ← ((args.drop 1).filterMap Disk.parent?).foldlM (fun d path => takeFile d cwd path) d
  match args.head?.map (CommandLine.parseConfig (.ofDisk d cwd)) with
  | some (.ok config) => return .ofDisk (← takeTree d cwd config.program.projectPath) cwd
  | _ => return .ofDisk d cwd

/-! ## And back -/

/-- Writes the report of a call to the system. -/
def writeBack (e : CommandLine.Ending) (args : List String) : IO Unit := do
  match e.code, args[1]? with
  | 0, some path =>
    match e.workspace.disk.read e.workspace.cwd path with
    | .ok contents => IO.FS.writeBinFile path ⟨contents.toArray⟩
    | .error _ => return
  | _, _ => return

/-- A seed that is different for every call. -/
def freshSeed : IO UInt64 := do
  return (← IO.getRandomBytes 8).toList.foldl (fun n b => n * 256 + b.toUInt64) 0

end ProgramRepair.Call

open ProgramRepair in
/-- Runs the program. -/
def main (args : List String) : IO UInt32 := do
  let w ← Call.workspace args
  match CommandLine.run Shell.execute (← Call.freshSeed) Call.programName args w with
  | .error _ => return Call.faultCode.toUInt32
  | .ok e =>
    (← IO.getStdout).putStr e.console.stdout
    (← IO.getStderr).putStr e.console.stderr
    Call.writeBack e args
    return e.code.toUInt32
