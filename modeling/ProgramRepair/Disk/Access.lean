import ProgramRepair.Disk.Basic

/-!
# Files and directories

Reading and writing by path. Every operation says what is wrong with a path the
way the system does: what is missing, what is no directory, and what is one.
-/

namespace ProgramRepair.Disk

/-! ## Files -/

/-- The contents of an entry. -/
def contentsOf (e : Entry) : Except Error Bytes :=
  match e with
  | .file contents a => if a.allows .read then .ok contents else .error .permissionDenied
  | .directory a => .error (if a.allows .read then .isDirectory else .permissionDenied)
  | .null => .ok []
  | .pipe a => if a.allows .read then .ok [] else .error .permissionDenied
  | .link _ => .error .tooManyLinks

/-- The contents of a file. -/
def read (d : Disk) (cwd : Place) (path : String) : Except Error Bytes := do
  contentsOf (← d.find cwd path).2

/-- The contents of a file that holds text. -/
def readText (d : Disk) (cwd : Place) (path : String) : Except Error String := do
  match Text.decode? (← d.read cwd path) with
  | some cs => return String.ofList cs
  | none => throw .notText

/-- Whether names may be added to and taken from the directory of a place. -/
def mayChangeNames (d : Disk) (p : Place) : Bool :=
  match d.lookup p.dropLast with
  | some (.directory a) => a.allows .write && a.allows .execute
  | _ => false

/-- Complains unless the names in the directory of a place may be changed. -/
def demandNames (d : Disk) (p : Place) : Except Error Unit :=
  if d.mayChangeNames p then .ok () else .error .permissionDenied

/-- The place of a file that is opened for writing. A name that ends with a slash is no name for a
file. -/
def placeForWriting (d : Disk) (cwd : Place) (path : String) : Except Error Place := do
  let names := segments path
  if endsAsDirectory path ∧ names.getLast?.any fun s => s ≠ "." ∧ s ≠ ".." then
    match textProblem? path with
    | some e => throw e
    | none =>
      discard <| d.walk true maxLinks (startOf cwd path) (names.dropLast ++ ["."])
      throw .isDirectory
  else d.resolve cwd path

/-- Writes a file at a place; what the file has besides contents stays. A new file gets a mode. -/
def writeAt (d : Disk) (p : Place) (mode : Nat) (contents : Bytes) : Except Error Disk := do
  match d.lookup p with
  | none =>
    d.demandNames p
    return d.put p (.file contents (d.newAttributes mode))
  | some (.file _ a) =>
    if a.allows .write then return d.setFile p contents { a with changed := d.stamp }
    else throw .permissionDenied
  | some .null => return d
  | some (.pipe a) => if a.allows .write then return d else throw .permissionDenied
  | some (.directory _) => throw .isDirectory
  | some (.link _) => throw .tooManyLinks

/-- Writes a file, in place of what it held before. -/
def write (d : Disk) (cwd : Place) (path : String) (contents : Bytes) : Except Error Disk := do
  d.writeAt (← d.placeForWriting cwd path) fileMode contents

/-- Writes a text to a file. -/
def writeText (d : Disk) (cwd : Place) (path text : String) : Except Error Disk :=
  d.write cwd path (Text.bytesOf text)

/-! ## Directories and links -/

/-- A path without the slashes at its end. -/
def withoutFinalSlashes (path : String) : String :=
  String.ofList (path.toList.reverse.dropWhile (· = '/')).reverse

/-- Makes a directory with a mode in an existing one. -/
def makeDirectoryWith (mode : Nat) (d : Disk) (cwd : Place) (path : String) :
    Except Error Disk := do
  let name := if path.toList.all (· = '/') then path else withoutFinalSlashes path
  let p ← d.resolveEntry cwd name
  match d.lookup p with
  | none =>
    d.demandNames p
    return d.put p (.directory (d.newAttributes mode))
  | some _ => throw .alreadyExists

/-- Makes a directory in an existing one. -/
def makeDirectory : Disk → Place → String → Except Error Disk := makeDirectoryWith directoryMode

/-- Whether a path leads to a directory. -/
def isDirectoryAt (d : Disk) (cwd : Place) (path : String) : Bool :=
  match d.find cwd path with
  | .ok (_, e) => e.isDirectory
  | _ => false

/-- Makes a directory unless there is one, and the directories that it is in, at most `depth` of
them. -/
def makeDirectoriesWithin (d : Disk) (cwd : Place) : (depth : Nat) → String → Except Error Disk
  | 0, _ => .error .notFound
  | depth + 1, path =>
    if path = "" then .ok d
    else
      match d.makeDirectory cwd path with
      | .ok d => .ok d
      | .error .notFound =>
        match parent? path with
        | none => .error .notFound
        | some up => do
          let d ← d.makeDirectoriesWithin cwd depth up
          match d.makeDirectory cwd path with
          | .ok d => return d
          | .error e => if d.isDirectoryAt cwd path then return d else throw e
      | .error e => if d.isDirectoryAt cwd path then .ok d else .error e

/-- Makes a directory and all that it is in. -/
def makeDirectories (d : Disk) (cwd : Place) (path : String) : Except Error Disk :=
  d.makeDirectoriesWithin cwd ((components path).length + 1) path

/-- Makes a name for a pipe. -/
def makePipe (mode : Nat) (d : Disk) (cwd : Place) (path : String) : Except Error Disk := do
  let p ← d.resolveEntry cwd path
  match d.lookup p with
  | none =>
    d.demandNames p
    return d.put p (.pipe (d.newAttributes mode))
  | some _ => throw .alreadyExists

/-- Makes a link. -/
def makeLink (d : Disk) (cwd : Place) (target path : String) : Except Error Disk := do
  let p ← d.resolveEntry cwd path
  match d.lookup p with
  | none =>
    d.demandNames p
    return d.put p (.link target)
  | some _ => throw .alreadyExists

/-! ## Names -/

/-- The directory that a path leads to without its last step, and that step. -/
def lastStep (d : Disk) (cwd : Place) (path : String) : Except Error (Place × String) := do
  match textProblem? path with
  | some e => throw e
  | none =>
    let names := segments path
    let p ← d.walk true maxLinks (startOf cwd path) (names.dropLast ++ ["."])
    let name := names.getLast?.getD "."
    if maxNameLength < name.utf8ByteSize then throw .nameTooLong
    return (p, name)

/-- Whether two places hold the same file. -/
def sameFile (d : Disk) (p q : Place) : Bool :=
  let numberAt := fun (p : Place) => (d.lookup p).bind Entry.number?
  p = q || ((numberAt p).isSome && numberAt p = numberAt q)

/-- The disk with all that is at and below a place at another place instead. -/
def relocate (d : Disk) (source target : Place) : Disk :=
  { d with entries := d.entries.map fun (p, e) =>
      if source.isPrefixOf p then (target ++ p.drop source.length, e) else (p, e) }

/-- Gives what a path leads to another path. What is there already is replaced, or in the way. -/
def rename (replacing : Bool) (d : Disk) (cwd : Place) (source target : String) :
    Except Error Disk := do
  let (up, name) ← d.lastStep cwd source
  let (newUp, newName) ← d.lastStep cwd target
  if name = "." ∨ name = ".." then throw .busy
  if newName = "." ∨ newName = ".." then throw (if replacing then .busy else .alreadyExists)
  let p := up ++ [name]
  let q := newUp ++ [newName]
  let (_, e) ← d.entryAt p
  let old := d.lookup q
  if old.isSome ∧ !replacing then throw .alreadyExists
  if !e.isDirectory ∧ (endsAsDirectory source ∨ endsAsDirectory target) then throw .notDirectory
  if p ≠ q ∧ p.isPrefixOf q then throw .invalidArgument
  if p ≠ q ∧ q.isPrefixOf p then throw .notEmpty
  if d.sameFile p q then return d
  d.demandNames p
  d.demandNames q
  if e.isDirectory ∧ !old.all Entry.isDirectory then throw .notDirectory
  if !e.isDirectory ∧ old.any Entry.isDirectory then throw .isDirectory
  if d.children q ≠ [] then throw .notEmpty
  if e.isDirectory ∧ up ≠ newUp ∧ !e.allows .write then throw .permissionDenied
  return (d.erase q).relocate p q

/-- Gives a file a further path. -/
def makeName (d : Disk) (p : Place) (e : Entry) (cwd : Place) (path : String) :
    Except Error Disk := do
  let q ← d.resolveEntry cwd path
  if (d.lookup q).isSome then throw .alreadyExists
  d.demandNames q
  match d.number p with
  | some (_, d) => return d.put q ((d.lookup p).getD e)
  | none => return d.put q e

/-! ## Removal -/

/-- Takes away a file or a link. -/
def removeFile (d : Disk) (cwd : Place) (path : String) : Except Error Disk := do
  let (p, e) ← d.findEntry cwd path
  d.demandNames p
  if e.isDirectory then throw .isDirectory else return d.erase p

/-- Takes away an empty directory. -/
def removeDirectory (d : Disk) (cwd : Place) (path : String) : Except Error Disk := do
  let (p, e) ← d.findEntry cwd path
  if !e.isDirectory then throw .notDirectory
  match (segments path).getLast? with
  | none => throw .busy
  | some "." => throw .invalidArgument
  | some ".." => throw .notEmpty
  | some _ =>
    d.demandNames p
    if d.children p = [] then return d.erase p else throw .notEmpty

/-- The first entry below a directory, or the directory itself, that may not be taken away. -/
def firstProtected (d : Disk) (p : Place) : Option Place :=
  (d.descendants p ++ [p]).find? fun q => !d.mayChangeNames q

/-- Takes away what is at a place, with all that is in it. -/
def removeAt (d : Disk) (p : Place) : Except Error Disk :=
  if (d.firstProtected p).isSome then .error .permissionDenied else .ok (d.erase p)

/-- Takes away whatever a path leads to, with all that is in it. -/
def removeAll (d : Disk) (cwd : Place) (path : String) : Except Error Disk := do
  d.removeAt (← d.findEntry cwd path).1

end ProgramRepair.Disk
