import ProgramRepair.Disk.Access
import ProgramRepair.Search.Program

/-!
# Workspaces and the copies in them

A repair works in a directory of a disk. Patched copies of the project are kept
in a scratch directory of their own, one copy for each slot, so that the project
itself stays as it is.

A copy has the directories and files of the project, and its links as links. A
link keeps its text where that means the same in the copy. A relative link that
leads out of the project is replaced by the absolute path of what it leads to,
and an absolute link into the project leads to the same place in the copy.
-/

namespace ProgramRepair

/-- The disk and what a repair knows of its scratch directory. -/
structure Workspace where
  disk : Disk
  /-- The directory that relative paths start from. -/
  cwd : Place
  /-- The scratch directory, until it is given up. -/
  scratch : Option Place
  /-- The slots that hold a whole copy of the project. -/
  ready : List Nat
deriving Repr, Inhabited

namespace Workspace

/-- A workspace without a scratch directory. -/
def ofDisk (disk : Disk) (cwd : Place) : Workspace := ⟨disk, cwd, none, []⟩

/-- The directory for scratch directories. -/
def scratchRoot : Place := ["tmp"]

/-- The name of a scratch directory. -/
def scratchName (n : Nat) : String :=
  let ds := Nat.toDigits 10 n
  "tabu-repair-" ++ String.ofList (List.replicate (6 - ds.length) '0' ++ ds)

/-- A place for a scratch directory at which there is nothing yet. -/
def freshScratch (d : Disk) : Place :=
  let names := (List.range (d.entries.length + 1)).map scratchName
  scratchRoot ++ [(names.find? fun name => d.lookup (scratchRoot ++ [name]) = none).getD "repair"]

/-- Makes a new scratch directory. -/
def openScratch (w : Workspace) : Workspace :=
  let place := freshScratch w.disk
  let directory := Entry.directory (w.disk.newAttributes 0o700)
  { w with disk := w.disk.put place directory, scratch := some place, ready := [] }

/-- Gives the scratch directory up. To give it up once more changes nothing. -/
def closeScratch (w : Workspace) : Except Disk.Error Unit × Workspace :=
  match w.scratch with
  | none => (.ok (), { w with ready := [] })
  | some place =>
    match w.disk.lookup place with
    | none => (.error .notFound, { w with scratch := none, ready := [] })
    | some _ =>
      match w.disk.removeAt place with
      | .ok disk => (.ok (), { w with disk, scratch := none, ready := [] })
      | .error e => (.error e, { w with scratch := none, ready := [] })

end Workspace

/-- Work on a disk that may fail and leaves what was done up to then. -/
abbrev DiskWork := ExceptT Disk.Error (StateM Disk)

namespace DiskWork

/-- Asks the disk. -/
def ask (f : Disk → Except Disk.Error α) : DiskWork α := do
  match f (← get) with
  | .ok a => return a
  | .error e => throw e

/-- Changes the disk. -/
def change (f : Disk → Except Disk.Error Disk) : DiskWork Unit := do
  set (← ask f)

end DiskWork

end ProgramRepair

namespace ProgramRepair.Project

open Disk DiskWork

/-- The text of the copy of a link at `place`, where the project is at `root` and the copy at the
path `to`. -/
def copiedLink (d : Disk) (root place : Place) (copyPath target : String) : String :=
  match d.canonical [] (pathOf place) with
  | .error _ => target
  | .ok resolved =>
    let inside := root.isPrefixOf resolved
    if !isAbsolute target && !inside then pathOf resolved
    else if isAbsolute target && inside then
      join copyPath ("/".intercalate (resolved.drop root.length))
    else target

/-- Copies one entry of a project to a path: a directory without its contents, a file, or a
link. -/
def copyEntry (cwd root place : Place) (copyPath path : String) (e : Entry) : DiskWork Unit := do
  match e with
  | .directory _ => change fun d => d.makeDirectories cwd path
  | .link target => change fun d => d.makeLink cwd (copiedLink d root place copyPath target) path
  | .null | .pipe _ => throw .notRegular
  | .file _ a =>
    let contents ← ask fun _ => contentsOf e
    let p ← ask fun d => d.placeForWriting cwd path
    change fun d => d.writeAt p a.mode contents
    modify fun d => d.setMode p a.mode

/-- Copies what is at a place in the project to the same place in the copy. -/
def copyBelow (cwd root : Place) (copyPath : String) (p : Place) : DiskWork Unit := do
  match (← get).lookup p with
  | some e => copyEntry cwd root p copyPath (join copyPath ("/".intercalate (p.drop root.length))) e
  | none => pure ()

/-- Copies a directory with all that is in it. -/
def copyTree (cwd : Place) (source copyPath : String) : DiskWork Unit := do
  let root ← ask fun d => d.canonical cwd source
  let (place, e) ← ask fun d => d.findEntry cwd source
  copyEntry cwd root place copyPath (join copyPath "") e
  ((← get).descendants root).forM (copyBelow cwd root copyPath)

end ProgramRepair.Project
