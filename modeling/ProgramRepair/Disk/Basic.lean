import ProgramRepair.Disk.Error
import ProgramRepair.Disk.Path
import ProgramRepair.Text.Utf8

/-!
# Disks

A disk is a tree of directories with files and links, kept as a list of places
and what is there. `resolve` finds the place that a path leads to: links on the
way are followed, and the last step is followed if asked for. All other access
goes by places or through `resolve`.
-/

namespace ProgramRepair

/-- A place on a disk: the names on the way to it from the root. -/
abbrev Place := List String

/-- What may be done with a file or a directory. -/
inductive Right where
  | read
  | write
  /-- To run a file as a program, or to go through a directory. -/
  | execute
deriving DecidableEq, Repr

/-- The bit of a right among three bits. -/
def Right.bit : Right → Nat
  | read => 4
  | write => 2
  | execute => 1

/-- What a file or a directory has besides its contents. -/
structure Attributes where
  /-- The bits of the rights: three each for the owner, for the owner's group and for others. -/
  mode : Nat
  /-- Whether it belongs to the one who uses the disk. -/
  own : Bool
  /-- The time of the last change, in nanoseconds since 1970. -/
  changed : Int
  /-- What the names of a file have in common once it has several or was opened. -/
  number : Option Nat
deriving DecidableEq, Repr, Inhabited

/-- Whether the one who uses the disk has a right. -/
def Attributes.allows (a : Attributes) (r : Right) : Bool :=
  a.mode / (if a.own then 64 else 1) / r.bit % 2 = 1

/-- What can be at a place. -/
inductive Entry where
  | file (contents : Bytes) (attributes : Attributes)
  | directory (attributes : Attributes)
  /-- A link with the path that it stands for. -/
  | link (target : String)
  /-- A file that is always empty, whatever is written to it. -/
  | null
  /-- A name for a pipe, through which processes send bytes to each other. -/
  | pipe (attributes : Attributes)
deriving DecidableEq, Repr, Inhabited

namespace Entry

/-- Whether an entry is a directory. -/
def isDirectory : Entry → Bool
  | directory _ => true
  | _ => false

/-- Whether an entry is a file with contents. -/
def isFile : Entry → Bool
  | file _ _ => true
  | _ => false

/-- Whether an entry is a link. -/
def isLink : Entry → Bool
  | link _ => true
  | _ => false

/-- Whether an entry is a name for a pipe. -/
def isPipe : Entry → Bool
  | pipe _ => true
  | _ => false

/-- The attributes of a file, a directory or a pipe. -/
def attributes? : Entry → Option Attributes
  | file _ a | directory a | pipe a => some a
  | _ => none

/-- The entry with other attributes. -/
def withAttributes (a : Attributes) : Entry → Entry
  | file contents _ => file contents a
  | directory _ => directory a
  | pipe _ => pipe a
  | e => e

/-- What the names of a file have in common. -/
def number? : Entry → Option Nat
  | file _ a | pipe a => a.number
  | _ => none

/-- Whether the one who uses the disk has a right. Everybody may use a device. -/
def allows (e : Entry) (r : Right) : Bool := e.attributes?.all (·.allows r)

end Entry

/-- Places and what is there. The root is a directory that is not listed. -/
structure Disk where
  entries : List (Place × Entry)
  /-- Files that were opened and have lost their last name since, the latest first. -/
  nameless : List (Nat × Bytes × Attributes)
  /-- The first number that no file has. -/
  nextNumber : Nat
  /-- The time of day, in nanoseconds since 1970. -/
  now : Int
deriving Repr, Inhabited

namespace Disk

/-! ## Attributes -/

/-- The mode of a directory that everybody may read, and its owner change. -/
def directoryMode : Nat := 0o755

/-- The mode of a file that everybody may read, and its owner change. -/
def fileMode : Nat := 0o644

/-- The attributes of what belongs to the system. -/
def systemAttributes : Attributes := ⟨directoryMode, false, 0, none⟩

/-- The finest difference of the times of two changes. -/
def timeUnit : Int := 4000000

/-- The time of a change that is made now. -/
def stamp (d : Disk) : Int := d.now - d.now % timeUnit

/-- The attributes of what is made now. -/
def newAttributes (d : Disk) (mode : Nat) : Attributes := ⟨mode, true, d.stamp, none⟩

/-! ## Entries -/

/-- What is at a place. -/
def lookup (d : Disk) (p : Place) : Option Entry :=
  if p = [] then some (.directory systemAttributes) else d.entries.lookup p

/-- The list with `e` at the place `p`. -/
def putEntry (p : Place) (e : Entry) : List (Place × Entry) → List (Place × Entry)
  | [] => [(p, e)]
  | (q, f) :: rest => if q = p then (p, e) :: rest else (q, f) :: putEntry p e rest

/-- Puts an entry at a place. -/
def put (d : Disk) (p : Place) (e : Entry) : Disk := { d with entries := putEntry p e d.entries }

/-- The files with a number among some entries. -/
def numberedFiles (entries : List (Place × Entry)) : List (Nat × Bytes × Attributes) :=
  entries.filterMap fun (_, e) =>
    match e with
    | .file contents a => a.number.map fun n => (n, contents, a)
    | _ => none

/-- Takes away what is at a place and below it. Whoever has opened a file there keeps it. -/
def erase (d : Disk) (p : Place) : Disk :=
  { d with
    entries := d.entries.filter fun entry => !p.isPrefixOf entry.1
    nameless := numberedFiles (d.entries.filter fun entry => p.isPrefixOf entry.1) ++ d.nameless }

/-- The names in a directory. -/
def children (d : Disk) (p : Place) : List String :=
  d.entries.filterMap fun (q, _) =>
    match q.reverse with
    | name :: up => if up.reverse = p then some name else none
    | [] => none

/-- The places below a directory to a depth, each directory before what is in it. -/
def below (d : Disk) : (depth : Nat) → Place → List Place
  | 0, _ => []
  | depth + 1, p =>
    (d.children p).flatMap fun name =>
      (p ++ [name]) ::
        (if (d.lookup (p ++ [name])).any Entry.isDirectory then d.below depth (p ++ [name])
          else [])

/-- All places below a directory. -/
def descendants (d : Disk) (p : Place) : List Place := d.below d.entries.length p

theorem lookup_putEntry (p q : Place) (e : Entry) (entries : List (Place × Entry)) :
    (putEntry p e entries).lookup q = if q = p then some e else entries.lookup q := by
  induction entries with
  | nil => by_cases h : q = p <;> simp [putEntry, List.lookup_cons, h, beq_eq_false_iff_ne.2]
  | cons entry rest ih =>
    obtain ⟨r, f⟩ := entry
    by_cases hr : r = p
    · subst hr
      by_cases hq : q = r <;> simp [putEntry, List.lookup_cons, hq, beq_eq_false_iff_ne.2]
    · by_cases hq : q = r
      · subst hq
        simp [putEntry, hr]
      · simp [putEntry, List.lookup_cons, hr, hq, beq_eq_false_iff_ne.2, ih]

/-- After an entry was put at a place it is there, and all else is where it was. -/
theorem lookup_put (d : Disk) {p : Place} (hp : p ≠ []) (q : Place) (e : Entry) :
    (d.put p e).lookup q = if q = p then some e else d.lookup q := by
  by_cases hq : q = []
  · subst hq
    simp [lookup, hp.symm]
  · simp [lookup, put, hq, lookup_putEntry]

/-! ## Numbered files -/

/-- An entry with attributes, which is put at a place unless it has a number already. -/
def withNumber (d : Disk) (p : Place) (entry : Attributes → Entry) (a : Attributes) : Nat × Disk :=
  match a.number with
  | some n => (n, d)
  | none =>
    let n := d.nextNumber
    (n, { d with nextNumber := n + 1 }.put p (entry { a with number := some n }))

/-- The file or the pipe at a place has a number from now on. The value is none if there is
neither. -/
def number (d : Disk) (p : Place) : Option (Nat × Disk) :=
  match d.lookup p with
  | some (.file contents a) => some (d.withNumber p (.file contents) a)
  | some (.pipe a) => some (d.withNumber p .pipe a)
  | _ => none

/-- The file with a number. -/
def numbered? (d : Disk) (n : Nat) : Option (Bytes × Attributes) :=
  match d.entries.find? fun (_, e) => e.number? = some n with
  | some (_, .file contents a) => some (contents, a)
  | _ => d.nameless.lookup n

/-- Gives the file with a number other contents and attributes, whatever its names are. -/
def setNumbered (d : Disk) (n : Nat) (contents : Bytes) (a : Attributes) : Disk :=
  if d.entries.any fun (_, e) => e.number? = some n then
    { d with entries := d.entries.map fun (p, e) =>
        if e.number? = some n then (p, .file contents a) else (p, e) }
  else { d with nameless := (n, contents, a) :: d.nameless.filter (·.1 ≠ n) }

/-- Gives the file at a place other contents and attributes. -/
def setFile (d : Disk) (p : Place) (contents : Bytes) (a : Attributes) : Disk :=
  match a.number with
  | none => d.put p (.file contents a)
  | some n => d.setNumbered n contents a

/-- Gives what is at a place other attributes. -/
def setAttributes (d : Disk) (p : Place) (change : Attributes → Attributes) : Disk :=
  match d.lookup p with
  | some (.file contents a) => d.setFile p contents (change a)
  | some e =>
    match e.attributes? with
    | some a => d.put p (e.withAttributes (change a))
    | none => d
  | none => d

/-- Gives a file or a directory other rights. -/
def setMode (d : Disk) (p : Place) (mode : Nat) : Disk := d.setAttributes p fun a => { a with mode }

/-! ## Resolution -/

/-- The most links that are followed on one way. -/
def maxLinks : Nat := 40

/-- The most bytes in a name. -/
def maxNameLength : Nat := 255

/-- The first number of bytes that is too many for a path. -/
def pathLengthLimit : Nat := 4096

/-- The steps of a path; one that ends with a slash has to end in a directory. -/
def steps (path : String) : List String :=
  segments path ++ (if endsAsDirectory path then ["."] else [])

/-- Where a path starts that is used in the directory `cwd`. -/
def startOf (cwd : Place) (path : String) : Place := if isAbsolute path then [] else cwd

/-- Goes the steps of a path from a place. The last step may lead to a place where nothing is. A
link on the way is left to `follow`, with the steps that it stands for and those after it. -/
def walkWith (d : Disk) (followLast : Bool) (follow : Place → List String → Except Error Place)
    (here : Place) : List String → Except Error Place
  | [] => .ok here
  | s :: rest =>
    match d.lookup here with
    | none => .error .notFound
    | some (.directory a) =>
      if !a.allows .execute then .error .permissionDenied
      else if s = "." then d.walkWith followLast follow here rest
      else if s = ".." then d.walkWith followLast follow here.dropLast rest
      else if maxNameLength < s.utf8ByteSize then .error .nameTooLong
      else
        match d.lookup (here ++ [s]) with
        | some (.link target) =>
          if rest = [] ∧ !followLast then .ok (here ++ [s])
          else follow (startOf here target) (steps target ++ rest)
        | some _ => d.walkWith followLast follow (here ++ [s]) rest
        | none => if rest = [] then .ok (here ++ [s]) else .error .notFound
    | some _ => .error .notDirectory

/-- Goes the steps of a path from a place, through a limited number of links. -/
def walk (d : Disk) (followLast : Bool) : (links : Nat) → Place → List String → Except Error Place
  | 0, here, path => d.walkWith followLast (fun _ _ => .error .tooManyLinks) here path
  | links + 1, here, path => d.walkWith followLast (d.walk followLast links) here path

/-- What is wrong with the text of a path. -/
def textProblem? (path : String) : Option Error :=
  if '\x00' ∈ path.toList then some .nulInPath
  else if path = "" then some .notFound
  else if pathLengthLimit ≤ path.utf8ByteSize then some .nameTooLong
  else none

/-- The place that a path leads to from the directory `cwd`. -/
def resolveWith (followLast : Bool) (d : Disk) (cwd : Place) (path : String) : Except Error Place :=
  match textProblem? path with
  | some e => .error e
  | none => d.walk followLast maxLinks (startOf cwd path) (steps path)

/-- The place that a path leads to when every link is followed. -/
def resolve : Disk → Place → String → Except Error Place := resolveWith true

/-- The place that a path leads to when the last step may be a link itself. -/
def resolveEntry : Disk → Place → String → Except Error Place := resolveWith false

/-- A place and what is there. -/
def entryAt (d : Disk) (p : Place) : Except Error (Place × Entry) :=
  match d.lookup p with
  | some e => .ok (p, e)
  | none => .error .notFound

/-- What a path leads to when every link is followed. -/
def find (d : Disk) (cwd : Place) (path : String) : Except Error (Place × Entry) := do
  d.entryAt (← d.resolve cwd path)

/-- What a path leads to when the last step may be a link itself. -/
def findEntry (d : Disk) (cwd : Place) (path : String) : Except Error (Place × Entry) := do
  d.entryAt (← d.resolveEntry cwd path)

/-- The place of an existing entry, without links on the way. -/
def canonical (d : Disk) (cwd : Place) (path : String) : Except Error Place := do
  return (← d.find cwd path).1

/-- A place as a path from the root. -/
def pathOf (p : Place) : String := "/" ++ "/".intercalate p

end Disk

end ProgramRepair
