import ProgramRepair.Utility.Errand

/-!
# Destinations

Programs that copy, move and link take paths and then a last one: a directory that the
others go into under their own names, or the one path for a single file. Options can
name the directory, or say that the last path is no such directory, and what is in the
way can be kept as a backup.
-/

namespace ProgramRepair.Utility

open Machine

/-- Where things go. -/
inductive Destination where
  | inside (directory : List Char)
  | exactly (path : List Char)
deriving Repr, DecidableEq

/-- Whether things go into a directory. -/
def Destination.isDirectory : Destination → Bool
  | inside _ => true
  | exactly _ => false

/-- The path that something with a path gets. -/
def Destination.pathOf (source : List Char) : Destination → List Char
  | inside directory =>
    let name := lastName source
    inDirectory directory (if name = ['.', '.'] then ['.'] else name)
  | exactly path => path

/-- What a program says about a directory that cannot be used although an option names it, and about
two options that do not go together. -/
structure Blame where
  directory : List Char → Disk.Error → String
  conflict : String

/-- What most programs say. -/
def Blame.usual : Blame :=
  ⟨fun path e => "target directory " ++ inQuotes path ++ ": " ++ e.systemText,
    "cannot combine --target-directory (-t) and --no-target-directory (-T)"⟩

/-- What is wrong with a path as a directory. -/
def directoryProblem? (cwd : Place) (path : List Char) : Work (Option Disk.Error) := do
  match ← Work.call (Kernel.askDisk fun d => d.find cwd (shown path)) with
  | .error e => return some e
  | .ok (_, e) => return if e.isDirectory then none else some .notDirectory

/-- What is to be done and where it goes, or the exit code if that is not clear. The letters `t` and
`T` of the options name a directory and rule one out. -/
def destination (program : String) (blame : Blame) (o : Options) (cwd : Place) :
    Work (Except Nat (List (List Char) × Destination)) := do
  let refused := fun (problem : String) => do return .error (← refuse program problem 1)
  let failed := fun (problem : String) => do
    warn program problem
    return .error 1
  match o.problem, o.value? 't', o.rest.reverse with
  | some problem, _, _ => refused problem
  | none, _, [] => refused "missing file operand"
  | none, none, [only] => refused ("missing destination file operand after " ++ inQuotes only)
  | none, some directory, sources =>
    if 1 < (o.valuesOf 't').length then failed "multiple target directories specified"
    else if o.has 'T' then failed blame.conflict
    else
      match ← directoryProblem? cwd directory with
      | some e => failed (blame.directory directory e)
      | none => return .ok (sources.reverse, .inside directory)
  | none, none, last :: sources =>
    if o.has 'T' then
      match o.rest with
      | _ :: _ :: extra :: _ => refused ("extra operand " ++ inQuotes extra)
      | _ => return .ok (sources, .exactly last)
    else
      match ← directoryProblem? cwd last with
      | none => return .ok (sources.reverse, .inside last)
      | some e =>
        if 1 < sources.length then failed ("target " ++ inQuotes last ++ ": " ++ e.systemText)
        else return .ok (sources, .exactly last)

/-! ## Backups

What is in the way of a new file can be kept under another name: the old one with a
suffix, or with a number that is larger than those of all backups so far.
-/

namespace Backup

/-- How the names of backups are made. -/
inductive Manner where
  | none
  | simple
  /-- With a number if there are such backups already. -/
  | existing
  | numbered
deriving DecidableEq

/-- How backups are made, and what simple ones have behind their names. -/
structure Rule where
  manner : Manner
  suffix : List Char

/-- The words for manners. -/
def manners : Choices Manner :=
  [(["none", "off"], .none), (["simple", "never"], .simple), (["existing", "nil"], .existing),
    (["numbered", "t"], .numbered)]

/-- The manner that a value of an option, or else of a variable, asks for. -/
def mannerOf (value fallback : Option (List Char)) : Except String Manner :=
  match value.filter (· ≠ []), fallback.filter (· ≠ []) with
  | some s, _ => choose "backup type" manners s
  | none, some s => choose "$VERSION_CONTROL" manners s
  | none, none => .ok .existing

/-- The rule that the letters `b` and `S` of a call ask for. -/
def Rule.ofOptions (o : Options) (env : Surroundings) : Except String Rule := do
  let suffix := ((o.value? 'S').or (env.bindings.lookup "SIMPLE_BACKUP_SUFFIX".toList)).filter
    fun s => s ≠ [] ∧ !s.contains '/'
  let manner ← if o.has 'b' ∨ o.has 'S' then
      mannerOf (o.value? 'b') (env.bindings.lookup "VERSION_CONTROL".toList)
    else pure .none
  return ⟨manner, suffix.getD ['~']⟩

/-- The options for backups, for programs that make them. -/
def longNames : List (String × Char) := [("backup?", 'b'), ("suffix=", 'S')]

/-- The number of a backup of a file, by the names of both. -/
def number? (name backup : List Char) : Option Nat := do
  let rest ← Text.dropLead? (name ++ ['.', '~']) backup
  match rest.reverse with
  | '~' :: ds => if ds.getLast? = some '0' then none else natural? ds.reverse
  | _ => none

/-- The path of the backup of what is at a place and has a path. -/
def pathFor (r : Rule) (d : Disk) (p : Place) (path : List Char) : List Char :=
  let path := withoutSlashes path
  let numbers := (d.children p.dropLast).filterMap fun name =>
    number? (lastName path) (bytesChars name)
  let isSimple := r.manner = .simple || (r.manner = .existing && numbers.isEmpty)
  if isSimple then path ++ r.suffix
  else path ++ ".~".toList ++ digits (numbers.foldl max 0 + 1) ++ ['~']

end Backup

end ProgramRepair.Utility
