import ProgramRepair.Utility.Copying
import ProgramRepair.Utility.Destination

/-!
# Programs that copy and move

`cp` copies and `mv` moves, by rules that their options make.
-/

namespace ProgramRepair.Utility

open Machine

/-- The first of some letters among options, which are kept with the latest first. -/
def latestOf (o : Options) (letters : List Char) : Option Char :=
  o.letters.find? letters.contains

/-- The state before a call with some number of sources. -/
def CopyState.start (to? : Destination) (count : Nat) : CopyState :=
  match to? with
  | .inside _ => ⟨1 < count, [], [], [], false⟩
  | .exactly _ => ⟨false, [], [], [], false⟩

/-- A path without slashes at its end. -/
def stripped (path : List Char) : List Char :=
  if (withoutSlashes path).isEmpty then path else withoutSlashes path

/-- Whether the paths of sources are kept in a directory, although there is none. -/
def lacksDirectory (o : Options) : Destination → Bool
  | .inside _ => false
  | .exactly _ => o.has '/'

/-- Runs a program that copies or moves, once its rule is known. -/
def runCopies (r : CopyRule) (o : Options) (env : Surroundings)
    (one : (isLast : Bool) → Destination → List Char → Copies Unit) : Work Nat := do
  match ← destination r.program .usual o env.cwd with
  | .error code => return code
  | .ok (sources, goal) =>
    if lacksDirectory o goal then
      return ← refuse r.program "with --parents, the destination must be a directory" 1
    let strips := o.has '\\' && (r.moves || goal.isDirectory)
    let sources := if strips then sources.map stripped else sources
    let rec go : List (List Char) → Copies Unit
      | [] => return ()
      | source :: rest => do
        modify fun s => { s with hasDirectory := false }
        one rest.isEmpty goal source
        go rest
    runErrand r.program <| discard <| (go sources).run (.start goal sources.length)

/-! ## Moving -/

def mvGrammar : Grammar :=
  ⟨"bfinuvTZ", "tS", "", [("context", 'Z'), ("force", 'f'), ("interactive", 'i'),
    ("no-clobber", 'n'), ("no-target-directory", 'T'), ("strip-trailing-slashes", '\\'),
    ("target-directory=", 't'), ("update", 'u'), ("verbose", 'v')] ++ Backup.longNames⟩

/-- How files are written over, by the latest of some letters. -/
def overwritingBy (letter : Option Char) : Overwriting :=
  match letter with
  | some 'n' => .never
  | some 'i' => .asking
  | _ => .always

/-- The rule of a call of `mv`. -/
def mvRule (o : Options) (backups : Backup.Rule) : CopyRule :=
  { program := "mv"
    moves := true
    recursive := true
    following := .none
    overwriting := overwritingBy (latestOf o ['f', 'i', 'n'])
    backups
    onlyNewer := o.has 'u' && latestOf o ['f', 'i', 'n'] ≠ some 'n'
    removesFirst := false
    removesLocked := false
    keepsMode := true
    keepsTimes := true
    keepsNames := true
    usualMode := false
    emptied := false
    linking := none
    verbose := o.has 'v' }

/-- What does not go together with backups. -/
def backupProblem? (r : CopyRule) (o : Options) : Option String :=
  if (o.has 'b' ∨ o.has 'S') ∧ r.overwriting = .never then
    some "options --backup and --no-clobber are mutually exclusive"
  else none

/-- Moves files and directories. -/
def mv : Utility := fun env args => do
  let o := mvGrammar.read args
  match o.problem, Backup.Rule.ofOptions o env with
  | none, .ok backups =>
    let r := mvRule o backups
    match backupProblem? r o with
    | some problem => refuse "mv" problem 1
    | none =>
      runCopies r o env fun isLast goal source => r.move env.cwd isLast source (goal.pathOf source)
  | some problem, _ | none, .error problem => refuse "mv" problem 1

/-! ## Copying -/

def cpGrammar : Grammar :=
  ⟨"abdfHilLnprsuvxPRTZ", "tS", "", [("archive", 'a'), ("attributes-only", 'e'),
    ("copy-contents", 'c'), ("dereference", 'L'), ("force", 'f'), ("interactive", 'i'), ("link", 'l'),
    ("no-clobber", 'n'), ("no-dereference", 'P'), ("no-preserve=", '-'),
    ("no-target-directory", 'T'), ("one-file-system", 'x'), ("parents", '/'), ("path", '/'),
    ("preserve?", '+'), ("recursive", 'R'), ("remove-destination", '!'), ("sparse=", '0'),
    ("reflink?", '&'), ("strip-trailing-slashes", '\\'), ("symbolic-link", 's'),
    ("target-directory=", 't'), ("update", 'u'), ("verbose", 'v'), ("context?", 'Z')] ++
    Backup.longNames⟩

/-- What can be kept of a file. -/
inductive Aspect where
  | mode
  | timestamps
  | links
  | other
  | everything
deriving DecidableEq

/-- The words for aspects. -/
def aspects : Choices Aspect :=
  singly [("mode", .mode), ("timestamps", .timestamps), ("ownership", .other), ("links", .links),
    ("context", .other), ("xattr", .other), ("all", .everything)]

/-- The aspects that the values of an option name. -/
def aspectsOf (option : String) (values : List (List Char)) : Except String (List Aspect) :=
  (values.flatMap (Text.cut ',')).mapM (choose option aspects)

/-- Which links a call of `cp` follows. -/
def cpFollowing (o : Options) : Following :=
  match latestOf o ['a', 'd', 'P', 'L', 'H'] with
  | some 'L' => .all
  | some 'H' => .named
  | some _ => .none
  | none => if (o.has 'r' ∨ o.has 'R') ∧ !o.has 'l' then .none else .all

/-- The rule of a call of `cp`. -/
def cpRule (o : Options) (env : Surroundings) : Except String CopyRule := do
  if let some s := o.value? '&' then
    discard <| choose "--reflink" (singly [("auto", ()), ("always", ()), ("never", ())]) s
  if let some s := o.value? '0' then
    discard <| choose "--sparse" (singly [("never", ()), ("auto", ()), ("always", ())]) s
  let kept ← aspectsOf "--preserve" (o.valuesOf '+')
  let lost ← aspectsOf "--no-preserve" (o.valuesOf '-')
  let keeps := fun (a : Aspect) (letters : List Char) =>
    (letters.any o.has || kept.contains a || kept.contains .everything) &&
      !(lost.contains a || lost.contains .everything)
  let usual := if (o.valuesOf '+').isEmpty then ['+'] else []
  let asking := latestOf o ['i', 'n']
  let linksFirst := o.has 'f' && (o.has 'l' || o.has 's')
  return {
    program := "cp"
    moves := false
    recursive := o.has 'r' || o.has 'R' || o.has 'a'
    following := cpFollowing o
    overwriting := overwritingBy asking
    backups := ← Backup.Rule.ofOptions o env
    onlyNewer := o.has 'u' && asking ≠ some 'n'
    removesFirst := o.has '!' || linksFirst
    removesLocked := o.has 'f'
    keepsMode := keeps .mode (['a', 'p'] ++ usual)
    keepsTimes := keeps .timestamps (['a', 'p'] ++ usual)
    keepsNames := keeps .links ['a', 'd']
    usualMode := lost.contains .mode || lost.contains .everything
    emptied := o.has 'e'
    linking := if o.has 'l' then some .names else if o.has 's' then some .links else none
    verbose := o.has 'v' }

/-- More nested directories than can be met. -/
def depthOf (d : Disk) : Nat := 2 * d.entries.length + 4

/-- Copies one path to where it goes. What is copied onto itself becomes a backup of itself if writing
over files is forced. -/
def copyOne (r : CopyRule) (o : Options) (cwd : Place) (goal : Destination) (source : List Char) :
    Copies Unit := do
  let d ← Copies.disk
  match goal, o.has '/' with
  | .inside directory, true =>
    let bare := withoutSlashes source
    let path := inDirectory directory bare
    if ← r.makeParents cwd directory ((pathStages bare).dropLast) then
      discard <| r.copy cwd (source, path) (depthOf d) [] true false source path
  | _, _ =>
    let path := goal.pathOf source
    let isOnto := r.removesLocked && r.makesBackups && goal = .exactly source
    match (if isOnto then d.find cwd (shown path) else .error .notFound) with
    | .ok (p, .file _ _) =>
      let backup := Backup.pathFor r.backups d p path
      discard <| { r with backups.manner := .none }.copy cwd (source, backup) (depthOf d) [] true false
        source backup
    | _ => discard <| r.copy cwd (source, path) (depthOf d) [] true false source path

/-- What does not go together in a call of `cp`. -/
def cpProblem? (r : CopyRule) (o : Options) : Option String :=
  if o.has 'l' ∧ o.has 's' then some "cannot make both hard and symbolic links"
  else backupProblem? r o

/-- Copies files and directories. -/
def cp : Utility := fun env args => do
  let o := cpGrammar.read args
  match o.problem, cpRule o env with
  | some problem, _ | none, .error problem => refuse "cp" problem 1
  | none, .ok r =>
    match cpProblem? r o with
    | some problem => refuse "cp" problem 1
    | none =>
      runCopies r o env fun _ goal source => copyOne r o env.cwd goal source

end ProgramRepair.Utility
