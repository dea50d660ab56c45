import ProgramRepair.Utility.Destination
import ProgramRepair.Utility.Mode

/-!
# Copying and moving

Files are copied with or without what belongs to them, directories with all that is in
them, and both are moved by giving them another path. What is in the way is written
over, removed, kept as a backup or left alone, and the user may be asked about it.
Nothing is copied onto itself or into itself, and what was made in a call is not
written over in the same call.
-/

namespace ProgramRepair.Utility

open Machine

/-! ## Rules -/

/-- Which links are followed. -/
inductive Following where
  | none
  /-- Those that are named in the call. -/
  | named
  | all
deriving DecidableEq

/-- What is done about a file that is in the way. -/
inductive Overwriting where
  | always
  | never
  | asking
deriving DecidableEq

/-- What is made instead of copies. -/
inductive Linking where
  | names
  | links
deriving DecidableEq

/-- How files are copied or moved. -/
structure CopyRule where
  program : String
  moves : Bool
  /-- Whether directories are copied. -/
  recursive : Bool
  following : Following
  overwriting : Overwriting
  backups : Backup.Rule
  /-- Whether files are left alone that are no older than what would replace them. -/
  onlyNewer : Bool
  /-- Whether a file that is in the way is removed first, and whether it is if it cannot be written. -/
  removesFirst : Bool
  removesLocked : Bool
  keepsMode : Bool
  keepsTimes : Bool
  /-- Whether several names of one file stay so. -/
  keepsNames : Bool
  /-- Whether new files get the usual rights. -/
  usualMode : Bool
  /-- Whether files are copied without their contents. -/
  emptied : Bool
  linking : Option Linking
  verbose : Bool

/-- Whether there are backups. -/
def CopyRule.makesBackups (r : CopyRule) : Bool := r.backups.manner ≠ .none

/-- What is known of the call so far. -/
structure CopyState where
  /-- Whether there are several things to copy. Only then the next two are kept. -/
  several : Bool
  /-- The places of what was made. -/
  made : List Place
  /-- The places of what was copied. -/
  taken : List Place
  /-- Which path was made of what is at a place. -/
  copies : List (Place × List Char)
  /-- Whether a directory was made for the present argument. -/
  hasDirectory : Bool

/-- A part of copying. -/
abbrev Copies := StateT CopyState Errands

/-- A part of an errand as a part of copying. -/
def errand (m : Errands α) : Copies α := StateT.lift m

namespace Copies

def disk : Copies Disk := errand Errands.disk

def setDisk (d : Disk) : Copies Unit := errand (Errands.setDisk d)

def tell (line : String) : Copies Unit := errand (Errands.tell line)

def complain (message : String) : Copies Unit := errand (Errands.complain message)

end Copies

/-- What is copied or moved: how it is called, how it will be called, and where it is. -/
structure Transport where
  source : List Char
  path : List Char
  place : Place
  entry : Entry
  /-- Whether it was named in the call. -/
  isNamed : Bool

namespace CopyRule

/-! ## What is in the way -/

/-- The number of names of what is at a place. -/
def namesOf (d : Disk) (p : Place) : Nat :=
  match (d.lookup p).bind Entry.number? with
  | some n => (d.entries.filter fun entry => entry.2.number? = some n).length
  | none => 1

/-- What there is to say about a source and what is in its way. -/
inductive Sameness where
  | distinct
  | same
  /-- They are the same, and nothing is to be done. -/
  | settled

/-- Where the entries of a source and of what is in its way are, links themselves included, and what
is known of them. -/
structure Encounter where
  /-- Whether the file that is copied is the one that would be written. -/
  sameFile : Bool
  /-- Whether both are the same entry of the same directory. -/
  samePath : Bool
  /-- Whether both entries are of the same file. -/
  sameEntry : Bool
  sourceIsLink : Bool
  targetIsLink : Bool
  /-- Whether what is in the way has further names. -/
  hasNames : Bool
  /-- Whether both lead to the same file in the end. -/
  meet : Bool
  /-- Whether the source leads to what is in the way. -/
  leads : Bool

/-- What is known of a source and what is in its way at the place `q`. -/
def encounter (d : Disk) (cwd : Place) (t : Transport) (q : Place) : Encounter :=
  let own := ((d.resolveEntry cwd (shown t.source)).toOption).getD t.place
  let target := ((d.resolveEntry cwd (shown t.path)).toOption).getD q
  let isLink := fun (p : Place) => (d.lookup p).any Entry.isLink
  { sameFile := d.sameFile t.place q
    samePath := own = target
    sameEntry := d.sameFile own target
    sourceIsLink := isLink own
    targetIsLink := isLink target
    hasNames := 1 < namesOf d target
    meet := match d.resolve cwd (shown t.source), d.resolve cwd (shown t.path) with
      | .ok p, .ok q => d.sameFile p q
      | _, _ => false
    leads := (d.resolve cwd (shown t.source)).toOption = some target }

/-- Whether it would do harm to copy or move onto what is in the way, because it is the source under
another name. -/
def sameness (r : CopyRule) (e : Encounter) : Sameness :=
  let distinctIf := fun (b : Bool) => if b then Sameness.distinct else .same
  let followsNone := r.following = .none
  let replaces := r.moves || r.removesFirst
  if e.sameFile ∧ r.linking = some .names then .settled
  else if followsNone ∧ e.sourceIsLink ∧ e.targetIsLink then distinctIf (!e.samePath)
  else if !followsNone ∧ !e.sameFile then .distinct
  else if !followsNone ∧ e.sourceIsLink ∧ e.targetIsLink ∧ r.removesFirst then .distinct
  else if r.makesBackups then
    if e.sameEntry then distinctIf (!e.samePath)
    else distinctIf (r.moves || followsNone || !e.sourceIsLink || e.targetIsLink)
  else if replaces ∧ e.targetIsLink then .distinct
  else if replaces ∧ e.sameEntry ∧ e.hasNames ∧ !e.samePath then distinctIf (!r.moves)
  else if !e.sourceIsLink ∧ !e.targetIsLink ∧ !e.sameEntry then .distinct
  else if r.moves ∧ e.sourceIsLink ∧ e.hasNames then distinctIf (!e.leads)
  else if r.linking = some .links ∧ e.targetIsLink then .distinct
  else distinctIf (followsNone && !e.meet)

/-- What comes of looking at what is in the way. -/
inductive Clearance where
  /-- Nothing is to be done. -/
  | skip
  /-- What is in the way can be written over. -/
  | present
  /-- Nothing is in the way any more; there may be a backup of what was. -/
  | clear (backup : Option (List Char))

/-- The question before a file is written over. -/
def question (r : CopyRule) (path : List Char) (e : Entry) : String :=
  let mode := (e.attributes?.map (·.mode)).getD 0o666
  if e.allows .write then "overwrite " ++ inQuotes path
  else if r.moves ∨ r.removesFirst ∨ r.removesLocked then
    "replace " ++ inQuotes path ++ ", overriding mode " ++ shown (modeDigits mode) ++ " (" ++
      shown (modeLetters mode) ++ ")"
  else
    "unwritable " ++ inQuotes path ++ " (mode " ++ shown (modeDigits mode) ++ ", " ++
      shown (modeLetters mode) ++ "); try anyway"

/-- Keeps what is at the place `q` as a backup. -/
def keep (r : CopyRule) (cwd : Place) (t : Transport) (q : Place) : Copies Clearance := do
  let d ← Copies.disk
  let backup := Backup.pathFor r.backups d q t.path
  let usual := withoutSlashes t.path ++ r.backups.suffix
  if r.backups.manner ≠ .numbered ∧ lastName t.source = lastName usual ∧
      (d.findEntry cwd (shown usual)).toOption.any fun found => d.sameFile found.1 t.place then
    Copies.complain ("backing up " ++ inQuotes t.path ++ " might destroy source;  " ++
      inQuotes t.source ++ " not " ++ (if r.moves then "moved" else "copied"))
    return .skip
  else
    match d.rename true cwd (shown (withoutSlashes t.path)) (shown backup) with
    | .ok d =>
      Copies.setDisk d
      return .clear (some backup)
    | .error .notFound => return .clear none
    | .error e =>
      Copies.complain ("cannot backup " ++ inQuotes t.path ++ ": " ++ e.systemText)
      return .skip

/-- Looks at what is in the way, the entry `f` at the place `q`. -/
def clearWay (r : CopyRule) (cwd : Place) (t : Transport) (q : Place) (f : Entry) :
    Copies Clearance := do
  let d ← Copies.disk
  let isDirectory := t.entry.isDirectory
  let known := if r.overwriting = .never then .distinct else r.sameness (encounter d cwd t q)
  let isOlder := (f.attributes?.map (·.changed)).getD 0 < (t.entry.attributes?.map (·.changed)).getD 0
  if let .same := known then
    Copies.complain (inQuotes t.source ++ " and " ++ inQuotes t.path ++ " are the same file")
    return .skip
  if r.onlyNewer ∧ !isDirectory ∧ !isOlder then return .skip
  let mayAsk := r.moves || !isDirectory
  if mayAsk ∧ r.overwriting = .never then return .skip
  if mayAsk ∧ r.overwriting = .asking then
    if !(← errand (Errands.ask (r.question t.path f))) then return .skip
  if let .settled := known then return .skip
  let replaces := r.moves && r.makesBackups
  if isDirectory ∧ !f.isDirectory ∧ !replaces then
    Copies.complain ("cannot overwrite non-directory " ++ inQuotes t.path ++ " with directory " ++
      inQuotes t.source)
    return .skip
  if !f.isDirectory ∧ t.isNamed ∧ r.backups.manner ≠ .numbered ∧ (← get).made.contains q then
    Copies.complain ("will not overwrite just-created " ++ inQuotes t.path ++ " with " ++
      inQuotes t.source)
    return .skip
  if !isDirectory ∧ f.isDirectory ∧ !replaces then
    Copies.complain ("cannot overwrite directory " ++ inQuotes t.path ++ " with non-directory")
    return .skip
  if r.makesBackups ∧ !isDots (lastName t.source) ∧ (r.moves ∨ !f.isDirectory) then
    r.keep cwd t q
  else if !f.isDirectory ∧ !r.moves ∧ (r.removesFirst ∨ (!r.emptied ∧
      ((r.keepsNames ∧ 1 < namesOf d q) ∨ (r.following = .none ∧ !t.entry.isFile)))) then
    match (← Copies.disk).removeFile cwd (shown t.path) with
    | .ok d =>
      Copies.setDisk d
      if r.verbose then Copies.tell ("removed " ++ inQuotes t.path)
      return .clear none
    | .error e =>
      Copies.complain ("cannot remove " ++ inQuotes t.path ++ ": " ++ e.systemText)
      return .skip
  else return .present

/-- What is told about a copy or a move. -/
def describe (r : CopyRule) (t : Transport) (backup : Option (List Char)) : String :=
  (if r.moves then "renamed " else "") ++ inQuotes t.source ++ " -> " ++ inQuotes t.path ++
    match backup with
    | some b => " (backup: " ++ inQuotes b ++ ")"
    | none => ""

/-- Notes that something was made. -/
def noteMade (cwd : Place) (path : List Char) : Copies Unit := do
  if (← get).several then
    match (← Copies.disk).resolveEntry cwd (shown path) with
    | .ok q => modify fun s => { s with made := q :: s.made }
    | .error _ => pure ()

/-! ## Moving -/

/-- Moves what has a path to another path. -/
def move (r : CopyRule) (cwd : Place) (isLast : Bool) (source path : List Char) :
    Copies Unit := do
  let renamed := fun (t : Transport) (backup : Option (List Char)) (d : Disk) => do
    Copies.setDisk d
    if r.verbose then Copies.tell (r.describe t backup)
    if !isLast then noteMade cwd path
  let d ← Copies.disk
  match d.rename false cwd (shown source) (shown path) with
  | .ok d => renamed ⟨source, path, [], .null, true⟩ none d
  | .error first =>
    if first = .alreadyExists ∧ r.overwriting = .never then return ()
    match d.findEntry cwd (shown source) with
    | .error e => Copies.complain ("cannot stat " ++ inQuotes source ++ ": " ++ e.systemText)
    | .ok (p, e) =>
      let t : Transport := ⟨source, path, p, e, true⟩
      let finish := fun (backup : Option (List Char)) (found : Bool) => do
        let d ← Copies.disk
        match if found then d.rename true cwd (shown source) (shown path) else .error first with
        | .ok d => renamed t backup d
        | .error .invalidArgument =>
          Copies.complain ("cannot move " ++ inQuotes source ++ " to a subdirectory of itself, " ++
            inQuotes path)
        | .error e =>
          Copies.complain ("cannot move " ++ inQuotes source ++ " to " ++ inQuotes path ++ ": " ++
            e.systemText)
      match d.findEntry cwd (shown path) with
      | .error .notFound => finish none (first = .alreadyExists)
      | .error e => Copies.complain ("cannot stat " ++ inQuotes path ++ ": " ++ e.systemText)
      | .ok (q, f) =>
        match ← r.clearWay cwd t q f with
        | .skip => return ()
        | .present => finish none true
        | .clear backup => finish backup true

/-! ## Copying -/

/-- The rights of what is copied. A device has those that everybody has. -/
def rightsOfSource (e : Entry) : Nat := (e.attributes?.map (·.mode % 0o1000)).getD 0o666

/-- The mode that a copy of a directory asks for: its rights, and the mark that only owners remove
files from it. -/
def directoryMode (r : CopyRule) (e : Entry) : Nat :=
  if r.usualMode then 0o777 else (e.attributes?.map (·.mode % 0o2000)).getD 0o777

/-- Gives a copy what else belongs to it. -/
def dress (r : CopyRule) (q : Place) (e : Entry) : Errands Unit := do
  match e.attributes? with
  | none => return ()
  | some a =>
    if r.keepsMode then modify fun s => { s with disk := s.disk.setMode q a.mode }
    if r.keepsTimes then Errands.setChanged q a.changed

/-- The contents of a file that is copied. -/
def contentsOf (t : Transport) : Errands (Except Disk.Error Bytes) := do
  match Kernel.descriptorNamed? (shown t.source) with
  | some fd => Errands.readAll fd
  | none => return Disk.contentsOf t.entry

/-- Writes the contents of a file. The value is whether that could be done. -/
def copyFile (r : CopyRule) (cwd : Place) (t : Transport) (isNew : Bool) : Errands Bool := do
  let what := "cannot create regular file " ++ inQuotes t.path
  match ← contentsOf t with
  | .error e =>
    Errands.complain ("cannot open " ++ inQuotes t.source ++ " for reading: " ++ e.systemText)
    return false
  | .ok contents =>
    match Kernel.descriptorNamed? (shown t.path) with
    | some fd =>
      discard <| Errands.write fd contents
      return true
    | none =>
      let mode ← Errands.rights (if r.usualMode then 0o666 else rightsOfSource t.entry)
      let d ← Errands.disk
      let locked : Bool := match d.find cwd (shown t.path) with
        | .ok (_, f) => !isNew && !f.allows .write
        | .error _ => false
      let isNew ←
        if locked ∧ r.removesLocked then
          match d.removeFile cwd (shown t.path) with
          | .ok d =>
            Errands.setDisk d
            if r.verbose then Errands.tell ("removed " ++ inQuotes t.path)
            pure true
          | .error _ => pure isNew
        else pure isNew
      let d ← Errands.disk
      if isNew ∧ (d.findEntry cwd (shown t.path)).toOption.any (fun found => found.2.isLink) then
        Errands.complain ("not writing through dangling symlink " ++ inQuotes t.path)
        return false
      else
        match d.placeForWriting cwd (shown t.path) with
        | .error e =>
          Errands.complain (what ++ ": " ++ (if e = .isDirectory then Disk.Error.notDirectory else e).systemText)
          return false
        | .ok q =>
          let kept := match d.lookup q with
            | some (.file old _) => if r.emptied then old else contents
            | _ => if r.emptied then [] else contents
          if ← Errands.change what fun d => d.writeAt q mode kept then
            r.dress q t.entry
            return true
          else return false

/-- Makes a pipe in place of a copy. The value is whether that could be done. -/
def copyPipe (r : CopyRule) (cwd : Place) (t : Transport) : Errands Bool := do
  if r.removesLocked then
    match (← Errands.disk).removeFile cwd (shown t.path) with
    | .ok d => Errands.setDisk d
    | .error _ => pure ()
  let mode ← Errands.rights (rightsOfSource t.entry)
  Errands.change ("cannot create special file " ++ inQuotes t.path) fun d =>
    d.makePipe mode cwd (shown t.path)

/-- Makes a link in place of a copy. The value is whether that could be done. -/
def copyAsLink (r : CopyRule) (cwd : Place) (what : String) (t : Transport) (text : String) :
    Errands Bool := do
  if r.removesLocked then
    match (← Errands.disk).removeFile cwd (shown t.path) with
    | .ok d => Errands.setDisk d
    | .error _ => pure ()
  Errands.change what fun d => d.makeLink cwd text (shown t.path)

/-- Whether the directory of a path is the current one. -/
def isHere (d : Disk) (cwd : Place) (path : List Char) : Bool :=
  match d.find cwd (shown (directoryName path)) with
  | .ok (p, _) => p = cwd
  | .error _ => true

/-- Makes a link to what would be copied. The value is whether that could be done. -/
def linkTo (r : CopyRule) (cwd : Place) (t : Transport) : Errands Bool := do
  if t.source.head? ≠ some '/' ∧ !isHere (← Errands.disk) cwd t.path then
    Errands.complain (named t.path ++ ": can make relative symbolic links only in current directory")
    return false
  else
    copyAsLink r cwd ("cannot create symbolic link " ++ inQuotes t.path ++ " to " ++ inQuotes t.source)
      t (shown t.source)

/-- Gives a file a further path. With `replacing` what is there is replaced. -/
def nameToo (cwd : Place) (replacing : Bool) (source path : List Char) (p : Place) (e : Entry) :
    Errands Bool := do
  if replacing then
    match (← Errands.disk).removeFile cwd (shown path) with
    | .ok d => Errands.setDisk d
    | .error _ => pure ()
  Errands.change ("cannot create hard link " ++ inQuotes path ++ " to " ++ inQuotes source) fun d =>
    d.makeName p e cwd (shown path)

/-- What a copy was made of before: the path of the earlier copy. New copies are noted if `noting`. -/
def earlierCopy (noting : Bool) (t : Transport) : Copies (Option (List Char)) := do
  let d ← Copies.disk
  match (← get).copies.find? fun c => d.sameFile c.1 t.place with
  | some (_, path) => return some path
  | none =>
    if noting then modify fun s => { s with copies := (t.place, t.path) :: s.copies }
    return none

/-- Whether two paths are those of the same entry. -/
def sameEntry (d : Disk) (cwd : Place) (a b : List Char) : Bool :=
  match d.resolveEntry cwd (shown a), d.resolveEntry cwd (shown b) with
  | .ok p, .ok q => p = q
  | _, _ => false

/-- Copies names one after the other until one turns out to be the copy itself. -/
def untilSelf (copy : String → Copies Bool) : List String → Copies Bool
  | [] => return false
  | name :: rest => do if ← copy name then return true else untilSelf copy rest

/-- What is to be copied once what was in the way has been looked at. -/
structure Cleared where
  transport : Transport
  /-- Whether nothing is in the way. -/
  isNew : Bool
  backup : Option (List Char)

/-- Notes what is copied. The value is whether it was named before in the call. -/
def isRepeated (r : CopyRule) (cwd : Place) (t : Transport) : Copies Bool := do
  let s ← get
  if !(t.isNamed && s.several) then return false
  else
    let own := (((← Copies.disk).resolveEntry cwd (shown t.source)).toOption).getD t.place
    modify fun s => { s with taken := own :: s.taken }
    return !t.entry.isDirectory && !r.makesBackups && s.taken.contains own

/-- Finds what is to be copied and looks at what is in the way. `isNew` says that nothing can be. -/
def prepare (r : CopyRule) (cwd : Place) (isNamed isNew : Bool) (source path : List Char) :
    Copies (Option Cleared) := do
  let d ← Copies.disk
  let isDescriptor := fun (path : List Char) => (Kernel.descriptorNamed? (shown path)).isSome
  let follows := r.following = .all || (r.following = .named && isNamed)
  let found := if isDescriptor source then .ok ([], .null)
    else if follows then d.find cwd (shown source) else d.findEntry cwd (shown source)
  match found with
  | .error e =>
    Copies.complain ("cannot stat " ++ inQuotes source ++ ": " ++ e.systemText)
    return none
  | .ok (p, e) =>
    let t : Transport := ⟨source, path, p, e, isNamed⟩
    if e.isDirectory ∧ !r.recursive then
      Copies.complain ("-r not specified; omitting directory " ++ inQuotes source)
      return none
    else if ← r.isRepeated cwd t then
      errand <| Errands.remark
        ("warning: source file " ++ inQuotes source ++ " specified more than once")
      return none
    else if isNew ∨ isDescriptor path then return some ⟨t, true, none⟩
    else
      let isPlain := e.isFile || (!r.recursive && !e.isDirectory && !e.isLink)
      let looksAtLinks := !isPlain || r.linking.isSome || r.makesBackups || r.removesFirst
      match if looksAtLinks then d.findEntry cwd (shown path) else d.find cwd (shown path) with
      | .error .notFound => return some ⟨t, true, none⟩
      | .error e =>
        Copies.complain ("cannot stat " ++ inQuotes path ++ ": " ++ e.systemText)
        return none
      | .ok (q, f) =>
        match ← r.clearWay cwd t q f with
        | .skip => return none
        | .present => return some ⟨t, false, none⟩
        | .clear backup => return some ⟨t, true, backup⟩

/-- Gives a backup its old path again after nothing has come of the copy. -/
def restore (r : CopyRule) (cwd : Place) (c : Cleared) : Copies Unit := do
  match c.backup with
  | none => return ()
  | some backup =>
    let path := c.transport.path
    if ← errand (Errands.change ("cannot un-backup " ++ inQuotes path) fun d =>
        d.rename true cwd (shown backup) (shown path)) then
      if r.verbose then
        Copies.tell (inQuotes backup ++ " -> " ++ inQuotes path ++ " (unbackup)")

/-- Makes one more name of what an earlier copy was made of. -/
def nameAgain (r : CopyRule) (cwd : Place) (first : List Char) (c : Cleared) : Errands Bool := do
  let path := c.transport.path
  match (← Errands.disk).findEntry cwd (shown first) with
  | .error _ => return false
  | .ok (p, e) =>
    if ← nameToo cwd true first path p e then
      if r.verbose ∧ !c.isNew then Errands.tell ("removed " ++ inQuotes path)
      return true
    else return false

/-- Copies what is no directory. -/
def copyPlain (r : CopyRule) (cwd : Place) (c : Cleared) : Copies Unit := do
  let t := c.transport
  if r.verbose then Copies.tell (r.describe t c.backup)
  let d ← Copies.disk
  let hasNames := 1 < namesOf d t.place || r.following = .all || (r.following = .named && t.isNamed)
  let earlier ← if r.keepsNames && hasNames then earlierCopy true t else pure none
  let isDone ← errand <| match earlier, r.linking, t.entry with
    | some first, _, _ => r.nameAgain cwd first c
    | none, some .links, _ => r.linkTo cwd t
    | none, some .names, e =>
      nameToo cwd (r.removesLocked || r.overwriting = .asking) t.source t.path t.place e
    | none, none, .link text =>
      r.copyAsLink cwd ("cannot create symbolic link " ++ inQuotes t.path) t text
    | none, none, .null =>
      if r.recursive then do
        Errands.complain ("cannot create special file " ++ inQuotes t.path ++
          ": Operation not permitted")
        return false
      else r.copyFile cwd t c.isNew
    | none, none, .pipe _ =>
      if r.recursive then r.copyPipe cwd t else r.copyFile cwd t c.isNew
    | none, none, _ => r.copyFile cwd t c.isNew
  if isDone then noteMade cwd t.path else r.restore cwd c

/-- Whether a directory is to be copied, or why not: then the value says whether it is the copy
itself. -/
def mayEnter (r : CopyRule) (cwd : Place) (top : List Char × List Char) (outer : List Place)
    (c : Cleared) : Copies (Except Bool Unit) := do
  let t := c.transport
  let earlier ← earlierCopy t.isNamed t
  let d ← Copies.disk
  let follows := r.following = .all || (r.following = .named && t.isNamed)
  match earlier with
  | some path =>
    if sameEntry d cwd t.source path then
      Copies.complain ("cannot copy a directory, " ++ inQuotes top.1 ++ ", into itself, " ++
        inQuotes top.2)
      return .error true
    else if sameEntry d cwd t.path path then
      errand <| Errands.remark
        ("warning: source directory " ++ inQuotes top.1 ++ " specified more than once")
      return .error false
    else if !follows then
      Copies.complain ("will not create hard link " ++ inQuotes top.2 ++ " to directory " ++
        inQuotes path)
      return .error false
  | none => pure ()
  if outer.contains t.place then
    Copies.complain ("cannot copy cyclic symbolic link " ++ inQuotes t.source)
    return .error false
  return .ok ()

/-- Makes the directory for a copy unless there is one. The value is whether it is there. -/
def makeHome (r : CopyRule) (cwd : Place) (c : Cleared) : Copies Bool := do
  let t := c.transport
  if !c.isNew then return true
  else
    let mode ← errand (Errands.rights (r.directoryMode t.entry))
    if ← errand (Errands.change ("cannot create directory " ++ inQuotes t.path) fun d =>
        d.makeDirectoryWith (mode ||| 0o700) cwd (shown t.path)) then
      if !(← get).hasDirectory then
        if let .ok q := (← Copies.disk).resolve cwd (shown t.path) then
          modify fun s => { s with copies := (q, t.path) :: s.copies, hasDirectory := true }
      if r.verbose then Copies.tell (r.describe t none)
      return true
    else
      r.restore cwd c
      return false

/-- Gives a copied directory what belongs to it. -/
def finishHome (r : CopyRule) (cwd : Place) (c : Cleared) : Copies Unit := do
  let t := c.transport
  match (← Copies.disk).resolve cwd (shown t.path) with
  | .error _ => return ()
  | .ok q =>
    if c.isNew then
      let mode ← errand (Errands.rights (r.directoryMode t.entry))
      Copies.setDisk ((← Copies.disk).setMode q mode)
    errand (r.dress q t.entry)
    if t.isNamed then noteMade cwd t.path

/-- Copies what has a path to another path, and says whether it ran into its own copy. `top` are the
paths of the argument that it belongs to, `outer` the directories that it is in, and `isNew` says
that nothing can be in the way. -/
def copy (r : CopyRule) (cwd : Place) (top : List Char × List Char) : (depth : Nat) →
    (outer : List Place) → (isNamed isNew : Bool) → (source path : List Char) → Copies Bool
  | 0, _, _, _, _, _ => return false
  | depth + 1, outer, isNamed, isNew, source, path => do
    match ← r.prepare cwd isNamed isNew source path with
    | none => return false
    | some c =>
      let t := c.transport
      if !t.entry.isDirectory then
        r.copyPlain cwd c
        return false
      else
        match ← r.mayEnter cwd top outer c with
        | .error isSelf =>
          if !isSelf then r.restore cwd c
          return isSelf
        | .ok () =>
          if !(← r.makeHome cwd c) then return false
          else
            let isSelf ←
              if t.entry.allows .read then
                untilSelf (fun name =>
                    copy r cwd top depth (t.place :: outer) false c.isNew
                      (inDirectory source (bytesChars name)) (inDirectory path (bytesChars name)))
                  ((← Copies.disk).children t.place)
              else do
                Copies.complain ("cannot access " ++ inQuotes source ++ ": Permission denied")
                pure false
            r.finishHome cwd c
            return isSelf

/-! ## The directories in front of a copy -/

/-- Makes the directories that a path goes through in a target, like those of the source. The value
is whether they are there. -/
def makeParents (r : CopyRule) (cwd : Place) (target : List Char) :
    List (List Char) → Copies Bool
  | [] => return true
  | source :: rest => do
    let d ← Copies.disk
    let path := inDirectory target source
    match d.find cwd (shown path) with
    | .ok (_, e) =>
      if e.isDirectory then r.makeParents cwd target rest
      else
        Copies.complain (inQuotes path ++ " exists but is not a directory")
        return false
    | .error _ =>
      match d.find cwd (shown source) with
      | .error e =>
        Copies.complain ("failed to get attributes of " ++ inQuotes source ++ ": " ++ e.systemText)
        return false
      | .ok (_, e) =>
        let mode ← errand (Errands.rights (rightsOfSource e))
        if ← errand (Errands.change ("cannot make directory " ++ inQuotes path) fun d =>
            d.makeDirectoryWith mode cwd (shown path)) then
          if r.verbose then Copies.tell (shown source ++ " -> " ++ shown path)
          r.makeParents cwd target rest
        else return false

end CopyRule

end ProgramRepair.Utility
