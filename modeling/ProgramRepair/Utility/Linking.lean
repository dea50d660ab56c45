import ProgramRepair.Utility.Destination
import ProgramRepair.Utility.Canonical

/-!
# Links and further names

`ln` makes links, which stand for paths, or gives files further names; `link` only does
the latter.
-/

namespace ProgramRepair.Utility

open Machine

/-! ## Rules -/

/-- How links are made. -/
structure LinkRule where
  /-- Whether links are made and no names. -/
  symbolic : Bool
  /-- Whether links are made that work from where they are. -/
  relative : Bool
  /-- Whether names are given to what links lead to. -/
  follows : Bool
  /-- What is in the way is removed, without or with a question. -/
  removes : Bool
  asks : Bool
  backups : Backup.Rule
  /-- Whether files must not be removed that were made in the same call. -/
  careful : Bool
  verbose : Bool

namespace LinkRule

/-- Whether what is in the way goes. -/
def clears (r : LinkRule) : Bool := r.removes || r.asks || r.backups.manner ≠ .none

/-- The text of a link that leads from a path to another one. -/
def relativeText (d : Disk) (cwd : Place) (source path : List Char) : List Char :=
  let rule : PathRule := ⟨.nothing, true⟩
  match rule.place d cwd (directoryName path), rule.place d cwd source with
  | .ok here, .ok there => relativePath here there
  | _, _ => source

/-- What comes of looking at what is in the way: whether the link is to be made, what is in the way
being removed or not, and the path of a backup. -/
inductive Clearance where
  | skip
  | go (removing : Bool) (backup : Option (List Char))

/-- The place and the entry that get a further name. -/
def source? (r : LinkRule) (d : Disk) (cwd : Place) (source : List Char) :
    Except Disk.Error (Place × Entry) :=
  (if r.follows || r.symbolic then Disk.find else Disk.findEntry) d cwd (shown source)

/-- Whether a path leads to what is at a place. -/
def isItself (r : LinkRule) (d : Disk) (cwd : Place) (source : List Char) (q : Place) : Bool :=
  match r.source? d cwd source with
  | .error _ => false
  | .ok (p, e) =>
    let names := match e.number? with
      | some n => (d.entries.filter fun entry => entry.2.number? = some n).length
      | none => 1
    d.sameFile p q && (names = 1 || (d.resolveEntry cwd (shown source)).toOption = some q)

/-- Looks at what is in the way. `made` are the places of what was made so far. -/
def clearWay (r : LinkRule) (cwd : Place) (made : List Place) (source path : List Char) :
    Errands Clearance := do
  let d ← Errands.disk
  match d.findEntry cwd (shown path) with
  | .error .notFound => return .go false none
  | .error e =>
    Errands.complain ("failed to access " ++ inQuotes path ++ ": " ++ e.systemText)
    return .skip
  | .ok (q, e) =>
    let isSafe := r.backups.manner ≠ .none && r.symbolic
    if e.isDirectory then
      Errands.complain (named path ++ ": cannot overwrite directory")
      return .skip
    else if r.careful ∧ made.contains q then
      Errands.complain ("will not overwrite just-created " ++ inQuotes path ++ " with " ++
        inQuotes source)
      return .skip
    else if !isSafe ∧ r.isItself d cwd source q then
      Errands.complain (inQuotes source ++ " and " ++ inQuotes path ++ " are the same file")
      return .skip
    else if r.asks then
      if ← Errands.ask ("replace " ++ inQuotes path) then keep q else return .skip
    else keep q
where
  /-- Keeps what is in the way as a backup, if that is asked for. -/
  keep (q : Place) : Errands Clearance := do
    if r.backups.manner = .none then return .go true none
    else
      let d ← Errands.disk
      let backup := Backup.pathFor r.backups d q path
      if ← Errands.change ("cannot backup " ++ inQuotes path) fun d =>
          d.rename true cwd (shown path) (shown backup) then
        return .go true (some backup)
      else return .skip

/-- What is said when a link cannot be made. -/
def blame (r : LinkRule) (source path : List Char) (e : Disk.Error) : String :=
  let ends := inQuotes path ++ (if r.symbolic then " -> " else " => ") ++ inQuotes source
  let what :=
    if r.symbolic then
      "failed to create symbolic link " ++
        (if e ≠ .nameTooLong ∧ source ≠ [] then inQuotes path else ends)
    else "failed to create hard link " ++ (if e = .alreadyExists then inQuotes path else ends)
  what ++ ": " ++ e.systemText

/-- Makes the link or the name, on a disk where nothing is in the way. -/
def put (r : LinkRule) (cwd : Place) (source path : List Char) (d : Disk) :
    Except Disk.Error Disk := do
  if r.symbolic then
    if source.isEmpty then throw .notFound
    d.makeLink cwd (shown source) (shown path)
  else
    let (p, e) ← r.source? d cwd source
    d.makeName p e cwd (shown path)

/-- Why a file cannot get a further name. -/
def problem? (r : LinkRule) (d : Disk) (cwd : Place) (source : List Char) : Option String :=
  if r.symbolic then none
  else
    match r.source? d cwd source with
    | .error e => some ("failed to access " ++ inQuotes source ++ ": " ++ e.systemText)
    | .ok (_, e) =>
      if e.isDirectory then some (named source ++ ": hard link not allowed for directory") else none

/-- Makes one link. The value is the places of what was made so far. -/
def make (r : LinkRule) (cwd : Place) (made : List Place) (source path : List Char) :
    Errands (List Place) := do
  let d ← Errands.disk
  match r.problem? d cwd source with
  | some problem =>
    Errands.complain problem
    return made
  | none =>
    let source := if r.relative then relativeText d cwd source path else source
    let clearance ← if r.clears then r.clearWay cwd made source path else pure (.go false none)
    match clearance with
    | .skip => return made
    | .go removing backup =>
      let d ← Errands.disk
      let cleared := if removing then (d.removeFile cwd (shown path)).toOption.getD d else d
      match r.put cwd source path cleared with
      | .error e =>
        Errands.complain (r.blame source path e)
        if let some backup := backup then
          discard <| Errands.change ("cannot un-backup " ++ inQuotes path) fun d =>
            d.rename true cwd (shown backup) (shown path)
        return made
      | .ok d =>
        Errands.setDisk d
        if r.verbose then
          let old := match backup with
            | some b => inQuotes b ++ " ~ "
            | none => ""
          Errands.tell (old ++ inQuotes path ++ (if r.symbolic then " -> " else " => ") ++
            inQuotes source)
        return ((d.resolveEntry cwd (shown path)).toOption.toList ++ made)

/-- Makes links one after the other. -/
def makeAll (r : LinkRule) (cwd : Place) (goal : Destination) (made : List Place) :
    List (List Char) → Errands Unit
  | [] => return ()
  | source :: rest => do
    let path := match goal with
      | .inside directory => inDirectory directory (lastName source)
      | .exactly path => path
    makeAll r cwd goal (← r.make cwd made source path) rest

end LinkRule

/-! ## Programs -/

def lnGrammar : Grammar :=
  ⟨"bdfinrsvFLPT", "tS", "", [("no-dereference", 'n'), ("no-target-directory", 'T'),
    ("directory", 'd'), ("force", 'f'), ("interactive", 'i'), ("logical", 'L'), ("physical", 'P'),
    ("relative", 'r'), ("symbolic", 's'), ("target-directory=", 't'), ("verbose", 'v')] ++
    Backup.longNames⟩

/-- The rule of a call of `ln`. -/
def lnRule (o : Options) (env : Surroundings) : Except String LinkRule := do
  let backups ← Backup.Rule.ofOptions o env
  let last := o.letters.find? fun c => c = 'f' ∨ c = 'i'
  return {
    symbolic := o.has 's'
    relative := o.has 'r'
    follows := (o.letters.find? fun c => c = 'L' ∨ c = 'P') = some 'L'
    removes := last = some 'f'
    asks := last = some 'i'
    backups
    careful := last = some 'f' && !o.has 's' && backups.manner ≠ .numbered
    verbose := o.has 'v' }

/-- What `ln` says about directories that cannot be used. -/
def lnBlame : Blame :=
  ⟨fun path e =>
      if e = .notDirectory then "target " ++ inQuotes path ++ " is not a directory"
      else "failed to access " ++ inQuotes path ++ ": " ++ e.systemText,
    "cannot combine --target-directory and --no-target-directory"⟩

/-- Where the links of a call go. A single path gets a link in the current directory, and with `-n` a
link to a directory is none itself. -/
def lnDestination (o : Options) (cwd : Place) :
    Work (Except Nat (List (List Char) × Destination)) := do
  let d ← Work.call (Kernel.askDisk id)
  let isLink := fun (path : List Char) => (d.findEntry cwd (shown path)).toOption.any (·.2.isLink)
  match o.problem, o.value? 't', o.rest with
  | none, none, [source] =>
    if o.has 'T' then destination "ln" lnBlame o cwd
    else return .ok ([source], .inside ['.'])
  | none, none, [source, path] =>
    if o.has 'n' && isLink path then return .ok ([source], .exactly path)
    else destination "ln" lnBlame o cwd
  | _, _, _ => destination "ln" lnBlame o cwd

/-- Makes links. -/
def ln : Utility := fun env args => do
  let o := lnGrammar.read args
  match o.problem, lnRule o env with
  | some problem, _ | none, .error problem => refuse "ln" problem 1
  | none, .ok r =>
    match ← lnDestination o env.cwd with
    | .error code => return code
    | .ok (sources, goal) =>
      if r.relative ∧ !r.symbolic then
        warn "ln" "cannot do --relative without --symbolic"
        return 1
      else runErrand "ln" (r.makeAll env.cwd goal [] sources)

/-- Gives a file a further name. -/
def link : Utility := fun env args => do
  let o := (⟨"", "", "", []⟩ : Grammar).read args
  match o.problem, o.rest with
  | some problem, _ => refuse "link" problem 1
  | none, [] => refuse "link" "missing operand" 1
  | none, [only] => refuse "link" ("missing operand after " ++ quoted only) 1
  | none, _ :: _ :: extra :: _ => refuse "link" ("extra operand " ++ quoted extra) 1
  | none, [source, path] =>
    runErrand "link" do
      let what := "cannot create link " ++ inQuotes path ++ " to " ++ inQuotes source
      match (← Errands.disk).findEntry env.cwd (shown source) with
      | .error e => Errands.complain (what ++ ": " ++ e.systemText)
      | .ok (p, e) =>
        if e.isDirectory then Errands.complain (what ++ ": Operation not permitted")
        else discard <| Errands.change what fun d => d.makeName p e env.cwd (shown path)

end ProgramRepair.Utility
