import ProgramRepair.Utility.Quotation
import ProgramRepair.Utility.Errand

/-!
# Removing

Files are removed one by one, and directories with all that is in them if that is asked
for. The user may be asked about each of them, or once about all.
-/

namespace ProgramRepair.Utility

open Machine

/-! ## Removing whatever is there -/

/-- When the user is asked. -/
inductive Caution where
  | never
  | once
  | always
deriving DecidableEq

/-- How things are removed. -/
structure RemovalRule where
  caution : Caution
  /-- Whether nothing is said about what is not there. -/
  ignoresMissing : Bool
  recursive : Bool
  /-- Whether empty directories are removed. -/
  takesEmpty : Bool
  guardsRoot : Bool
  verbose : Bool

/-- What a file is called in a question. -/
def kindName (e : Entry) : String :=
  match e with
  | .file [] _ => "regular empty file"
  | .file _ _ => "regular file"
  | .directory _ => "directory"
  | .link _ => "symbolic link"
  | .null => "character special file"
  | .pipe _ => "fifo"

namespace RemovalRule

/-- Says why something cannot be removed. -/
def blame (path : List Char) (e : Disk.Error) : Errands Unit :=
  Errands.complain ("cannot remove " ++ inQuotes path ++ ": " ++ e.systemText)

/-- Asks whether something may be removed, or a directory entered that is not empty. -/
def mayTouch (r : RemovalRule) (path : List Char) (e : Entry) (entering : Bool) :
    Errands Bool := do
  if r.caution ≠ .always then return true
  else
    let isProtected := !e.isLink && !e.allows .write
    let lock := if isProtected then "write-protected " else ""
    if entering then Errands.ask ("descend into " ++ lock ++ "directory " ++ inQuotes path)
    else Errands.ask ("remove " ++ lock ++ kindName e ++ " " ++ inQuotes path)

/-- Takes away what is at a place, or complains. -/
def takeAway (r : RemovalRule) (path : List Char) (p : Place) : Errands Unit := do
  let d ← Errands.disk
  match d.lookup p with
  | none => return ()
  | some e =>
    if !d.mayChangeNames p then blame path .permissionDenied
    else if e.isDirectory ∧ d.children p ≠ [] then
      blame path (if e.allows .read then .notEmpty else .permissionDenied)
    else
      Errands.setDisk (d.erase p)
      if r.verbose then
        Errands.tell ((if e.isDirectory then "removed directory " else "removed ") ++ inQuotes path)

/-- Asks about what is at a place, and removes what is in it. The value is whether it is to go itself. -/
def clearOut (r : RemovalRule) : (depth : Nat) → List Char → Place → Errands Bool
  | 0, _, _ => return false
  | depth + 1, path, p => do
    let d ← Errands.disk
    match d.lookup p with
    | none => return false
    | some e =>
      let names := if e.isDirectory && e.allows .read then d.children p else []
      if e.isDirectory ∧ !names.isEmpty then
        if ← r.mayTouch path e true then
          let isClear ← Errands.succeeds <| names.forM fun name => do
            let inner := inDirectory path (bytesChars name)
            if ← clearOut r depth inner (p ++ [name]) then r.takeAway inner (p ++ [name])
          if isClear then r.mayTouch path e false else return false
        else return false
      else r.mayTouch path e false

/-- Removes what a path leads to. -/
def remove (r : RemovalRule) (cwd : Place) (path : List Char) : Errands Unit := do
  let d ← Errands.disk
  match d.findEntry cwd (shown path) with
  | .error e =>
    if !(r.ignoresMissing ∧ (e = .notFound ∨ e = .notDirectory)) then blame path e
  | .ok (p, e) =>
    if e.isDirectory ∧ !r.recursive ∧ !(r.takesEmpty ∧ d.children p = []) then
      blame path (if r.takesEmpty then .notEmpty else .isDirectory)
    else if e.isDirectory ∧ isDots (lastName path) then
      Errands.complain ("refusing to remove '.' or '..' directory: skipping " ++ inQuotes path)
    else if p = [] ∧ r.guardsRoot then
      Errands.complain ("it is dangerous to operate recursively on " ++
        (if path = ['/'] then "'/'" else inQuotes path ++ " (same as '/')"))
      Errands.remark "use --no-preserve-root to override this failsafe"
    else
      let isLink := path.getLast? = some '/' &&
        (d.findEntry cwd (shown (withoutSlashes path))).toOption.any (·.2.isLink)
      if ← r.clearOut (d.entries.length + 1) path p then
        if isLink then blame path .notDirectory else r.takeAway path p

end RemovalRule

def rmGrammar : Grammar :=
  ⟨"dfirvIR", "", "", [("force", 'f'), ("interactive?", '?'), ("one-file-system", 'x'),
    ("no-preserve-root", '/'), ("preserve-root?", '='), ("recursive", 'r'), ("dir", 'd'),
    ("verbose", 'v')]⟩

/-- The words for how often the user is asked. -/
def cautions : Choices Caution :=
  [(["never", "no", "none"], .never), (["once"], .once), (["always", "yes"], .always)]

/-- The rule of a call of `rm`. -/
def rmRule (o : Options) : Except String RemovalRule := do
  let named ← choose "--interactive" cautions ((o.value? '?').getD "always".toList)
  let marks := o.letters.filterMap fun c =>
    match c with
    | 'f' => some (Caution.never, true)
    | 'i' => some (.always, false)
    | 'I' => some (.once, false)
    | '?' => some (named, false)
    | _ => none
  return {
    caution := (marks.head?.map (·.1)).getD .never
    ignoresMissing := ((marks.find? fun m => m.2 || m.1 ≠ .never).map (·.2)).getD false
    recursive := o.has 'r' || o.has 'R'
    takesEmpty := o.has 'd'
    guardsRoot := (o.letters.find? fun c => c = '/' ∨ c = '=') ≠ some '/'
    verbose := o.has 'v' }

/-- The question about all arguments of a call, if there is one. -/
def RemovalRule.question? (r : RemovalRule) (count : Nat) : Option String :=
  if r.caution ≠ .once ∨ !(r.recursive ∨ 3 < count) then none
  else
    some ("remove " ++ toString count ++ (if count = 1 then " argument" else " arguments") ++
      (if r.recursive then " recursively" else ""))

/-- Removes files, and with `-r` directories with all that is in them. -/
def rm : Utility := fun env args => do
  let o := rmGrammar.read args
  match o.problem, rmRule o, o.rest with
  | some problem, _, _ | none, .error problem, _ => refuse "rm" problem 1
  | none, .ok r, [] => if r.ignoresMissing then return 0 else refuse "rm" "missing operand" 1
  | none, .ok r, paths =>
    runErrand "rm" do
      let goesOn ← match r.question? paths.length with
        | some question => Errands.ask question
        | none => pure true
      if goesOn then paths.forM (r.remove env.cwd)

/-! ## Removing a file or an empty directory -/

/-- Removes a file. -/
def unlink : Utility := fun env args => do
  let o := (⟨"", "", "", []⟩ : Grammar).read args
  match o.problem, o.rest with
  | some problem, _ => refuse "unlink" problem 1
  | none, [] => refuse "unlink" "missing operand" 1
  | none, [path] =>
    runErrand "unlink" do
      discard <| Errands.change ("cannot unlink " ++ inQuotes path) fun d =>
        d.removeFile env.cwd (shown path)
  | none, _ :: extra :: _ => refuse "unlink" ("extra operand " ++ quoted extra) 1

/-- The paths of the directories that a path goes through, from the path itself outwards. -/
def stagesOutwards (path : List Char) : List (List Char) := (pathStages path).reverse

/-- Removes directories one after the other, up to the first that cannot be removed. -/
def removeStages (o : Options) (cwd : Place) (first : Bool) : List (List Char) → Errands Unit
  | [] => return ()
  | path :: rest => do
    if o.has 'v' then Errands.tell ("rmdir: removing directory, " ++ inQuotes path)
    let what := if first then "failed to remove " else "failed to remove directory "
    match (← Errands.disk).removeDirectory cwd (shown path) with
    | .ok d =>
      Errands.setDisk d
      removeStages o cwd false rest
    | .error e =>
      if !(o.has '=' ∧ e = .notEmpty) then
        Errands.complain (what ++ inQuotes path ++ ": " ++ e.systemText)

def rmdirGrammar : Grammar :=
  ⟨"pv", "", "", [("parents", 'p'), ("verbose", 'v'), ("ignore-fail-on-non-empty", '=')]⟩

/-- Removes empty directories. -/
def rmdir : Utility := fun env args => do
  let o := rmdirGrammar.read args
  match o.problem, o.rest with
  | some problem, _ => refuse "rmdir" problem 1
  | none, [] => refuse "rmdir" "missing operand" 1
  | none, paths =>
    runErrand "rmdir" <| paths.forM fun path =>
      removeStages o env.cwd true (if o.has 'p' then stagesOutwards path else [path])

end ProgramRepair.Utility
