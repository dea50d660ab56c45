import ProgramRepair.Utility.Destination
import ProgramRepair.Utility.Making

/-!
# Files put in their place

`install` copies files, with rights that do not depend on those of the copied files, and
makes directories. A file that is in the way is removed first.
-/

namespace ProgramRepair.Utility

open Machine

namespace Install

def grammar : Grammar :=
  ⟨"bcCDdpsTv", "gmotS", "", [("compare", 'C'), ("directory", 'd'), ("group=", 'g'), ("mode=", 'm'),
    ("owner=", 'o'), ("preserve-timestamps", 'p'), ("strip", 's'), ("target-directory=", 't'),
    ("no-target-directory", 'T'), ("verbose", 'v')] ++ Backup.longNames⟩

/-- Makes the directories of a path; the last one gets a mode of its own. -/
def makeDirectories (o : Options) (cwd : Place) (last : Nat) (path : List Char) : Errands Unit := do
  let rec go : List (List Char) → Errands Unit
    | [] => return ()
    | stage :: rest => do
      let d ← Errands.disk
      if d.isDirectoryAt cwd (shown stage) then
        if rest.isEmpty then
          match d.find cwd (shown stage) with
          | .ok (p, _) => Errands.setDisk (d.setMode p last)
          | .error _ => pure ()
        go rest
      else
        let mode := if rest.isEmpty then last else 0o755
        if ← Errands.change ("cannot create directory " ++ inQuotes path) fun d =>
            d.makeDirectoryWith mode cwd (shown stage) then
          if o.has 'v' then Errands.tell ("install: creating directory " ++ inQuotes stage)
          go rest
  go (pathStages path)

/-- Copies a file to a path. -/
def installFile (o : Options) (backups : Backup.Rule) (cwd : Place) (mode : Nat)
    (path source : List Char) : Errands Unit := do
  let d ← Errands.disk
  let what := "cannot create regular file " ++ inQuotes path
  match d.find cwd (shown source) with
  | .error e => Errands.complain ("cannot stat " ++ inQuotes source ++ ": " ++ e.systemText)
  | .ok (p, e) =>
    if e.isDirectory then Errands.complain ("omitting directory " ++ inQuotes source)
    else
      let text := match e with
        | .file contents _ => contents
        | _ => []
      match d.resolveEntry cwd (shown path) with
      | .error e => Errands.complain (what ++ ": " ++ e.systemText)
      | .ok q =>
        let old := d.lookup q
        if p = q then
          Errands.complain (inQuotes source ++ " and " ++ inQuotes path ++ " are the same file")
        else if old.any Entry.isDirectory then
          Errands.complain ("cannot overwrite directory " ++ inQuotes path ++ " with non-directory")
        else if !(e.allows .read) then
          Errands.complain ("cannot open " ++ inQuotes source ++ " for reading: Permission denied")
        else
          let backup := Backup.pathFor backups d q path
          let isKept ←
            if old.isSome ∧ backups.manner ≠ .none then
              Errands.change ("cannot backup " ++ inQuotes path) fun d =>
                d.rename true cwd (shown path) (shown backup)
            else pure false
          if old.isSome ∧ !isKept ∧ d.mayChangeNames q then
            Errands.setDisk (d.erase q)
            if o.has 'v' then Errands.tell ("removed " ++ inQuotes path)
          if ← Errands.change what fun d => d.writeAt q mode text then
            if o.has 'p' then Errands.setChanged q ((e.attributes?.map (·.changed)).getD 0)
            if o.has 'v' then
              Errands.tell (inQuotes source ++ " -> " ++ inQuotes path ++
                if isKept then " (backup: " ++ inQuotes backup ++ ")" else "")

/-- What is said about directories that cannot be used. -/
def blame : Blame :=
  { Blame.usual with
    directory := fun path e => "failed to access " ++ inQuotes path ++ ": " ++ e.systemText }

/-- Copies files to where they go. -/
def installAll (o : Options) (backups : Backup.Rule) (env : Surroundings) (mode : Nat) :
    Work Nat := do
  match ← destination "install" blame o env.cwd with
  | .error code => return code
  | .ok (sources, goal) =>
    runErrand "install" <| sources.forM fun source =>
      installFile o backups env.cwd mode (goal.pathOf source) source

end Install

/-- Copies files with rights of their own, or makes directories. -/
def install : Utility := fun env args => do
  let o := Install.grammar.read args
  match o.problem, Backup.Rule.ofOptions o env, modeChange? ((o.value? 'm').getD "755".toList) with
  | some problem, _, _ | none, .error problem, _ => refuse "install" problem 1
  | none, _, none =>
    warn "install" ("invalid mode " ++ quoted ((o.value? 'm').getD []))
    return 1
  | none, .ok backups, some change =>
    if o.has 'd' then
      if o.rest.isEmpty then refuse "install" "missing file operand" 1
      else
        runErrand "install" (o.rest.forM (Install.makeDirectories o env.cwd (change true 0 0)))
    else
      let mode := change false 0 0
      match o.has 'D', o.value? 't', o.rest with
      | true, some target, _ :: _ => do
        let code ← runErrand "install" (Install.makeDirectories o env.cwd 0o755 target)
        if code ≠ 0 then return code
        else Install.installAll o backups env mode
      | true, none, [source, path] =>
        runErrand "install" do
          let home := directoryName path
          if !(← Errands.disk).isDirectoryAt env.cwd (shown home) then
            Install.makeDirectories o env.cwd 0o755 home
          let isDirectory := (← Errands.disk).isDirectoryAt env.cwd (shown path)
          let goal := if isDirectory && !o.has 'T' then Destination.inside path else .exactly path
          Install.installFile o backups env.cwd mode (goal.pathOf source) source
      | _, _, _ => Install.installAll o backups env mode

end ProgramRepair.Utility
