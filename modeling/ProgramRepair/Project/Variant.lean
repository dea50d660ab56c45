import ProgramRepair.Command.Basic
import ProgramRepair.Project.Basic
import ProgramRepair.Project.Workspace

/-!
# Variants

A patch is evaluated on a variant: a copy of the project in which the target
files are written anew. The copy is made when a slot is first used and kept for
later evaluations. Whatever goes wrong before the test command has run makes the
candidate invalid; only a command that came to its end is scored.
-/

namespace ProgramRepair.Project

open Disk DiskWork

/-! ## Set-up -/

/-- Reads and splits the target files of a program. -/
def load (d : Disk) (cwd : Place) (c : ProgramConfig) : Except ProgramError Project := do
  c.validate.mapError .config
  let files ← c.targetFiles.mapM fun relative => do
    let path := join c.projectPath relative
    let source ← (d.readText cwd path).mapError (.readTarget path)
    return Source.File.parse relative c.granularity source.toList
  return ⟨c.projectPath, c.testCommand, c.classifier, files⟩

/-! ## Preparation -/

/-- The path of the variant in a slot. -/
def variantPath (scratch : Place) (slot : Nat) : String :=
  join (pathOf scratch) ("variant-" ++ toString slot)

/-- The path of the variant in a slot, for which the project is copied unless it was before. -/
def prepare (p : Project) (slot : Nat) (w : Workspace) : Except Disk.Error String × Workspace :=
  match w.scratch with
  | none => (.error .scratchRemoved, w)
  | some scratch =>
    let path := variantPath scratch slot
    if slot ∈ w.ready then (.ok path, w)
    else
      match (copyTree w.cwd p.root path).run.run w.disk with
      | (.ok (), disk) => (.ok path, { w with disk, ready := slot :: w.ready })
      | (.error e, disk) => (.error e, { w with disk })

/-- Makes the directories that a file is in. -/
def makeParents (cwd : Place) (path : String) : DiskWork Unit :=
  match parent? path with
  | some up => change fun d => d.makeDirectories cwd up
  | none => pure ()

/-- Writes a file and the directories that it is in. -/
def writeFile (cwd : Place) (path : String) (contents : List Char) : DiskWork Unit := do
  makeParents cwd path
  change fun d => d.write cwd path (Text.encode contents)

/-- Writes the target files of a variant, one after the other. -/
def writeVariant (p : Project) (cwd : Place) (dir : String) (patch : Patch Source.Edit) :
    DiskWork Unit :=
  (p.files.zip (p.render patch)).forM fun (f, contents) =>
    writeFile cwd (join dir f.path) contents

/-! ## Evaluation -/

/-- The evaluation of what a test command left behind. -/
def judge (p : Project) (out : CommandOutput) : Evaluation :=
  if out.timedOut then .ofTimeout out.stdout out.stderr out.elapsed.inSeconds
  else p.classifier.classify out.stdout out.returnCode out.stderr out.elapsed.inSeconds

/-- Runs the tests on the variant at a path. -/
def runTests (execute : Executor) (p : Project) (dir : String) (timeout : Duration) :
    Run Workspace Evaluation := fun w => do
  match ← execute p.testCommand dir timeout w.cwd w.disk with
  | (.ok out, disk) => return (p.judge out, { w with disk })
  | (.error e, disk) =>
    return (.ofInvalid ("Failed to run test command: " ++ e.message), { w with disk })

/-- Writes the variant of a patch in a slot and runs the tests on it. -/
def evaluate (execute : Executor) (p : Project) (slot : Nat) (patch : Patch Source.Edit)
    (timeout : Duration) : Run Workspace Evaluation := fun w =>
  match p.prepare slot w with
  | (.error e, w) => .ok (.ofInvalid ("Failed to prepare variant: " ++ e.message), w)
  | (.ok dir, w) =>
    match (p.writeVariant w.cwd dir patch).run.run w.disk with
    | (.error e, disk) =>
      .ok (.ofInvalid ("Failed to write variant: " ++ e.message), { w with disk })
    | (.ok (), disk) => p.runTests execute dir timeout { w with disk }

/-- A project as a search sees it. -/
def program (execute : Executor) (p : Project) : Program Source.Edit Workspace where
  evaluate := p.evaluate execute 0
  createEdit := p.createEdit
  diff := p.diff
  describe := p.describe

end ProgramRepair.Project
