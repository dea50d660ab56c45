import ProgramRepair.Disk.Access
import ProgramRepair.Project.Variant
import ProgramRepair.Records
import ProgramRepair.Search.Engine

/-!
# Repair runs

A repair run takes a configuration through everything: it resolves and checks
it, reads the project, searches, and gives the scratch directory back. Nothing is
evaluated before all of the configuration was found to be right.
-/

namespace ProgramRepair

/-! ## Target files of configurations

A configuration may leave its target files and its test command to a file in the
project. Resolving puts the contents of that file in place of its own entries.
-/

/-- The configuration with its target file taken in. Without one it stays as it is. -/
def ProgramConfig.resolve (d : Disk) (cwd : Place) (c : ProgramConfig) :
    Except ConfigError ProgramConfig :=
  match c.targetConfig with
  | none => .ok c
  | some file => do
    let path := Disk.join c.projectPath file
    let source ← (d.readText cwd path).mapError (.read path)
    let targets ← (TargetFile.codec.parse source).mapError .parse
    return { c with
      targetConfig := none
      targetFiles := targets.targetFiles
      testCommand := targets.testCommand }

/-- The configuration of a project with a target file and defaults for all else. -/
def ProgramConfig.ofTargetFile (d : Disk) (cwd : Place) (projectPath file : String) :
    Except ConfigError ProgramConfig :=
  ProgramConfig.resolve d cwd ⟨projectPath, some file, [], "", .statement, .pytestSummary⟩

/-- The configuration with the target file of its program taken in. -/
def RepairConfig.resolve (d : Disk) (cwd : Place) (c : RepairConfig) :
    Except ConfigError RepairConfig := do
  return { c with program := ← c.program.resolve d cwd }

/-! ## Runs -/

/-- Why a repair run has no report. -/
inductive RepairError where
  | config (cause : ConfigError)
  | program (cause : ProgramError)
  | disk (cause : Disk.Error)
deriving DecidableEq, Repr

def RepairError.message : RepairError → String
  | config cause => "Invalid configuration: " ++ cause.message
  | program cause => "Program setup failed: " ++ cause.message
  | disk cause => "I/O error: " ++ cause.message

namespace Repair

/-- The project and the settings of a run, once all of the configuration was found to be right. -/
def setUp (disk : Disk) (cwd : Place) (config : RepairConfig) :
    Except RepairError (Project × SearchConfig) := do
  let config ← (config.resolve disk cwd).mapError .config
  config.validate.mapError .config
  let project ← (Project.load disk cwd config.program).mapError .program
  return (project, config.search)

/-- A whole run in a workspace, watched by `observer`. `makeScratch` makes the scratch directory or
says why there is none; `fresh` is the seed for settings without one. -/
def runWith {τ : Type} (makeScratch : Workspace → Except ProgramError Workspace)
    (execute : Executor) (config : RepairConfig) (fresh : UInt64)
    (observer : Observer (Workspace × τ)) : Run (Workspace × τ) (Except RepairError Report) :=
  fun (w, rest) =>
    match setUp w.disk w.cwd config with
    | .error e => .ok (.error e, w, rest)
    | .ok (project, settings) =>
      match makeScratch w with
      | .error e => .ok (.error (.program e), w, rest)
      | .ok w =>
        match Search.new ((project.program execute).inLargerWorld τ) settings fresh with
        -- a program that is refused gives its scratch directory up
        | .error e => .ok (.error (.config e), w.closeScratch.2, rest)
        | .ok search => do
          let ((report, _), w, rest) ← search.run observer (w, rest)
          match w.closeScratch with
          | (.ok (), w) => return (.ok report, w, rest)
          | (.error e, w) => return (.error (.disk e), w, rest)

/-- A whole run, where there is always room for a scratch directory. -/
def run {τ : Type} (execute : Executor) (config : RepairConfig) (fresh : UInt64)
    (observer : Observer (Workspace × τ)) : Run (Workspace × τ) (Except RepairError Report) :=
  runWith (fun w => .ok w.openScratch) execute config fresh observer

end Repair

end ProgramRepair
