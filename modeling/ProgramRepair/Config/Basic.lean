import ProgramRepair.Clock.Duration
import ProgramRepair.Disk.Error
import ProgramRepair.Outcome.Classifier
import ProgramRepair.Source.Split
import ProgramRepair.Source.File
import ProgramRepair.Text.CharClass

/-!
# Configuration

What is to be repaired and how to search for it. `validate` finds the first
thing that is wrong with a configuration; each error is a cause with its wording
in `ConfigError.message`.
-/

namespace ProgramRepair

/-- How the place of a new edit is chosen. -/
inductive SelectionMethod where
  /-- Every unit is equally likely. -/
  | random
  /-- Units are as likely as their weights say. -/
  | weighted
deriving DecidableEq, Repr, Inhabited

/-- The program under repair: where it is and how it is tested. -/
structure ProgramConfig where
  projectPath : String
  /-- A file in the project that names the targets and the test command. -/
  targetConfig : Option String
  /-- The files that edits may touch, seen from the project. -/
  targetFiles : List String
  /-- The shell command that runs the tests. -/
  testCommand : String
  granularity : Source.Granularity
  classifier : Classifier
deriving DecidableEq, Repr, Inhabited

/-- The contents of a file that names targets and test command. -/
structure TargetFile where
  targetFiles : List String
  testCommand : String
deriving DecidableEq, Repr, Inhabited

/-- How to search. -/
structure SearchConfig where
  /-- How often the unchanged program is evaluated first. -/
  warmupReps : Nat
  /-- The number of independent restarts. -/
  epoch : Nat
  /-- The number of evaluations in one epoch. -/
  maxIter : Nat
  /-- The time that one evaluation may take. -/
  timeoutSecs : Binary64
  /-- The kinds of edit to draw from. -/
  operators : List EditOperator
  /-- The seed of all random choices. -/
  randomSeed : Option Nat
  /-- Whether epochs run side by side, each with a stream of its own. -/
  parallelEpochs : Bool
deriving DecidableEq, Repr, Inhabited

/-- A whole repair run. -/
structure RepairConfig where
  program : ProgramConfig
  search : SearchConfig
deriving DecidableEq, Repr, Inhabited

/-! ## Defaults -/

/-- The search settings that hold where a configuration says nothing. -/
def SearchConfig.standard : SearchConfig where
  warmupReps := 1
  epoch := 10
  maxIter := 100
  timeoutSecs := .ofNat 10
  operators := EditOperator.all
  randomSeed := none
  parallelEpochs := false

/-- The program of the example configuration. -/
def ProgramConfig.standard : ProgramConfig where
  projectPath := "repairs"
  targetConfig := none
  targetFiles := ["QuixBugs/python_programs/gcd.py"]
  testCommand := "pytest -s QuixBugs/python_testcases/test_gcd.py"
  granularity := .statement
  classifier := .pytestSummary

/-- The example configuration. -/
def RepairConfig.standard : RepairConfig := ⟨.standard, .standard⟩

/-! ## Validation -/

/-- What can be wrong with a configuration. -/
inductive ConfigError where
  | missingTestCommand
  | noTargetFiles
  | invalidEpoch
  | invalidMaxIter
  | invalidTimeout (seconds : Binary64)
  | noOperators
  | duplicateOperator (op : EditOperator)
  /-- The file with targets and test command cannot be read. -/
  | read (path : String) (cause : Disk.Error)
  /-- A configuration is not the JSON it should be. -/
  | parse (cause : Json.Error)
deriving DecidableEq, Repr

def ConfigError.message : ConfigError → String
  | missingTestCommand => "Test command must not be empty"
  | noTargetFiles => "At least one target file is required"
  | invalidEpoch => "Epoch count must be at least 1"
  | invalidMaxIter => "Iterations per epoch must be at least 1"
  | invalidTimeout x => "Timeout must be a positive number of seconds, got " ++ x.toText
  | noOperators => "Operator set must not be empty"
  | duplicateOperator op => "Operator " ++ op.name ++ " listed more than once"
  | read path cause => "Failed to read " ++ path ++ ": " ++ cause.message
  | parse cause => "Failed to parse configuration: " ++ cause.message

/-- The first member of a list that was there before. -/
def firstRepeated [DecidableEq α] (before : List α) : List α → Option α
  | [] => none
  | a :: as => if a ∈ before then some a else firstRepeated (a :: before) as

namespace ProgramConfig

/-- A program needs a test command and a target. -/
def validate (c : ProgramConfig) : Except ConfigError Unit :=
  if Text.trim c.testCommand.toList = [] then .error .missingTestCommand
  else if c.targetFiles = [] then .error .noTargetFiles
  else .ok ()

end ProgramConfig

namespace SearchConfig

/-- A search needs an epoch, an iteration, a finite time above zero, and operators without
repetition. -/
def validate (c : SearchConfig) : Except ConfigError Unit :=
  if c.epoch = 0 then .error .invalidEpoch
  else if c.maxIter = 0 then .error .invalidMaxIter
  else if !(c.timeoutSecs.isFinite && Binary64.zero.lt c.timeoutSecs) then
    .error (.invalidTimeout c.timeoutSecs)
  else if c.operators = [] then .error .noOperators
  else match firstRepeated [] c.operators with
    | some op => .error (.duplicateOperator op)
    | none => .ok ()

/-- The time that one evaluation may take. -/
def timeout (c : SearchConfig) : Except Fault Duration :=
  Duration.ofSeconds c.timeoutSecs

end SearchConfig

/-- Both parts have to be right. -/
def RepairConfig.validate (c : RepairConfig) : Except ConfigError Unit := do
  c.program.validate
  c.search.validate

end ProgramRepair
