import ProgramRepair.Disk.Access
import ProgramRepair.Records
import ProgramRepair.Repair

/-!
# The command line

`run` is a whole call of the program: it reads a configuration, repairs, prints
the report and stores it if asked to. What is printed is collected on a
`Console`; progress appears there while the search goes on, and stays there if
the call ends early.
-/

namespace ProgramRepair.Report

/-! ## Reports on disk

A report is stored as indented JSON and read back from it.
-/

/-- The stored form of a report. -/
def stored (r : Report) : String := (Report.codec.write r).pretty

/-- Stores a report. -/
def save (r : Report) (d : Disk) (cwd : Place) (path : String) : Except Disk.Error Disk :=
  d.writeText cwd path r.stored

/-- Reads a stored report. -/
def load (d : Disk) (cwd : Place) (path : String) : Except Disk.Error Report := do
  let source ← d.readText cwd path
  (Report.codec.parse source).mapError .notJson

end ProgramRepair.Report

namespace ProgramRepair.CommandLine

/-! ## Consoles -/

/-- What a call has printed so far. -/
structure Console where
  stdout : String
  stderr : String
deriving Repr, Inhabited

namespace Console

def blank : Console := ⟨"", ""⟩

/-- Prints a line. -/
def print (c : Console) (line : String) : Console := { c with stdout := c.stdout ++ line ++ "\n" }

/-- Prints a line about an error. -/
def complain (c : Console) (line : String) : Console :=
  { c with stderr := c.stderr ++ line ++ "\n" }

/-- Prints some lines. -/
def printAll (c : Console) (lines : List String) : Console := lines.foldl print c

/-- Prints some lines about an error. -/
def complainAll (c : Console) (lines : List String) : Console := lines.foldl complain c

end Console

/-! ## Texts -/

/-- How to call the program. -/
def usage (name : String) : List String :=
  ["Usage: " ++ name ++ " <config.json> [report.json]",
   "",
   "Search for a patch that makes the configured test command pass.",
   "",
   "Arguments:",
   "  config.json  Path to repair configuration file",
   "  report.json  Optional path to write the JSON report",
   "",
   "Example configuration is generated with --example flag."]

/-- A configuration to start from. -/
def exampleText : List String :=
  ["Example configuration (config.json):", (RepairConfig.codec.write .standard).pretty]

/-- The name of a granularity. -/
def granularityName : Source.Granularity → String
  | .line => "Line"
  | .statement => "Statement"

/-- What a run is going to do. -/
def banner (c : RepairConfig) : List String :=
  ["Tabu Repair", "===========", "Project: " ++ c.program.projectPath] ++
  c.program.targetFiles.map ("Target: " ++ ·) ++
  ["Test command: " ++ c.program.testCommand,
   "Granularity: " ++ granularityName c.program.granularity,
   "Epochs: " ++ toString c.search.epoch ++ ", iterations: " ++ toString c.search.maxIter ++
     ", timeout: " ++ c.search.timeoutSecs.toText ++ "s",
   ""]

/-- A fitness in a progress line. -/
def fitnessText : Option Binary64 → String
  | some x => "Some(" ++ x.text .detailed ++ ")"
  | none => "None"

/-- The progress line at the end of an epoch. -/
def progressLine (e : Event) : String :=
  "  Epoch " ++ toString e.epoch ++ "/" ++ toString e.totalEpochs ++ ": " ++ toString e.iteration ++
    " evaluations, best fitness " ++ fitnessText e.bestFitness

/-- Prints the end of every epoch. -/
def progress : Observer (Workspace × Console) where
  notify e := fun (w, c) => (w, if e.phase = .epochComplete then c.print (progressLine e) else c)
  cancelled _ := false

/-! ## Calls -/

/-- How a call ends: its exit code, and the workspace and the console after it. -/
structure Ending where
  code : Nat
  workspace : Workspace
  console : Console
deriving Inhabited

/-- The configuration of a call as it is written, or the complaint about it. -/
def parseConfig (w : Workspace) (path : String) : Except String RepairConfig := do
  let source ← (w.disk.readText w.cwd path).mapError ("Error reading config file: " ++ ·.message)
  (RepairConfig.codec.parse source).mapError ("Error parsing config: " ++ ·.message)

/-- The configuration of a call with its target file taken in, or the complaint about it. -/
def readConfig (w : Workspace) (path : String) : Except String RepairConfig := do
  let config ← parseConfig w path
  (config.resolve w.disk w.cwd).mapError ("Error loading target config: " ++ ·.message)

/-- Stores a report if asked to. -/
def storeReport (w : Workspace) (c : Console) (report : Report) : Option String → Ending
  | none => ⟨0, w, c⟩
  | some path =>
    match report.save w.disk w.cwd path with
    | .ok disk => ⟨0, { w with disk }, c.print ("Report written to " ++ path)⟩
    | .error e => ⟨1, w, c.complain ("Error writing report: " ++ e.message)⟩

/-- A call with a readable configuration. -/
def repair (execute : Executor) (fresh : UInt64) (w : Workspace) (config : RepairConfig)
    (reportPath : Option String) : Except Fault Ending := do
  let console := Console.blank.printAll (banner config)
  match ← Repair.run execute config fresh progress (w, console) with
  | (.error e, w, c) => return ⟨1, w, c.complain ("Error: " ++ e.message)⟩
  | (.ok report, w, c) =>
    let text ← report.toText
    let c := c.print ""
    return storeReport w { c with stdout := c.stdout ++ text } report reportPath

/-- A call of the program `name` with some arguments. -/
def run (execute : Executor) (fresh : UInt64) (name : String) (args : List String) (w : Workspace) :
    Except Fault Ending :=
  match args with
  | [] => .ok ⟨1, w, Console.blank.complainAll (usage name)⟩
  | "--example" :: _ => .ok ⟨0, w, Console.blank.printAll exampleText⟩
  | path :: rest =>
    match readConfig w path with
    | .error complaint => .ok ⟨1, w, Console.blank.complain complaint⟩
    | .ok config => repair execute fresh w config rest.head?

end ProgramRepair.CommandLine
