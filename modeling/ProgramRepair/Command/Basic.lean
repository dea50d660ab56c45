import ProgramRepair.Clock.Duration
import ProgramRepair.Disk.Basic

/-!
# Commands

What running a command line leaves behind, and what it takes to be able to run
one.
-/

namespace ProgramRepair

/-- What a command left behind. -/
structure CommandOutput where
  stdout : String
  stderr : String
  /-- Absent when a signal ended the command. -/
  returnCode : Option Int
  /-- Whether the command was still running at its deadline. -/
  timedOut : Bool
  elapsed : Duration
deriving DecidableEq, Repr, Inhabited

/-- A way to run a command line in a directory for a limited time. A command may change the disk
also if it is ended at its deadline. -/
abbrev Executor :=
  (command : String) → (cwd : String) → (timeout : Duration) → (here : Place) → Disk →
    Except Fault (Except Disk.Error CommandOutput × Disk)

end ProgramRepair
