import ProgramRepair.Fault
import ProgramRepair.Binary64.Decimal
import ProgramRepair.Outcome.Classifier

/-!
# Reports

A report collects the results of the epochs of a run: which of them found a
repair, which different repairs there are, and how much work they took. While the run
goes on, events tell of its progress.
-/

namespace ProgramRepair

/-- The outcome of one epoch. -/
structure EpochResult where
  /-- The number of the epoch, counted from 1. -/
  epoch : Nat
  /-- Whether a candidate repaired the program. -/
  success : Bool
  fitnessEvaluations : Nat
  /-- The number of candidates that broke or ran out of time. -/
  invalidPatchCount : Nat
  bestFitness : Option Binary64
  /-- The edits of the best patch, in words. -/
  bestPatch : List String
  /-- The best patch as a unified diff. -/
  diff : String
  elapsedSeconds : Binary64
deriving DecidableEq, Repr, Inhabited

/-- The results of a run. -/
structure Report where
  /-- The fitness of the unchanged program. -/
  originalFitness : Option Binary64
  epochs : List EpochResult
  elapsedSeconds : Binary64
deriving DecidableEq, Repr, Inhabited

namespace Report

/-! ## Aggregation -/

/-- The epochs that found a repair. -/
def successful (r : Report) : List EpochResult := r.epochs.filter (·.success)

/-- The epochs that found none. -/
def unsuccessful (r : Report) : List EpochResult := r.epochs.filter (!·.success)

def successCount (r : Report) : Nat := r.successful.length

/-- The members of a list at their first occurrences, without those in `seen`. -/
def firstOccurrences (seen : List String) : List String → List String
  | [] => []
  | s :: rest =>
    if s ∈ seen then firstOccurrences seen rest else s :: firstOccurrences (s :: seen) rest

/-- The different repairs in the order in which they were found. -/
def uniqueRepairs (r : Report) : List String :=
  firstOccurrences [] (r.successful.map (·.diff))

def uniqueRepairCount (r : Report) : Nat := r.uniqueRepairs.length

/-- The share of epochs that found a repair; 0 for a run without epochs. -/
def successRate (r : Report) : Binary64 :=
  if r.epochs.isEmpty then .zero else .ofNat r.successCount / .ofNat r.epochs.length

/-- The first number that is too large for a counter. -/
def counterLimit : Nat := Nat.pow 2 64

/-- The sum of counters. It has to fit into a counter at every step. -/
def sumOfCounters (start : Nat) : List Nat → Except Fault Nat
  | [] => .ok start
  | n :: ns => if start + n < counterLimit then sumOfCounters (start + n) ns else .error .countOverflow

/-- The mean number of evaluations of the epochs that found a repair. -/
def averageEvaluations (r : Report) : Except Fault (Option Binary64) :=
  if r.successful.isEmpty then .ok none
  else do
    let total ← sumOfCounters 0 (r.successful.map (·.fitnessEvaluations))
    return some (.ofNat total / .ofNat r.successCount)

/-! ## Text -/

/-- The line between the parts of a report. -/
def rule : String := String.ofList (List.replicate 40 '-')

def yesNo (b : Bool) : String := if b then "true" else "false"

/-- An epoch in the report. -/
def epochText (e : EpochResult) : String :=
  rule ++ "\n" ++
  "Epoch: " ++ toString e.epoch ++ "\n" ++
  "Success: " ++ yesNo e.success ++ "\n" ++
  "Fitted at iteration: " ++ toString e.fitnessEvaluations ++ "\n" ++
  "Invalid Patch: " ++ toString e.invalidPatchCount ++ "\n" ++
  "Best fitness: " ++ (e.bestFitness.map (·.toText)).getD "none" ++ "\n" ++
  "Diff: \n" ++ e.diff ++ "\n" ++
  rule ++ "\n\n"

/-- A repair in the report. -/
def repairText (diff : String) : String :=
  rule ++ "\n\n" ++ diff ++ "\n" ++ rule ++ "\n\n"

/-- The summary at the end, given the mean number of evaluations. -/
def summaryText (r : Report) (average : Option Binary64) : String :=
  toString r.uniqueRepairCount ++ " types of success patches found.\n" ++
  "Success rate: " ++ toString r.successCount ++ "/" ++ toString r.epochs.length ++
  " (" ++ (r.successRate * .ofNat 100).tenthsText ++ "%)" ++
  (match average with
    | some x => ", " ++ x.tenthsText ++ " evaluations to success on average"
    | none => "") ++ "\n"

/-- The whole report for a reader. -/
def toText (r : Report) : Except Fault String := do
  let average ← r.averageEvaluations
  return "======================RESULTS======================\n" ++
    String.join (r.epochs.map epochText) ++
    "======================SUCCESS PATCHES======================\n" ++
    String.join (r.uniqueRepairs.map repairText) ++
    r.summaryText average

end Report

/-! ## Progress events

A search tells about each evaluation and about the end of each epoch.
-/

/-- What a search is doing. -/
inductive Phase where
  /-- Evaluating the unchanged program. -/
  | warmup
  /-- Evaluating candidates. -/
  | searching
  /-- An epoch has ended. -/
  | epochComplete
deriving DecidableEq, Repr, Inhabited

/-- A moment of a search. -/
structure Event where
  phase : Phase
  /-- The number of the epoch, 0 before the first one. -/
  epoch : Nat
  totalEpochs : Nat
  iteration : Nat
  maxIter : Nat
  status : Option Status
  fitness : Option Binary64
  bestFitness : Option Binary64
  patchLength : Nat
  /-- Whether the candidate became the best one for its fitness. -/
  improved : Bool
deriving DecidableEq, Repr, Inhabited

end ProgramRepair
