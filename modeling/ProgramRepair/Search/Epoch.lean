import ProgramRepair.Report
import ProgramRepair.Search.Program

/-!
# Epochs

An epoch starts from the empty patch and an empty tabu set. Each iteration
evaluates one neighbour of the best patch so far and keeps it if it is better;
the first candidate that repairs the program ends the epoch. `Epoch.step` is one
iteration, `Epoch.loop` a number of them, and `Epoch.run` the whole epoch with
its result.
-/

namespace ProgramRepair

variable {ε σ : Type} [DecidableEq ε] [Hashable ε]

/-- Who watches a search: it hears of every event and may ask to stop. -/
structure Observer (σ : Type) where
  notify : Event → σ → σ
  /-- Whether the search was asked to stop. -/
  cancelled : σ → Bool

/-- What all epochs of a run have in common. -/
structure SearchContext (ε σ : Type) where
  program : Program ε σ
  observer : Observer σ
  config : SearchConfig
  /-- The fitness of the unchanged program. -/
  original : Option Binary64

namespace Epoch

/-- How far an epoch has come. -/
structure State (ε : Type) [DecidableEq ε] [Hashable ε] where
  /-- The candidates so far. -/
  tabu : Tabu ε
  best : Patch ε
  bestFitness : Option Binary64
  evaluations : Nat
  /-- How many candidates broke or ran out of time. -/
  invalid : Nat
  stream : Stream

/-- The start of an epoch. -/
def start (original : Option Binary64) (stream : Stream) : State ε :=
  ⟨.empty, .empty, original, 0, 0, stream⟩

/-- Why an epoch ends. -/
inductive Ending where
  /-- A candidate repaired the program. -/
  | repaired
  /-- The search was asked to stop. -/
  | cancelled
  /-- No fresh neighbour was found. -/
  | exhausted
  /-- All iterations were used. -/
  | spent
deriving DecidableEq, Repr

/-- Whether a result repairs the program. -/
def solves (e : Evaluation) : Bool := e.status.isComparable && isRepaired e.fitness

/-- Whether a result is better than the best one so far. -/
def improves (e : Evaluation) (best : Option Binary64) : Bool :=
  e.status.isComparable && isBetter e.fitness best

/-- The state after a candidate was evaluated. A candidate that repairs the program is kept even
if it is no better than the best one. -/
def State.record (s : State ε) (draw : NeighbourDraw ε) (candidate : Patch ε) (e : Evaluation) :
    State ε :=
  let keep := improves e s.bestFitness || solves e
  { tabu := draw.tabu
    best := if keep then candidate else s.best
    bestFitness := if keep then e.fitness else s.bestFitness
    evaluations := s.evaluations + 1
    invalid := s.invalid + (if e.status.isInvalid then 1 else 0)
    stream := draw.stream }

variable (ctx : SearchContext ε σ) (epoch : Nat)

/-- The event of an evaluated candidate. -/
def searchingEvent (iteration : Nat) (s : State ε) (candidate : Patch ε) (e : Evaluation)
    (improved : Bool) : Event where
  phase := .searching
  epoch := epoch
  totalEpochs := ctx.config.epoch
  iteration := iteration
  maxIter := ctx.config.maxIter
  status := some e.status
  fitness := e.fitness
  bestFitness := s.bestFitness
  patchLength := candidate.length
  improved := improved

/-- One iteration: the state after it and, if the epoch ends with it, why. -/
def step (timeout : Duration) (iteration : Nat) (s : State ε) : Run σ (State ε × Option Ending) := do
  if ctx.observer.cancelled (← get) then return (s, some .cancelled)
  let draw ← neighbour ctx.program ctx.config.operators s.best s.tabu s.stream
  match draw.found with
  | none => return ({ s with tabu := draw.tabu, stream := draw.stream }, some .exhausted)
  | some candidate =>
    let e ← ctx.program.evaluate candidate timeout
    let improved := improves e s.bestFitness
    let s := s.record draw candidate e
    modify (ctx.observer.notify (searchingEvent ctx epoch iteration s candidate e improved))
    return (s, if solves e then some .repaired else none)

/-- The iterations that are left, the next one with the number `iteration`. -/
def loop (timeout : Duration) : (left iteration : Nat) → State ε → Run σ (State ε × Ending)
  | 0, _, s => return (s, .spent)
  | left + 1, iteration, s => do
    match ← step ctx epoch timeout iteration s with
    | (s, some ending) => return (s, ending)
    | (s, none) => loop timeout left (iteration + 1) s

/-- The result of an epoch that came to its end. -/
def result (s : State ε) (ending : Ending) : Except Fault EpochResult := do
  let bestPatch ← s.best.edits.mapM ctx.program.describe
  return {
    epoch := epoch
    success := ending = .repaired
    fitnessEvaluations := s.evaluations
    invalidPatchCount := s.invalid
    bestFitness := s.bestFitness
    bestPatch := bestPatch
    diff := ctx.program.diff s.best
    elapsedSeconds := .zero }

/-- The event at the end of an epoch. -/
def completeEvent (s : State ε) : Event where
  phase := .epochComplete
  epoch := epoch
  totalEpochs := ctx.config.epoch
  iteration := s.evaluations
  maxIter := ctx.config.maxIter
  status := none
  fitness := none
  bestFitness := s.bestFitness
  patchLength := s.best.length
  improved := false

/-- A whole epoch: its result and what is left of the stream. -/
def run (stream : Stream) : Run σ (EpochResult × Stream) := do
  let timeout ← ctx.config.timeout
  let (s, ending) ← loop ctx epoch timeout ctx.config.maxIter 1 (start ctx.original stream)
  let r ← result ctx epoch s ending
  modify (ctx.observer.notify (completeEvent ctx epoch s))
  return (r, s.stream)

end Epoch

end ProgramRepair
