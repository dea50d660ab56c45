import ProgramRepair.Search.Epoch

/-!
# Search runs

A run evaluates the unchanged program a few times for a baseline and then runs
its epochs: one after the other on one stream, or side by side, each on a stream
that is derived from the seed and the number of the epoch.
-/

namespace ProgramRepair

variable {ε σ : Type} [DecidableEq ε] [Hashable ε]

/-- A search over a program. -/
structure Search (ε σ : Type) where
  program : Program ε σ
  config : SearchConfig
  /-- The seed of the run, which repeats it. -/
  seed : UInt64
  /-- The stream for epochs that run one after the other. -/
  stream : Stream

namespace Search

/-- A search with valid settings. `fresh` is the seed for settings without one. -/
def new (program : Program ε σ) (config : SearchConfig) (fresh : UInt64) :
    Except ConfigError (Search ε σ) := do
  config.validate
  let seed := (config.randomSeed.map UInt64.ofNat).getD fresh
  return ⟨program, config, seed, .ofSeed seed⟩

/-! ## Baseline -/

/-- The number of bytes that no list exceeds. -/
def memoryLimit : Nat := Nat.pow 2 63

/-- Asks for room for a list before it is filled. -/
def reserve (items itemSize : Nat) : Except Fault Unit :=
  if items * itemSize < memoryLimit then .ok () else .error .capacity

/-- The event of an evaluation of the unchanged program. -/
def warmupEvent (config : SearchConfig) (rep : Nat) (e : Evaluation) : Event where
  phase := .warmup
  epoch := 0
  totalEpochs := config.epoch
  iteration := rep
  maxIter := config.warmupReps
  status := some e.status
  fitness := e.fitness
  bestFitness := none
  patchLength := 0
  improved := false

/-- The fitness of an evaluation that counts for the baseline. -/
def sample (e : Evaluation) : Option Binary64 :=
  if e.status.isComparable then e.fitness else none

/-- The fitness values of the evaluations that are left, the next one with the number `rep`. -/
def warmupSamples (program : Program ε σ) (observer : Observer σ) (config : SearchConfig) :
    (left rep : Nat) → Run σ (List Binary64)
  | 0, _ => return []
  | left + 1, rep => do
    let timeout ← config.timeout
    let e ← program.evaluate .empty timeout
    modify (observer.notify (warmupEvent config rep e))
    let rest ← warmupSamples program observer config left (rep + 1)
    return (sample e).toList ++ rest

/-- The mean of some fitness values, if there are any. -/
def mean (samples : List Binary64) : Option Binary64 :=
  if samples = [] then none else some (Binary64.sum samples / .ofNat samples.length)

/-- The mean fitness of the unchanged program. -/
def warmup (program : Program ε σ) (observer : Observer σ) (config : SearchConfig) :
    Run σ (Option Binary64) := do
  reserve config.warmupReps 8
  return mean (← warmupSamples program observer config config.warmupReps 1)

/-! ## Epochs -/

variable (ctx : SearchContext ε σ)

/-- The epochs that are left, one after the other on one stream. No epoch starts once the search
was asked to stop. -/
def sequentialEpochs : (left epoch : Nat) → Stream → Run σ (List EpochResult × Stream)
  | 0, _, s => return ([], s)
  | left + 1, epoch, s => do
    if ctx.observer.cancelled (← get) then return ([], s)
    let (r, s) ← Epoch.run ctx epoch s
    let (rest, s) ← sequentialEpochs left (epoch + 1) s
    return (r :: rest, s)

/-- The epochs that are left, each on its own stream. Their order does not matter to them; here
they run in the order of their numbers. -/
def parallelEpochs (seed : UInt64) : (left epoch : Nat) → Run σ (List EpochResult)
  | 0, _ => return []
  | left + 1, epoch => do
    if ctx.observer.cancelled (← get) then parallelEpochs seed left (epoch + 1)
    else
      let (r, _) ← Epoch.run ctx epoch (.derive seed (UInt64.ofNat epoch))
      return r :: (← parallelEpochs seed left (epoch + 1))

/-- The size of the result of an epoch in memory. -/
def resultSize : Nat := 104

/-- A whole run: its report and the search as it is after it. -/
def run (search : Search ε σ) (observer : Observer σ) : Run σ (Report × Search ε σ) := do
  let original ← warmup search.program observer search.config
  let ctx : SearchContext ε σ := ⟨search.program, observer, search.config, original⟩
  if search.config.parallelEpochs then
    let epochs ← parallelEpochs ctx search.seed search.config.epoch 1
    return (⟨original, epochs, .zero⟩, search)
  else
    reserve search.config.epoch resultSize
    let (epochs, stream) ← sequentialEpochs ctx search.config.epoch 1 search.stream
    return (⟨original, epochs, .zero⟩, { search with stream })

end Search

end ProgramRepair
