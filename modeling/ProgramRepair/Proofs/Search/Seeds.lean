import ProgramRepair.Proofs.Random.Stream
import ProgramRepair.Proofs.Search.Scheduling

/-!
# Epochs side by side draw from streams of their own

An epoch that runs beside others makes its choices on a stream that is derived from the master
seed and the number of the epoch. `DrawsFrom` says which stream all choices of an epoch came from.
Main statements:

* `epochSeed_inj`, `epochSeed_ne_master`: the seeds of the epochs of a run are different from each
  other and from the master seed, on which epochs run one after the other;
* `Schedule.begun`: in every schedule each epoch draws from the stream of its own seed;
* `parallel_epochs_share_no_seed`: both of them together.
-/

namespace ProgramRepair.Search

open Epoch

/-! ## Seeds of epochs -/

/-- The seed of the epoch with a given number under a master seed. -/
def epochSeed (seed : UInt64) (epoch : Nat) : UInt64 :=
  Stream.deriveSeed seed (UInt64.ofNat epoch)

section Seeds

variable {seed : UInt64} {n i j : Nat}

/-- The numbers of epochs fit in a word. -/
theorem toNat_ofNat_of_mem (hn : n < 2 ^ 64) (hi : i ∈ List.range' 1 n) :
    (UInt64.ofNat i).toNat = i := by
  rw [List.mem_range'_1] at hi
  have hword : i < 2 ^ 64 := by omega
  exact UInt64.toNat_ofNat_of_lt' hword

theorem epochSeed_inj (hn : n < 2 ^ 64) (hi : i ∈ List.range' 1 n) (hj : j ∈ List.range' 1 n)
    (h : epochSeed seed i = epochSeed seed j) : i = j := by
  have hstream : UInt64.ofNat i = UInt64.ofNat j := Stream.deriveSeed_inj.mp h
  rw [← toNat_ofNat_of_mem hn hi, ← toNat_ofNat_of_mem hn hj, hstream]

/-- Epochs are counted from 1, and only stream 0 has the master seed. -/
theorem epochSeed_ne_master (hn : n < 2 ^ 64) (hi : i ∈ List.range' 1 n) :
    epochSeed seed i ≠ seed := by
  intro h
  have hstream : UInt64.ofNat i = 0 := Stream.deriveSeed_eq_self_iff.mp h
  have hzero : 0 = i := by
    rw [← toNat_ofNat_of_mem hn hi, hstream]
    rfl
  rw [List.mem_range'_1] at hi
  omega

end Seeds

variable {ε σ : Type} [DecidableEq ε] [Hashable ε]

omit [DecidableEq ε] [Hashable ε] in
/-- Epochs one after the other begin on the stream of the master seed, which is stream 0. -/
theorem stream_of_new {program : Program ε σ} {config : SearchConfig} {fresh : UInt64}
    {search : Search ε σ} (h : Search.new program config fresh = .ok search) :
    search.stream = .ofSeed search.seed ∧ search.stream = .derive search.seed 0 := by
  unfold Search.new at h
  cases hvalid : config.validate with
  | error e =>
    rw [hvalid] at h
    cases h
  | ok u =>
    rw [hvalid] at h
    cases h
    constructor
    · rfl
    · rw [Stream.derive, Stream.deriveSeed_zero]

/-! ## Where the choices of an epoch come from -/

section Draws

variable (ctx : SearchContext ε σ) (seed : UInt64) (epoch : Nat)

/-- An epoch that was started on the stream `first` stands at a position. Each of its steps goes on
with what the steps before it left of that stream. -/
inductive DrawsFrom (first : Stream) : Position ε → Prop
  | started (timeout : Duration) :
      DrawsFrom first (.between ⟨timeout, ctx.config.maxIter, 1, start ctx.original first⟩)
  | next {p q : Position ε} {w w' : σ} (hearlier : DrawsFrom first p)
      (hstep : advance ctx seed epoch p w = .ok (q, w')) : DrawsFrom first q

/-- An epoch waits, was stopped before it was started, or draws from the stream of its seed. -/
def Begun (p : Position ε) : Prop :=
  p = .waiting ∨ p = .done none ∨ DrawsFrom ctx seed epoch (.ofSeed (epochSeed seed epoch)) p

end Draws

variable {ctx : SearchContext ε σ} {seed : UInt64} {n epoch : Nat}

/-- An epoch that may start does so on the stream of its seed. -/
theorem advance_waiting {p : Position ε} {w w' : σ}
    (h : advance ctx seed epoch .waiting w = .ok (p, w')) :
    p = .done none ∨ ∃ timeout, p = .between ⟨timeout, ctx.config.maxIter, 1,
      start ctx.original (.ofSeed (epochSeed seed epoch))⟩ := by
  rw [advance, Run.get_bind_ok] at h
  cases hcancelled : ctx.observer.cancelled w with
  | true =>
    rw [if_pos hcancelled, Run.pure_ok] at h
    exact .inl h.1.symm
  | false =>
    rw [if_neg (ne_true_of_eq_false hcancelled)] at h
    obtain ⟨timeout, -, h⟩ := Run.lift_bind_ok.mp h
    obtain ⟨hp, -⟩ := Run.pure_ok.mp h
    exact .inr ⟨timeout, hp.symm⟩

theorem Begun.next {p q : Position ε} {w w' : σ} (h : Begun ctx seed epoch p)
    (hstep : advance ctx seed epoch p w = .ok (q, w')) : Begun ctx seed epoch q := by
  rcases h with rfl | rfl | hdraws
  · rcases advance_waiting hstep with rfl | ⟨timeout, rfl⟩
    · exact .inr (.inl rfl)
    · exact .inr (.inr (.started timeout))
  · -- a stopped epoch stays where it is
    obtain ⟨hq, -⟩ := Run.pure_ok.mp hstep
    exact .inr (.inl hq.symm)
  · exact .inr (.inr (hdraws.next hstep))

/-- Whatever the order of the steps, each epoch draws from the stream of its own seed. -/
theorem Schedule.begun {moves : List (Nat × σ)} {b : Nat → Position ε}
    (h : Schedule ctx seed n (fun _ => .waiting) moves b) (k : Nat) : Begun ctx seed k (b k) := by
  generalize ha : (fun _ : Nat => (Position.waiting : Position ε)) = a at h
  induction h with
  | start =>
    subst ha
    exact .inl rfl
  | @next b moves mover p w w' hearlier hmover hbusy hstep ih =>
    -- only the epoch that moved stands elsewhere now
    by_cases hk : k = mover
    · subst hk
      rw [Function.update_self]
      exact ih.next hstep
    · rw [Function.update_of_ne hk]
      exact ih

/-! ## Together -/

/-- Streams with different numbers have different seeds under every master seed, and only stream 0
has the master seed itself, with which epochs that run one after the other begin. Epochs that run
side by side, in any order of their steps, draw from the streams of their own seeds: no two of them
have the same one, and none has the master seed. The search itself runs such a schedule. -/
theorem parallel_epochs_share_no_seed :
    (∀ seed a b : UInt64, Stream.deriveSeed seed a = Stream.deriveSeed seed b ↔ a = b) ∧
    (∀ seed a : UInt64, Stream.deriveSeed seed a = seed ↔ a = 0) ∧
    (∀ (program : Program ε σ) config fresh search,
      Search.new program config fresh = .ok search →
        search.stream = .ofSeed search.seed ∧ search.stream = .derive search.seed 0) ∧
    ∀ search : Search ε σ, search.config.epoch < 2 ^ 64 →
      (∀ i ∈ List.range' 1 search.config.epoch, epochSeed search.seed i ≠ search.seed ∧
        ∀ j ∈ List.range' 1 search.config.epoch, i ≠ j →
          epochSeed search.seed i ≠ epochSeed search.seed j) ∧
      (∀ observer original moves b, Schedule (search.context observer original) search.seed
        search.config.epoch (fun _ => .waiting) moves b →
          ∀ k, Begun (search.context observer original) search.seed k (b k)) ∧
      ∀ observer w report search' w', search.config.parallelEpochs = true →
        search.run observer w = .ok ((report, search'), w') →
          ∃ moves, ParallelRun search observer w moves report := by
  refine ⟨?_, ?_, ?_, ?_⟩
  · intro seed a b
    exact Stream.deriveSeed_inj
  · intro seed a
    exact Stream.deriveSeed_eq_self_iff
  · intro program config fresh search hnew
    exact stream_of_new hnew
  · intro search hn
    refine ⟨?_, ?_, ?_⟩
    · intro i hi
      constructor
      · exact epochSeed_ne_master hn hi
      · intro j hj hij hsame
        exact hij (epochSeed_inj hn hi hj hsame)
    · intro observer original moves b hschedule k
      exact hschedule.begun k
    · intro observer w report search' w' hparallel hrun
      exact (exists_parallelRun_of_run hparallel hrun).2

/-- Both epochs of a search have started, in the order 2, 1, and draw from different streams. -/
theorem sideBySide_share_no_seed :
    sideBySide.config.epoch < 2 ^ 64 ∧
    ∃ moves b, Schedule (sideBySide.context silent none) sideBySide.seed sideBySide.config.epoch
        (fun _ => .waiting) moves b ∧
      (∀ k ∈ [1, 2], DrawsFrom (sideBySide.context silent none) sideBySide.seed k
        (.ofSeed (epochSeed sideBySide.seed k)) (b k)) ∧
      epochSeed sideBySide.seed 1 ≠ epochSeed sideBySide.seed 2 ∧
      epochSeed sideBySide.seed 1 ≠ sideBySide.seed := by
  have hn : sideBySide.config.epoch < 2 ^ 64 := by decide
  obtain ⟨timeout, htimeout⟩ : ∃ timeout, sideBySide.config.timeout = .ok timeout :=
    Duration.exists_ofSeconds (x := .one) rfl rfl (by decide +kernel)
  let first (k : Nat) : Position Rehearsal.Token := .between ⟨timeout, 1, 1,
    start none (.derive sideBySide.seed (UInt64.ofNat k))⟩
  have hstart : ∀ k w, advance (sideBySide.context silent none) sideBySide.seed k .waiting w =
      .ok (first k, w) := by
    intro k w
    have hgo : (sideBySide.context silent none).observer.cancelled w = false := rfl
    rw [advance, Run.get_bind_ok, if_neg (ne_true_of_eq_false hgo), Run.lift_bind_ok]
    exact ⟨timeout, htimeout, Run.pure_ok.mpr ⟨rfl, rfl⟩⟩
  obtain ⟨-, -, -, hsearch⟩ := parallel_epochs_share_no_seed (ε := Rehearsal.Token)
    (σ := Rehearsal.World)
  obtain ⟨hseeds, hbegun, -⟩ := hsearch sideBySide hn
  have hschedule : Schedule (sideBySide.context silent none) sideBySide.seed
      sideBySide.config.epoch (fun _ => .waiting) _ _ :=
    .next (w := ⟨[0], [], none, false⟩) (.next (w := ⟨[0], [], none, false⟩) (.start _)
      (by decide : 2 ∈ List.range' 1 2) rfl (hstart 2 _)) (by decide : 1 ∈ List.range' 1 2) rfl
      (hstart 1 _)
  refine ⟨hn, _, _, hschedule, ?_, ?_, (hseeds 1 (by decide)).1⟩
  · intro k hk
    rcases hbegun _ _ _ _ hschedule k with hwaiting | hdone | hdraws
    · exfalso
      rcases List.mem_pair.mp hk with rfl | rfl <;> cases hwaiting
    · exfalso
      rcases List.mem_pair.mp hk with rfl | rfl <;> cases hdone
    · exact hdraws
  · exact (hseeds 1 (by decide)).2 2 (by decide) (by decide)

end ProgramRepair.Search
