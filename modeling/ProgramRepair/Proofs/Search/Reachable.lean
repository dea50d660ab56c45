import ProgramRepair.Proofs.Search.Stopping

/-!
# Where the epochs of a search can stand

`Reachable` lists the positions that an epoch can come to, with what is seen of it on the way,
in worlds that may change in any way between two steps. `ComesTo` says the same of an epoch of
a search, whether its epochs run one after the other or side by side. Main statements:

* `Journey.explained`: every point of a search was reached by such steps;
* `ComesTo.reachable`: an epoch of a search only comes to positions that are reachable from the
  baseline of the search;
* `MayReport.exists_comesTo`: every result in a report is one that an epoch of the search came
  to.

What all epochs of all searches have in common is proved by induction on `Reachable`.
-/

namespace ProgramRepair

variable {ε σ : Type}

/-- The program gives this evaluation for the patch, in some world and some time. -/
def Program.Answers (program : Program ε σ) (patch : Patch ε) (e : Evaluation) : Prop :=
  ∃ timeout w w', program.evaluate patch timeout w = .ok (e, w')

namespace Search

open Epoch

/-- What is seen of an epoch in some moves. -/
def seenOf (epoch : Nat) (moves : List (Move ε σ)) : List (Sighting ε) :=
  sightingsOf (moves.filter (·.epoch = epoch))

section Moves

variable {moves : List (Move ε σ)} {m : Move ε σ} {k : Nat}

theorem seenOf_concat_self (h : m.epoch = k) :
    seenOf k (moves ++ [m]) = seenOf k moves ++ m.seen := by
  simp [seenOf, h]

theorem seenOf_concat_of_ne (h : m.epoch ≠ k) : seenOf k (moves ++ [m]) = seenOf k moves := by
  simp [seenOf, h]

/-- A move of which nothing is seen changes nothing. -/
theorem seenOf_concat_of_nil (h : m.seen = []) : seenOf k (moves ++ [m]) = seenOf k moves := by
  by_cases hk : m.epoch = k
  · rw [seenOf_concat_self hk, h, List.append_nil]
  · exact seenOf_concat_of_ne hk

end Moves

/-! ## Baselines -/

section Baselines

variable (search : Search ε σ)

/-- These samples come of all but `left` of the evaluations of the unchanged program. -/
def IsSampled (left : Nat) (samples : List Binary64) : Prop :=
  ∃ es : List Evaluation, es.length + left = search.config.warmupReps ∧
    samples = es.filterMap sample ∧ ∀ e ∈ es, search.program.Answers .empty e

/-- This is the mean of the samples from all evaluations of the unchanged program. -/
def IsBaselineMean (original : Option Binary64) : Prop :=
  ∃ samples, search.IsSampled 0 samples ∧ original = mean samples

variable {search}

theorem IsSampled.next {left : Nat} {samples : List Binary64} {e : Evaluation}
    (h : search.IsSampled (left + 1) samples) (he : search.program.Answers .empty e) :
    search.IsSampled left (samples ++ (sample e).toList) := by
  obtain ⟨es, hlength, rfl, hes⟩ := h
  refine ⟨es ++ [e], ?_, ?_, List.forall_mem_append.mpr ⟨hes, List.forall_mem_singleton.mpr he⟩⟩
  · rw [List.length_append, List.length_singleton]
    omega
  · rw [List.filterMap_append]
    cases hsample : sample e <;> simp [hsample]

end Baselines

variable [DecidableEq ε] [Hashable ε]

/-! ## Positions of an epoch -/

section Reachable

variable (ctx : SearchContext ε σ) (seed : UInt64) (epoch : Nat)

/-- An epoch of which `seen` was seen may stand at a position. On a worker it waits at first; where
it is the only one, it is started at once, on any stream. -/
inductive Reachable : (seen : List (Sighting ε)) → Position ε → Prop
  | waiting : Reachable [] .waiting
  | started {timeout : Duration} {stream : Stream} :
      Reachable [] (.between ⟨timeout, ctx.config.maxIter, 1, start ctx.original stream⟩)
  | next {seen more : List (Sighting ε)} {p q : Position ε} {w w' : σ}
      (hearlier : Reachable seen p) (hstep : Advances ctx seed epoch p w more q w') :
      Reachable (seen ++ more) q

end Reachable

variable (search : Search ε σ) (observer : Observer σ)

/-- The epoch `k` of a search with the baseline `original` stands at a position in some run of the
search, and `seen` was seen of it. -/
inductive ComesTo : (original : Option Binary64) → (k : Nat) → List (Sighting ε) → Position ε → Prop
  | underway {original : Option Binary64} {results : List EpochResult} {p : Position ε}
      {moves : List (Move ε σ)}
      (hmoves : Journey search observer .start moves (.within original results p)) :
      ComesTo original (results.length + 1) (seenOf (results.length + 1) moves) p
  | finished {report : Report} {stream : Stream} {r : EpochResult} {moves : List (Move ε σ)}
      (hmoves : Journey search observer .start moves (.finished report stream))
      (hr : r ∈ report.epochs) :
      ComesTo report.originalFitness r.epoch (seenOf r.epoch moves) (.done (some r))
  | beside {original : Option Binary64} {w w' : σ} {moves : List (Move ε σ)}
      {b : Nat → Position ε} {k : Nat}
      (hwarmup : warmup search.program observer search.config w = .ok (original, w'))
      (hmoves : Watched (search.context observer original) search.seed search.config.epoch
        (fun _ => .waiting) moves b) :
      ComesTo original k (seenOf k moves) (b k)

/-- The search comes to the report in some run: by itself, in worlds that others may change, or
with its epochs side by side. -/
inductive MayReport (report : Report) : Prop
  | alone {search' : Search ε σ} {w w' : σ}
      (hrun : search.run observer w = .ok ((report, search'), w'))
  | inTurn {stream : Stream} {moves : List (Move ε σ)}
      (hmoves : Journey search observer .start moves (.finished report stream))
  | beside {w : σ} {steps : List (Nat × σ)} (hsteps : ParallelRun search observer w steps report)

variable {search observer} {original : Option Binary64} {p : Point ε} {moves : List (Move ε σ)}
  {m : Move ε σ}

/-! ## Journeys -/

variable (search observer) in
/-- The results come of epochs that reached them in the moves. -/
def Reached (original : Option Binary64) (moves : List (Move ε σ)) (results : List EpochResult) :
    Prop :=
  ∀ r ∈ results, Reachable (search.context observer original) search.seed r.epoch
    (seenOf r.epoch moves) (.done (some r))

variable (search observer) in
/-- How the moves lead to the point. -/
def Point.Explained (moves : List (Move ε σ)) : Point ε → Prop
  | .start => moves = []
  | .warmup left _ samples => search.IsSampled left samples ∧ ∀ k, 0 < k → seenOf k moves = []
  | .warm left _ samples e => search.IsSampled (left + 1) samples ∧
      search.program.Answers .empty e ∧ ∀ k, 0 < k → seenOf k moves = []
  | .epochs original results _ => search.IsBaselineMean original ∧
      Reached search observer original moves results ∧
      ∀ k, results.length < k → seenOf k moves = []
  | .within original results p => search.IsBaselineMean original ∧
      Reached search observer original moves results ∧
      Reachable (search.context observer original) search.seed (results.length + 1)
        (seenOf (results.length + 1) moves) p ∧
      ∀ k, results.length + 1 < k → seenOf k moves = []
  | .finished report _ => search.IsBaselineMean report.originalFitness ∧
      Reached search observer report.originalFitness moves report.epochs

/-- A move of a later epoch changes nothing that is seen of the epochs that are over. -/
theorem Reached.later {results : List EpochResult}
    (h : Reached search observer original moves results)
    (hlater : ∀ r ∈ results, m.epoch ≠ r.epoch) :
    Reached search observer original (moves ++ [m]) results := by
  intro r hr
  rw [seenOf_concat_of_ne (hlater r hr)]
  exact h r hr

theorem Reached.of_nil {results : List EpochResult}
    (h : Reached search observer original moves results) (hseen : m.seen = []) :
    Reached search observer original (moves ++ [m]) results := by
  intro r hr
  rw [seenOf_concat_of_nil hseen]
  exact h r hr

/-- Every move keeps the explanation. -/
theorem Point.Explained.next {q : Point ε} (h : p.Explained search observer moves)
    (haccounted : Accounted search moves p) (hepoch : m.epoch = p.epoch)
    (hstep : Proceeds search observer p m.found m.seen q m.left) :
    q.Explained search observer (moves ++ [m]) := by
  obtain ⟨epoch, found, left, seen⟩ := m
  dsimp only at hepoch hstep
  cases hstep with
  | reserves =>
    obtain rfl : moves = [] := h
    refine ⟨⟨[], Nat.zero_add _, rfl, List.forall_mem_nil _⟩, fun k hk => ?_⟩
    exact seenOf_concat_of_nil rfl
  | evaluates htimeout heval =>
    obtain ⟨hsampled, hnone⟩ := h
    refine ⟨hsampled, ⟨_, _, _, heval⟩, fun k hk => ?_⟩
    rw [seenOf_concat_of_ne (hepoch.trans_ne (Nat.ne_of_lt hk))]
    exact hnone k hk
  | hears =>
    obtain ⟨hsampled, he, hnone⟩ := h
    refine ⟨hsampled.next he, fun k hk => ?_⟩
    rw [seenOf_concat_of_ne (hepoch.trans_ne (Nat.ne_of_lt hk))]
    exact hnone k hk
  | settles =>
    obtain ⟨hsampled, hnone⟩ := h
    refine ⟨⟨_, hsampled, rfl⟩, List.forall_mem_nil _, fun k hk => ?_⟩
    rw [seenOf_concat_of_nil rfl]
    exact hnone k hk
  | completes | stops =>
    obtain ⟨hmean, hresults, -⟩ := h
    exact ⟨hmean, hresults.of_nil rfl⟩
  | @opens original results stream timeout w hleft hgo htimeout =>
    obtain ⟨hmean, hresults, hnone⟩ := h
    refine ⟨hmean, hresults.of_nil rfl, ?_, fun k hk => ?_⟩
    · rw [seenOf_concat_of_nil rfl, hnone _ (Nat.lt_succ_self _)]
      exact .started
    · rw [seenOf_concat_of_nil rfl]
      exact hnone k (Nat.lt_of_succ_lt hk)
  | @within original results p p' seen w w' hstep hbusy =>
    obtain ⟨hmean, hresults, hreachable, hnone⟩ := h
    refine ⟨hmean, hresults.later fun r hr => ?_, ?_, fun k hk => ?_⟩
    · exact hepoch.trans_ne (Nat.ne_of_gt (haccounted.epoch_lt hr))
    · rw [seenOf_concat_self hepoch]
      exact hreachable.next hstep
    · rw [seenOf_concat_of_ne (hepoch.trans_ne (Nat.ne_of_lt hk))]
      exact hnone k hk
  | @closes original results s ending r w hresult =>
    obtain ⟨hmean, hresults, hreachable, hnone⟩ := h
    have hnumber : r.epoch = results.length + 1 := by
      obtain ⟨_, -, rfl⟩ := result_ok_iff.mp hresult
      rfl
    refine ⟨hmean, List.forall_mem_append.mpr ⟨hresults.later fun r hr => ?_,
      List.forall_mem_singleton.mpr ?_⟩, fun k hk => ?_⟩
    · exact hepoch.trans_ne (Nat.ne_of_gt (haccounted.epoch_lt hr))
    · rw [hnumber, seenOf_concat_self hepoch]
      exact hreachable.next (.concludes (w := found) hresult)
    · rw [List.length_append, List.length_singleton] at hk
      rw [seenOf_concat_of_ne (hepoch.trans_ne (Nat.ne_of_lt hk))]
      exact hnone k hk

theorem Journey.explained (h : Journey search observer .start moves p) :
    p.Explained search observer moves := by
  induction h with
  | stay => rfl
  | next hearlier hepoch hstep ih => exact ih.next hearlier.accounted hepoch hstep

/-! ## Epochs side by side -/

/-- Each epoch of a schedule is where its own steps led it. -/
theorem Watched.reachable {ctx : SearchContext ε σ} {seed : UInt64} {n : Nat}
    {b : Nat → Position ε} (h : Watched ctx seed n (fun _ => .waiting) moves b) (k : Nat) :
    Reachable ctx seed k (seenOf k moves) (b k) := by
  induction h with
  | start => exact .waiting
  | @next b moves m p hearlier hepoch hstep ih =>
    by_cases hk : k = m.epoch
    · subst hk
      rw [Function.update_self, seenOf_concat_self rfl]
      exact ih.next hstep
    · rw [Function.update_of_ne hk, seenOf_concat_of_ne (Ne.symm hk)]
      exact ih

/-- A baseline that was run is the mean of its samples. -/
theorem isBaselineMean_of_warmup {w w' : σ}
    (h : warmup search.program observer search.config w = .ok (original, w')) :
    search.IsBaselineMean original := by
  obtain ⟨⟨⟩, hroom, h⟩ := Run.lift_bind_ok.mp h
  obtain ⟨samples, w₁, hsamples, h⟩ := Run.bind_ok.mp h
  obtain ⟨rfl, rfl⟩ := Run.pure_ok.mp h
  obtain ⟨rep, hreached⟩ : ∃ rep, Reaches search observer (.warmup search.config.warmupReps 1 []) w
      (.warmup 0 rep samples) w₁ := reaches_of_warmupSamples [] hsamples
  obtain ⟨moves, hmoves, -⟩ := (Proceeds.reserves hroom).reaches.trans hreached
  exact ⟨samples, hmoves.explained.1, rfl⟩

/-! ## Searches -/

/-- An epoch of a search stands where its own steps can lead it from the baseline of the search. -/
theorem ComesTo.reachable {k : Nat} {seen : List (Sighting ε)} {p : Position ε}
    (h : ComesTo search observer original k seen p) :
    search.IsBaselineMean original ∧
      Reachable (search.context observer original) search.seed k seen p := by
  cases h with
  | underway hmoves =>
    obtain ⟨hmean, -, hreachable, -⟩ := hmoves.explained
    exact ⟨hmean, hreachable⟩
  | finished hmoves hr =>
    obtain ⟨hmean, hresults⟩ := hmoves.explained
    exact ⟨hmean, hresults _ hr⟩
  | beside hwarmup hmoves => exact ⟨isBaselineMean_of_warmup hwarmup, hmoves.reachable _⟩

/-- Every result of a schedule is one that its epoch came to. -/
theorem comesTo_of_parallelRun {w : σ} {steps : List (Nat × σ)} {report : Report}
    (h : ParallelRun search observer w steps report) :
    ∀ r ∈ report.epochs, ∃ seen,
      ComesTo search observer report.originalFitness r.epoch seen (.done (some r)) := by
  obtain @⟨original, w', steps, b, hwarmup, hschedule, hdone⟩ := h
  intro r hr
  obtain ⟨k, hk, hresult⟩ := List.mem_filterMap.mp hr
  obtain ⟨moves, hmoves, -⟩ := hschedule.exists_watched
  obtain rfl : r.epoch = k := hschedule.epoch_of_result? hresult
  have hposition : b r.epoch = .done (some r) := by
    cases hb : b r.epoch with
    | done result =>
      rw [hb] at hresult
      exact congrArg Position.done hresult
    | _ =>
      rw [hb] at hresult
      cases hresult
  have hcomes : ComesTo search observer original r.epoch (seenOf r.epoch moves) (b r.epoch) :=
    .beside hwarmup hmoves
  rw [hposition] at hcomes
  exact ⟨_, hcomes⟩

/-- A run by itself is one in which nobody else changes the world. -/
theorem MayReport.inTurn_or_beside {report : Report} (h : MayReport search observer report) :
    (∃ moves stream, Journey search observer .start moves (.finished report stream)) ∨
      ∃ w steps, ParallelRun search observer w steps report := by
  cases h with
  | alone hrun =>
    cases hparallel : search.config.parallelEpochs with
    | true =>
      obtain ⟨-, steps, hsteps⟩ := exists_parallelRun_of_run hparallel hrun
      exact .inr ⟨_, steps, hsteps⟩
    | false =>
      obtain ⟨moves, hmoves, -⟩ := exists_journey_of_run hparallel hrun
      exact .inl ⟨moves, _, hmoves⟩
  | inTurn hmoves => exact .inl ⟨_, _, hmoves⟩
  | beside hsteps => exact .inr ⟨_, _, hsteps⟩

/-- Every result in a report is one that its epoch came to. -/
theorem MayReport.exists_comesTo {report : Report} (h : MayReport search observer report) :
    ∀ r ∈ report.epochs, ∃ seen,
      ComesTo search observer report.originalFitness r.epoch seen (.done (some r)) := by
  obtain ⟨moves, stream, hmoves⟩ | ⟨w, steps, hsteps⟩ := h.inTurn_or_beside
  · exact fun r hr => ⟨_, .finished hmoves hr⟩
  · exact comesTo_of_parallelRun hsteps

/-- The baseline in a report is the mean of its samples. -/
theorem MayReport.isBaselineMean {report : Report} (h : MayReport search observer report) :
    search.IsBaselineMean report.originalFitness := by
  obtain ⟨moves, stream, hmoves⟩ | ⟨w, steps, hsteps⟩ := h.inTurn_or_beside
  · exact hmoves.explained.1
  · obtain @⟨original, w', steps, b, hwarmup, hschedule, hdone⟩ := hsteps
    exact isBaselineMean_of_warmup hwarmup

end Search

end ProgramRepair
