import ProgramRepair.Proofs.Search.Recording
import ProgramRepair.Search.Rehearsal

/-!
# Repairs that are found

An epoch counts as successful exactly if a candidate that it evaluated repairs
the program, and then it shows that candidate. Main statements:

* `Course.repaired_or_unsolved`: a course ends at the first trial that solves,
  with its candidate as the best one, or has no such trial;
* `success_iff_repair_evaluated`: the same of a whole epoch, whatever the program
  answers and whenever the search is asked to stop.
-/

namespace ProgramRepair

variable {ε σ : Type}

/-- The result `r` is that of an epoch with this candidate as its repair. -/
structure EpochResult.Shows (ctx : SearchContext ε σ) (r : EpochResult) (candidate : Patch ε) :
    Prop where
  bestFitness : ∃ f, r.bestFitness = some f ∧ f.isZero = true
  /-- The words are those for the edits of the candidate, in their order. -/
  bestPatch : candidate.edits.mapM ctx.program.describe = .ok r.bestPatch
  diff : r.diff = ctx.program.diff candidate

/-- An evaluation shows a repair: the tests ran to their end and the fitness is zero. -/
def Evaluation.Repairs (e : Evaluation) : Prop :=
  e.status ≠ .invalid ∧ e.status ≠ .timeout ∧ ∃ f, e.fitness = some f ∧ f.isZero = true

theorem Status.isComparable_iff {s : Status} :
    s.isComparable = true ↔ s ≠ .invalid ∧ s ≠ .timeout := by
  cases s <;> simp [isComparable]

theorem isRepaired_iff {fitness : Option Binary64} :
    isRepaired fitness = true ↔ ∃ f, fitness = some f ∧ f.isZero = true := by
  cases fitness <;> simp [isRepaired]

namespace Epoch

theorem solves_iff {e : Evaluation} : solves e = true ↔ e.Repairs := by
  rw [solves, Bool.and_eq_true, Status.isComparable_iff, isRepaired_iff, and_assoc]
  rfl

variable [DecidableEq ε] [Hashable ε]

/-! ## Courses -/

/-- A trial that solves is kept, even if it is no better than the best one before it. -/
theorem Trial.after_of_solves {t : Trial ε} (h : solves t.evaluation = true) :
    t.after.best = t.candidate ∧ t.after.bestFitness = t.evaluation.fitness := by
  have hkeep : (improves t.evaluation t.before.bestFitness || solves t.evaluation) = true := by
    rw [h, Bool.or_true]
  exact ⟨if_pos hkeep, if_pos hkeep⟩

variable {ctx : SearchContext ε σ} {epoch : Nat} {timeout : Duration}

/-- A course ends at the first trial that solves, or has no such trial. -/
theorem Course.repaired_or_unsolved {left iteration : Nat} {s final : State ε} {w w' : σ}
    {trials : List (Trial ε)} {ending : Ending}
    (h : Course ctx epoch timeout left iteration s w trials final ending w') :
    (ending = .repaired ∧ ∃ earlier t, trials = earlier ++ [t] ∧ solves t.evaluation = true ∧
      (∀ u ∈ earlier, solves u.evaluation = false) ∧ t.after = final) ∨
    (ending ≠ .repaired ∧ ∀ u ∈ trials, solves u.evaluation = false) := by
  induction h with
  -- only a trial that solves ends a course as repaired
  | spent | cancelled | exhausted => exact .inr ⟨by decide, List.forall_mem_nil _⟩
  | @repaired left t w w' ht hsolves =>
    exact .inl ⟨rfl, [], t, rfl, hsolves, List.forall_mem_nil _, rfl⟩
  | @next left t w w₁ w' trials final ending ht hsolves hrest ih =>
    obtain ⟨hending, earlier, u, rfl, husolves, hearlier, hafter⟩ | ⟨hending, hunsolved⟩ := ih
    · refine .inl ⟨hending, t :: earlier, u, rfl, husolves, ?_, hafter⟩
      exact List.forall_mem_cons.mpr ⟨hsolves, hearlier⟩
    · exact .inr ⟨hending, List.forall_mem_cons.mpr ⟨hsolves, hunsolved⟩⟩

/-- Where no trial solves, no outcome is a repair. -/
theorem forall_outcome_not_repairs {trials : List (Trial ε)}
    (h : ∀ u ∈ trials, solves u.evaluation = false) :
    ∀ p ∈ trials.map Trial.outcome, ¬ p.2.Repairs := by
  intro p hp
  obtain ⟨u, hu, rfl⟩ := List.mem_map.mp hp
  change ¬ u.evaluation.Repairs
  rw [← solves_iff, h u hu]
  exact Bool.false_ne_true

/-! ## Results -/

/-- The result of an epoch whose last trial solves is that of its candidate. -/
theorem shows_of_solves {t : Trial ε} {ending : Ending} {r : EpochResult}
    (hsolves : solves t.evaluation = true) (hresult : result ctx epoch t.after ending = .ok r) :
    r.Shows ctx t.candidate := by
  obtain ⟨words, hwords, rfl⟩ := result_ok_iff.mp hresult
  obtain ⟨hbest, hfitness⟩ := Trial.after_of_solves hsolves
  refine ⟨?_, ?_, ?_⟩
  · obtain ⟨_, _, hzero⟩ := solves_iff.mp hsolves
    rw [hfitness]
    exact hzero
  · rw [← hbest]
    exact hwords
  · rw [hbest]

/-- An epoch counts as successful exactly if a candidate that it evaluated repairs the program.
That candidate is the last one, no earlier one repairs the program, and the result shows it. -/
theorem success_iff_repair_evaluated (ctx : SearchContext ε σ) (epoch : Nat)
    (stream stream' : Stream) (w w' : σ) (r : EpochResult)
    (hrun : run ctx epoch stream w = .ok ((r, stream'), w')) :
    ∃ log, run ctx.recorded epoch stream (w, []) = .ok ((r, stream'), (w', log)) ∧
      (r.success = true ↔ ∃ p ∈ evaluations log, p.2.Repairs) ∧
      ∀ p ∈ evaluations log, p.2.Repairs →
        (∃ earlier, evaluations log = earlier ++ [p] ∧ ∀ q ∈ earlier, ¬ q.2.Repairs) ∧
        r.Shows ctx p.1 := by
  obtain ⟨timeout, trials, final, ending, w₁, htimeout, hcourse, hresult, rfl, rfl⟩ :=
    run_ok_iff.mp hrun
  refine ⟨_, hcourse.run_recorded htimeout hresult [], ?_⟩
  rw [List.nil_append, evaluations_sightings]
  have hsuccess : r.success = decide (ending = .repaired) := by
    obtain ⟨_, _, rfl⟩ := result_ok_iff.mp hresult
    rfl
  rw [hsuccess, decide_eq_true_iff]
  obtain ⟨hending, earlier, t, rfl, hsolves, hearlier, rfl⟩ | ⟨hending, hunsolved⟩ :=
    hcourse.repaired_or_unsolved
  · have hrepairs : t.outcome.2.Repairs := solves_iff.mp hsolves
    have hnone := forall_outcome_not_repairs hearlier
    rw [List.map_append, List.map_singleton]
    constructor
    · exact iff_of_true hending ⟨t.outcome, List.mem_concat_self, hrepairs⟩
    · intro p hp hprepairs
      -- an earlier outcome is no repair, so it is the last one
      obtain hp | hp := List.mem_append.mp hp
      · exact absurd hprepairs (hnone p hp)
      · obtain rfl := List.mem_singleton.mp hp
        exact ⟨⟨_, rfl, hnone⟩, shows_of_solves hsolves hresult⟩
  · have hnone := forall_outcome_not_repairs hunsolved
    constructor
    · refine iff_of_false hending ?_
      rintro ⟨p, hp, hrepairs⟩
      exact hnone p hp hrepairs
    · intro p hp hrepairs
      exact absurd hrepairs (hnone p hp)

/-! ### A program that passes already -/

section AllPassing

open Rehearsal

def passing : Evaluation := ⟨.success, some .zero, "", "", some 0, .zero⟩

/-- A rehearsal in which every patch passes, as the unchanged program does. -/
def allPassing : SearchContext Token World where
  program := tokens [⟨[], [], none, none, none, [passing]⟩] 3
  observer := observer
  config := ⟨1, 1, 2, .one, [.deletion], none, false⟩
  original := some .zero

/-- A stream of two zeros. -/
def twoZeros (used : Nat) : Stream := ⟨default, 1, #[0, 0], used⟩

/-- The first candidate is the repair, although it is no better than the unchanged program. -/
theorem success_of_allPassing :
    ∃ r stream w log,
      run allPassing 1 (twoZeros 0) ⟨[0], [], none, false⟩ = .ok ((r, stream), w) ∧
      r.success = true ∧ r.bestPatch = ["D0"] ∧
      run allPassing.recorded 1 (twoZeros 0) (⟨[0], [], none, false⟩, []) =
        .ok ((r, stream), (w, log)) ∧
      ∃ p ∈ evaluations log, p.2.Repairs ∧ r.Shows allPassing p.1 := by
  obtain ⟨timeout, htimeout⟩ : ∃ timeout, allPassing.config.timeout = .ok timeout :=
    Duration.exists_ofSeconds (x := .one) rfl rfl (by decide +kernel)
  have hcandidate : drawCandidate allPassing.program [.deletion] .empty (twoZeros 0) =
      .ok (some ⟨[⟨.deletion, 0⟩]⟩, twoZeros 2) := rfl
  have hdraw : Draws allPassing (start (some .zero) (twoZeros 0)) _ :=
    .of_fresh hcandidate (Tabu.contains_empty _)
  have ht : Tries allPassing 1 timeout ⟨1, _, _, ⟨[⟨.deletion, 0⟩]⟩, passing⟩
      ⟨[0], [], none, false⟩ _ := ⟨rfl, hdraw, rfl, ⟨[1], [], none, false⟩, rfl, rfl⟩
  have hrun : run allPassing 1 (twoZeros 0) _ =
      .ok ((⟨1, true, 1, 0, some .zero, ["D0"], "+D0\n", .zero⟩, twoZeros 2), _) :=
    run_ok_iff.mpr ⟨_, _, _, _, _, htimeout, .repaired 1 ht rfl, rfl, rfl, rfl⟩
  obtain ⟨log, hrecorded, hsuccess, hshows⟩ := success_iff_repair_evaluated _ _ _ _ _ _ _ hrun
  obtain ⟨p, hp, hrepairs⟩ := hsuccess.mp rfl
  exact ⟨_, _, _, log, hrun, rfl, rfl, hrecorded, p, hp, hrepairs, (hshows p hp hrepairs).2⟩

end AllPassing

end Epoch

end ProgramRepair
