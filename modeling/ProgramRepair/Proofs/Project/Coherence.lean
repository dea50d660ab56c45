import ProgramRepair.Proofs.Binary64.Monotone
import ProgramRepair.Proofs.Outcome.Decoding
import ProgramRepair.Proofs.Project.Edits
import ProgramRepair.Proofs.Search.Unchanged

/-!
# Status and fitness belong together

The status of a run is told from its rounded fitness, not from its counts, and a search
looks at the fitness to see whether it is at its end. Neither goes wrong: rounding takes
no quotient of counts down to zero or up over 1. Main statements:

* `Classifier.coherent_classify`, `Project.coherent_evaluate`: whatever is evaluated, the
  status and the fitness of it cohere;
* `Search.Reachable.evaluated_coherent`, `Search.Advances.ends_repaired_iff`: what a search
  evaluated coheres, and it ends with a repair if and only if that solves;
* `Project.status_and_fitness_cohere`: all of this for classifiers and searches over projects.
-/

namespace ProgramRepair

open Binary64

/-! ## Outcomes -/

theorem Binary64.isZero_eq_false_of_zero_lt {x : Binary64} (h : zero.lt x = true) :
    x.isZero = false := by
  obtain ⟨-, -, hrank⟩ := lt_iff.mp h
  rw [← Bool.not_eq_true]
  intro hzero
  rw [rank_of_isZero hzero] at hrank
  exact absurd hrank (Int.lt_irrefl 0)

/-- The status and the fitness of a run belong together. -/
inductive Coheres : Status → Option Binary64 → Prop
  | success : Coheres .success (some .zero)
  | failing {failed total : Nat} {x : Binary64} (hcounts : failed ≤ total) (hpos : zero.lt x = true)
      (hone : x.le one = true) : Coheres (.failing failed total) (some x)
  | invalid : Coheres .invalid (some .two)
  | timeout : Coheres .timeout none
  | parseError : Coheres .parseError none

/-- The fitness means a repair exactly if the status is that of success. -/
theorem Coheres.isRepaired_iff {s : Status} {fitness : Option Binary64} (h : Coheres s fitness) :
    isRepaired fitness = true ↔ s = .success := by
  cases h with
  | success => exact iff_of_true rfl rfl
  | @failing failed total x hcounts hpos hone =>
    have hzero : isRepaired (some x) = false := isZero_eq_false_of_zero_lt hpos
    exact iff_of_false (ne_true_of_eq_false hzero) nofun
  | invalid => exact iff_of_false (by decide) nofun
  | timeout => exact iff_of_false Bool.false_ne_true nofun
  | parseError => exact iff_of_false Bool.false_ne_true nofun

/-- The status and the fitness of the evaluation belong together. -/
def Evaluation.Coherent (e : Evaluation) : Prop := Coheres e.status e.fitness

/-- An evaluation solves exactly if its status is that of success. -/
theorem Evaluation.Coherent.solves_iff {e : Evaluation} (h : e.Coherent) :
    Epoch.solves e = true ↔ e.status = .success := by
  rw [Epoch.solves, Bool.and_eq_true, h.isRepaired_iff]
  constructor
  · rintro ⟨-, hstatus⟩
    exact hstatus
  · intro hstatus
    rw [hstatus]
    exact ⟨rfl, rfl⟩

namespace Summary

/-- A quotient of counts that is not zero is in the range of a run with failed tests. -/
theorem coheres_scoreOfCounts (failed passed : Nat) :
    Coheres (scoreOfCounts failed passed).1 (scoreOfCounts failed passed).2 := by
  rw [scoreOfCounts_eq]
  split
  · exact .parseError
  · next hfits =>
    split
    · exact .success
    · next hfailed =>
      have hsum : failed + passed < 2 ^ 64 := by omega
      have hle : failed ≤ failed + passed := Nat.le_add_right failed passed
      by_cases htotal : failed + passed = 0
      · rw [if_pos htotal]
        exact .failing hle (by decide) (by decide)
      · rw [if_neg htotal]
        have hpos : 0 < failed := by omega
        exact .failing hle
          (zero_lt_ofNat_div_ofNat hpos (Nat.pos_of_ne_zero htotal) (Nat.lt_of_le_of_lt hle hsum) hsum)
          (ofNat_div_ofNat_le_one hle (Nat.pos_of_ne_zero htotal) hsum)

theorem coheres_score (line : List Char) : Coheres (score line).1 (score line).2 := by
  unfold score
  split
  · exact .invalid
  · split
    · exact .parseError
    · exact coheres_scoreOfCounts _ _

/-- A line with a count of failed tests is never one of success. -/
theorem status_score_ne_success {line : List Char} {failed : Nat}
    (hcount : firstCount "failed" line = some failed) (hpos : 0 < failed) :
    (score line).1 ≠ .success := by
  have hscore : score line = (.invalid, some invalidFitness) ∨
      score line = scoreOfCounts failed ((firstCount "passed" line).getD 0) := by
    rw [score, hcount]
    cases (firstCount "error" line).any (0 < ·) with
    | true => exact .inl rfl
    | false =>
      right
      cases firstCount "passed" line <;> rfl
  rcases hscore with hscore | hscore
  · rw [hscore]
    exact Status.noConfusion
  · have hnone : ¬ (failed = 0 ∧ 0 < (firstCount "passed" line).getD 0) := fun h => by omega
    rw [hscore, scoreOfCounts_eq, if_neg hnone]
    split
    · exact Status.noConfusion
    · exact Status.noConfusion

end Summary

namespace Classifier

theorem coheres_scoreOfCode (code : Option Int) :
    Coheres (scoreOfCode code).1 (scoreOfCode code).2 := by
  unfold scoreOfCode
  split
  · exact .success
  · exact .failing (Nat.le_refl 1) (by decide) (by decide)
  · exact .invalid

@[simp] theorem status_classify (c : Classifier) (stdout : String) (code : Option Int)
    (stderr : String) (elapsed : Binary64) :
    (c.classify stdout code stderr elapsed).status = (c.score stdout code).1 := rfl

@[simp] theorem fitness_classify (c : Classifier) (stdout : String) (code : Option Int)
    (stderr : String) (elapsed : Binary64) :
    (c.classify stdout code stderr elapsed).fitness = (c.score stdout code).2 := rfl

/-- What a classifier makes of a run coheres, whatever was printed and however the run ended. -/
theorem coherent_classify (c : Classifier) (stdout : String) (code : Option Int) (stderr : String)
    (elapsed : Binary64) : (c.classify stdout code stderr elapsed).Coherent := by
  rw [Evaluation.Coherent, status_classify, fitness_classify]
  cases c with
  | pytestSummary =>
    rw [score]
    exact Summary.coheres_score (Summary.ofOutput stdout.toList)
  | exitCode =>
    rw [score]
    exact coheres_scoreOfCode code

end Classifier

/-! ## Searches -/

/-- All evaluations of the program cohere. -/
def Program.Coherent {ε σ : Type} (program : Program ε σ) : Prop :=
  ∀ patch e, program.Answers patch e → e.Coherent

namespace Search

open Epoch

variable {ε σ : Type} [DecidableEq ε] [Hashable ε] {ctx : SearchContext ε σ} {seed : UInt64}
  {epoch : Nat} {seen more : List (Sighting ε)} {g : Stage ε} {draw : NeighbourDraw ε}
  {candidate : Patch ε} {e : Evaluation} {q : Position ε} {w w' : σ}

/-- What an epoch has evaluated coheres if all evaluations of the program do. -/
theorem Reachable.evaluated_coherent
    (h : Reachable ctx seed epoch seen (.evaluated g draw candidate e))
    (hprogram : ctx.program.Coherent) : e.Coherent := by
  have hseen : .evaluated candidate e ∈ seen := h.repair_seen
  exact hprogram candidate e (h.answers hseen)

/-- After an evaluation, an epoch ends with a repair exactly if it solves. -/
theorem Advances.ends_repaired_iff
    (h : Advances ctx seed epoch (.evaluated g draw candidate e) w more q w') :
    (∃ s, q = .ended s .repaired) ↔ Epoch.solves e = true := by
  cases h with
  | solves hevent hsolves => exact iff_of_true ⟨_, rfl⟩ hsolves
  | goesOn hevent hsolves => exact iff_of_false nofun (ne_true_of_eq_false hsolves)

end Search

/-! ## Projects -/

namespace Project

open Source Search

variable {σ τ : Type} {p : Project} {execute : Executor}

theorem coherent_judge (p : Project) (out : CommandOutput) : (p.judge out).Coherent := by
  unfold judge
  split
  · exact .timeout
  · exact p.classifier.coherent_classify _ _ _ _

/-- Every evaluation of a project coheres, in whichever way it comes to its end. -/
theorem coherent_evaluate {slot : Nat} {patch : Patch Edit} {timeout : Duration}
    {w w' : Workspace} {e : Evaluation}
    (h : p.evaluate execute slot patch timeout w = .ok (e, w')) : e.Coherent := by
  cases hvariant : p.materialize slot patch w with
  | mk r v =>
    cases r with
    | error cause =>
      obtain ⟨message, hinvalid⟩ : ∃ message, p.evaluate execute slot patch timeout w =
          .ok (.ofInvalid message, v) := evaluate_of_materialize_error hvariant
      cases h.symm.trans hinvalid
      exact .invalid
    | ok dir =>
      rw [evaluate_of_materialize_ok hvariant] at h
      obtain ⟨⟨r, disk⟩, -, h⟩ := Disk.bind_eq_ok.mp h
      cases r with
      | ok out =>
        cases h
        exact coherent_judge p out
      | error cause =>
        cases h
        exact .invalid

/-- The evaluations of the program are evaluations of the project, each in some slot. -/
def EvaluatedBy (p : Project) (execute : Executor) (program : Program Edit σ) : Prop :=
  ∀ patch e, program.Answers patch e →
    ∃ slot timeout w w', p.evaluate execute slot patch timeout w = .ok (e, w')

theorem evaluatedBy_program (execute : Executor) (p : Project) :
    p.EvaluatedBy execute (p.program execute) := by
  rintro patch e ⟨timeout, w, w', heval⟩
  exact ⟨0, timeout, w, w', heval⟩

theorem EvaluatedBy.inLargerWorld {program : Program Edit σ} (h : p.EvaluatedBy execute program) :
    p.EvaluatedBy execute (program.inLargerWorld τ) := by
  rintro patch e ⟨timeout, ⟨w, rest⟩, w', heval⟩
  obtain ⟨⟨e', w₁⟩, hinner, heval⟩ := Disk.bind_eq_ok.mp heval
  cases heval
  exact h patch e ⟨timeout, w, w₁, hinner⟩

theorem EvaluatedBy.coherent {program : Program Edit σ} (h : p.EvaluatedBy execute program) :
    program.Coherent := by
  intro patch e he
  obtain ⟨slot, timeout, w, w', heval⟩ := h patch e he
  exact coherent_evaluate heval

/-- Status and fitness always belong together: a success has the fitness 0, a run with failed tests
a fitness above 0 and up to 1, a broken one the fitness 2, and one that timed out or has no readable
summary none. The quotient of a count of failed tests and their total is never rounded to 0, so no
run with a failed test is a success, and a search over a project ends with a repair exactly when it
evaluated a success. -/
theorem status_and_fitness_cohere :
    (∀ (c : Classifier) stdout code stderr elapsed,
      (c.classify stdout code stderr elapsed).Coherent) ∧
    (∀ stdout stderr elapsed, (Evaluation.ofTimeout stdout stderr elapsed).Coherent) ∧
    (∀ reason, (Evaluation.ofInvalid reason).Coherent) ∧
    (∀ failed total, 0 < failed → failed < 2 ^ 64 → 0 < total → total < 2 ^ 64 →
      (ofNat failed / ofNat total).isZero = false) ∧
    (∀ stdout code stderr elapsed failed,
      Summary.firstCount "failed" (Summary.ofOutput stdout.toList) = some failed → 0 < failed →
      (Classifier.pytestSummary.classify stdout code stderr elapsed).status ≠ .success) ∧
    (∀ (p : Project) (execute : Executor) (τ : Type), p.EvaluatedBy execute (p.program execute) ∧
      p.EvaluatedBy execute ((p.program execute).inLargerWorld τ)) ∧
    ∀ {σ : Type} (search : Search Edit σ) (observer : Observer σ) (p : Project)
      (execute : Executor), p.EvaluatedBy execute search.program →
      ∀ original k seen g draw candidate e,
        Reachable (search.context observer original) search.seed k seen
          (.evaluated g draw candidate e) →
        e.Coherent ∧ (isRepaired e.fitness = true ↔ e.status = .success) ∧
        ∀ w more q w', Advances (search.context observer original) search.seed k
          (.evaluated g draw candidate e) w more q w' →
          ((∃ s, q = .ended s .repaired) ↔ e.status = .success) := by
  refine ⟨Classifier.coherent_classify, fun _ _ _ => .timeout, fun _ => .invalid, ?_, ?_, ?_, ?_⟩
  · intro failed total hfailed hfailed' htotal htotal'
    exact isZero_div_ofNat hfailed htotal hfailed' htotal'
  · intro stdout code stderr elapsed failed hcount hpos
    rw [Classifier.status_classify, Classifier.score]
    exact Summary.status_score_ne_success hcount hpos
  · intro p execute τ
    have hprogram := evaluatedBy_program execute p
    exact ⟨hprogram, hprogram.inLargerWorld⟩
  · intro σ search observer p execute hsearch original k seen g draw candidate e hreachable
    have hcoherent : e.Coherent := hreachable.evaluated_coherent hsearch.coherent
    refine ⟨hcoherent, hcoherent.isRepaired_iff, fun w more q w' hstep => ?_⟩
    exact hstep.ends_repaired_iff.trans hcoherent.solves_iff

/-! ### A deletion that passes -/

section Beheading

open Epoch

/-- Every command passes at once. -/
def passing : Executor := fun _ _ _ _ disk => .ok (.ok ⟨"", "", some 0, false, ⟨0⟩⟩, disk)

def passed : Evaluation := ⟨.success, some .zero, "", "", some 0, .zero⟩

/-- A search for a single deletion. -/
def beheadings : Search Edit Workspace :=
  ⟨smallProject.program passing, ⟨1, 1, 1, .one, [.deletion], none, false⟩, 0, .ofSeed 1⟩

theorem draws_beheading : ∃ stream,
    drawCandidate beheadings.program [.deletion] .empty (.ofSeed 1) =
      .ok (some beheading, stream) := by
  have hdrawn : (drawCandidate beheadings.program [.deletion] .empty
      (.ofSeed 1)).toOption.bind (·.1) = some beheading := by
    decide +kernel
  obtain ⟨⟨candidate, stream⟩, hcandidate, hfound⟩ := Option.bind_eq_some_iff.mp hdrawn
  obtain rfl : candidate = some beheading := hfound
  exact ⟨stream, Disk.ok_of_toOption hcandidate⟩

theorem evaluates_beheading : ∃ w,
    beheadings.program.evaluate beheading ⟨0⟩ smallWorkspace.openScratch =
      .ok (passed, w) := by
  have hanswer : (beheadings.program.evaluate beheading ⟨0⟩
      smallWorkspace.openScratch).toOption.map (·.1) = some passed := by
    decide +kernel
  obtain ⟨⟨e, w⟩, heval, he⟩ := Option.map_eq_some_iff.mp hanswer
  obtain rfl : e = passed := he
  exact ⟨w, Disk.ok_of_toOption heval⟩

/-- A count of failed tests is no success, and the small project passes without its first line: the
search that drew this deletion ends with a repair. -/
theorem beheading_ends_search :
    (ofNat 1 / ofNat 3).isZero = false ∧
    (Classifier.pytestSummary.classify "1 failed, 2 passed" (some 1) "" .zero).status ≠ .success ∧
    smallProject.EvaluatedBy passing beheadings.program ∧
    ∃ seen g draw, Reachable (beheadings.context unwatched none) beheadings.seed 1 seen
        (.evaluated g draw beheading passed) ∧
      passed.Coherent ∧ isRepaired passed.fitness = true ∧
      ∃ w more q w', Advances (beheadings.context unwatched none) beheadings.seed 1
        (.evaluated g draw beheading passed) w more q w' ∧ ∃ s, q = .ended s .repaired := by
  obtain ⟨-, -, -, hquotient, hfailed, -, hsearch⟩ := status_and_fitness_cohere
  have hproject : smallProject.EvaluatedBy passing beheadings.program :=
    evaluatedBy_program passing smallProject
  obtain ⟨stream, hcandidate⟩ := draws_beheading
  obtain ⟨w, heval⟩ := evaluates_beheading
  have hdraw : Draws (beheadings.context unwatched none) (start none (.ofSeed 1)) _ :=
    .of_fresh hcandidate (Tabu.contains_empty _)
  have hstarted : Reachable (beheadings.context unwatched none) beheadings.seed 1 []
      (.between ⟨⟨0⟩, 1, 1, start none (.ofSeed 1)⟩) := .started
  have hdrawn : Reachable (beheadings.context unwatched none) beheadings.seed 1 _ _ :=
    hstarted.next (.draws (w := w) rfl hdraw rfl)
  obtain ⟨seen, g, draw, hevaluated⟩ : ∃ seen g draw,
      Reachable (beheadings.context unwatched none) beheadings.seed 1 seen
        (.evaluated g draw beheading passed) :=
    ⟨_, _, _, hdrawn.next (.evaluates heval)⟩
  obtain ⟨hcoherent, hrepaired, hends⟩ := hsearch beheadings unwatched smallProject passing hproject
    none 1 seen g draw beheading passed hevaluated
  have hstep : Advances (beheadings.context unwatched none) beheadings.seed 1
      (.evaluated g draw beheading passed) w _ _ _ := .solves rfl rfl
  have hcount : Summary.firstCount "failed"
      (Summary.ofOutput "1 failed, 2 passed".toList) = some 1 := by decide +kernel
  exact ⟨hquotient 1 3 (by decide) (by decide) (by decide) (by decide),
    hfailed _ _ _ _ 1 hcount Nat.one_pos, hproject, seen, g, draw, hevaluated, hcoherent,
    hrepaired.mpr rfl, w, _, _, _, hstep, (hends _ _ _ _ hstep).mpr rfl⟩

end Beheading

end Project

end ProgramRepair
