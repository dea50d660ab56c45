import Mathlib.Algebra.Order.BigOperators.Group.Finset
import Mathlib.Order.Interval.Finset.Nat
import ProgramRepair.Proofs.Search.Success
import ProgramRepair.Proofs.Search.Tabu
import ProgramRepair.Proofs.Search.Worker

/-!
# Epochs side by side

A `Schedule` lets the epochs of a run take their steps in any order, and the
world may change in any way between two steps. Main statements:

* `Schedule.conclude_answer`: no step of a schedule changes what an epoch has to
  say in the end;
* `Schedule.length_le`: schedules are bounded;
* `exists_schedule_of_parallelEpochs`: running the epochs in the order of their
  numbers is one of the schedules;
* `parallel_epochs_independent`: every schedule ends with the results that the
  epochs have alone.

This is about programs whose answers depend on the patch and the time limit only,
as long as nobody asks to stop.
-/

namespace ProgramRepair.Search

open Epoch

variable {ε σ : Type} [DecidableEq ε] [Hashable ε]

/-! ## Schedules -/

section Schedules

variable (ctx : SearchContext ε σ) (seed : UInt64) (n : Nat)

/-- The epochs `1, …, n` take some steps, each given by the number of the epoch and the world that
it finds. Steps of different epochs may follow each other in any order, on any number of workers.
The world before a step need not be the one after the step before it: meanwhile an evaluation of
another epoch may be half done. -/
inductive Schedule : (Nat → Position ε) → List (Nat × σ) → (Nat → Position ε) → Prop
  | start (a : Nat → Position ε) : Schedule a [] a
  | next {a b : Nat → Position ε} {moves : List (Nat × σ)} {epoch : Nat} {p : Position ε}
      {w w' : σ} (hearlier : Schedule a moves b) (hepoch : epoch ∈ List.range' 1 n)
      (hbusy : (b epoch).isDone = false)
      (hstep : advance ctx seed epoch (b epoch) w = .ok (p, w')) :
      Schedule a (moves ++ [(epoch, w)]) (Function.update b epoch p)

end Schedules

/-- Nobody asks to stop in any of the worlds that the steps find. -/
def Quiet (observer : Observer σ) (moves : List (Nat × σ)) : Prop :=
  ∀ move ∈ moves, observer.cancelled move.2 = false

/-- The results of the epochs `1, …, n` in the order of their numbers. -/
def resultsOf (n : Nat) (b : Nat → Position ε) : List EpochResult :=
  (List.range' 1 n).filterMap fun epoch => (b epoch).result?

/-- A run of a search whose epochs take the given steps after the baseline is known, with its
report. -/
inductive ParallelRun (search : Search ε σ) (observer : Observer σ) (w : σ) :
    List (Nat × σ) → Report → Prop
  | intro {original : Option Binary64} {w' : σ} {moves : List (Nat × σ)} {b : Nat → Position ε}
      (hwarmup : warmup search.program observer search.config w = .ok (original, w'))
      (hschedule : Schedule (search.context observer original) search.seed search.config.epoch
        (fun _ => .waiting) moves b)
      (hdone : ∀ epoch ∈ List.range' 1 search.config.epoch, (b epoch).isDone = true) :
      ParallelRun search observer w moves ⟨original, resultsOf search.config.epoch b, .zero⟩

/-- The result is the one that its epoch has alone, on its own stream, whatever the world and
whoever watches without asking to stop. -/
def IsAlone (search : Search ε σ) (original : Option Binary64) (r : EpochResult) : Prop :=
  ∀ o : Observer σ, (∀ v, o.cancelled v = false) → ∀ v, ∃ stream v',
    Epoch.run (search.context o original) r.epoch
      (.derive search.seed (UInt64.ofNat r.epoch)) v = .ok ((r, stream), v')

variable {ctx : SearchContext ε σ} {seed : UInt64} {n : Nat}

/-! ## One step -/

/-- A step that finds nobody asking to stop leaves the epoch's answer as it is. -/
theorem conclude_answer_of_advance (hprogram : ctx.program.AnswersAlike) {o : Observer σ}
    (ho : ∀ v, o.cancelled v = false) {epoch : Nat} {p p' : Position ε} {w w' : σ}
    (hquiet : ctx.observer.cancelled w = false)
    (hstep : advance ctx seed epoch p w = .ok (p', w')) (v : σ) :
    Run.answer (conclude (ctx.watchedBy o) seed epoch p') v =
      Run.answer (conclude (ctx.watchedBy o) seed epoch p) v := by
  have hsame : Run.answer (advance (ctx.watchedBy ctx.observer) seed epoch p) w =
      Run.answer (advance (ctx.watchedBy o) seed epoch p) v :=
    advance_answer hprogram hquiet (ho v) p
  obtain ⟨v', hv'⟩ := Run.answer_eq_ok.mp (hsame ▸ Run.answer_eq_ok.mpr ⟨w', hstep⟩)
  calc Run.answer (conclude (ctx.watchedBy o) seed epoch p') v
      = Run.answer (conclude (ctx.watchedBy o) seed epoch p') v' :=
        conclude_answer hprogram ho ho p' v v'
    _ = Run.answer (conclude (ctx.watchedBy o) seed epoch p) v := by
        have hsplit : conclude (ctx.watchedBy o) seed epoch p =
            advance (ctx.watchedBy o) seed epoch p >>= conclude (ctx.watchedBy o) seed epoch :=
          conclude_eq p
        rw [hsplit]
        change _ = Except.map Prod.fst (advance (ctx.watchedBy o) seed epoch p v >>= _)
        rw [hv']
        rfl

/-! ## Whole schedules -/

/-- A quiet schedule leaves the answer of every epoch as it is. -/
theorem Schedule.conclude_answer {a b : Nat → Position ε} {moves : List (Nat × σ)}
    (h : Schedule ctx seed n a moves b) (hquiet : Quiet ctx.observer moves)
    (hprogram : ctx.program.AnswersAlike) {o : Observer σ} (ho : ∀ v, o.cancelled v = false)
    (epoch : Nat) (v : σ) :
    Run.answer (conclude (ctx.watchedBy o) seed epoch (b epoch)) v =
      Run.answer (conclude (ctx.watchedBy o) seed epoch (a epoch)) v := by
  induction h with
  | start => rfl
  | @next b moves mover p w w' hearlier hmover hbusy hstep ih =>
    have hearlierQuiet : Quiet ctx.observer moves :=
      fun move hmove => hquiet move (List.mem_append_left _ hmove)
    have hlast : ctx.observer.cancelled w = false := hquiet (mover, w) List.mem_concat_self
    rw [← ih hearlierQuiet]
    -- only the epoch that moved stands elsewhere now
    by_cases hepoch : epoch = mover
    · subst hepoch
      rw [Function.update_self]
      exact conclude_answer_of_advance hprogram ho hlast hstep v
    · rw [Function.update_of_ne hepoch]

/-- A schedule may be followed by another one. -/
theorem Schedule.trans {a b c : Nat → Position ε} {moves more : List (Nat × σ)}
    (h : Schedule ctx seed n a moves b) (hmore : Schedule ctx seed n b more c) :
    Schedule ctx seed n a (moves ++ more) c := by
  induction hmore with
  | start => rwa [List.append_nil]
  | next _ hmover hbusy hstep ih =>
    rw [← List.append_assoc]
    exact .next ih hmover hbusy hstep

/-- Each step of a schedule uses up one of the steps that its epochs can take. -/
theorem Schedule.length_add_le {a b : Nat → Position ε} {moves : List (Nat × σ)}
    (h : Schedule ctx seed n a moves b) :
    moves.length + ∑ epoch ∈ Finset.Icc 1 n, (b epoch).remaining ctx.config.maxIter ≤
      ∑ epoch ∈ Finset.Icc 1 n, (a epoch).remaining ctx.config.maxIter := by
  induction h with
  | start => rw [List.length_nil, Nat.zero_add]
  | @next b moves mover p w w' hearlier hmover hbusy hstep ih =>
    -- the epoch that moved has a step less to take, and the others have what they had
    have hmoverLess : (Function.update b mover p mover).remaining ctx.config.maxIter <
        (b mover).remaining ctx.config.maxIter := by
      rw [Function.update_self]
      exact advance_remaining hstep hbusy
    have hless : ∑ epoch ∈ Finset.Icc 1 n,
          (Function.update b mover p epoch).remaining ctx.config.maxIter <
        ∑ epoch ∈ Finset.Icc 1 n, (b epoch).remaining ctx.config.maxIter := by
      refine Finset.sum_lt_sum (fun epoch _ => ?_) ⟨mover, ?_, hmoverLess⟩
      · by_cases hepoch : epoch = mover
        · subst hepoch
          exact hmoverLess.le
        · rw [Function.update_of_ne hepoch]
      · rw [List.mem_range'_1] at hmover
        rw [Finset.mem_Icc]
        omega
    rw [List.length_append, List.length_singleton]
    omega

/-- Schedules are bounded. -/
theorem Schedule.length_le {b : Nat → Position ε} {moves : List (Nat × σ)}
    (h : Schedule ctx seed n (fun _ => .waiting) moves b) :
    moves.length ≤ n * (3 * ctx.config.maxIter + 3) := by
  calc moves.length
      ≤ moves.length + ∑ epoch ∈ Finset.Icc 1 n, (b epoch).remaining ctx.config.maxIter :=
        Nat.le_add_right _ _
    _ ≤ ∑ epoch ∈ Finset.Icc 1 n, (3 * ctx.config.maxIter + 3) := h.length_add_le
    _ = n * (3 * ctx.config.maxIter + 3) := by
        rw [Finset.sum_const, Nat.card_Icc, Nat.add_sub_cancel, Nat.nsmul_eq_mul]

/-! ## What an epoch has in the end -/

/-- An epoch that has not started and may start is all of `Epoch.run`. -/
theorem conclude_waiting_ok {epoch : Nat} {w w' : σ} {x : Option EpochResult}
    (hgo : ctx.observer.cancelled w = false) :
    conclude ctx seed epoch .waiting w = .ok (x, w') ↔
      ∃ r stream, Epoch.run ctx epoch (.derive seed (UInt64.ofNat epoch)) w =
        .ok ((r, stream), w') ∧ some r = x := by
  rw [conclude, Run.get_bind_ok, if_neg (ne_true_of_eq_false hgo), Run.bind_ok]
  constructor
  · rintro ⟨⟨r, stream⟩, w₁, hrun, hpure⟩
    obtain ⟨hx, rfl⟩ := Run.pure_ok.mp hpure
    exact ⟨r, stream, hrun, hx⟩
  · rintro ⟨r, stream, hrun, hx⟩
    exact ⟨(r, stream), w', hrun, Run.pure_ok.mpr ⟨hx, rfl⟩⟩

/-- An epoch that is done after a quiet schedule has the result that it has alone. -/
theorem Schedule.result_alone {b : Nat → Position ε} {moves : List (Nat × σ)}
    (h : Schedule ctx seed n (fun _ => .waiting) moves b) (hquiet : Quiet ctx.observer moves)
    (hprogram : ctx.program.AnswersAlike) {epoch : Nat} (hdone : (b epoch).isDone = true)
    {o : Observer σ} (ho : ∀ v, o.cancelled v = false) (v : σ) :
    ∃ r stream v', (b epoch).result? = some r ∧
      Epoch.run (ctx.watchedBy o) epoch (.derive seed (UInt64.ofNat epoch)) v =
        .ok ((r, stream), v') := by
  have hsame := h.conclude_answer hquiet hprogram ho epoch v
  cases hb : b epoch with
  | done x =>
    rw [hb] at hsame
    obtain ⟨v', hv'⟩ := Run.answer_eq_ok.mp (hsame.symm.trans (Run.answer_eq_ok.mpr ⟨v, rfl⟩))
    obtain ⟨r, stream, hrun, rfl⟩ := (conclude_waiting_ok (ho v)).mp hv'
    exact ⟨r, stream, v', rfl, hrun⟩
  | _ =>
    rw [hb] at hdone
    cases hdone

/-- An epoch that returns alone is never stuck in a quiet schedule. -/
theorem Schedule.can_go_on {b : Nat → Position ε} {moves : List (Nat × σ)}
    (h : Schedule ctx seed n (fun _ => .waiting) moves b) (hquiet : Quiet ctx.observer moves)
    (hprogram : ctx.program.AnswersAlike) {o : Observer σ} (ho : ∀ v, o.cancelled v = false)
    {epoch : Nat} {v : σ} {alone : (EpochResult × Stream) × σ}
    (halone : Epoch.run (ctx.watchedBy o) epoch (.derive seed (UInt64.ofNat epoch)) v =
      .ok alone) {w : σ} (hw : ctx.observer.cancelled w = false) :
    ∃ p w', advance ctx seed epoch (b epoch) w = .ok (p, w') := by
  obtain ⟨⟨r, stream⟩, v'⟩ := alone
  have hwaiting : conclude (ctx.watchedBy o) seed epoch .waiting v = .ok (some r, v') :=
    (conclude_waiting_ok (ho v)).mpr ⟨r, stream, halone, rfl⟩
  have hsame := h.conclude_answer hquiet hprogram ho epoch v
  obtain ⟨v₁, hleft⟩ := Run.answer_eq_ok.mp
    (hsame.trans (Run.answer_eq_ok.mpr ⟨v', hwaiting⟩))
  rw [conclude_eq] at hleft
  obtain ⟨p, v₂, hstep, -⟩ := Run.bind_ok.mp hleft
  have hstepSame : Run.answer (advance (ctx.watchedBy ctx.observer) seed epoch (b epoch)) w =
      Run.answer (advance (ctx.watchedBy o) seed epoch (b epoch)) v :=
    advance_answer hprogram hw (ho v) (b epoch)
  obtain ⟨w', hw'⟩ := Run.answer_eq_ok.mp
    (hstepSame.trans (Run.answer_eq_ok.mpr ⟨v₂, hstep⟩))
  exact ⟨p, w', hw'⟩

/-! ## The order of the numbers -/

/-- All that an epoch has left to do is a schedule of this epoch. -/
theorem exists_schedule_of_conclude {b : Nat → Position ε} {epoch : Nat}
    (hepoch : epoch ∈ List.range' 1 n) {w w' : σ} {x : Option EpochResult}
    (h : conclude ctx seed epoch (b epoch) w = .ok (x, w')) :
    ∃ moves, Schedule ctx seed n b moves (Function.update b epoch (.done x)) := by
  -- the steps that are left bound how long this takes
  induction hk : (b epoch).remaining ctx.config.maxIter using Nat.strongRecOn
    generalizing b w with
  | _ k ih =>
    cases hdone : (b epoch).isDone with
    | true =>
      cases hb : b epoch with
      | done result =>
        rw [hb] at h
        obtain ⟨rfl, -⟩ := Run.pure_ok.mp h
        rw [← hb, Function.update_eq_self]
        exact ⟨[], .start b⟩
      | _ =>
        rw [hb] at hdone
        cases hdone
    | false =>
      rw [conclude_eq] at h
      obtain ⟨p, w₁, hstep, hrest⟩ := Run.bind_ok.mp h
      have hself : Function.update b epoch p epoch = p := Function.update_self ..
      have hless : (Function.update b epoch p epoch).remaining ctx.config.maxIter < k := by
        rw [hself, ← hk]
        exact advance_remaining hstep hdone
      rw [← hself] at hrest
      obtain ⟨moves, hmoves⟩ := ih _ hless hrest rfl
      rw [Function.update_idem] at hmoves
      exact ⟨_, (Schedule.next (.start b) hepoch hdone hstep).trans hmoves⟩

/-- The next epoch goes first, if it may start, and then the ones after it. -/
theorem parallelEpochs_succ (left epoch : Nat) :
    parallelEpochs ctx seed (left + 1) epoch = (do
      let x ← conclude ctx seed epoch .waiting
      let rest ← parallelEpochs ctx seed left (epoch + 1)
      return x.toList ++ rest) := by
  rw [parallelEpochs, conclude, bind_assoc]
  congr 1
  funext w
  split
  · simp only [pure_bind, Option.toList, List.nil_append, bind_pure]
  · simp only [bind_assoc, pure_bind, Option.toList, List.singleton_append]

theorem parallelEpochs_cons {left epoch : Nat} {w w₁ w' : σ} {r : EpochResult} {stream : Stream}
    {rest : List EpochResult} (hgo : ctx.observer.cancelled w = false)
    (hepoch : Epoch.run ctx epoch (.derive seed (UInt64.ofNat epoch)) w = .ok ((r, stream), w₁))
    (hrest : parallelEpochs ctx seed left (epoch + 1) w₁ = .ok (rest, w')) :
    parallelEpochs ctx seed (left + 1) epoch w = .ok (r :: rest, w') := by
  have hconclude : conclude ctx seed epoch .waiting w = .ok (some r, w₁) :=
    (conclude_waiting_ok hgo).mpr ⟨r, stream, hepoch, rfl⟩
  rw [parallelEpochs_succ]
  exact Run.bind_ok.mpr ⟨_, _, hconclude, Run.bind_ok.mpr ⟨_, _, hrest, rfl⟩⟩

/-- Epochs in the order of their numbers are a schedule. -/
theorem exists_schedule_of_parallelEpochs {left first : Nat} {a : Nat → Position ε}
    (hfirst : 1 ≤ first) (hlast : first + left ≤ n + 1) (hwaiting : ∀ k, first ≤ k → a k = .waiting)
    {w w' : σ} {results : List EpochResult}
    (h : parallelEpochs ctx seed left first w = .ok (results, w')) :
    ∃ moves b, Schedule ctx seed n a moves b ∧
      (∀ epoch ∈ List.range' first left, (b epoch).isDone = true) ∧
      (∀ k < first, b k = a k) ∧
      (List.range' first left).filterMap (fun epoch => (b epoch).result?) = results := by
  -- the epochs before `first` are where they were and stay there
  induction left generalizing first a w results with
  | zero =>
    obtain ⟨rfl, -⟩ := Run.pure_ok.mp h
    exact ⟨[], a, .start a, List.forall_mem_nil _, fun _ _ => rfl, rfl⟩
  | succ left ih =>
    rw [parallelEpochs_succ] at h
    obtain ⟨x, w₁, hconclude, h⟩ := Run.bind_ok.mp h
    obtain ⟨rest, w₂, hrest, h⟩ := Run.bind_ok.mp h
    obtain ⟨rfl, rfl⟩ := Run.pure_ok.mp h
    rw [← hwaiting first le_rfl] at hconclude
    obtain ⟨moves, hmoves⟩ := exists_schedule_of_conclude
      (n := n) (List.mem_range'_1.mpr (by omega)) hconclude
    have hstill : ∀ k, first + 1 ≤ k → Function.update a first (.done x) k = .waiting := by
      intro k hk
      rw [Function.update_of_ne (by omega)]
      exact hwaiting k (by omega)
    obtain ⟨more, b, hmore, hdone, hbefore, hresults⟩ :=
      ih (by omega) (by omega) hstill hrest
    have hb : b first = .done x := by
      rw [hbefore first (Nat.lt_succ_self first), Function.update_self]
    refine ⟨moves ++ more, b, hmoves.trans hmore, ?_, ?_, ?_⟩
    · rw [List.range'_succ]
      exact List.forall_mem_cons.mpr ⟨by rw [hb]; rfl, hdone⟩
    · intro k hk
      rw [hbefore k (by omega), Function.update_of_ne (by omega)]
    · rw [List.range'_succ, List.filterMap_cons, hb, Position.result?, hresults]
      cases x <;> rfl

/-! ## Runs -/

variable {search : Search ε σ} {observer : Observer σ} {w : σ} {moves : List (Nat × σ)}
  {report : Report}

/-- The same search in front of an observer that never asks to stop. -/
def silent : Observer σ := ⟨fun _ w => w, fun _ => false⟩

/-- The report of a quiet run has the result of every epoch, in the order of their numbers. -/
theorem ParallelRun.epochs_eq (h : ParallelRun search observer w moves report)
    (hquiet : Quiet observer moves) (hprogram : search.program.AnswersAlike) :
    report.epochs.map (·.epoch) = List.range' 1 search.config.epoch := by
  obtain @⟨original, w', moves, b, hwarmup, hschedule, hdone⟩ := h
  have hnumber : ∀ epoch ∈ List.range' 1 search.config.epoch,
      (b epoch).result?.map (·.epoch) = some epoch := by
    intro epoch hepoch
    obtain ⟨r, stream, v', hr, hrun⟩ :=
      hschedule.result_alone hquiet hprogram (hdone epoch hepoch) (o := silent) (fun _ => rfl) w
    rw [hr, Option.map_some, Epoch.epoch_of_run hrun]
  calc (resultsOf search.config.epoch b).map (·.epoch)
      = (List.range' 1 search.config.epoch).filterMap
          (fun epoch => (b epoch).result?.map (·.epoch)) := List.map_filterMap
    _ = (List.range' 1 search.config.epoch).filterMap some := List.filterMap_congr hnumber
    _ = List.range' 1 search.config.epoch := List.filterMap_some

/-- Every result in the report of a quiet run is the one that its epoch has alone. -/
theorem ParallelRun.isAlone (h : ParallelRun search observer w moves report)
    (hquiet : Quiet observer moves) (hprogram : search.program.AnswersAlike) {r : EpochResult}
    (hr : r ∈ report.epochs) : IsAlone search report.originalFitness r := by
  obtain @⟨original, w', moves, b, hwarmup, hschedule, hdone⟩ := h
  obtain ⟨epoch, hepoch, hr⟩ := List.mem_filterMap.mp hr
  intro o ho v
  obtain ⟨r', stream, v', hr', hrun⟩ :=
    hschedule.result_alone hquiet hprogram (hdone epoch hepoch) ho v
  obtain rfl : r = r' := Option.some.inj (hr.symm.trans hr')
  rw [Epoch.epoch_of_run hrun]
  exact ⟨stream, v', hrun⟩

/-- Results with the same numbers are the same if all of them are those of their epochs alone. -/
theorem eq_of_isAlone {original : Option Binary64} {rs ts : List EpochResult} (w : σ)
    (hnumbers : rs.map (·.epoch) = ts.map (·.epoch))
    (hrs : ∀ r ∈ rs, IsAlone search original r) (hts : ∀ t ∈ ts, IsAlone search original t) :
    rs = ts := by
  induction rs generalizing ts with
  | nil => exact (List.map_eq_nil_iff.mp hnumbers.symm).symm
  | cons r rs ih =>
    cases ts with
    | nil => cases hnumbers
    | cons t ts =>
      obtain ⟨hr, hrsRest⟩ := List.forall_mem_cons.mp hrs
      obtain ⟨ht, htsRest⟩ := List.forall_mem_cons.mp hts
      obtain ⟨hepoch, hrest⟩ : r.epoch = t.epoch ∧ rs.map (·.epoch) = ts.map (·.epoch) :=
        List.cons.inj hnumbers
      obtain ⟨stream, v, hrunR⟩ := hr silent (fun _ => rfl) w
      obtain ⟨stream', v', hrunT⟩ := ht silent (fun _ => rfl) w
      rw [hepoch, hrunT] at hrunR
      cases hrunR
      rw [ih hrest hrsRest htsRest]

/-- Quiet runs have the same report, whoever watches and whatever their worlds are. -/
theorem ParallelRun.report_eq {observer' : Observer σ} {w' : σ} {moves' : List (Nat × σ)}
    {report' : Report} (h : ParallelRun search observer w moves report)
    (hquiet : Quiet observer moves) (h' : ParallelRun search observer' w' moves' report')
    (hquiet' : Quiet observer' moves') (hprogram : search.program.AnswersAlike) :
    report = report' := by
  have horiginal : report.originalFitness = report'.originalFitness := by
    obtain ⟨hwarmup, -, -⟩ := h
    obtain ⟨hwarmup', -, -⟩ := h'
    have hsame := warmup_answer hprogram observer observer' search.config w w'
    rw [Run.answer_eq_ok.mpr ⟨_, hwarmup⟩, Run.answer_eq_ok.mpr ⟨_, hwarmup'⟩] at hsame
    exact Except.ok.inj hsame
  have hepochs : report.epochs = report'.epochs := by
    have hnumbers : report.epochs.map (·.epoch) = report'.epochs.map (·.epoch) := by
      rw [h.epochs_eq hquiet hprogram, h'.epochs_eq hquiet' hprogram]
    have hrs : ∀ r ∈ report.epochs, IsAlone search report.originalFitness r :=
      fun r hr => h.isAlone hquiet hprogram hr
    have hts : ∀ t ∈ report'.epochs, IsAlone search report.originalFitness t := by
      rw [horiginal]
      exact fun t ht => h'.isAlone hquiet' hprogram ht
    exact eq_of_isAlone w hnumbers hrs hts
  obtain ⟨-, -, -⟩ := h
  obtain ⟨-, -, -⟩ := h'
  exact congrArg₂ (Report.mk · · .zero) horiginal hepochs

/-- A search that runs its epochs in the order of their numbers is one of the parallel runs, and
leaves its own stream alone. -/
theorem exists_parallelRun_of_run {search' : Search ε σ} {w' : σ}
    (hparallel : search.config.parallelEpochs = true)
    (h : search.run observer w = .ok ((report, search'), w')) :
    search' = search ∧ ∃ moves, ParallelRun search observer w moves report := by
  obtain ⟨original, w₁, hwarmup, h⟩ := Run.bind_ok.mp h
  dsimp only at h
  rw [if_pos hparallel] at h
  obtain ⟨results, w₂, hepochs, h⟩ := Run.bind_ok.mp h
  rw [Run.pure_ok, Prod.mk.injEq] at h
  obtain ⟨⟨rfl, rfl⟩, -⟩ := h
  obtain ⟨moves, b, hschedule, hdone, -, rfl⟩ := exists_schedule_of_parallelEpochs
    (n := search.config.epoch) le_rfl (by omega) (fun _ _ => rfl) hepochs
  exact ⟨rfl, moves, .intro hwarmup hschedule hdone⟩

/-- Parallel epochs do not depend on their schedule. Runs that nobody stops report every epoch in
the order of the numbers, each as it is alone, and all report the same. They end after a bounded
number of steps, and until then every epoch that returns alone can take its next step. The search
itself runs one of the schedules and is the same search afterwards, with the stream it had. -/
theorem parallel_epochs_independent (search : Search ε σ)
    (hparallel : search.config.parallelEpochs = true) (hprogram : search.program.AnswersAlike) :
    (∀ observer w moves report, ParallelRun search observer w moves report →
      Quiet observer moves →
        report.epochs.map (·.epoch) = List.range' 1 search.config.epoch ∧
        (∀ r ∈ report.epochs, IsAlone search report.originalFitness r) ∧
        ∀ observer' w' moves' report', ParallelRun search observer' w' moves' report' →
          Quiet observer' moves' → report' = report) ∧
    (∀ observer original moves b, Schedule (search.context observer original) search.seed
        search.config.epoch (fun _ => .waiting) moves b → Quiet observer moves →
      moves.length ≤ search.config.epoch * (3 * search.config.maxIter + 3) ∧
      ∀ epoch (o : Observer σ) v alone, (∀ v, o.cancelled v = false) →
        Epoch.run (search.context o original) epoch (.derive search.seed (UInt64.ofNat epoch)) v =
          .ok alone →
        ∀ w, observer.cancelled w = false →
          ∃ p w', advance (search.context observer original) search.seed epoch (b epoch) w =
            .ok (p, w')) ∧
    ∀ observer w report search' w', search.run observer w = .ok ((report, search'), w') →
      search' = search ∧ ∃ moves, ParallelRun search observer w moves report := by
  refine ⟨?_, ?_, ?_⟩
  · intro observer w moves report h hquiet
    refine ⟨h.epochs_eq hquiet hprogram, fun r hr => h.isAlone hquiet hprogram hr, ?_⟩
    intro observer' w' moves' report' h' hquiet'
    exact h'.report_eq hquiet' h hquiet hprogram
  · intro observer original moves b h hquiet
    refine ⟨h.length_le, ?_⟩
    intro epoch o v alone ho halone w hw
    exact h.can_go_on hquiet hprogram ho halone hw
  · intro observer w report search' w' h
    exact exists_parallelRun_of_run hparallel h

/-! ### Two epochs that find a repair -/

section SideBySide

open Rehearsal

/-- A rehearsal of two epochs side by side in which every patch passes. -/
def sideBySide : Search Token World where
  program := allPassing.program
  config := ⟨0, 2, 1, .one, [.deletion], none, true⟩
  seed := 0
  stream := zeroThenOne

theorem allPassing_evaluate (p : Patch Token) (timeout : Duration) (w : World) :
    ∃ w', allPassing.program.evaluate p timeout w = .ok (passing, w') := by
  refine ⟨{ w with uses := w.uses.set 0 (w.uses[0]?.getD 0 + 1) }, ?_⟩
  change Except.ok (([passing][w.uses[0]?.getD 0 % 1]?).getD unscripted, _) = _
  rw [Nat.mod_one]
  rfl

theorem answersAlike_allPassing : allPassing.program.AnswersAlike := by
  intro p timeout w v
  rw [Run.answer_eq_ok.mpr (allPassing_evaluate p timeout w),
    Run.answer_eq_ok.mpr (allPassing_evaluate p timeout v)]

/-- From the empty patch, each draw gives the patch of one deletion. -/
theorem sideBySide_drawCandidate (s : Stream) :
    ∃ number s', drawCandidate sideBySide.program sideBySide.config.operators .empty s =
      .ok (some (deletionOf number), s') := by
  obtain ⟨op, hop, s₁, hchoose⟩ := s.exists_choose (List.cons_ne_nil EditOperator.deletion [])
  obtain rfl := List.mem_singleton.mp hop
  exact ⟨(s₁.below .single 3).1, (s₁.below .single 3).2,
    drawCandidate_of_isEmpty rfl hchoose rfl⟩

/-- Every epoch finds a repair at once, whatever its stream is. -/
theorem sideBySide_run (epoch : Nat) (stream : Stream) (w : World) :
    ∃ r stream' w', Epoch.run (sideBySide.context silent none) epoch stream w =
      .ok ((r, stream'), w') ∧ r.success = true := by
  obtain ⟨timeout, htimeout⟩ : ∃ timeout, sideBySide.config.timeout = .ok timeout :=
    Duration.exists_ofSeconds (x := .one) rfl rfl (by decide +kernel)
  obtain ⟨number, s', hcandidate⟩ := sideBySide_drawCandidate stream
  have hdraw : Draws (sideBySide.context silent none) (start none stream) _ :=
    .of_fresh hcandidate (Tabu.contains_empty _)
  obtain ⟨w₁, heval⟩ := allPassing_evaluate (deletionOf number) timeout w
  have ht : Tries (sideBySide.context silent none) epoch timeout
      ⟨1, _, _, deletionOf number, passing⟩ w w₁ := ⟨rfl, hdraw, rfl, w₁, heval, rfl⟩
  exact ⟨_, _, _, run_ok_iff.mpr ⟨timeout, _, _, _, w₁, htimeout, .repaired 0 ht rfl, rfl, rfl,
    rfl⟩, rfl⟩

/-- Both epochs are in the report, each as it is alone. -/
theorem sideBySide_reports_both :
    ∃ moves report, ParallelRun sideBySide silent ⟨[0], [], none, false⟩ moves report ∧
      report.epochs.map (·.epoch) = [1, 2] ∧
      ∀ r ∈ report.epochs, r.success = true ∧ IsAlone sideBySide report.originalFitness r := by
  obtain ⟨r₁, s₁, w₁, hfirst, -⟩ :=
    sideBySide_run 1 (.derive 0 (UInt64.ofNat 1)) ⟨[0], [], none, false⟩
  obtain ⟨r₂, s₂, w₂, hsecond, -⟩ := sideBySide_run 2 (.derive 0 (UInt64.ofNat 2)) w₁
  have hepochs : parallelEpochs (sideBySide.context silent none) 0 2 1 ⟨[0], [], none, false⟩ =
      .ok ([r₁, r₂], w₂) :=
    parallelEpochs_cons rfl hfirst (parallelEpochs_cons rfl hsecond rfl)
  have hrun : sideBySide.run silent ⟨[0], [], none, false⟩ =
      .ok ((⟨none, [r₁, r₂], .zero⟩, sideBySide), w₂) :=
    Run.bind_ok.mpr ⟨none, _, rfl, Run.bind_ok.mpr ⟨_, _, hepochs, rfl⟩⟩
  obtain ⟨hreports, -, hschedules⟩ :=
    parallel_epochs_independent sideBySide rfl answersAlike_allPassing
  obtain ⟨-, moves, hparallel⟩ := hschedules _ _ _ _ _ hrun
  obtain ⟨hnumbers, halone, -⟩ := hreports _ _ _ _ hparallel fun _ _ => rfl
  refine ⟨moves, _, hparallel, hnumbers, fun r hr => ⟨?_, halone r hr⟩⟩
  obtain ⟨stream, v, hr⟩ := halone r hr silent (fun _ => rfl) ⟨[0], [], none, false⟩
  obtain ⟨r', stream', v', hr', hsuccess⟩ := sideBySide_run r.epoch
    (.derive 0 (UInt64.ofNat r.epoch)) ⟨[0], [], none, false⟩
  cases hr.symm.trans hr'
  exact hsuccess

end SideBySide

end ProgramRepair.Search
