import ProgramRepair.Proofs.Search.History
import ProgramRepair.Proofs.Search.Neighbour

/-!
# No candidate is tried twice

The tabu set of an epoch holds the candidates that it has evaluated, and a
candidate that is in it is not drawn again. Main statements:

* `TriesOnce.next`: one iteration keeps `TriesOnce`, the invariant of the tabu set
  and the counters;
* `candidates_tried_once`: it holds at every moment of every epoch of a search,
  and the counters of a report are those of its epochs.
-/

namespace ProgramRepair

variable {ε σ : Type} [DecidableEq ε] [Hashable ε]

theorem Status.isInvalid_iff {s : Status} : s.isInvalid = true ↔ s = .invalid ∨ s = .timeout := by
  cases s <;> simp [isInvalid, isComparable]

namespace Tabu

@[simp] theorem size_empty : (empty : Tabu ε).size = 0 := Std.HashSet.size_empty

/-- A patch that was not in the set makes it larger by one. -/
theorem size_insert_of_fresh {t : Tabu ε} {p : Patch ε} (h : t.contains p = false) :
    (t.insert p).size = t.size + 1 := by
  have hnot : p ∉ t.seen := by
    rw [← Std.HashSet.contains_iff_mem]
    exact ne_true_of_eq_false h
  exact Std.HashSet.size_insert.trans (if_neg hnot)

end Tabu

namespace Epoch

variable {ctx : SearchContext ε σ} {epoch : Nat} {timeout : Duration} {stream : Stream}

/-! ## One trial -/

theorem Tries.isFor {t : Trial ε} {w w' : σ} (h : Tries ctx epoch timeout t w w') :
    t.draw.IsFor t.before.best t.before.tabu :=
  neighbour_isFor h.draws

/-- A trial is about a neighbour of the best patch that was not tried before. -/
theorem Tries.fresh {t : Trial ε} {w w' : σ} (h : Tries ctx epoch timeout t w w') :
    t.before.best.IsNeighbour t.candidate ∧ t.before.tabu.contains t.candidate = false ∧
      t.after.tabu = t.before.tabu.insert t.candidate := by
  have hfound := h.found
  have hfor := h.isFor
  change _ ∧ _ ∧ t.draw.tabu = _
  generalize t.draw = draw at hfound hfor
  cases hfor with
  | found s hneighbour hfresh =>
    obtain rfl := Option.some.inj hfound
    exact ⟨hneighbour, hfresh, rfl⟩
  | exhausted s => cases hfound

/-! ## The invariant -/

/-- What the tabu set and the counters of an epoch say after some trials. -/
structure TriesOnce (maxIter : Nat) (trials : List (Trial ε)) (s : State ε) : Prop where
  /-- An epoch starts from the empty patch and an empty tabu set. -/
  restart : trials = [] → s.best = .empty ∧ s.tabu = .empty
  /-- No candidate is evaluated twice. -/
  nodup : (trials.map (·.candidate)).Nodup
  /-- Each candidate is one edit away from the patch that was best at its time. -/
  neighbours : ∀ t ∈ trials, t.before.best.IsNeighbour t.candidate
  /-- The tabu set holds the candidates and nothing else. -/
  tabu : ∀ p, s.tabu.contains p = true ↔ p ∈ trials.map (·.candidate)
  size : s.tabu.size = s.evaluations
  evaluations : s.evaluations = trials.length
  limit : s.evaluations ≤ maxIter
  invalid : s.invalid = trials.countP fun t =>
    t.evaluation.status = .invalid ∨ t.evaluation.status = .timeout

theorem TriesOnce.start (maxIter : Nat) (original : Option Binary64) (stream : Stream) :
    TriesOnce maxIter [] (Epoch.start original stream : State ε) where
  restart _ := ⟨rfl, rfl⟩
  nodup := List.nodup_nil
  neighbours := List.forall_mem_nil _
  tabu p := by simp [Epoch.start]
  size := Tabu.size_empty
  evaluations := rfl
  limit := Nat.zero_le maxIter
  invalid := rfl

/-- One more trial keeps the invariant while iterations are left. -/
theorem TriesOnce.next {maxIter : Nat} {trials : List (Trial ε)} {t : Trial ε} {w w' : σ}
    (h : TriesOnce maxIter trials t.before) (ht : Tries ctx epoch timeout t w w')
    (hleft : trials.length < maxIter) : TriesOnce maxIter (trials ++ [t]) t.after := by
  obtain ⟨hneighbour, hfresh, htabu⟩ := ht.fresh
  have hnew : t.candidate ∉ trials.map (·.candidate) := by
    rw [← h.tabu, hfresh]
    exact Bool.false_ne_true
  have hevaluations : t.after.evaluations = t.before.evaluations + 1 := rfl
  constructor
  case restart =>
    intro hnil
    exact absurd hnil (List.append_ne_nil_of_right_ne_nil trials (List.cons_ne_nil t []))
  case nodup =>
    rw [List.map_append, List.map_singleton]
    refine List.nodup_append.mpr ⟨h.nodup, List.pairwise_singleton _ _, ?_⟩
    rintro p hp q hq rfl
    obtain rfl := List.mem_singleton.mp hq
    exact hnew hp
  case neighbours =>
    intro u hu
    obtain hu | hu := List.mem_append.mp hu
    · exact h.neighbours u hu
    · obtain rfl := List.mem_singleton.mp hu
      exact hneighbour
  case tabu =>
    intro p
    rw [htabu, Tabu.contains_insert, Bool.or_eq_true, h.tabu, List.map_append, List.mem_append,
      beq_iff_eq, List.map_singleton, List.mem_singleton, or_comm, eq_comm]
  case size =>
    rw [htabu, Tabu.size_insert_of_fresh hfresh, h.size, hevaluations]
  case evaluations =>
    rw [hevaluations, h.evaluations, List.length_append, List.length_singleton]
  case limit =>
    have hlength := h.evaluations
    omega
  case invalid =>
    have hinvalid : t.after.invalid =
        t.before.invalid + if t.evaluation.status.isInvalid then 1 else 0 := rfl
    rw [hinvalid, h.invalid, List.countP_append, List.countP_singleton]
    simp only [Status.isInvalid_iff, decide_eq_true_eq]

/-- The invariant holds at every moment of an epoch. -/
theorem History.triesOnce {w w' : σ} {trials : List (Trial ε)} {s : State ε}
    (h : History ctx epoch timeout stream w trials s w') :
    TriesOnce ctx.config.maxIter trials s := by
  induction h with
  | start => exact .start _ _ _
  | next hearlier hunsolved hleft hiteration ht ih => exact ih.next ht hleft

end Epoch

/-! ## Whole searches -/

namespace Search

/-- What the epochs of a search have in common once the fitness of the unchanged program is
known. -/
def context (search : Search ε σ) (observer : Observer σ) (original : Option Binary64) :
    SearchContext ε σ :=
  ⟨search.program, observer, search.config, original⟩

variable {ctx : SearchContext ε σ}

/-- The result is that of a whole epoch, from its own start. -/
def IsWhole (ctx : SearchContext ε σ) (r : EpochResult) : Prop :=
  ∃ stream w stream' w', Epoch.run ctx r.epoch stream w = .ok ((r, stream'), w')

theorem isWhole_of_run {epoch : Nat} {stream stream' : Stream} {w w' : σ} {r : EpochResult}
    (h : Epoch.run ctx epoch stream w = .ok ((r, stream'), w')) : IsWhole ctx r := by
  obtain rfl := Epoch.epoch_of_run h
  exact ⟨stream, w, stream', w', h⟩

/-- An epoch that may start comes first, and the rest goes on with its stream and world. -/
theorem sequentialEpochs_cons {left epoch : Nat} {s s₁ s₂ : Stream} {w w₁ w₂ : σ}
    {r : EpochResult} {rest : List EpochResult} (hgo : ctx.observer.cancelled w = false)
    (hepoch : Epoch.run ctx epoch s w = .ok ((r, s₁), w₁))
    (hrest : sequentialEpochs ctx left (epoch + 1) s₁ w₁ = .ok ((rest, s₂), w₂)) :
    sequentialEpochs ctx (left + 1) epoch s w = .ok ((r :: rest, s₂), w₂) := by
  rw [sequentialEpochs, Run.get_bind_ok, if_neg (by simp [hgo])]
  refine Run.bind_ok.mpr ⟨(r, s₁), w₁, hepoch, ?_⟩
  exact Run.bind_ok.mpr ⟨(rest, s₂), w₂, hrest, rfl⟩

theorem isWhole_of_sequentialEpochs {left epoch : Nat} {stream stream' : Stream} {w w' : σ}
    {results : List EpochResult}
    (h : sequentialEpochs ctx left epoch stream w = .ok ((results, stream'), w')) :
    ∀ r ∈ results, IsWhole ctx r := by
  induction left generalizing epoch stream stream' w w' results with
  | zero =>
    rw [sequentialEpochs, Run.pure_ok, Prod.mk.injEq] at h
    obtain ⟨⟨rfl, -⟩, -⟩ := h
    exact List.forall_mem_nil _
  | succ left ih =>
    rw [sequentialEpochs, Run.get_bind_ok] at h
    split at h
    · rw [Run.pure_ok, Prod.mk.injEq] at h
      obtain ⟨⟨rfl, -⟩, -⟩ := h
      exact List.forall_mem_nil _
    · obtain ⟨⟨r, s₁⟩, w₁, hepoch, h⟩ := Run.bind_ok.mp h
      obtain ⟨⟨rest, s₂⟩, w₂, hrest, h⟩ := Run.bind_ok.mp h
      rw [Run.pure_ok, Prod.mk.injEq] at h
      obtain ⟨⟨rfl, -⟩, -⟩ := h
      exact List.forall_mem_cons.mpr ⟨isWhole_of_run hepoch, ih hrest⟩

theorem isWhole_of_parallelEpochs {seed : UInt64} {left epoch : Nat} {w w' : σ}
    {results : List EpochResult}
    (h : parallelEpochs ctx seed left epoch w = .ok (results, w')) :
    ∀ r ∈ results, IsWhole ctx r := by
  induction left generalizing epoch w w' results with
  | zero =>
    rw [parallelEpochs, Run.pure_ok] at h
    obtain ⟨rfl, -⟩ := h
    exact List.forall_mem_nil _
  | succ left ih =>
    rw [parallelEpochs, Run.get_bind_ok] at h
    split at h
    · exact ih h
    · obtain ⟨⟨r, s₁⟩, w₁, hepoch, h⟩ := Run.bind_ok.mp h
      obtain ⟨rest, w₂, hrest, h⟩ := Run.bind_ok.mp h
      rw [Run.pure_ok] at h
      obtain ⟨rfl, -⟩ := h
      exact List.forall_mem_cons.mpr ⟨isWhole_of_run hepoch, ih hrest⟩

/-- Every result in a report is that of a whole epoch. -/
theorem isWhole_of_run_ok {search search' : Search ε σ} {observer : Observer σ} {w w' : σ}
    {report : Report} (h : search.run observer w = .ok ((report, search'), w')) :
    ∀ r ∈ report.epochs, IsWhole (search.context observer report.originalFitness) r := by
  obtain ⟨original, w₁, -, h⟩ := Run.bind_ok.mp h
  dsimp only at h
  split at h
  · obtain ⟨results, w₂, hepochs, h⟩ := Run.bind_ok.mp h
    rw [Run.pure_ok, Prod.mk.injEq] at h
    obtain ⟨⟨rfl, -⟩, -⟩ := h
    exact isWhole_of_parallelEpochs hepochs
  · obtain ⟨-, -, h⟩ := Run.lift_bind_ok.mp h
    obtain ⟨⟨results, stream⟩, w₂, hepochs, h⟩ := Run.bind_ok.mp h
    rw [Run.pure_ok, Prod.mk.injEq] at h
    obtain ⟨⟨rfl, -⟩, -⟩ := h
    exact isWhole_of_sequentialEpochs hepochs

/-- No epoch of a search evaluates a candidate twice: at every moment of it the tabu set holds the
candidates that were evaluated and the counters count them, whatever earlier epochs did. The
counters of a report are those of its epochs when they ended. -/
theorem candidates_tried_once (search : Search ε σ) (observer : Observer σ) :
    (∀ original epoch timeout stream w trials s w',
      Epoch.History (search.context observer original) epoch timeout stream w trials s w' →
        Epoch.TriesOnce search.config.maxIter trials s) ∧
    ∀ w report search' w', search.run observer w = .ok ((report, search'), w') →
      ∀ r ∈ report.epochs, ∃ timeout stream w₀ trials s w₁ stream' w₂ log,
        Epoch.History (search.context observer report.originalFitness) r.epoch timeout stream w₀
          trials s w₁ ∧
        Epoch.run (search.context observer report.originalFitness).recorded r.epoch stream
          (w₀, []) = .ok ((r, stream'), (w₂, log)) ∧
        evaluations log = trials.map Epoch.Trial.outcome ∧
        r.fitnessEvaluations = s.evaluations ∧ r.invalidPatchCount = s.invalid := by
  constructor
  · intro original epoch timeout stream w trials s w' h
    exact h.triesOnce
  · intro w report search' w' hrun r hr
    obtain ⟨stream, w₀, stream', w₂, hepoch⟩ := isWhole_of_run_ok hrun r hr
    obtain ⟨timeout, trials, s, ending, w₁, hhistory, hresult, hrecorded⟩ :=
      Epoch.run_ok_history hepoch
    obtain ⟨words, -, hwords⟩ := Epoch.result_ok_iff.mp hresult
    refine ⟨timeout, stream, w₀, trials, s, w₁, stream', w₂, _, hhistory, hrecorded,
      Epoch.evaluations_sightings trials s, ?_, ?_⟩
    · rw [hwords]
    · rw [hwords]

/-! ### A search with two candidates -/

section TwoCandidates

open Epoch Rehearsal

/-- A rehearsal in which the first patch takes too long and the second one passes. -/
def secondPasses : Search Token World where
  program := tokens [⟨[], [], none, none, none,
    [.ofTimeout "" "" .zero, ⟨.success, some .zero, "", "", some 0, .zero⟩]⟩] 3
  config := ⟨0, 1, 2, .one, [.deletion], none, false⟩
  seed := 0
  stream := zeroThenOne

/-- The trial that takes too long. -/
def slowTrial : Trial Token :=
  deletionTrial 1 (start none zeroThenOne) 0 (.ofTimeout "" "" .zero)

/-- The trial that passes. -/
def passingTrial : Trial Token :=
  deletionTrial 2 slowTrial.after 1 ⟨.success, some .zero, "", "", some 0, .zero⟩

/-- The result of the only epoch. -/
def secondPassesResult : EpochResult :=
  ⟨1, true, 2, 1, some .zero, ["D1"], "+D1\n", .zero⟩

/-- Its epoch evaluates two different candidates, one of which counts as invalid. -/
theorem secondPasses_tries_two :
    ∃ search' w', secondPasses.run observer ⟨[0], [], none, false⟩ =
        .ok ((⟨none, [secondPassesResult], .zero⟩, search'), w') ∧
      ∃ timeout stream w trials s w₁,
        History (secondPasses.context observer none) 1 timeout stream w trials s w₁ ∧
          trials.length = 2 ∧ s.invalid = 1 ∧ TriesOnce 2 trials s := by
  obtain ⟨timeout, htimeout⟩ : ∃ timeout, secondPasses.config.timeout = .ok timeout :=
    Duration.exists_ofSeconds (x := .one) rfl rfl (by decide +kernel)
  have hslow : Draws (secondPasses.context observer none) slowTrial.before slowTrial.draw :=
    .of_fresh rfl (Tabu.contains_empty _)
  have hpassing : Draws (secondPasses.context observer none) passingTrial.before
      passingTrial.draw := .of_fresh rfl deletionOf_one_fresh
  obtain ⟨w₁, hw₁⟩ : ∃ w₁, w₁ = observer.notify
      (slowTrial.event (secondPasses.context observer none) 1) ⟨[1], [], none, false⟩ := ⟨_, rfl⟩
  have ht₁ : Tries (secondPasses.context observer none) 1 timeout slowTrial
      ⟨[0], [], none, false⟩ w₁ := ⟨rfl, hslow, rfl, ⟨[1], [], none, false⟩, rfl, hw₁.symm⟩
  obtain ⟨w₂, ht₂⟩ : ∃ w₂, Tries (secondPasses.context observer none) 1 timeout passingTrial
      w₁ w₂ := ⟨_, hw₁ ▸ rfl, hpassing, rfl, { w₁ with uses := [2] }, hw₁ ▸ rfl, rfl⟩
  obtain ⟨w₃, hepoch⟩ : ∃ w₃, Epoch.run (secondPasses.context observer none) 1 zeroThenOne
      ⟨[0], [], none, false⟩ = .ok ((secondPassesResult, passingTrial.after.stream), w₃) :=
    ⟨_, run_ok_iff.mpr ⟨_, _, _, _, _, htimeout, .next ht₁ rfl (.repaired 0 ht₂ rfl), rfl, rfl,
      rfl⟩⟩
  have hepochs : sequentialEpochs (secondPasses.context observer none) 1 1 zeroThenOne
      ⟨[0], [], none, false⟩ = .ok (([secondPassesResult], passingTrial.after.stream), w₃) :=
    sequentialEpochs_cons rfl hepoch rfl
  have hrun : secondPasses.run observer ⟨[0], [], none, false⟩ =
      .ok ((⟨none, [secondPassesResult], .zero⟩,
        { secondPasses with stream := passingTrial.after.stream }), w₃) := by
    refine Run.bind_ok.mpr ⟨none, ⟨[0], [], none, false⟩, rfl, ?_⟩
    refine Run.lift_bind_ok.mpr ⟨(), rfl, ?_⟩
    exact Run.bind_ok.mpr ⟨_, _, hepochs, rfl⟩
  obtain ⟨hmoments, hreports⟩ := candidates_tried_once secondPasses observer
  obtain ⟨timeout, stream, w₀, trials, s, w₁, stream', w₂, log, hhistory, -, -, hevaluations,
    hinvalid⟩ := hreports _ _ _ _ hrun _ List.mem_cons_self
  have htries := hmoments _ _ _ _ _ _ _ _ hhistory
  refine ⟨_, _, hrun, timeout, stream, w₀, trials, s, w₁, hhistory, ?_, hinvalid.symm, htries⟩
  rw [← htries.evaluations, ← hevaluations]
  rfl

end TwoCandidates

end Search

end ProgramRepair
