import ProgramRepair.Proofs.Search.Returning

/-!
# Events and reports

A search whose epochs run one after the other tells its story twice: in the events that
the observer hears and in its report. Main statements:

* `Course.ends`: why the iterations of an epoch end;
* `exists_epochTrace`: the events of an epoch, from which its result can be computed;
* `events_match_report`: the events of a whole run are those of the baseline and then
  those of the epochs in the report, in their order.
-/

namespace ProgramRepair

variable {ε σ : Type} [DecidableEq ε] [Hashable ε]

/-! ## What events show -/

namespace Event

/-- The event is about an evaluation that shows a repair. -/
def ShowsRepair (event : Event) : Prop :=
  (∃ s, event.status = some s ∧ s.isComparable = true) ∧
    ∃ f, event.fitness = some f ∧ f.isZero = true

/-- The event is about a candidate that broke or ran out of time. -/
def ShowsInvalid (event : Event) : Prop :=
  event.status = some .invalid ∨ event.status = some .timeout

instance : DecidablePred ShowsInvalid := fun _ => inferInstanceAs (Decidable (_ ∨ _))

/-- The fitness in the event, if it counts for the baseline. -/
def sample (event : Event) : Option Binary64 :=
  event.status.bind fun s => if s.isComparable then event.fitness else none

end Event

/-- The events are those of a baseline with this mean fitness. -/
structure IsBaseline (config : SearchConfig) (original : Option Binary64) (events : List Event) :
    Prop where
  iterations : events.map (·.iteration) = List.range' 1 config.warmupReps
  warmup : ∀ event ∈ events, event.phase = .warmup ∧ event.epoch = 0 ∧ event.bestFitness = none
  mean : original = Search.mean (events.filterMap Event.sample)

/-- The result of an epoch can be computed from the events about its candidates, `searching`, and
the one at its end, `complete`. -/
structure EpochResult.IsReadOff (config : SearchConfig) (original : Option Binary64)
    (r : EpochResult) (searching : List Event) (complete : Event) : Prop where
  candidates : ∀ event ∈ searching, event.phase = .searching ∧ event.epoch = r.epoch
  iterations : searching.map (·.iteration) = List.range' 1 searching.length
  atEnd : complete.phase = .epochComplete ∧ complete.epoch = r.epoch ∧
    complete.iteration = searching.length
  evaluations : r.fitnessEvaluations = searching.length
  limit : searching.length ≤ config.maxIter
  invalid : r.invalidPatchCount = searching.countP (·.ShowsInvalid)
  success : r.success = true ↔ ∃ event, searching.getLast? = some event ∧ event.ShowsRepair
  bestFitness : r.bestFitness = complete.bestFitness ∧
    complete.bestFitness = (searching.getLast?.map (·.bestFitness)).getD original
  bestPatch : r.bestPatch.length = complete.patchLength

namespace Epoch

variable {ctx : SearchContext ε σ} {epoch : Nat} {timeout : Duration} {stream : Stream}

/-! ## Why epochs end -/

/-- The state after some trials that start from the state `s`. -/
def stateAfter (s : State ε) (trials : List (Trial ε)) : State ε :=
  (trials.getLast?.map Trial.after).getD s

theorem stateAfter_cons (s : State ε) (t : Trial ε) (trials : List (Trial ε)) :
    stateAfter s (t :: trials) = stateAfter t.after trials := by
  rw [stateAfter, stateAfter, List.getLast?_cons]
  cases trials.getLast? <;> rfl

theorem History.state_eq {trials : List (Trial ε)} {s : State ε} {w w' : σ}
    (h : History ctx epoch timeout stream w trials s w') :
    s = stateAfter (Epoch.start ctx.original stream) trials := by
  cases h with
  | start => rfl
  | next => rw [stateAfter, List.getLast?_concat]; rfl

/-- Why the iterations from the state `s` on end in the world `w`, after `trials` of at most
`left`. -/
def EndsAs (ctx : SearchContext ε σ) (left : Nat) (s : State ε) (trials : List (Trial ε)) (w : σ) :
    Ending → Prop
  | .repaired => ∃ t, trials.getLast? = some t ∧ solves t.evaluation = true
  | .cancelled => ctx.observer.cancelled w = true
  | .exhausted => ∃ draw, Draws ctx (stateAfter s trials) draw ∧ draw.found = none
  | .spent => trials.length = left

theorem Course.ends {left iteration : Nat} {s final : State ε} {w w' : σ} {trials : List (Trial ε)}
    {ending : Ending} (h : Course ctx epoch timeout left iteration s w trials final ending w') :
    EndsAs ctx left s trials w' ending := by
  induction h with
  | spent => rfl
  | cancelled _ _ _ hcancelled => exact hcancelled
  | exhausted _ _ _ hdraw hfound => exact ⟨_, hdraw, hfound⟩
  | @repaired left t w w' ht hsolves => exact ⟨t, rfl, hsolves⟩
  | @next left t w w₁ w' trials final ending ht hsolves hrest ih =>
    cases ending with
    | repaired =>
      obtain ⟨u, hu, husolves⟩ := ih
      exact ⟨u, by rw [List.getLast?_cons, hu]; rfl, husolves⟩
    | cancelled => exact ih
    | exhausted =>
      obtain ⟨draw, hdraw, hfound⟩ := ih
      exact ⟨draw, by rwa [stateAfter_cons], hfound⟩
    | spent => exact congrArg Nat.succ ih

/-! ## The events of an epoch -/

/-- The iterations are numbered from 1 on. -/
theorem History.iterations {trials : List (Trial ε)} {s : State ε} {w w' : σ}
    (h : History ctx epoch timeout stream w trials s w') :
    trials.map (·.iteration) = List.range' 1 trials.length := by
  induction h with
  | start => rfl
  | @next trials t w₁ w₂ hearlier hunsolved hleft hiteration ht ih =>
    rw [List.map_append, List.map_singleton, List.length_append, List.length_singleton,
      List.range'_concat, ih, hiteration, Nat.one_mul, Nat.add_comm]

theorem Trial.event_showsRepair (t : Trial ε) :
    (t.event ctx epoch).ShowsRepair ↔ solves t.evaluation = true := by
  have hevent : (t.event ctx epoch).ShowsRepair ↔
      (∃ s, some t.evaluation.status = some s ∧ s.isComparable = true) ∧
        ∃ f, t.evaluation.fitness = some f ∧ f.isZero = true := Iff.rfl
  rw [hevent, solves, Bool.and_eq_true, isRepaired_iff]
  simp

theorem Trial.event_showsInvalid (t : Trial ε) :
    (t.event ctx epoch).ShowsInvalid ↔
      t.evaluation.status = .invalid ∨ t.evaluation.status = .timeout :=
  or_congr Option.some_inj Option.some_inj

/-- The events of an epoch that starts on the stream `stream` and in the world `w` and ends with
the result `r`. -/
def EpochTrace (ctx : SearchContext ε σ) (epoch : Nat) (stream : Stream) (w : σ) (r : EpochResult)
    (events : List Event) (stream' : Stream) (w' : σ) : Prop :=
  run ctx epoch stream w = .ok ((r, stream'), w') ∧
    ∃ searching complete, events = searching ++ [complete] ∧ r.epoch = epoch ∧
      r.IsReadOff ctx.config ctx.original searching complete ∧
      (r.success = false → searching.length < ctx.config.maxIter →
        ∃ timeout trials s w₁, History ctx epoch timeout stream w trials s w₁ ∧
          searching = trials.map (Trial.event ctx epoch) ∧
          (ctx.observer.cancelled w₁ = true ∨ ∃ draw, Draws ctx s draw ∧ draw.found = none))

/-- The result of an epoch can be read off the events of its trials. -/
theorem isReadOff_of_course {trials : List (Trial ε)} {final s : State ε} {ending : Ending}
    {r : EpochResult} {w w₁ : σ}
    (hcourse : Course ctx epoch timeout ctx.config.maxIter 1 (start ctx.original stream) w trials
      final ending w₁)
    (hhistory : History ctx epoch timeout stream w trials s w₁)
    (hresult : result ctx epoch s ending = .ok r) :
    r.IsReadOff ctx.config ctx.original (trials.map (Trial.event ctx epoch))
      (completeEvent ctx epoch s) := by
  have htries := hhistory.triesOnce
  obtain ⟨words, hwords, rfl⟩ := result_ok_iff.mp hresult
  constructor
  case candidates =>
    intro event hevent
    obtain ⟨t, -, rfl⟩ := List.mem_map.mp hevent
    exact ⟨rfl, rfl⟩
  case iterations =>
    rw [List.map_map, List.length_map]
    exact hhistory.iterations
  case atEnd =>
    rw [List.length_map]
    exact ⟨rfl, rfl, htries.evaluations⟩
  case evaluations =>
    rw [List.length_map]
    exact htries.evaluations
  case limit =>
    rw [List.length_map, ← htries.evaluations]
    exact htries.limit
  case invalid =>
    rw [List.countP_map]
    refine htries.invalid.trans (List.countP_congr fun t _ => ?_)
    rw [decide_eq_true_iff, Function.comp_apply, decide_eq_true_iff, Trial.event_showsInvalid]
  case success =>
    rw [List.getLast?_map, decide_eq_true_iff]
    obtain ⟨hending, earlier, t, rfl, hsolves, -, -⟩ | ⟨hending, hunsolved⟩ :=
      hcourse.repaired_or_unsolved
    · refine iff_of_true hending ⟨t.event ctx epoch, ?_, t.event_showsRepair.mpr hsolves⟩
      rw [List.getLast?_concat, Option.map_some]
    · refine iff_of_false hending ?_
      rintro ⟨event, hlast, hrepair⟩
      obtain ⟨t, ht, rfl⟩ := Option.map_eq_some_iff.mp hlast
      have hsolves := t.event_showsRepair.mp hrepair
      exact Bool.false_ne_true ((hunsolved t (List.mem_of_getLast? ht)).symm.trans hsolves)
  case bestFitness =>
    refine ⟨rfl, ?_⟩
    rw [List.getLast?_map, Option.map_map, completeEvent, hhistory.state_eq, stateAfter]
    cases trials.getLast? <;> rfl
  case bestPatch => exact (forall₂_of_mapM_ok hwords).length_eq.symm

/-- An epoch that returns has such events, and they are what a recording of it hears. -/
theorem exists_epochTrace {stream' : Stream} {r : EpochResult} {w w' : σ}
    (h : run ctx epoch stream w = .ok ((r, stream'), w')) (log : List (Sighting ε)) :
    ∃ seen, run ctx.recorded epoch stream (w, log) = .ok ((r, stream'), (w', log ++ seen)) ∧
      EpochTrace ctx epoch stream w r (eventsHeard seen) stream' w' := by
  obtain ⟨timeout, trials, final, ending, w₁, htimeout, hcourse, hresult, rfl, rfl⟩ :=
    run_ok_iff.mp h
  obtain ⟨s, hhistory, hsame, hevent⟩ :=
    hcourse.history .start (List.forall_mem_nil _) rfl (Nat.zero_add _)
  have hrecorded := hcourse.run_recorded htimeout hresult log
  refine ⟨_, hrecorded, h, trials.map (Trial.event ctx epoch), completeEvent ctx epoch s, ?_,
    epoch_of_run h, isReadOff_of_course hcourse hhistory (hsame ▸ hresult), ?_⟩
  · rw [eventsHeard_sightings, hevent]
  · intro hsuccess hleft
    refine ⟨timeout, trials, s, w₁, hhistory, rfl, ?_⟩
    have hends := hcourse.ends
    have hnot : ending ≠ .repaired := by
      obtain ⟨words, -, rfl⟩ := result_ok_iff.mp hresult
      exact of_decide_eq_false hsuccess
    rw [List.length_map] at hleft
    cases ending with
    | repaired => exact absurd rfl hnot
    | cancelled => exact .inl hends
    | exhausted =>
      rw [hhistory.state_eq]
      exact .inr hends
    | spent => exact absurd hends (Nat.ne_of_lt hleft)

end Epoch

namespace Search

open Epoch

/-! ## The events of a run -/

/-- The same search in a world that keeps what can be seen of it. -/
def recorded (search : Search ε σ) : Search ε (σ × List (Sighting ε)) :=
  ⟨search.program.recorded, search.config, search.seed, search.stream⟩

/-- What is seen of the evaluations of the unchanged program, the first one with the number
`rep`. -/
def warmupSightings (ε : Type) (config : SearchConfig) (rep : Nat) (es : List Evaluation) :
    List (Sighting ε) :=
  (es.zipIdx rep).flatMap fun p => [.evaluated .empty p.1, .heard (warmupEvent config p.2 p.1)]

omit [DecidableEq ε] [Hashable ε] in
theorem warmupSamples_recorded {program : Program ε σ} {observer : Observer σ}
    {config : SearchConfig} {left rep : Nat} {samples : List Binary64} {w w' : σ}
    (h : warmupSamples program observer config left rep w = .ok (samples, w'))
    (log : List (Sighting ε)) :
    ∃ es : List Evaluation, es.length = left ∧ samples = es.filterMap sample ∧
      warmupSamples program.recorded (observer.recorded ε) config left rep (w, log) =
        .ok (samples, (w', log ++ warmupSightings ε config rep es)) := by
  induction left generalizing rep samples w log with
  | zero =>
    obtain ⟨rfl, rfl⟩ := Run.pure_ok.mp h
    refine ⟨[], rfl, rfl, ?_⟩
    change _ = Except.ok ([], (w, log ++ []))
    rw [List.append_nil]
    rfl
  | succ left ih =>
    obtain ⟨timeout, htimeout, h⟩ := Run.lift_bind_ok.mp h
    obtain ⟨e, w₁, heval, h⟩ := Run.bind_ok.mp h
    rw [Run.modify_bind_ok] at h
    obtain ⟨rest, w₂, hrest, h⟩ := Run.bind_ok.mp h
    obtain ⟨rfl, rfl⟩ := Run.pure_ok.mp h
    obtain ⟨es, hlength, rfl, hrecorded⟩ :=
      ih hrest (log ++ [.evaluated .empty e, .heard (warmupEvent config rep e)])
    refine ⟨e :: es, congrArg Nat.succ hlength, ?_, ?_⟩
    · rw [List.filterMap_cons]
      cases sample e <;> rfl
    · refine Run.lift_bind_ok.mpr ⟨timeout, htimeout, ?_⟩
      refine Run.bind_ok.mpr ⟨e, (w₁, log ++ [.evaluated .empty e]), ?_, ?_⟩
      · change (program.evaluate .empty timeout w >>= _) = _
        rw [heval]
        rfl
      · refine Run.modify_bind_ok.mpr (Run.bind_ok.mpr ⟨_, _, ?_, rfl⟩)
        rw [List.append_assoc] at hrecorded
        change warmupSamples _ _ config left (rep + 1) (_, (log ++ [_]) ++ [_]) = _
        rw [List.append_assoc]
        exact hrecorded

omit [DecidableEq ε] [Hashable ε] in
theorem eventsHeard_warmupSightings (config : SearchConfig) (rep : Nat) (es : List Evaluation) :
    eventsHeard (warmupSightings ε config rep es) =
      (es.zipIdx rep).map fun p => warmupEvent config p.2 p.1 := by
  induction es generalizing rep with
  | nil => rfl
  | cons e es ih =>
    rw [List.zipIdx_cons, List.map_cons, ← ih]
    rfl

omit [DecidableEq ε] [Hashable ε] in
/-- The events of a baseline are numbered, and the mean can be computed from them. -/
theorem isBaseline_warmupSightings (config : SearchConfig) {es : List Evaluation}
    (hlength : es.length = config.warmupReps) :
    IsBaseline config (mean (es.filterMap sample))
      (eventsHeard (warmupSightings ε config 1 es)) := by
  rw [eventsHeard_warmupSightings]
  constructor
  case iterations =>
    rw [List.map_map, ← hlength]
    exact List.zipIdx_map_snd 1 es
  case warmup =>
    intro event hevent
    obtain ⟨p, -, rfl⟩ := List.mem_map.mp hevent
    exact ⟨rfl, rfl, rfl⟩
  case mean =>
    rw [List.filterMap_map]
    have hsample : (Event.sample ∘ fun p : Evaluation × Nat => warmupEvent config p.2 p.1) =
        fun p => sample p.1 := rfl
    rw [hsample]
    calc mean (es.filterMap sample)
        = mean (((es.zipIdx 1).map Prod.fst).filterMap sample) := by rw [List.zipIdx_map_fst]
      _ = mean ((es.zipIdx 1).filterMap fun p => sample p.1) := by rw [List.filterMap_map]; rfl

omit [DecidableEq ε] [Hashable ε] in
theorem warmup_recorded {program : Program ε σ} {observer : Observer σ} {config : SearchConfig}
    {original : Option Binary64} {w w' : σ}
    (h : warmup program observer config w = .ok (original, w')) :
    ∃ seen, warmup program.recorded (observer.recorded ε) config (w, []) =
        .ok (original, (w', seen)) ∧ IsBaseline config original (eventsHeard seen) := by
  obtain ⟨⟨⟩, hroom, h⟩ := Run.lift_bind_ok.mp h
  obtain ⟨samples, w₁, hsamples, h⟩ := Run.bind_ok.mp h
  obtain ⟨rfl, rfl⟩ := Run.pure_ok.mp h
  obtain ⟨es, hlength, rfl, hrecorded⟩ := warmupSamples_recorded hsamples []
  refine ⟨_, ?_, isBaseline_warmupSightings config hlength⟩
  exact Run.lift_bind_ok.mpr ⟨(), hroom, Run.bind_ok.mpr ⟨_, _, hrecorded, rfl⟩⟩

/-- Epochs follow each other: each goes on with the stream and in the world that the one before it
left. They stop when none is left or the search was asked to stop. -/
inductive EpochTraces (ctx : SearchContext ε σ) : (left epoch : Nat) → (s : Stream) → (w : σ) →
    List EpochResult → List (List Event) → (s' : Stream) → (w' : σ) → Prop
  | nil {left epoch : Nat} {s : Stream} {w : σ}
      (hend : left = 0 ∨ ctx.observer.cancelled w = true) : EpochTraces ctx left epoch s w [] [] s w
  | cons {left epoch : Nat} {s s₁ s' : Stream} {w w₁ w' : σ} {r : EpochResult}
      {rest : List EpochResult} {events : List Event} {more : List (List Event)}
      (hgo : ctx.observer.cancelled w = false) (hepoch : EpochTrace ctx epoch s w r events s₁ w₁)
      (hrest : EpochTraces ctx left (epoch + 1) s₁ w₁ rest more s' w') :
      EpochTraces ctx (left + 1) epoch s w (r :: rest) (events :: more) s' w'

variable {ctx : SearchContext ε σ}

theorem EpochTraces.numbers {left epoch : Nat} {s s' : Stream} {w w' : σ}
    {results : List EpochResult} {traces : List (List Event)}
    (h : EpochTraces ctx left epoch s w results traces s' w') :
    results.map (·.epoch) = List.range' epoch results.length := by
  induction h with
  | nil => rfl
  | cons hgo hepoch hrest ih =>
    obtain ⟨-, _, _, -, hnumber, -⟩ := hepoch
    rw [List.map_cons, ih, hnumber, List.length_cons, List.range'_succ]

/-- Where nobody asks to stop, no epoch is left out. -/
theorem EpochTraces.length_eq {left epoch : Nat} {s s' : Stream} {w w' : σ}
    {results : List EpochResult} {traces : List (List Event)}
    (h : EpochTraces ctx left epoch s w results traces s' w')
    (hquiet : ∀ v, ctx.observer.cancelled v = false) : results.length = left := by
  induction h with
  | @nil left epoch s w hend =>
    obtain rfl | hcancelled := hend
    · rfl
    · cases hcancelled.symm.trans (hquiet w)
  | cons hgo hepoch hrest ih => exact congrArg Nat.succ ih

theorem sequentialEpochs_recorded {left epoch : Nat} {s s' : Stream} {w w' : σ}
    {results : List EpochResult}
    (h : sequentialEpochs ctx left epoch s w = .ok ((results, s'), w'))
    (log : List (Sighting ε)) :
    ∃ seen traces, sequentialEpochs ctx.recorded left epoch s (w, log) =
        .ok ((results, s'), (w', log ++ seen)) ∧
      eventsHeard seen = traces.flatten ∧
      EpochTraces ctx left epoch s w results traces s' w' := by
  induction left generalizing epoch s w results log with
  | zero =>
    rw [sequentialEpochs, Run.pure_ok, Prod.mk.injEq] at h
    obtain ⟨⟨rfl, rfl⟩, rfl⟩ := h
    exact ⟨[], [], by rw [List.append_nil]; rfl, rfl, .nil (.inl rfl)⟩
  | succ left ih =>
    rw [sequentialEpochs, Run.get_bind_ok] at h
    split at h
    case isTrue hcancelled =>
      rw [Run.pure_ok, Prod.mk.injEq] at h
      obtain ⟨⟨rfl, rfl⟩, rfl⟩ := h
      refine ⟨[], [], ?_, rfl, .nil (.inr hcancelled)⟩
      have hstop : ctx.recorded.observer.cancelled (w, log) = true := hcancelled
      rw [List.append_nil, sequentialEpochs, Run.get_bind_ok, if_pos hstop]
      rfl
    case isFalse hgo =>
      obtain ⟨⟨r, s₁⟩, w₁, hepoch, h⟩ := Run.bind_ok.mp h
      obtain ⟨⟨rest, s₂⟩, w₂, hrest, h⟩ := Run.bind_ok.mp h
      rw [Run.pure_ok, Prod.mk.injEq] at h
      obtain ⟨⟨rfl, rfl⟩, rfl⟩ := h
      have hgo : ctx.observer.cancelled w = false := Bool.eq_false_iff.mpr hgo
      obtain ⟨seen, hepochRecorded, htrace⟩ := exists_epochTrace hepoch log
      obtain ⟨more, traces, hrestRecorded, hheard, htraces⟩ := ih hrest (log ++ seen)
      refine ⟨seen ++ more, eventsHeard seen :: traces, ?_, ?_, .cons hgo htrace htraces⟩
      · rw [← List.append_assoc]
        exact sequentialEpochs_cons hgo hepochRecorded hrestRecorded
      · rw [eventsHeard_append, hheard, List.flatten_cons]

/-- The events of a run whose epochs come one after the other are those of its baseline, followed by
those of each epoch in its report, numbered from 1 on; and the report can be computed from them. A
recording of the run keeps exactly these events, and ends with the same report. -/
theorem events_match_report (search search' : Search ε σ) (observer : Observer σ) (w w' : σ)
    (report : Report) (hsequential : search.config.parallelEpochs = false)
    (hrun : search.run observer w = .ok ((report, search'), w')) :
    ∃ log warmups traces w₁,
      search.recorded.run (observer.recorded ε) (w, []) =
        .ok ((report, search'.recorded), (w', log)) ∧
      eventsHeard log = warmups ++ traces.flatten ∧
      IsBaseline search.config report.originalFitness warmups ∧
      report.epochs.map (·.epoch) = List.range' 1 report.epochs.length ∧
      EpochTraces (search.context observer report.originalFitness) search.config.epoch 1
        search.stream w₁ report.epochs traces search'.stream w' := by
  obtain ⟨original, w₁, hwarmup, h⟩ := Run.bind_ok.mp hrun
  dsimp only at h
  rw [if_neg (ne_true_of_eq_false hsequential)] at h
  obtain ⟨⟨⟩, hroom, h⟩ := Run.lift_bind_ok.mp h
  obtain ⟨⟨results, stream⟩, w₂, hepochs, h⟩ := Run.bind_ok.mp h
  rw [Run.pure_ok, Prod.mk.injEq] at h
  obtain ⟨⟨rfl, rfl⟩, rfl⟩ := h
  obtain ⟨before, hwarmupRecorded, hbaseline⟩ := warmup_recorded hwarmup
  obtain ⟨seen, traces, hepochsRecorded, hheard, htraces⟩ :=
    sequentialEpochs_recorded hepochs before
  refine ⟨before ++ seen, eventsHeard before, traces, w₁, ?_, ?_, hbaseline, htraces.numbers,
    htraces⟩
  · refine Run.bind_ok.mpr ⟨original, _, hwarmupRecorded, ?_⟩
    have hrecorded : search.recorded.config.parallelEpochs = false := hsequential
    dsimp only
    rw [if_neg (ne_true_of_eq_false hrecorded)]
    refine Run.lift_bind_ok.mpr ⟨(), hroom, ?_⟩
    exact Run.bind_ok.mpr ⟨_, _, hepochsRecorded, rfl⟩
  · rw [eventsHeard_append, hheard]

/-- A rehearsal with one evaluation of the unchanged program and two epochs: both are in the report,
and both have their events. -/
theorem twoEpochs_events_match_report :
    ∃ report search' w' log warmups, ∃ traces : List (List Event), ∃ w₁,
      twoEpochs.config.parallelEpochs = false ∧
      twoEpochs.run silent ⟨[0], [], none, false⟩ = .ok ((report, search'), w') ∧
      twoEpochs.recorded.run (silent.recorded Rehearsal.Token) (⟨[0], [], none, false⟩, []) =
        .ok ((report, search'.recorded), (w', log)) ∧
      eventsHeard log = warmups ++ traces.flatten ∧ warmups.length = 1 ∧
      report.epochs.map (·.epoch) = [1, 2] ∧
      EpochTraces (twoEpochs.context silent report.originalFitness) 2 1 twoEpochs.stream w₁
        report.epochs traces search'.stream w' := by
  obtain ⟨⟨report, search'⟩, w', hrun, -⟩ :=
    unfailing_twoEpochs.gives_run silent ⟨[0], [], none, false⟩
  obtain ⟨log, warmups, traces, w₁, hrecorded, hheard, hbaseline, hnumbers, htraces⟩ :=
    events_match_report twoEpochs search' silent _ w' report rfl hrun
  refine ⟨report, search', w', log, warmups, traces, w₁, rfl, hrun, hrecorded, hheard, ?_, ?_,
    htraces⟩
  · have hlength := congrArg List.length hbaseline.iterations
    rwa [List.length_map, List.length_range'] at hlength
  · have hboth : report.epochs.length = 2 := htraces.length_eq fun _ => rfl
    rw [hnumbers, hboth]
    rfl

end Search

end ProgramRepair
