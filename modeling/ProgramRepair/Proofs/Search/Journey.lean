import ProgramRepair.Proofs.Search.Steps
import ProgramRepair.Proofs.Search.Tabu

/-!
# Searches in small steps

A search that runs its epochs one after the other comes to the world in its baseline,
between two epochs and within each of them. A `Point` is where it stands between two of
these steps, `Proceeds` is one step, and a `Journey` is a number of them in worlds that
may change in any way in between. Main statements:

* `exists_journey_of_run`: a run that returns is a journey to its report;
* `Accounted.next`, `Journey.accounted`: at every point of a journey all evaluations of
  the baseline are done or left, the epochs are numbered from 1 on, and each result is
  about the outcomes of its epoch.
-/

namespace ProgramRepair.Search

open Epoch

variable {ε σ : Type}

/-- Nobody else changes the world: it goes from `w` to `w'` by the moves alone. -/
def Linked : σ → List (Move ε σ) → σ → Prop
  | w, [], w' => w = w'
  | w, m :: moves, w' => m.found = w ∧ Linked m.left moves w'

theorem Linked.append {w w₁ w' : σ} {moves more : List (Move ε σ)} (h : Linked w moves w₁)
    (hmore : Linked w₁ more w') : Linked w (moves ++ more) w' := by
  induction moves generalizing w with
  | nil =>
    obtain rfl : w = w₁ := h
    exact hmore
  | cons m moves ih => exact ⟨h.1, ih h.2⟩

variable [DecidableEq ε] [Hashable ε]

/-! ## Points -/

/-- Where a search stands that runs its epochs one after the other. -/
inductive Point (ε : Type) [DecidableEq ε] [Hashable ε] where
  /-- Nothing was done. -/
  | start
  /-- The next evaluation of the unchanged program, if one is left, is about to start. -/
  | warmup (left rep : Nat) (samples : List Binary64)
  /-- The unchanged program was evaluated and the observer is about to hear of it. -/
  | warm (left rep : Nat) (samples : List Binary64) (e : Evaluation)
  /-- The next epoch, if one is left, is about to start. -/
  | epochs (original : Option Binary64) (results : List EpochResult) (stream : Stream)
  /-- An epoch is on its way. -/
  | within (original : Option Binary64) (results : List EpochResult) (p : Position ε)
  /-- The run is over. -/
  | finished (report : Report) (stream : Stream)

namespace Point

/-- The epoch that is on its way, or 0. -/
def epoch : Point ε → Nat
  | .within _ results _ => results.length + 1
  | _ => 0

/-- The results of the epochs that are over. -/
def results : Point ε → List EpochResult
  | .start | .warmup _ _ _ | .warm _ _ _ _ => []
  | .epochs _ results _ | .within _ results _ => results
  | .finished report _ => report.epochs

/-- The report, if the run is over. -/
def report? : Point ε → Option Report
  | .finished report _ => some report
  | _ => none

/-- The number of evaluations of the unchanged program that are left. -/
def warmupsLeft (config : SearchConfig) : Point ε → Nat
  | .start => config.warmupReps
  | .warmup left _ _ | .warm left _ _ _ => left
  | _ => 0

/-- The epoch that is on its way knows of these outcomes. -/
def Tells (outcomes : List (Patch ε × Evaluation)) : Point ε → Prop
  | .within _ _ p => p.Tells outcomes
  | _ => outcomes = []

theorem report?_eq_some {p : Point ε} {report : Report} :
    p.report? = some report ↔ ∃ stream, p = .finished report stream := by
  cases p <;> simp [report?]

end Point

/-! ## Steps -/

section Proceeds

variable (search : Search ε σ) (observer : Observer σ)

/-- A search takes a step and the world goes from `w` to `w'`, with what is seen of the step. -/
inductive Proceeds :
    (p : Point ε) → (w : σ) → List (Sighting ε) → (p' : Point ε) → (w' : σ) → Prop
  | reserves {w : σ} (hroom : reserve search.config.warmupReps 8 = .ok ()) :
      Proceeds .start w [] (.warmup search.config.warmupReps 1 []) w
  | evaluates {left rep : Nat} {samples : List Binary64} {timeout : Duration} {e : Evaluation}
      {w w' : σ} (htimeout : search.config.timeout = .ok timeout)
      (heval : search.program.evaluate .empty timeout w = .ok (e, w')) :
      Proceeds (.warmup (left + 1) rep samples) w [.evaluated .empty e]
        (.warm left rep samples e) w'
  | hears {left rep : Nat} {samples : List Binary64} {e : Evaluation} {w : σ} :
      Proceeds (.warm left rep samples e) w [.heard (warmupEvent search.config rep e)]
        (.warmup left (rep + 1) (samples ++ (sample e).toList))
        (observer.notify (warmupEvent search.config rep e) w)
  | settles {rep : Nat} {samples : List Binary64} {w : σ}
      (hroom : reserve search.config.epoch resultSize = .ok ()) :
      Proceeds (.warmup 0 rep samples) w [] (.epochs (mean samples) [] search.stream) w
  | completes {original : Option Binary64} {results : List EpochResult} {stream : Stream} {w : σ}
      (hall : search.config.epoch ≤ results.length) :
      Proceeds (.epochs original results stream) w []
        (.finished ⟨original, results, .zero⟩ stream) w
  | stops {original : Option Binary64} {results : List EpochResult} {stream : Stream} {w : σ}
      (hleft : results.length < search.config.epoch) (hcancelled : observer.cancelled w = true) :
      Proceeds (.epochs original results stream) w []
        (.finished ⟨original, results, .zero⟩ stream) w
  | opens {original : Option Binary64} {results : List EpochResult} {stream : Stream}
      {timeout : Duration} {w : σ} (hleft : results.length < search.config.epoch)
      (hgo : observer.cancelled w = false) (htimeout : search.config.timeout = .ok timeout) :
      Proceeds (.epochs original results stream) w []
        (.within original results
          (.between ⟨timeout, search.config.maxIter, 1, Epoch.start original stream⟩)) w
  | within {original : Option Binary64} {results : List EpochResult} {p p' : Position ε}
      {seen : List (Sighting ε)} {w w' : σ}
      (hstep : Advances (search.context observer original) search.seed (results.length + 1)
        p w seen p' w')
      (hbusy : p'.isDone = false) :
      Proceeds (.within original results p) w seen (.within original results p') w'
  /-- The next epoch goes on with the stream of this one. -/
  | closes {original : Option Binary64} {results : List EpochResult} {s : State ε}
      {ending : Ending} {r : EpochResult} {w : σ}
      (hresult : result (search.context observer original) (results.length + 1) s ending = .ok r) :
      Proceeds (.within original results (.ended s ending)) w
        [.heard (completeEvent (search.context observer original) (results.length + 1) s)]
        (.epochs original (results ++ [r]) s.stream)
        (observer.notify
          (completeEvent (search.context observer original) (results.length + 1) s) w)

/-- A search goes from one point to another. As in a schedule, the world before a move need not be
the one after the move before it: others may change it meanwhile. -/
inductive Journey : Point ε → List (Move ε σ) → Point ε → Prop
  | stay (p : Point ε) : Journey p [] p
  | next {p q r : Point ε} {moves : List (Move ε σ)} {m : Move ε σ}
      (hearlier : Journey p moves q) (hepoch : m.epoch = q.epoch)
      (hstep : Proceeds search observer q m.found m.seen r m.left) : Journey p (moves ++ [m]) r

end Proceeds

variable {search : Search ε σ} {observer : Observer σ} {original : Option Binary64}
  {p q r : Point ε} {moves more : List (Move ε σ)} {m : Move ε σ} {w w₁ w' : σ}

namespace Journey

theorem step {seen : List (Sighting ε)} (h : Journey search observer p moves q)
    (hstep : Proceeds search observer q w seen r w') :
    Journey search observer p (moves ++ [⟨q.epoch, w, w', seen⟩]) r :=
  .next h rfl hstep

theorem trans (h : Journey search observer p moves q) (hmore : Journey search observer q more r) :
    Journey search observer p (moves ++ more) r := by
  -- journeys grow at their end, so the second one is followed
  induction hmore with
  | stay => rwa [List.append_nil]
  | next _ hepoch hstep ih =>
    rw [← List.append_assoc]
    exact .next ih hepoch hstep

/-- The last move of a journey. -/
theorem exists_last (h : Journey search observer p (moves ++ [m]) r) :
    ∃ q, Journey search observer p moves q ∧ m.epoch = q.epoch ∧
      Proceeds search observer q m.found m.seen r m.left := by
  generalize hall : moves ++ [m] = all at h
  cases h with
  | stay => exact absurd hall (List.append_ne_nil_of_right_ne_nil moves (List.cons_ne_nil m []))
  | next hearlier hepoch hstep =>
    obtain ⟨rfl, hlast⟩ := List.append_inj' hall rfl
    obtain rfl := List.singleton_inj.mp hlast
    exact ⟨_, hearlier, hepoch, hstep⟩

end Journey

/-! ## Runs are journeys -/

variable (search observer) in
/-- Left alone, a search goes from one point and world to another. -/
def Reaches (p : Point ε) (w : σ) (q : Point ε) (w' : σ) : Prop :=
  ∃ moves, Journey search observer p moves q ∧ Linked w moves w'

theorem Reaches.refl (p : Point ε) (w : σ) : Reaches search observer p w p w :=
  ⟨[], .stay p, rfl⟩

theorem Reaches.trans (h : Reaches search observer p w q w₁)
    (hmore : Reaches search observer q w₁ r w') : Reaches search observer p w r w' := by
  obtain ⟨moves, hmoves, hlinked⟩ := h
  obtain ⟨more, hmore, hlinked'⟩ := hmore
  exact ⟨moves ++ more, hmoves.trans hmore, hlinked.append hlinked'⟩

theorem Proceeds.reaches {seen : List (Sighting ε)}
    (h : Proceeds search observer p w seen q w') : Reaches search observer p w q w' :=
  ⟨_, (Journey.stay p).step h, rfl, rfl⟩

theorem reaches_of_warmupSamples {left rep : Nat} (samples : List Binary64) {rest : List Binary64}
    (h : warmupSamples search.program observer search.config left rep w = .ok (rest, w')) :
    ∃ rep', Reaches search observer (.warmup left rep samples) w
      (.warmup 0 rep' (samples ++ rest)) w' := by
  induction left generalizing rep samples rest w with
  | zero =>
    obtain ⟨rfl, rfl⟩ := Run.pure_ok.mp h
    rw [List.append_nil]
    exact ⟨rep, .refl _ w⟩
  | succ left ih =>
    obtain ⟨timeout, htimeout, h⟩ := Run.lift_bind_ok.mp h
    obtain ⟨e, w₁, heval, h⟩ := Run.bind_ok.mp h
    rw [Run.modify_bind_ok] at h
    obtain ⟨rest, w₂, hrest, h⟩ := Run.bind_ok.mp h
    obtain ⟨rfl, rfl⟩ := Run.pure_ok.mp h
    obtain ⟨rep', hleft⟩ := ih (samples ++ (sample e).toList) hrest
    rw [List.append_assoc] at hleft
    exact ⟨rep', (Proceeds.evaluates htimeout heval).reaches.trans
      (Proceeds.hears.reaches.trans hleft)⟩

section Epoch

variable {results : List EpochResult} {timeout : Duration}

/-- An iteration with a trial draws a candidate, evaluates it, and tells the observer. -/
theorem reaches_of_tries {left : Nat} {t : Trial ε} {p : Position ε}
    (ht : Tries (search.context observer original) (results.length + 1) timeout t w w')
    (hlast : ∀ v, Advances (search.context observer original) search.seed (results.length + 1)
      (.evaluated ⟨timeout, left, t.iteration, t.before⟩ t.draw t.candidate t.evaluation) v
      [.heard (t.event (search.context observer original) (results.length + 1))] p
      (observer.notify (t.event (search.context observer original) (results.length + 1)) v))
    (hbusy : p.isDone = false) :
    Reaches search observer
      (.within original results (.between ⟨timeout, left + 1, t.iteration, t.before⟩)) w
      (.within original results p) w' := by
  obtain ⟨w₁, heval, rfl⟩ := ht.evaluates
  have hdraws : Reaches search observer
      (.within original results (.between ⟨timeout, left + 1, t.iteration, t.before⟩)) w
      (.within original results
        (.drawn ⟨timeout, left, t.iteration, t.before⟩ t.draw t.candidate)) w :=
    (Proceeds.within (.draws ht.goes_on ht.draws ht.found) rfl).reaches
  exact hdraws.trans ((Proceeds.within (.evaluates heval) rfl).reaches.trans
    (Proceeds.within (hlast w₁) hbusy).reaches)

/-- The course of an epoch, in small steps. -/
theorem reaches_of_course {left iteration : Nat} {s final : State ε} {trials : List (Trial ε)}
    {ending : Ending}
    (h : Course (search.context observer original) (results.length + 1) timeout left iteration s w
      trials final ending w') :
    Reaches search observer (.within original results (.between ⟨timeout, left, iteration, s⟩)) w
      (.within original results (.ended final ending)) w' := by
  induction h with
  | spent iteration s w => exact (Proceeds.within .spends rfl).reaches
  | cancelled left iteration s hcancelled =>
    exact (Proceeds.within (.stops hcancelled) rfl).reaches
  | exhausted left iteration hgo hdraw hfound =>
    exact (Proceeds.within (.exhausts hgo hdraw hfound) rfl).reaches
  | repaired left ht hsolves => exact reaches_of_tries ht (fun _ => .solves rfl hsolves) rfl
  | next ht hsolves hrest ih =>
    exact (reaches_of_tries ht (fun _ => .goesOn rfl hsolves) rfl).trans ih

theorem reaches_of_epoch {stream stream' : Stream} {r : EpochResult}
    (hleft : results.length < search.config.epoch) (hgo : observer.cancelled w = false)
    (h : Epoch.run (search.context observer original) (results.length + 1) stream w =
      .ok ((r, stream'), w')) :
    Reaches search observer (.epochs original results stream) w
      (.epochs original (results ++ [r]) stream') w' := by
  obtain ⟨timeout, trials, final, ending, w₁, htimeout, hcourse, hresult, rfl, rfl⟩ :=
    run_ok_iff.mp h
  exact (Proceeds.opens hleft hgo htimeout).reaches.trans
    ((reaches_of_course hcourse).trans (Proceeds.closes hresult).reaches)

end Epoch

theorem reaches_of_sequentialEpochs {left : Nat} {results rest : List EpochResult}
    {stream stream' : Stream} (hleft : results.length + left = search.config.epoch)
    (h : sequentialEpochs (search.context observer original) left (results.length + 1) stream w =
      .ok ((rest, stream'), w')) :
    Reaches search observer (.epochs original results stream) w
      (.finished ⟨original, results ++ rest, .zero⟩ stream') w' := by
  induction left generalizing results rest stream w with
  | zero =>
    rw [sequentialEpochs, Run.pure_ok, Prod.mk.injEq] at h
    obtain ⟨⟨rfl, rfl⟩, rfl⟩ := h
    rw [List.append_nil]
    exact (Proceeds.completes (Nat.le_of_eq hleft.symm)).reaches
  | succ left ih =>
    rw [sequentialEpochs, Run.get_bind_ok] at h
    split at h
    case isTrue hcancelled =>
      rw [Run.pure_ok, Prod.mk.injEq] at h
      obtain ⟨⟨rfl, rfl⟩, rfl⟩ := h
      rw [List.append_nil]
      exact (Proceeds.stops (by omega) hcancelled).reaches
    case isFalse hgo =>
      obtain ⟨⟨r, s₁⟩, w₁, hepoch, h⟩ := Run.bind_ok.mp h
      obtain ⟨⟨rest, s₂⟩, w₂, hrest, h⟩ := Run.bind_ok.mp h
      rw [Run.pure_ok, Prod.mk.injEq] at h
      obtain ⟨⟨rfl, rfl⟩, rfl⟩ := h
      have hlength : (results ++ [r]).length = results.length + 1 := by simp
      rw [← hlength] at hrest
      have hothers := ih (by omega) hrest
      rw [List.append_assoc] at hothers
      exact (reaches_of_epoch (by omega) (Bool.eq_false_iff.mpr hgo) hepoch).trans hothers

/-- A run that returns is a journey to its report, and what is left of the stream is in the search
after it. -/
theorem exists_journey_of_run {search' : Search ε σ} {report : Report}
    (hsequential : search.config.parallelEpochs = false)
    (h : search.run observer w = .ok ((report, search'), w')) :
    ∃ moves, Journey search observer .start moves (.finished report search'.stream) ∧
      Linked w moves w' ∧ search' = { search with stream := search'.stream } := by
  obtain ⟨original, w₁, hwarmup, h⟩ := Run.bind_ok.mp h
  dsimp only at h
  rw [if_neg (ne_true_of_eq_false hsequential)] at h
  obtain ⟨⟨⟩, hroom, h⟩ := Run.lift_bind_ok.mp h
  obtain ⟨⟨results, stream⟩, w₂, hepochs, h⟩ := Run.bind_ok.mp h
  rw [Run.pure_ok, Prod.mk.injEq] at h
  obtain ⟨⟨rfl, rfl⟩, rfl⟩ := h
  obtain ⟨⟨⟩, hwarmupRoom, hwarmup⟩ := Run.lift_bind_ok.mp hwarmup
  obtain ⟨samples, w₃, hsamples, hmean⟩ := Run.bind_ok.mp hwarmup
  obtain ⟨rfl, rfl⟩ := Run.pure_ok.mp hmean
  obtain ⟨rep, hsamples⟩ := reaches_of_warmupSamples [] hsamples
  obtain ⟨moves, hmoves, hlinked⟩ := (Proceeds.reserves hwarmupRoom).reaches.trans
    (hsamples.trans ((Proceeds.settles hroom).reaches.trans
      (reaches_of_sequentialEpochs (Nat.zero_add _) hepochs)))
  exact ⟨moves, hmoves, hlinked, rfl⟩

/-! ## Accounts -/

/-- What the moves of a journey from the start have to do with the point that they lead to. -/
structure Accounted (search : Search ε σ) (moves : List (Move ε σ)) (p : Point ε) : Prop where
  /-- No evaluation of the unchanged program is left out. -/
  warmup : (outcomesOf 0 moves).length + p.warmupsLeft search.config = search.config.warmupReps
  unchanged : ∀ o ∈ outcomesOf 0 moves, o.1 = .empty
  numbers : p.results.map (·.epoch) = List.range' 1 p.results.length
  results : ∀ r ∈ p.results, r.Accounts (outcomesOf r.epoch moves)
  current : p.Tells (outcomesOf (p.results.length + 1) moves)
  /-- Nothing was done for an epoch after the current one. -/
  after : ∀ k, p.results.length + 1 < k → outcomesOf k moves = []

namespace Accounted

theorem start : Accounted search [] (.start : Point ε) where
  warmup := Nat.zero_add _
  unchanged := List.forall_mem_nil _
  numbers := rfl
  results := List.forall_mem_nil _
  current := rfl
  after _ _ := rfl

/-- A result has a number up to the number of results. -/
theorem epoch_lt (h : Accounted search moves p) {r : EpochResult} (hr : r ∈ p.results) :
    r.epoch < p.results.length + 1 := by
  have hmem : r.epoch ∈ p.results.map (·.epoch) := List.mem_map_of_mem hr
  rw [h.numbers, List.mem_range'_1] at hmem
  omega

/-- A move that evaluates nothing counts for no account. -/
theorem of_quiet (h : Accounted search moves p) (hquiet : evaluations m.seen = []) :
    Accounted search (moves ++ [m]) p := by
  have hsame : ∀ k, outcomesOf k (moves ++ [m]) = outcomesOf k moves := by
    intro k
    by_cases hk : m.epoch = k
    · rw [outcomesOf_concat_self hk, hquiet, List.append_nil]
    · exact outcomesOf_concat_of_ne hk
  refine ⟨?_, ?_, h.numbers, ?_, ?_, ?_⟩
  · rw [hsame]
    exact h.warmup
  · rw [hsame]
    exact h.unchanged
  · intro r hr
    rw [hsame]
    exact h.results r hr
  · rw [hsame]
    exact h.current
  · intro k hk
    rw [hsame]
    exact h.after k hk

/-- An epoch that was just started knows of no outcomes. -/
theorem opens {results : List EpochResult} {stream : Stream} {g : Stage ε}
    (h : Accounted search moves (.epochs original results stream)) (hg : g.state.evaluations = 0) :
    Accounted search moves (.within original results (.between g)) := by
  have hnone : outcomesOf (results.length + 1) moves = [] := h.current
  refine ⟨h.warmup, h.unchanged, h.numbers, h.results, ?_, h.after⟩
  change g.state.evaluations = (outcomesOf (results.length + 1) moves).length ∧
    ¬ EndsInRepair (outcomesOf (results.length + 1) moves)
  rw [hnone]
  exact ⟨hg, not_endsInRepair_nil⟩

/-- The result of an epoch that is over joins the others. -/
theorem closes {results : List EpochResult} {s : State ε} {ending : Ending} {r : EpochResult}
    {stream : Stream} (h : Accounted search moves (.within original results (.ended s ending)))
    (hresult : result (search.context observer original) (results.length + 1) s ending = .ok r) :
    Accounted search moves (.epochs original (results ++ [r]) stream) := by
  have hepoch : r.epoch = results.length + 1 := by
    obtain ⟨_, -, rfl⟩ := result_ok_iff.mp hresult
    rfl
  have hlength : (results ++ [r]).length = results.length + 1 := by simp
  refine ⟨h.warmup, h.unchanged, ?_, ?_, ?_, ?_⟩
  · change (results ++ [r]).map (·.epoch) = List.range' 1 (results ++ [r]).length
    have hnumbers : results.map (·.epoch) = List.range' 1 results.length := h.numbers
    rw [hlength, List.range'_concat, List.map_append, List.map_singleton, hnumbers, hepoch,
      Nat.one_mul, Nat.add_comm]
  · refine List.forall_mem_append.mpr ⟨h.results, List.forall_mem_singleton.mpr ?_⟩
    rw [hepoch]
    exact accounts_of_result hresult h.current
  · -- the next epoch has done nothing yet
    change outcomesOf ((results ++ [r]).length + 1) moves = []
    rw [hlength]
    exact h.after _ (Nat.lt_succ_self _)
  · change ∀ k, (results ++ [r]).length + 1 < k → _
    intro k hk
    exact h.after k (Nat.lt_of_succ_lt (hlength ▸ hk))

/-- An evaluation of the unchanged program is one of those of the baseline. -/
theorem evaluates {left rep : Nat} {samples : List Binary64} {e : Evaluation}
    (h : Accounted search moves (.warmup (left + 1) rep samples)) (hepoch : m.epoch = 0)
    (hseen : m.seen = [.evaluated .empty e]) :
    Accounted search (moves ++ [m]) (.warm left rep samples e) := by
  have hbaseline : outcomesOf 0 (moves ++ [m]) = outcomesOf 0 moves ++ [(.empty, e)] := by
    rw [outcomesOf_concat_self hepoch, hseen, evaluations_evaluated]
  have hothers : ∀ k, 0 < k → outcomesOf k (moves ++ [m]) = outcomesOf k moves :=
    fun k hk => outcomesOf_concat_of_ne (by omega)
  constructor
  case warmup =>
    have hwarmup : (outcomesOf 0 moves).length + (left + 1) = search.config.warmupReps := h.warmup
    change (outcomesOf 0 (moves ++ [m])).length + left = _
    rw [hbaseline, List.length_append, List.length_singleton]
    omega
  case unchanged =>
    rw [hbaseline]
    exact List.forall_mem_append.mpr ⟨h.unchanged, List.forall_mem_singleton.mpr rfl⟩
  case numbers => rfl
  case results => exact List.forall_mem_nil _
  case current => exact (hothers 1 Nat.one_pos).trans h.current
  case after =>
    intro k hk
    exact (hothers k (Nat.zero_lt_of_lt hk)).trans (h.after k hk)

/-- A step of an epoch that is on its way counts for this epoch only. -/
theorem within {results : List EpochResult} {p p' : Position ε}
    (h : Accounted search moves (.within original results p))
    (hepoch : m.epoch = results.length + 1)
    (hstep : Advances (search.context observer original) search.seed (results.length + 1) p
      m.found m.seen p' m.left)
    (hbusy : p'.isDone = false) :
    Accounted search (moves ++ [m]) (.within original results p') := by
  have hothers : ∀ k, k ≠ results.length + 1 →
      outcomesOf k (moves ++ [m]) = outcomesOf k moves :=
    fun k hk => outcomesOf_concat_of_ne (by omega)
  constructor
  case warmup =>
    rw [hothers 0 (by omega)]
    exact h.warmup
  case unchanged =>
    rw [hothers 0 (by omega)]
    exact h.unchanged
  case numbers => exact h.numbers
  case results =>
    intro r hr
    rw [hothers r.epoch (Nat.ne_of_lt (h.epoch_lt hr))]
    exact h.results r hr
  case current =>
    change p'.Tells (outcomesOf (results.length + 1) (moves ++ [m]))
    rw [outcomesOf_concat_self hepoch]
    exact hstep.tells h.current hbusy
  case after =>
    change ∀ k, results.length + 1 < k → _
    intro k hk
    rw [hothers k (Nat.ne_of_gt hk)]
    exact h.after k hk

/-- Every move keeps the accounts. -/
theorem next (h : Accounted search moves p) (hepoch : m.epoch = p.epoch)
    (hstep : Proceeds search observer p m.found m.seen q m.left) :
    Accounted search (moves ++ [m]) q := by
  obtain ⟨epoch, found, left, seen⟩ := m
  dsimp only at hepoch hstep
  cases hstep with
  | evaluates => exact h.evaluates hepoch rfl
  | within hstep hbusy => exact h.within hepoch hstep hbusy
  | opens => exact (h.opens rfl).of_quiet rfl
  | closes hresult => exact (h.closes hresult).of_quiet rfl
  -- the others change nothing that the accounts are about
  | _ =>
    refine of_quiet ?_ rfl
    exact ⟨h.warmup, h.unchanged, h.numbers, h.results, h.current, h.after⟩

end Accounted

theorem Journey.accounted (h : Journey search observer .start moves p) :
    Accounted search moves p := by
  induction h with
  | stay => exact .start
  | next hearlier hepoch hstep ih => exact ih.next hepoch hstep

end ProgramRepair.Search
