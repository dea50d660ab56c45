import ProgramRepair.Proofs.Search.History
import ProgramRepair.Proofs.Search.Success
import ProgramRepair.Proofs.Search.Worker

/-!
# Steps and what is seen of them

`Advances` lists what an epoch on a worker can do in one step, with what is seen of
the step from outside. A `Move` is a step in a longer run, and `outcomesOf` are the
evaluations that some moves of one epoch made. Main statements:

* `advance_ok_iff`: these are the steps of `advance`;
* `Advances.recorded`: what is seen of a step is what a recording of it keeps;
* `Advances.tells`, `accounts_of_result`: the counters of an epoch are about the
  outcomes that were seen of it, up to its result;
* `Advances.winds_down`: what an epoch may still do once the search was asked to stop.
-/

namespace ProgramRepair

variable {ε σ : Type}

@[simp] theorem evaluations_nil : evaluations ([] : List (Sighting ε)) = [] := rfl

@[simp] theorem evaluations_evaluated (patch : Patch ε) (e : Evaluation) :
    evaluations [.evaluated patch e] = [(patch, e)] := rfl

@[simp] theorem evaluations_heard (event : Event) :
    evaluations ([.heard event] : List (Sighting ε)) = [] := rfl

@[simp] theorem evaluations_append (a b : List (Sighting ε)) :
    evaluations (a ++ b) = evaluations a ++ evaluations b := List.filterMap_append

@[simp] theorem eventsHeard_nil : eventsHeard ([] : List (Sighting ε)) = [] := rfl

@[simp] theorem eventsHeard_evaluated (patch : Patch ε) (e : Evaluation) :
    eventsHeard [.evaluated patch e] = [] := rfl

@[simp] theorem eventsHeard_heard (event : Event) :
    eventsHeard ([.heard event] : List (Sighting ε)) = [event] := rfl

@[simp] theorem eventsHeard_append (a b : List (Sighting ε)) :
    eventsHeard (a ++ b) = eventsHeard a ++ eventsHeard b := List.filterMap_append

/-! ## Outcomes -/

/-- The last of some outcomes is a repair. -/
def EndsInRepair (outcomes : List (Patch ε × Evaluation)) : Prop :=
  ∃ o, outcomes.getLast? = some o ∧ o.2.Repairs

theorem not_endsInRepair_nil : ¬ EndsInRepair ([] : List (Patch ε × Evaluation)) := by
  rintro ⟨o, ho, -⟩
  cases ho

theorem endsInRepair_concat {outcomes : List (Patch ε × Evaluation)} {o : Patch ε × Evaluation} :
    EndsInRepair (outcomes ++ [o]) ↔ o.2.Repairs := by
  rw [EndsInRepair, List.getLast?_concat]
  constructor
  · rintro ⟨p, hp, hrepairs⟩
    cases hp
    exact hrepairs
  · intro hrepairs
    exact ⟨o, rfl, hrepairs⟩

/-- The result of an epoch is about these outcomes. -/
structure EpochResult.Accounts (r : EpochResult) (outcomes : List (Patch ε × Evaluation)) :
    Prop where
  evaluations : r.fitnessEvaluations = outcomes.length
  success : r.success = true ↔ EndsInRepair outcomes

namespace Search

/-! ## Moves -/

/-- A step in a longer run: the epoch that takes it, or 0 if none does, the worlds before and after
it, and what is seen of it. -/
structure Move (ε σ : Type) where
  epoch : Nat
  found : σ
  left : σ
  seen : List (Sighting ε)

/-- What is seen of some moves. -/
def sightingsOf (moves : List (Move ε σ)) : List (Sighting ε) := moves.flatMap (·.seen)

/-- What came of the patches that an epoch evaluated in some moves. -/
def outcomesOf (epoch : Nat) (moves : List (Move ε σ)) : List (Patch ε × Evaluation) :=
  evaluations (sightingsOf (moves.filter (·.epoch = epoch)))

/-- The search is asked to stop in every world that the moves find. -/
def AskedToStop (observer : Observer σ) (moves : List (Move ε σ)) : Prop :=
  ∀ m ∈ moves, observer.cancelled m.found = true

section Moves

variable (moves more : List (Move ε σ)) (m : Move ε σ) (k : Nat)

@[simp] theorem sightingsOf_nil : sightingsOf ([] : List (Move ε σ)) = [] := rfl

@[simp] theorem sightingsOf_append :
    sightingsOf (moves ++ more) = sightingsOf moves ++ sightingsOf more := List.flatMap_append

@[simp] theorem sightingsOf_singleton : sightingsOf [m] = m.seen := List.flatMap_singleton ..

@[simp] theorem outcomesOf_nil : outcomesOf k ([] : List (Move ε σ)) = [] := rfl

@[simp] theorem outcomesOf_append :
    outcomesOf k (moves ++ more) = outcomesOf k moves ++ outcomesOf k more := by
  simp [outcomesOf]

theorem outcomesOf_singleton_self : outcomesOf m.epoch [m] = evaluations m.seen := by
  simp [outcomesOf]

/-- The outcomes of one epoch are some of those that were seen. -/
theorem outcomesOf_sublist : (outcomesOf k moves).Sublist (evaluations (sightingsOf moves)) := by
  induction moves with
  | nil => exact List.Sublist.slnil
  | cons m moves ih =>
    rw [← List.singleton_append, outcomesOf_append, sightingsOf_append,
      evaluations_append, sightingsOf_singleton]
    refine List.Sublist.append ?_ ih
    by_cases h : m.epoch = k <;> simp [outcomesOf, h]

variable {moves m k}

theorem mem_eventsHeard_sightingsOf {event : Event} :
    event ∈ eventsHeard (sightingsOf moves) ↔ ∃ m ∈ moves, event ∈ eventsHeard m.seen := by
  simp only [eventsHeard, sightingsOf, List.mem_filterMap, List.mem_flatMap]
  constructor
  · rintro ⟨sighting, ⟨m, hm, hseen⟩, hevent⟩
    exact ⟨m, hm, sighting, hseen, hevent⟩
  · rintro ⟨m, hm, sighting, hseen, hevent⟩
    exact ⟨sighting, ⟨m, hm, hseen⟩, hevent⟩

/-- One more move counts for the epoch that takes it. -/
theorem outcomesOf_concat_self (h : m.epoch = k) :
    outcomesOf k (moves ++ [m]) = outcomesOf k moves ++ evaluations m.seen := by
  subst h
  rw [outcomesOf_append, outcomesOf_singleton_self]

theorem outcomesOf_concat_of_ne (h : m.epoch ≠ k) :
    outcomesOf k (moves ++ [m]) = outcomesOf k moves := by
  simp [outcomesOf, h]

end Moves

open Epoch

variable [DecidableEq ε] [Hashable ε]

/-! ## The steps of an epoch -/

section Advances

variable (ctx : SearchContext ε σ) (seed : UInt64) (epoch : Nat)

/-- An epoch takes a step and the world goes from `w` to `w'`, with what is seen of the step. The
search is asked whether to stop in two of these steps only: before the epoch starts and before
each iteration. -/
inductive Advances :
    (p : Position ε) → (w : σ) → List (Sighting ε) → (p' : Position ε) → (w' : σ) → Prop
  | skips {w : σ} (hcancelled : ctx.observer.cancelled w = true) :
      Advances .waiting w [] (.done none) w
  | opens {timeout : Duration} {w : σ} (hgo : ctx.observer.cancelled w = false)
      (htimeout : ctx.config.timeout = .ok timeout) :
      Advances .waiting w [] (.between ⟨timeout, ctx.config.maxIter, 1,
        start ctx.original (.derive seed (UInt64.ofNat epoch))⟩) w
  | spends {timeout : Duration} {iteration : Nat} {s : State ε} {w : σ} :
      Advances (.between ⟨timeout, 0, iteration, s⟩) w [] (.ended s .spent) w
  | stops {timeout : Duration} {left iteration : Nat} {s : State ε} {w : σ}
      (hcancelled : ctx.observer.cancelled w = true) :
      Advances (.between ⟨timeout, left + 1, iteration, s⟩) w [] (.ended s .cancelled) w
  | exhausts {timeout : Duration} {left iteration : Nat} {s : State ε} {draw : NeighbourDraw ε}
      {w : σ} (hgo : ctx.observer.cancelled w = false) (hdraw : Draws ctx s draw)
      (hfound : draw.found = none) :
      Advances (.between ⟨timeout, left + 1, iteration, s⟩) w []
        (.ended (s.giveUp draw) .exhausted) w
  | draws {timeout : Duration} {left iteration : Nat} {s : State ε} {draw : NeighbourDraw ε}
      {candidate : Patch ε} {w : σ} (hgo : ctx.observer.cancelled w = false)
      (hdraw : Draws ctx s draw) (hfound : draw.found = some candidate) :
      Advances (.between ⟨timeout, left + 1, iteration, s⟩) w []
        (.drawn ⟨timeout, left, iteration, s⟩ draw candidate) w
  | evaluates {g : Stage ε} {draw : NeighbourDraw ε} {candidate : Patch ε} {e : Evaluation}
      {w w' : σ} (heval : ctx.program.evaluate candidate g.timeout w = .ok (e, w')) :
      Advances (.drawn g draw candidate) w [.evaluated candidate e]
        (.evaluated g draw candidate e) w'
  | solves {g : Stage ε} {draw : NeighbourDraw ε} {candidate : Patch ε} {e : Evaluation} {w : σ}
      {event : Event}
      (hevent : searchingEvent ctx epoch g.iteration (g.state.record draw candidate e) candidate e
        (improves e g.state.bestFitness) = event)
      (hsolves : Epoch.solves e = true) :
      Advances (.evaluated g draw candidate e) w [.heard event]
        (.ended (g.state.record draw candidate e) .repaired) (ctx.observer.notify event w)
  | goesOn {g : Stage ε} {draw : NeighbourDraw ε} {candidate : Patch ε} {e : Evaluation} {w : σ}
      {event : Event}
      (hevent : searchingEvent ctx epoch g.iteration (g.state.record draw candidate e) candidate e
        (improves e g.state.bestFitness) = event)
      (hsolves : Epoch.solves e = false) :
      Advances (.evaluated g draw candidate e) w [.heard event]
        (.between { g with iteration := g.iteration + 1, state := g.state.record draw candidate e })
        (ctx.observer.notify event w)
  | concludes {s : State ε} {ending : Ending} {r : EpochResult} {w : σ}
      (hresult : result ctx epoch s ending = .ok r) :
      Advances (.ended s ending) w [.heard (completeEvent ctx epoch s)] (.done (some r))
        (ctx.observer.notify (completeEvent ctx epoch s) w)

end Advances

variable {ctx : SearchContext ε σ} {seed : UInt64} {epoch : Nat} {p p' : Position ε} {w w' : σ}
  {seen : List (Sighting ε)}

/-- A step of an epoch that is not done is one of those. -/
theorem exists_advances (hp : p.isDone = false) (h : advance ctx seed epoch p w = .ok (p', w')) :
    ∃ seen, Advances ctx seed epoch p w seen p' w' := by
  cases p with
  | waiting =>
    rw [advance, Run.get_bind_ok] at h
    split at h
    case isTrue hcancelled =>
      obtain ⟨rfl, rfl⟩ := Run.pure_ok.mp h
      exact ⟨_, .skips hcancelled⟩
    case isFalse hgo =>
      obtain ⟨timeout, htimeout, h⟩ := Run.lift_bind_ok.mp h
      obtain ⟨rfl, rfl⟩ := Run.pure_ok.mp h
      exact ⟨_, .opens (Bool.eq_false_iff.mpr hgo) htimeout⟩
  | between g =>
    obtain ⟨timeout, left, iteration, s⟩ := g
    cases left with
    | zero =>
      obtain ⟨rfl, rfl⟩ := Run.pure_ok.mp h
      exact ⟨_, .spends⟩
    | succ left =>
      rw [advance, Run.get_bind_ok] at h
      split at h
      case isTrue hcancelled =>
        obtain ⟨rfl, rfl⟩ := Run.pure_ok.mp h
        exact ⟨_, .stops hcancelled⟩
      case isFalse hgo =>
        obtain ⟨draw, hdraw, h⟩ := Run.lift_bind_ok.mp h
        cases hfound : draw.found with
        | none =>
          rw [hfound] at h
          obtain ⟨rfl, rfl⟩ := Run.pure_ok.mp h
          exact ⟨_, .exhausts (Bool.eq_false_iff.mpr hgo) hdraw hfound⟩
        | some candidate =>
          rw [hfound] at h
          obtain ⟨rfl, rfl⟩ := Run.pure_ok.mp h
          exact ⟨_, .draws (Bool.eq_false_iff.mpr hgo) hdraw hfound⟩
  | drawn g draw candidate =>
    obtain ⟨e, w₁, heval, h⟩ := Run.bind_ok.mp h
    obtain ⟨rfl, rfl⟩ := Run.pure_ok.mp h
    exact ⟨_, .evaluates heval⟩
  | evaluated g draw candidate e =>
    rw [advance, Run.modify_bind_ok, Run.pure_ok] at h
    obtain ⟨rfl, rfl⟩ := h
    cases hsolves : solves e with
    | true => exact ⟨_, .solves rfl hsolves⟩
    | false => exact ⟨_, .goesOn rfl hsolves⟩
  | ended s ending =>
    obtain ⟨r, hresult, h⟩ := Run.lift_bind_ok.mp h
    rw [Run.modify_bind_ok, Run.pure_ok] at h
    obtain ⟨rfl, rfl⟩ := h
    exact ⟨_, .concludes hresult⟩
  | done result => cases hp

theorem Advances.advance_ok (h : Advances ctx seed epoch p w seen p' w') :
    advance ctx seed epoch p w = .ok (p', w') := by
  cases h with
  | skips hcancelled =>
    rw [advance, Run.get_bind_ok, if_pos hcancelled]
    rfl
  | opens hgo htimeout =>
    rw [advance, Run.get_bind_ok, if_neg (ne_true_of_eq_false hgo)]
    exact Run.lift_bind_ok.mpr ⟨_, htimeout, rfl⟩
  | spends => rfl
  | stops hcancelled =>
    rw [advance, Run.get_bind_ok, if_pos hcancelled]
    rfl
  | exhausts hgo hdraw hfound =>
    rw [advance, Run.get_bind_ok, if_neg (ne_true_of_eq_false hgo)]
    refine Run.lift_bind_ok.mpr ⟨_, hdraw, ?_⟩
    rw [hfound]
    rfl
  | draws hgo hdraw hfound =>
    rw [advance, Run.get_bind_ok, if_neg (ne_true_of_eq_false hgo)]
    refine Run.lift_bind_ok.mpr ⟨_, hdraw, ?_⟩
    rw [hfound]
    rfl
  | evaluates heval => exact Run.bind_ok.mpr ⟨_, _, heval, rfl⟩
  | solves hevent hsolves =>
    rw [advance, hevent, hsolves]
    rfl
  | goesOn hevent hsolves =>
    rw [advance, hevent, hsolves]
    rfl
  | concludes hresult => exact Run.lift_bind_ok.mpr ⟨_, hresult, rfl⟩

theorem advance_ok_iff (hp : p.isDone = false) :
    advance ctx seed epoch p w = .ok (p', w') ↔ ∃ seen, Advances ctx seed epoch p w seen p' w' :=
  ⟨exists_advances hp, fun ⟨_, h⟩ => h.advance_ok⟩

/-- What is seen of a step is what a recording of it keeps. -/
theorem Advances.recorded (h : Advances ctx seed epoch p w seen p' w')
    (log : List (Sighting ε)) :
    Advances ctx.recorded seed epoch p (w, log) seen p' (w', log ++ seen) := by
  cases h with
  | skips hcancelled =>
    rw [List.append_nil]
    exact .skips hcancelled
  | opens hgo htimeout =>
    rw [List.append_nil]
    exact .opens hgo htimeout
  | spends =>
    rw [List.append_nil]
    exact .spends
  | stops hcancelled =>
    rw [List.append_nil]
    exact .stops hcancelled
  | exhausts hgo hdraw hfound =>
    rw [List.append_nil]
    exact .exhausts hgo hdraw.recorded hfound
  | draws hgo hdraw hfound =>
    rw [List.append_nil]
    exact .draws hgo hdraw.recorded hfound
  | evaluates heval =>
    refine .evaluates ?_
    change (ctx.program.evaluate _ _ w >>= _) = _
    rw [heval]
    rfl
  | solves hevent hsolves => exact .solves hevent hsolves
  | goesOn hevent hsolves => exact .goesOn hevent hsolves
  | concludes hresult => exact .concludes hresult

/-- A result has the number of its epoch. -/
theorem Advances.epoch_of_result? (h : Advances ctx seed epoch p w seen p' w') {r : EpochResult}
    (hr : p'.result? = some r) : r.epoch = epoch := by
  cases h with
  | concludes hresult =>
    obtain rfl := Option.some.inj hr
    obtain ⟨_, -, rfl⟩ := result_ok_iff.mp hresult
    rfl
  | _ => cases hr

/-- The events of an epoch have its number. -/
theorem Advances.event_epoch (h : Advances ctx seed epoch p w seen p' w') {event : Event}
    (hevent : event ∈ eventsHeard seen) : event.epoch = epoch := by
  cases h with
  | solves hmade | goesOn hmade =>
    subst hmade
    obtain rfl := List.mem_singleton.mp hevent
    rfl
  | concludes =>
    obtain rfl := List.mem_singleton.mp hevent
    rfl
  | _ => cases hevent

/-! ## Counters -/

/-- An epoch on its way at this position knows of these outcomes. -/
def Position.Tells (outcomes : List (Patch ε × Evaluation)) : Position ε → Prop
  | .waiting | .done _ => False
  | .between g | .drawn g _ _ =>
    g.state.evaluations = outcomes.length ∧ ¬ EndsInRepair outcomes
  | .evaluated g _ candidate e =>
    ∃ earlier, outcomes = earlier ++ [(candidate, e)] ∧ g.state.evaluations = earlier.length
  | .ended s ending =>
    s.evaluations = outcomes.length ∧ (ending = .repaired ↔ EndsInRepair outcomes)

section Tells

variable {outcomes : List (Patch ε × Evaluation)}

theorem Position.Tells.isDone (h : p.Tells outcomes) : p.isDone = false := by
  cases p with
  | done => exact h.elim
  | _ => rfl

/-- A step that does not finish the epoch keeps count of what is seen of it. -/
theorem Advances.tells (h : Advances ctx seed epoch p w seen p' w') (hp : p.Tells outcomes)
    (hbusy : p'.isDone = false) : p'.Tells (outcomes ++ evaluations seen) := by
  cases h with
  | skips | opens => exact hp.elim
  | spends | stops | exhausts =>
    -- a repair would have ended the epoch before
    obtain ⟨hcount, hrepair⟩ := hp
    rw [evaluations_nil, List.append_nil]
    exact ⟨hcount, iff_of_false (by decide) hrepair⟩
  | draws =>
    rw [evaluations_nil, List.append_nil]
    exact hp
  | evaluates => exact ⟨outcomes, rfl, hp.1⟩
  | solves _ hsolves =>
    obtain ⟨earlier, rfl, hcount⟩ := hp
    rw [evaluations_heard, List.append_nil]
    refine ⟨?_, iff_of_true rfl (endsInRepair_concat.mpr (solves_iff.mp hsolves))⟩
    rw [List.length_append, ← hcount]
    rfl
  | goesOn _ hsolves =>
    obtain ⟨earlier, rfl, hcount⟩ := hp
    rw [evaluations_heard, List.append_nil]
    refine ⟨?_, ?_⟩
    · rw [List.length_append, ← hcount]
      rfl
    · rw [endsInRepair_concat, ← solves_iff, hsolves]
      exact Bool.false_ne_true
  | concludes => cases hbusy

/-- The result is about the outcomes that the epoch knows of. -/
theorem accounts_of_result {s : State ε} {ending : Ending} {r : EpochResult}
    (hresult : result ctx epoch s ending = .ok r)
    (hp : (Position.ended s ending).Tells outcomes) : r.Accounts outcomes := by
  obtain ⟨words, -, rfl⟩ := result_ok_iff.mp hresult
  exact ⟨hp.1, decide_eq_true_iff.trans hp.2⟩

end Tells

/-! ## Once the search was asked to stop -/

/-- How many evaluations an epoch still starts once the search was asked to stop. -/
def Position.callsLeft : Position ε → Nat
  | .drawn _ _ _ => 1
  | _ => 0

/-- How many events there still are of an epoch once the search was asked to stop. -/
def Position.eventsLeft : Position ε → Nat
  | .waiting | .done _ => 0
  | .between _ | .ended _ _ => 1
  | .drawn _ _ _ | .evaluated _ _ _ _ => 2

/-- How many steps an epoch still takes at most once the search was asked to stop. -/
def Position.stepsLeft : Position ε → Nat
  | .done _ => 0
  | .waiting | .ended _ _ => 1
  | .between _ => 2
  | .evaluated _ _ _ _ => 3
  | .drawn _ _ _ => 4

theorem Position.callsLeft_le (p : Position ε) : p.callsLeft ≤ 1 := by
  cases p <;> simp [callsLeft]

/-- A step after the search was asked to stop is one step less to the end, and what it does is part
of what was left to do. -/
theorem Advances.winds_down (h : Advances ctx seed epoch p w seen p' w')
    (hcancelled : ctx.observer.cancelled w = true) :
    (evaluations seen).length + p'.callsLeft ≤ p.callsLeft ∧
      (eventsHeard seen).length + p'.eventsLeft ≤ p.eventsLeft ∧
      p'.stepsLeft < p.stepsLeft := by
  cases h with
  | opens hgo | exhausts hgo | draws hgo => cases hcancelled.symm.trans hgo
  | _ => simp [Position.callsLeft, Position.eventsLeft, Position.stepsLeft]

end Search

end ProgramRepair
