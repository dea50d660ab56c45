import ProgramRepair.Proofs.Search.Journey
import ProgramRepair.Proofs.Search.Scheduling

/-!
# Asking a search to stop

A search may be asked to stop at any point, by its observer or by anyone else. Main
statements:

* `Journey.winds_down`: what is left to do from then on is bounded, and every step is
  part of it;
* `Journey.early`, `Journey.closes_epoch`: without an epoch on its way none is started, and
  otherwise the last one is only brought to its end;
* `Watched.calls_le`: epochs side by side start at most one more evaluation each;
* `stops_once_asked`: both kinds of runs, with the reports that they end with.
-/

namespace ProgramRepair.Search

open Epoch

variable {ε σ : Type} [DecidableEq ε] [Hashable ε]

/-! ## What is left to do -/

namespace Point

variable (config : SearchConfig)

/-- How many evaluations still start once the search was asked to stop. -/
def callsLeft : Point ε → Nat
  | .within _ _ p => p.callsLeft
  | p => p.warmupsLeft config

/-- How many events there still are once the search was asked to stop. -/
def eventsLeft : Point ε → Nat
  | .warm left _ _ _ => left + 1
  | .within _ _ p => p.eventsLeft
  | p => p.warmupsLeft config

/-- How many steps are still taken at most once the search was asked to stop. -/
def stepsLeft : Point ε → Nat
  | .start => 2 * config.warmupReps + 3
  | .warmup left _ _ => 2 * left + 2
  | .warm left _ _ _ => 2 * left + 3
  | .within _ _ p => p.stepsLeft + 1
  | .epochs _ _ _ => 1
  | .finished _ _ => 0

/-- No epoch was started. -/
def Early : Point ε → Prop
  | .within _ _ _ => False
  | p => p.results = []

/-- The epoch `k` is the last one that was started, and all that it evaluated was heard of. -/
def Settled (k : Nat) : Point ε → Prop
  | .start | .warmup _ _ _ | .warm _ _ _ _ => False
  | .within _ results p => results.length + 1 = k ∧ p.eventsLeft ≤ 1
  | p => p.results.length = k

/-- After the baseline, at most one evaluation still starts. -/
theorem callsLeft_le_of_not_early {p : Point ε} (h : ¬ p.Early) : p.callsLeft config ≤ 1 := by
  cases p with
  | within _ _ p => exact p.callsLeft_le
  | start | warmup | warm => exact absurd rfl h
  | epochs | finished => exact Nat.zero_le 1

theorem Early.epoch_eq_zero {p : Point ε} (h : p.Early) : p.epoch = 0 := by
  cases p with
  | within => exact h.elim
  | _ => rfl

theorem Settled.left {p : Point ε} {k : Nat} (h : p.Settled k) :
    p.callsLeft config = 0 ∧ p.eventsLeft config ≤ 1 ∧ p.stepsLeft config ≤ 3 := by
  cases p with
  | start | warmup | warm => exact h.elim
  | epochs | finished => exact ⟨rfl, Nat.zero_le 1, by simp [stepsLeft]⟩
  | within _ _ p =>
    obtain ⟨-, hevents⟩ := h
    cases p <;>
      simp_all [callsLeft, eventsLeft, stepsLeft, Position.callsLeft, Position.eventsLeft,
        Position.stepsLeft]

end Point

variable {search : Search ε σ} {observer : Observer σ} {original : Option Binary64}
  {p q : Point ε} {moves : List (Move ε σ)} {seen : List (Sighting ε)} {w w' : σ} {k : Nat}

/-! ## Epochs one after the other -/

/-- A step after the search was asked to stop is one step less to the end, and what it does is part
of what was left to do. -/
theorem Proceeds.winds_down (h : Proceeds search observer p w seen q w')
    (hcancelled : observer.cancelled w = true) :
    (evaluations seen).length + q.callsLeft search.config ≤ p.callsLeft search.config ∧
      (eventsHeard seen).length + q.eventsLeft search.config ≤ p.eventsLeft search.config ∧
      q.stepsLeft search.config < p.stepsLeft search.config := by
  cases h with
  | opens _ hgo =>
    -- the search is asked before an epoch starts
    cases hcancelled.symm.trans hgo
  | within hstep =>
    obtain ⟨hcalls, hevents, hsteps⟩ := hstep.winds_down hcancelled
    exact ⟨hcalls, hevents, Nat.succ_lt_succ hsteps⟩
  | _ =>
    simp [Point.callsLeft, Point.eventsLeft, Point.stepsLeft, Point.warmupsLeft,
      Position.callsLeft, Position.eventsLeft, Position.stepsLeft] <;> omega

theorem Journey.winds_down (h : Journey search observer q moves p)
    (hasked : AskedToStop observer moves) :
    (evaluations (sightingsOf moves)).length + p.callsLeft search.config ≤
        q.callsLeft search.config ∧
      (eventsHeard (sightingsOf moves)).length + p.eventsLeft search.config ≤
        q.eventsLeft search.config ∧
      moves.length + p.stepsLeft search.config ≤ q.stepsLeft search.config := by
  induction h with
  | stay => simp
  | @next _ _ moves m hearlier hepoch hstep ih =>
    obtain ⟨hbefore, hlast⟩ := List.forall_mem_append.mp hasked
    obtain ⟨hcalls, hevents, hsteps⟩ := ih hbefore
    obtain ⟨hcalls', hevents', hsteps'⟩ := hstep.winds_down (hlast m List.mem_cons_self)
    simp only [sightingsOf_append, sightingsOf_singleton, evaluations_append, eventsHeard_append,
      List.length_append, List.length_singleton]
    omega

/-- What every step keeps once the search was asked to stop holds in the end, and what is true of
every step is true of all moves. -/
theorem Journey.keeps {P : Point ε → Prop} {Q : Move ε σ → Prop}
    (hkeeps : ∀ {p p' : Point ε} {m : Move ε σ}, m.epoch = p.epoch →
      Proceeds search observer p m.found m.seen p' m.left →
        observer.cancelled m.found = true → P p → P p' ∧ Q m)
    (h : Journey search observer q moves p) (hasked : AskedToStop observer moves) (hq : P q) :
    P p ∧ ∀ m ∈ moves, Q m := by
  induction h with
  | stay => exact ⟨hq, List.forall_mem_nil _⟩
  | next hearlier hepoch hstep ih =>
    obtain ⟨hbefore, hlast⟩ := List.forall_mem_append.mp hasked
    obtain ⟨hp, hall⟩ := ih hbefore
    obtain ⟨hp', hm⟩ := hkeeps hepoch hstep (hlast _ List.mem_cons_self) hp
    exact ⟨hp', List.forall_mem_append.mpr ⟨hall, List.forall_mem_singleton.mpr hm⟩⟩

/-- Where no epoch was started, none is. -/
theorem Proceeds.early (h : Proceeds search observer p w seen q w')
    (hcancelled : observer.cancelled w = true) (hp : p.Early) : q.Early := by
  cases h with
  | opens _ hgo => cases hcancelled.symm.trans hgo
  | within | closes => exact hp.elim
  | completes | stops => exact hp
  | _ => rfl

theorem Journey.early (h : Journey search observer q moves p)
    (hasked : AskedToStop observer moves) (hq : q.Early) :
    p.Early ∧ ∀ m ∈ moves, m.epoch = 0 :=
  h.keeps (fun hepoch hstep hcancelled hp =>
    ⟨hstep.early hcancelled hp, hepoch.trans hp.epoch_eq_zero⟩) hasked hq

/-- An epoch whose evaluations were all heard of is only brought to its end. -/
theorem Proceeds.closes_epoch (h : Proceeds search observer p w seen q w')
    (hcancelled : observer.cancelled w = true) (hp : p.Settled k) :
    q.Settled k ∧
      ∀ event ∈ eventsHeard seen, event.phase = .epochComplete ∧ event.epoch = k := by
  cases h with
  | reserves | evaluates | hears | settles => exact hp.elim
  | completes | stops => exact ⟨hp, List.forall_mem_nil _⟩
  | opens _ hgo => cases hcancelled.symm.trans hgo
  | within hstep hbusy =>
    obtain ⟨hk, hevents⟩ := hp
    have hleft := (hstep.winds_down hcancelled).2.1
    refine ⟨⟨hk, by omega⟩, ?_⟩
    cases hstep with
    | skips | concludes => cases hbusy
    | opens hgo | exhausts hgo | draws hgo => cases hcancelled.symm.trans hgo
    | spends | stops => exact List.forall_mem_nil _
    | evaluates | solves | goesOn =>
      -- an evaluation that was not heard of leaves two events
      exact absurd hevents (by simp [Position.eventsLeft])
  | closes =>
    obtain ⟨rfl, -⟩ := hp
    exact ⟨List.length_append, List.forall_mem_singleton.mpr ⟨rfl, rfl⟩⟩

theorem Journey.closes_epoch (h : Journey search observer q moves p)
    (hasked : AskedToStop observer moves) (hq : q.Settled k) :
    p.Settled k ∧ ∀ event ∈ eventsHeard (sightingsOf moves),
      event.phase = .epochComplete ∧ event.epoch = k := by
  obtain ⟨hp, hall⟩ := h.keeps (fun _ hstep hcancelled => hstep.closes_epoch hcancelled) hasked hq
  refine ⟨hp, fun event hevent => ?_⟩
  obtain ⟨m, hm, hseen⟩ := mem_eventsHeard_sightingsOf.mp hevent
  exact hall m hm event hseen

/-- When the observer has heard of an epoch, nothing of it is half done. -/
theorem Proceeds.settled_of_heard (h : Proceeds search observer p w seen q w') {event : Event}
    (hevent : event ∈ eventsHeard seen) (hphase : event.phase ≠ .warmup) :
    q.Settled event.epoch ∧ event.epoch ≠ 0 := by
  cases h with
  | reserves | evaluates | settles | completes | stops | opens => cases hevent
  | hears =>
    obtain rfl := List.mem_singleton.mp hevent
    exact absurd rfl hphase
  | within hstep hbusy =>
    have hepoch := hstep.event_epoch hevent
    refine ⟨⟨hepoch.symm, ?_⟩, hepoch ▸ Nat.succ_ne_zero _⟩
    cases hstep with
    | solves | goesOn =>
      -- all that is left to hear of is the end of the epoch
      exact Nat.le_refl 1
    | concludes => cases hbusy
    | _ => cases hevent
  | closes =>
    obtain rfl := List.mem_singleton.mp hevent
    exact ⟨List.length_append, Nat.succ_ne_zero _⟩

/-! ### The search can go on -/

/-- All that a run needs once it was asked to stop is there. -/
structure Sturdy (search : Search ε σ) : Prop where
  warmupRoom : reserve search.config.warmupReps 8 = .ok ()
  epochRoom : reserve search.config.epoch resultSize = .ok ()
  timeout : ∃ timeout, search.config.timeout = .ok timeout
  evaluate : ∀ patch timeout w, ∃ e w', search.program.evaluate patch timeout w = .ok (e, w')
  describe : ∀ edit, ∃ words, search.program.describe edit = .ok words

/-- What gives something for each member gives something for a list. -/
theorem exists_mapM_ok {α β : Type} {f : α → Except Fault β} {as : List α}
    (h : ∀ a ∈ as, ∃ b, f a = .ok b) : ∃ bs, as.mapM f = .ok bs := by
  induction as with
  | nil => exact ⟨[], rfl⟩
  | cons a as ih =>
    obtain ⟨⟨b, hb⟩, has⟩ := List.forall_mem_cons.mp h
    obtain ⟨bs, hbs⟩ := ih has
    rw [List.mapM_cons, hb, hbs]
    exact ⟨b :: bs, rfl⟩

theorem Sturdy.exists_result (h : search.Sturdy) (observer : Observer σ)
    (original : Option Binary64) (epoch : Nat) (s : State ε) (ending : Ending) :
    ∃ r, result (search.context observer original) epoch s ending = .ok r := by
  obtain ⟨words, hwords⟩ := exists_mapM_ok fun edit (_ : edit ∈ s.best.edits) => h.describe edit
  exact ⟨_, result_ok_iff.mpr ⟨words, hwords, rfl⟩⟩

/-- A run that was asked to stop is never stuck before it has its report. -/
theorem Accounted.exists_proceeds (h : Accounted search moves p) (hsturdy : search.Sturdy)
    (hbusy : p.report? = none) (hcancelled : observer.cancelled w = true) :
    ∃ seen q w', Proceeds search observer p w seen q w' := by
  obtain ⟨timeout, htimeout⟩ := hsturdy.timeout
  cases p with
  | start => exact ⟨_, _, _, .reserves hsturdy.warmupRoom⟩
  | warmup left rep samples =>
    cases left with
    | zero => exact ⟨_, _, _, .settles hsturdy.epochRoom⟩
    | succ left =>
      obtain ⟨e, w', heval⟩ := hsturdy.evaluate .empty timeout w
      exact ⟨_, _, _, .evaluates htimeout heval⟩
  | warm left rep samples e => exact ⟨_, _, _, .hears⟩
  | epochs original results stream =>
    by_cases hleft : results.length < search.config.epoch
    · exact ⟨_, _, _, .stops hleft hcancelled⟩
    · exact ⟨_, _, _, .completes (Nat.le_of_not_lt hleft)⟩
  | finished => cases hbusy
  | within original results p =>
    cases p with
    | waiting | done => exact h.current.elim
    | between g =>
      obtain ⟨timeout, left, iteration, s⟩ := g
      cases left with
      | zero => exact ⟨_, _, _, .within .spends rfl⟩
      | succ left => exact ⟨_, _, _, .within (.stops hcancelled) rfl⟩
    | drawn g draw candidate =>
      obtain ⟨e, w', heval⟩ := hsturdy.evaluate candidate g.timeout w
      exact ⟨_, _, _, .within (.evaluates heval) rfl⟩
    | evaluated g draw candidate e =>
      cases hsolves : solves e with
      | true => exact ⟨_, _, _, .within (.solves rfl hsolves) rfl⟩
      | false => exact ⟨_, _, _, .within (.goesOn rfl hsolves) rfl⟩
    | ended s ending =>
      obtain ⟨r, hr⟩ :=
        hsturdy.exists_result observer original (results.length + 1) s ending
      exact ⟨_, _, _, .closes hr⟩

/-! ### What a run does then -/

/-- What a run does after it was asked to stop at `q`: the moves `later` lead it to `p`. -/
structure WindsDown (search : Search ε σ) (observer : Observer σ) (q : Point ε)
    (later : List (Move ε σ)) (p : Point ε) : Prop where
  steps : later.length + p.stepsLeft search.config ≤ q.stepsLeft search.config
  /-- Once an epoch was started, at most one evaluation follows or is about to. -/
  calls : ¬ q.Early → (evaluations (sightingsOf later)).length + p.callsLeft search.config ≤ 1
  goes_on : search.Sturdy → p.report? = none → ∀ w, observer.cancelled w = true →
    ∃ m p', m.found = w ∧ Journey search observer q (later ++ [m]) p'

/-- What a run does after it was asked to stop in a callback about the epoch `k`: the moves `later`
lead it to `p`. -/
structure OnlyCloses (search : Search ε σ) (k : Nat) (earlier later : List (Move ε σ))
    (p : Point ε) : Prop where
  steps : later.length ≤ 3
  /-- No evaluation starts, and none is about to. -/
  calls : evaluations (sightingsOf later) = [] ∧ p.callsLeft search.config = 0
  events : (eventsHeard (sightingsOf later)).length ≤ 1
  complete : ∀ event ∈ eventsHeard (sightingsOf later),
    event.phase = .epochComplete ∧ event.epoch = k
  numbers : ∀ report, p.report? = some report → report.epochs.map (·.epoch) = List.range' 1 k
  /-- The last result is about what the epoch had evaluated by then. -/
  last : ∀ report, p.report? = some report →
    ∃ r, report.epochs.getLast? = some r ∧ r.epoch = k ∧ r.Accounts (outcomesOf k earlier)

section Journeys

variable {earlier later : List (Move ε σ)}

theorem Journey.windsDown (hearlier : Journey search observer .start earlier q)
    (hlater : Journey search observer q later p) (hasked : AskedToStop observer later) :
    WindsDown search observer q later p := by
  obtain ⟨hcalls, -, hsteps⟩ := hlater.winds_down hasked
  refine ⟨hsteps, ?_, ?_⟩
  · intro hq
    exact hcalls.trans (Point.callsLeft_le_of_not_early search.config hq)
  · intro hsturdy hbusy w hcancelled
    obtain ⟨seen, p', w', hstep⟩ :=
      (hearlier.trans hlater).accounted.exists_proceeds hsturdy hbusy hcancelled
    exact ⟨_, p', rfl, hlater.step hstep⟩

/-- In worlds that ask to stop, a run gets to its report. -/
theorem Journey.exists_report (hearlier : Journey search observer .start earlier q)
    (hsturdy : search.Sturdy) (hcancelled : observer.cancelled w = true) :
    ∃ later report stream, Journey search observer q later (.finished report stream) ∧
      AskedToStop observer later := by
  -- every step brings the end closer
  induction hn : q.stepsLeft search.config using Nat.strongRecOn generalizing earlier q with
  | _ n ih =>
    cases hreport : q.report? with
    | some report =>
      obtain ⟨stream, rfl⟩ := Point.report?_eq_some.mp hreport
      exact ⟨[], report, stream, .stay _, List.forall_mem_nil _⟩
    | none =>
      obtain ⟨seen, r, w', hstep⟩ := hearlier.accounted.exists_proceeds hsturdy hreport hcancelled
      have hone := (Journey.stay q).step hstep
      have hless := (hstep.winds_down hcancelled).2.2
      obtain ⟨later, report, stream, hlater, hasked⟩ := ih _ (hn ▸ hless) (hearlier.trans hone) rfl
      exact ⟨_, report, stream, hone.trans hlater, List.forall_mem_cons.mpr ⟨hcancelled, hasked⟩⟩

/-- The last result is that of the epoch with the number of results. -/
theorem Accounted.exists_last_result (h : Accounted search moves p) (hp : p.results.length ≠ 0) :
    ∃ r, p.results.getLast? = some r ∧ r.epoch = p.results.length := by
  refine Option.map_eq_some_iff.mp ?_
  rw [← List.getLast?_map, h.numbers, List.getLast?_range', if_neg hp, Nat.add_sub_cancel_left]

/-- A run that ends has done all the evaluations of the baseline. -/
theorem Accounted.warmup_of_report (h : Accounted search moves p) {report : Report}
    (hreport : p.report? = some report) :
    (outcomesOf 0 moves).length = search.config.warmupReps := by
  obtain ⟨stream, rfl⟩ := Point.report?_eq_some.mp hreport
  exact h.warmup

theorem Journey.onlyCloses (hearlier : Journey search observer .start earlier q)
    (hlater : Journey search observer q later p) (hasked : AskedToStop observer later)
    (hq : q.Settled k) (hk : k ≠ 0) : OnlyCloses search k earlier later p := by
  obtain ⟨hcalls, hevents, hsteps⟩ := hlater.winds_down hasked
  obtain ⟨hnoCalls, honeEvent, hthreeSteps⟩ := hq.left search.config
  obtain ⟨hp, hcomplete⟩ := hlater.closes_epoch hasked hq
  have hnone : evaluations (sightingsOf later) = [] :=
    List.eq_nil_of_length_eq_zero (by omega)
  have haccounted := (hearlier.trans hlater).accounted
  constructor
  case steps => omega
  case calls => exact ⟨hnone, by omega⟩
  case events => omega
  case complete => exact hcomplete
  case numbers =>
    intro report hreport
    obtain ⟨stream, rfl⟩ := Point.report?_eq_some.mp hreport
    obtain rfl : report.epochs.length = k := hp
    exact haccounted.numbers
  case last =>
    intro report hreport
    obtain ⟨stream, rfl⟩ := Point.report?_eq_some.mp hreport
    obtain rfl : report.epochs.length = k := hp
    obtain ⟨r, hr, hepoch⟩ : ∃ r, report.epochs.getLast? = some r ∧
        r.epoch = report.epochs.length := haccounted.exists_last_result hk
    refine ⟨r, hr, hepoch, ?_⟩
    -- nothing was evaluated after the search was asked to stop
    have hafter : outcomesOf r.epoch later = [] :=
      List.sublist_nil.mp (hnone ▸ outcomesOf_sublist later _)
    have hboth : r.Accounts (outcomesOf r.epoch (earlier ++ later)) :=
      haccounted.results r (List.mem_of_getLast? hr)
    rwa [outcomesOf_append, hafter, List.append_nil, hepoch] at hboth

end Journeys

/-! ## Epochs side by side -/

section Watched

variable (ctx : SearchContext ε σ) (seed : UInt64) (n : Nat)

/-- A schedule whose steps keep what is seen of them. -/
inductive Watched : (Nat → Position ε) → List (Move ε σ) → (Nat → Position ε) → Prop
  | start (a : Nat → Position ε) : Watched a [] a
  | next {a b : Nat → Position ε} {moves : List (Move ε σ)} {m : Move ε σ} {p : Position ε}
      (hearlier : Watched a moves b) (hepoch : m.epoch ∈ List.range' 1 n)
      (hstep : Advances ctx seed m.epoch (b m.epoch) m.found m.seen p m.left) :
      Watched a (moves ++ [m]) (Function.update b m.epoch p)

end Watched

section Schedules

variable {ctx : SearchContext ε σ} {seed : UInt64} {n : Nat} {a b : Nat → Position ε}

theorem Watched.step {p p' : Position ε} {epoch : Nat} (h : Watched ctx seed n a moves b)
    (hepoch : epoch ∈ List.range' 1 n) (hp : b epoch = p)
    (hstep : Advances ctx seed epoch p w seen p' w') :
    Watched ctx seed n a (moves ++ [⟨epoch, w, w', seen⟩]) (Function.update b epoch p') := by
  subst hp
  exact .next h hepoch hstep

/-- Every schedule can be watched. -/
theorem Schedule.exists_watched {steps : List (Nat × σ)} (h : Schedule ctx seed n a steps b) :
    ∃ moves, Watched ctx seed n a moves b ∧ moves.map (fun m => (m.epoch, m.found)) = steps := by
  induction h with
  | start => exact ⟨[], .start a, rfl⟩
  | @next b steps epoch p w w' hearlier hepoch hbusy hstep ih =>
    obtain ⟨moves, hmoves, rfl⟩ := ih
    obtain ⟨seen, hadvances⟩ := exists_advances hbusy hstep
    exact ⟨_, hmoves.step hepoch rfl hadvances, List.map_append⟩

/-- Each epoch starts only the evaluation, if any, that it has drawn a candidate for. -/
theorem Watched.calls_le (h : Watched ctx seed n a moves b)
    (hasked : AskedToStop ctx.observer moves) (k : Nat) :
    (outcomesOf k moves).length + (b k).callsLeft ≤ (a k).callsLeft := by
  induction h with
  | start => exact Nat.le_of_eq (Nat.zero_add _)
  | @next b moves m p hearlier hepoch hstep ih =>
    obtain ⟨hbefore, hlast⟩ := List.forall_mem_append.mp hasked
    have hcalls := (hstep.winds_down (hlast m List.mem_cons_self)).1
    have hearlierCalls := ih hbefore
    by_cases hk : k = m.epoch
    · subst hk
      rw [Function.update_self, outcomesOf_concat_self rfl, List.length_append]
      omega
    · rwa [Function.update_of_ne hk, outcomesOf_concat_of_ne (Ne.symm hk)]

theorem Schedule.epoch_of_result? {steps : List (Nat × σ)}
    (h : Schedule ctx seed n (fun _ => .waiting) steps b) {k : Nat} {r : EpochResult}
    (hr : (b k).result? = some r) : r.epoch = k := by
  induction h with
  | start => cases hr
  | @next b steps epoch p w w' hearlier hepoch hbusy hstep ih =>
    by_cases hk : k = epoch
    · subst hk
      rw [Function.update_self] at hr
      obtain ⟨seen, hadvances⟩ := exists_advances hbusy hstep
      exact hadvances.epoch_of_result? hr
    · rw [Function.update_of_ne hk] at hr
      exact ih hr

/-- A report has its epochs in ascending order, each at most once, whatever the schedule was. -/
theorem ParallelRun.ascending {steps : List (Nat × σ)} {report : Report}
    (h : ParallelRun search observer w steps report) :
    (report.epochs.map (·.epoch)).Pairwise (· < ·) := by
  obtain @⟨original, w', steps, b, hwarmup, hschedule, hdone⟩ := h
  refine List.pairwise_map.mpr (List.pairwise_filterMap.mpr ?_)
  refine (List.pairwise_lt_range' 1).imp fun hlt r hr r' hr' => ?_
  rw [hschedule.epoch_of_result? hr, hschedule.epoch_of_result? hr']
  exact hlt

end Schedules

/-! ## All runs -/

/-- A search that is asked to stop does so soon, wherever it stands. If its epochs run one after the
other, all evaluations of the baseline are done nevertheless; if no epoch was started then, none is
started and the report has none; and if a callback about an epoch asks, only the event at the end of
this epoch may follow, and the report has the epochs up to it. Of epochs side by side, each starts
at most one more evaluation, and the report has its epochs in ascending order. -/
theorem stops_once_asked (search : Search ε σ) (observer : Observer σ) :
    (∀ earlier q later p, Journey search observer .start earlier q →
      Journey search observer q later p → AskedToStop observer later →
        WindsDown search observer q later p ∧
        (∀ report, p.report? = some report →
          (outcomesOf 0 (earlier ++ later)).length = search.config.warmupReps ∧
          ∀ o ∈ outcomesOf 0 (earlier ++ later), o.1 = .empty) ∧
        (q.Early → (∀ m ∈ later, m.epoch = 0) ∧
          ∀ report, p.report? = some report → report.epochs = []) ∧
        ∀ before m event, earlier = before ++ [m] → event ∈ eventsHeard m.seen →
          event.phase ≠ .warmup → OnlyCloses search event.epoch earlier later p) ∧
    (∀ original a later b, Watched (search.context observer original) search.seed
      search.config.epoch a later b → AskedToStop observer later →
        ∀ k, (outcomesOf k later).length + (b k).callsLeft ≤ 1) ∧
    (∀ original steps b, Schedule (search.context observer original) search.seed
      search.config.epoch (fun _ => .waiting) steps b →
        ∃ moves, Watched (search.context observer original) search.seed search.config.epoch
          (fun _ => .waiting) moves b ∧ moves.map (fun m => (m.epoch, m.found)) = steps) ∧
    (∀ w steps report, ParallelRun search observer w steps report →
      (report.epochs.map (·.epoch)).Pairwise (· < ·)) ∧
    ∀ w report search' w', search.run observer w = .ok ((report, search'), w') →
      if search.config.parallelEpochs then ∃ steps, ParallelRun search observer w steps report
      else ∃ moves, Journey search observer .start moves (.finished report search'.stream) ∧
        Linked w moves w' := by
  refine ⟨?_, ?_, ?_, ?_, ?_⟩
  · intro earlier q later p hearlier hlater hasked
    have haccounted := (hearlier.trans hlater).accounted
    refine ⟨hearlier.windsDown hlater hasked, ?_, ?_, ?_⟩
    · intro report hreport
      exact ⟨haccounted.warmup_of_report hreport, haccounted.unchanged⟩
    · intro hq
      obtain ⟨hp, hnone⟩ := hlater.early hasked hq
      refine ⟨hnone, fun report hreport => ?_⟩
      obtain ⟨stream, rfl⟩ := Point.report?_eq_some.mp hreport
      exact hp
    · rintro before m event rfl hevent hphase
      obtain ⟨q₀, -, -, hstep⟩ := hearlier.exists_last
      obtain ⟨hsettled, hepoch⟩ := hstep.settled_of_heard hevent hphase
      exact hearlier.onlyCloses hlater hasked hsettled hepoch
  · intro original a later b h hasked k
    exact (h.calls_le hasked k).trans (a k).callsLeft_le
  · intro original steps b h
    exact h.exists_watched
  · intro w steps report h
    exact h.ascending
  · intro w report search' w' h
    split
    case isTrue hparallel => exact (exists_parallelRun_of_run hparallel h).2
    case isFalse hsequential =>
      obtain ⟨moves, hmoves, hlinked, -⟩ :=
        exists_journey_of_run (Bool.eq_false_iff.mpr hsequential) h
      exact ⟨moves, hmoves, hlinked⟩

/-! ### A rehearsal that is stopped -/

section TwoEpochs

open Rehearsal

/-- A rehearsal of two epochs in which every patch passes. -/
def twoEpochs : Search Token World where
  program := allPassing.program
  config := ⟨1, 2, 2, .one, [.deletion], none, false⟩
  seed := 0
  stream := twoZeros 0

theorem sturdy_twoEpochs : twoEpochs.Sturdy where
  warmupRoom := rfl
  epochRoom := rfl
  timeout := Duration.exists_ofSeconds rfl rfl (by decide +kernel)
  evaluate patch timeout w := by
    obtain ⟨w', heval⟩ := allPassing_evaluate patch timeout w
    exact ⟨passing, w', heval⟩
  describe edit := ⟨edit.text, rfl⟩

/-- A world that asks to stop after two events, so after the one about the first candidate. -/
def worldAfter (uses : Nat) (events : List Event) : World := ⟨[uses], events, some 2, false⟩

/-- The first candidate repairs the program, and the callback about it asks to stop. -/
theorem exists_journey_twoEpochs :
    ∃ before m q event, Journey twoEpochs Rehearsal.observer .start (before ++ [m]) q ∧
      event ∈ eventsHeard m.seen ∧ event.phase = .searching ∧ event.epoch = 1 ∧
      Rehearsal.observer.cancelled m.left = true ∧
      outcomesOf 1 (before ++ [m]) = [(deletionOf 0, passing)] := by
  obtain ⟨timeout, htimeout⟩ := sturdy_twoEpochs.timeout
  have hreserved : Journey twoEpochs Rehearsal.observer .start _ (.warmup 1 1 []) :=
    .step (.stay .start) (.reserves (w := worldAfter 0 []) rfl)
  have hunchanged : twoEpochs.program.evaluate .empty timeout (worldAfter 0 []) =
      .ok (passing, worldAfter 1 []) := rfl
  have hwarm : Journey twoEpochs Rehearsal.observer .start _ (.warm 0 1 [] passing) :=
    hreserved.step (.evaluates htimeout hunchanged)
  obtain ⟨original, moves, hmoves, hbaseline⟩ : ∃ original moves, outcomesOf 1 moves = [] ∧
      Journey twoEpochs Rehearsal.observer .start moves (.epochs original [] (twoZeros 0)) :=
    ⟨_, _, rfl, (hwarm.step (.hears (w := worldAfter 1 []))).step
      (.settles (w := worldAfter 1 []) rfl)⟩
  obtain ⟨event, -⟩ : ∃ event, event = warmupEvent twoEpochs.config 1 passing := ⟨_, rfl⟩
  have hcandidate : drawCandidate twoEpochs.program [.deletion] .empty (twoZeros 0) =
      .ok (some (deletionOf 0), twoZeros 2) := rfl
  have hdraw : Draws (twoEpochs.context Rehearsal.observer original)
      (Epoch.start original (twoZeros 0)) _ := .of_fresh hcandidate (Tabu.contains_empty _)
  have hdrawn : Journey twoEpochs Rehearsal.observer .start _ _ :=
    (hbaseline.step (.opens (w := worldAfter 1 [event]) Nat.two_pos rfl htimeout)).step
      (.within (w := worldAfter 1 [event]) (.draws rfl hdraw rfl) rfl)
  have heval : twoEpochs.program.evaluate (deletionOf 0) timeout (worldAfter 1 [event]) =
      .ok (passing, worldAfter 2 [event]) := by
    change Except.ok (([passing][1 % 1]?).getD unscripted, _) = _
    rfl
  have hevaluated : Journey twoEpochs Rehearsal.observer .start _ _ :=
    hdrawn.step (.within (.evaluates heval) rfl)
  have hheard : Journey twoEpochs Rehearsal.observer .start _ _ :=
    hevaluated.step (.within (w := worldAfter 2 [event]) (.solves rfl rfl) rfl)
  refine ⟨_, _, _, _, hheard, List.mem_singleton_self _, rfl, rfl, rfl, ?_⟩
  simp only [outcomesOf_append, hmoves]
  rfl

/-- An epoch beside another one has drawn a candidate when the search is asked to stop. -/
theorem exists_watched_sideBySide :
    ∃ earlier a later b,
      Watched (sideBySide.context Rehearsal.observer none) 0 2 (fun _ => .waiting) earlier a ∧
      Watched (sideBySide.context Rehearsal.observer none) 0 2 a later b ∧
      AskedToStop Rehearsal.observer later ∧ (outcomesOf 1 later).length = 1 := by
  obtain ⟨timeout, htimeout⟩ := sturdy_twoEpochs.timeout
  obtain ⟨number, stream, hcandidate⟩ := sideBySide_drawCandidate (.derive 0 (UInt64.ofNat 1))
  have hdraw : Draws (sideBySide.context Rehearsal.observer none)
      (Epoch.start none (.derive 0 (UInt64.ofNat 1))) _ :=
    .of_fresh hcandidate (Tabu.contains_empty _)
  obtain ⟨w', heval⟩ := allPassing_evaluate (deletionOf number) timeout ⟨[0], [], none, true⟩
  have hepoch : 1 ∈ List.range' 1 2 := List.mem_cons_self
  have hopened : Watched (sideBySide.context Rehearsal.observer none) 0 2 (fun _ => .waiting) _ _ :=
    .step (.start _) hepoch rfl (.opens (w := ⟨[0], [], none, false⟩) rfl htimeout)
  obtain ⟨earlier, a, g, draw, hdrawn, ha, hg⟩ : ∃ earlier a g draw,
      Watched (sideBySide.context Rehearsal.observer none) 0 2 (fun _ => .waiting) earlier a ∧
      a 1 = .drawn g draw (deletionOf number) ∧ g.timeout = timeout :=
    ⟨_, _, _, _, hopened.step hepoch (Function.update_self ..)
      (.draws (w := ⟨[0], [], none, false⟩) rfl hdraw rfl), Function.update_self .., rfl⟩
  rw [← hg] at heval
  have hevaluated : Watched (sideBySide.context Rehearsal.observer none) 0 2 a _ _ :=
    .step (.start a) hepoch ha (.evaluates heval)
  refine ⟨earlier, a, _, _, hdrawn, hevaluated, List.forall_mem_singleton.mpr rfl, ?_⟩
  exact congrArg List.length (outcomesOf_singleton_self (Move.mk 1 _ w' _))

/-- The rehearsal stops after the first candidate, and reports it as the repair; asked before it
starts, it only does its baseline. An epoch beside another one evaluates the candidate that it has
drawn, and no other. -/
theorem twoEpochs_stops :
    (∃ earlier q later report stream r, Journey twoEpochs Rehearsal.observer .start earlier q ∧
      Journey twoEpochs Rehearsal.observer q later (.finished report stream) ∧
      OnlyCloses twoEpochs 1 earlier later (.finished report stream) ∧
      report.epochs.getLast? = some r ∧ r.success = true ∧ r.fitnessEvaluations = 1) ∧
    (∃ moves report stream,
      Journey twoEpochs Rehearsal.observer .start moves (.finished report stream) ∧
      (outcomesOf 0 moves).length = 1 ∧ report.epochs = []) ∧
    ∃ earlier a later b,
      Watched (sideBySide.context Rehearsal.observer none) 0 2 (fun _ => .waiting) earlier a ∧
      Watched (sideBySide.context Rehearsal.observer none) 0 2 a later b ∧
      (outcomesOf 1 later).length = 1 ∧ (b 1).callsLeft = 0 := by
  obtain ⟨hsequential, -⟩ := stops_once_asked twoEpochs Rehearsal.observer
  obtain ⟨-, hparallel, -⟩ := stops_once_asked sideBySide Rehearsal.observer
  refine ⟨?_, ?_, ?_⟩
  · obtain ⟨before, m, q, event, hearlier, hevent, hphase, hepoch, hcancelled, houtcomes⟩ :=
      exists_journey_twoEpochs
    obtain ⟨later, report, stream, hlater, hasked⟩ :=
      hearlier.exists_report sturdy_twoEpochs hcancelled
    obtain ⟨-, -, -, hcallback⟩ := hsequential _ _ _ _ hearlier hlater hasked
    have hcloses := hcallback before m event rfl hevent (by rw [hphase]; decide)
    rw [hepoch] at hcloses
    obtain ⟨r, hr, -, haccounts⟩ := hcloses.last report rfl
    rw [houtcomes] at haccounts
    exact ⟨_, q, later, report, stream, r, hearlier, hlater, hcloses, hr,
      haccounts.success.mpr ⟨_, rfl, solves_iff.mp rfl⟩, haccounts.evaluations⟩
  · obtain ⟨moves, report, stream, hmoves, hasked⟩ :=
      (Journey.stay .start).exists_report sturdy_twoEpochs
        (rfl : Rehearsal.observer.cancelled ⟨[0], [], some 0, true⟩ = true)
    obtain ⟨-, hbaseline, hearly, -⟩ := hsequential _ _ _ _ (.stay .start) hmoves hasked
    exact ⟨moves, report, stream, hmoves, (hbaseline report rfl).1, (hearly rfl).2 report rfl⟩
  · obtain ⟨earlier, a, later, b, hearlier, hlater, hasked, hone⟩ := exists_watched_sideBySide
    have hcalls := hparallel none a later b hlater hasked 1
    exact ⟨earlier, a, later, b, hearlier, hlater, hone, by omega⟩

end TwoEpochs

end ProgramRepair.Search
