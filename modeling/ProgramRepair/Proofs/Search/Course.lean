import ProgramRepair.Proofs.Search.Neighbour
import ProgramRepair.Search.Epoch

/-!
# The course of an epoch

A `Trial` is an iteration that evaluated a candidate, and a `Course` lists the
trials of an epoch in their order, with the reason for its end. Main statements:

* `step_ok_iff`: everything that one iteration can do;
* `loop_ok_iff`: the loop returns exactly what some course ends in;
* `run_ok_iff`: the same for a whole epoch and its result.

What holds of every epoch is proved by induction on its course.
-/

namespace ProgramRepair

/-! ## Runs that return -/

namespace Run

variable {α β σ : Type} {w w' : σ}

theorem pure_ok {a b : α} : (pure a : Run σ α) w = .ok (b, w') ↔ a = b ∧ w = w' := by
  change Except.ok (a, w) = Except.ok (b, w') ↔ _
  rw [Except.ok.injEq, Prod.mk.injEq]

/-- A computation in two parts returns if both parts do. -/
theorem bind_ok {x : Run σ α} {f : α → Run σ β} {b : β} :
    (x >>= f) w = .ok (b, w') ↔ ∃ a w₁, x w = .ok (a, w₁) ∧ f a w₁ = .ok (b, w') := by
  change (x w >>= fun p => f p.1 p.2) = .ok (b, w') ↔ _
  cases hx : x w with
  | error fault => simp [bind, Except.bind]
  | ok p =>
    obtain ⟨a, w₁⟩ := p
    constructor
    · intro hf
      exact ⟨a, w₁, rfl, hf⟩
    · rintro ⟨_, _, hp, hf⟩
      cases hp
      exact hf

theorem get_bind_ok {f : σ → Run σ β} {b : β} :
    (get >>= f) w = .ok (b, w') ↔ f w w = .ok (b, w') := Iff.rfl

theorem modify_bind_ok {g : σ → σ} {f : PUnit → Run σ β} {b : β} :
    (modify g >>= f) w = .ok (b, w') ↔ f ⟨⟩ (g w) = .ok (b, w') := Iff.rfl

/-- What may fault without looking at the world leaves the world as it is. -/
theorem lift_bind_ok {x : Except Fault α} {f : α → Run σ β} {b : β} :
    (liftM x >>= f) w = .ok (b, w') ↔ ∃ a, x = .ok a ∧ f a w = .ok (b, w') := by
  rw [bind_ok]
  cases x with
  | error fault =>
    constructor
    · rintro ⟨_, _, hx, -⟩
      cases hx
    · rintro ⟨_, hx, -⟩
      cases hx
  | ok a =>
    constructor
    · rintro ⟨_, _, hx, hf⟩
      cases hx
      exact ⟨a, rfl, hf⟩
    · rintro ⟨_, hx, hf⟩
      cases hx
      exact ⟨a, w, rfl, hf⟩

end Run

/-- A number of seconds is a duration if it is neither negative nor too large. -/
theorem Duration.exists_ofSeconds {x : Binary64} (hnan : x.isNaN = false)
    (hsign : x.negative = false)
    (hlt : Binary64.roundToEven (Binary64.units x.magnitude * perSecond) Binary64.unitsPerOne <
      secondsLimit * perSecond) :
    ∃ d, ofSeconds x = .ok d := by
  unfold ofSeconds
  rw [if_neg (by simp [hnan, hsign])]
  exact ⟨_, if_pos hlt⟩

variable {ε σ : Type} [DecidableEq ε] [Hashable ε]

namespace Epoch

/-! ## One iteration -/

/-- An iteration that evaluated a candidate. -/
structure Trial (ε : Type) [DecidableEq ε] [Hashable ε] where
  iteration : Nat
  /-- The state that the iteration found. -/
  before : State ε
  draw : NeighbourDraw ε
  candidate : Patch ε
  evaluation : Evaluation

namespace Trial

/-- The state that the iteration left. -/
def after (t : Trial ε) : State ε := t.before.record t.draw t.candidate t.evaluation

/-- What the observer hears of the iteration. -/
def event (ctx : SearchContext ε σ) (epoch : Nat) (t : Trial ε) : Event :=
  searchingEvent ctx epoch t.iteration t.after t.candidate t.evaluation
    (improves t.evaluation t.before.bestFitness)

end Trial

variable (ctx : SearchContext ε σ) (epoch : Nat) (timeout : Duration)

/-- An iteration looks for a neighbour of the best patch: `draw` is what that gives. -/
def Draws (s : State ε) (draw : NeighbourDraw ε) : Prop :=
  neighbour ctx.program ctx.config.operators s.best s.tabu s.stream = .ok draw

/-- A first draw that was not tried before is the neighbour. -/
theorem Draws.of_fresh {ctx : SearchContext ε σ} {s : State ε} {candidate : Patch ε}
    {stream : Stream}
    (hcandidate : drawCandidate ctx.program ctx.config.operators s.best s.stream =
      .ok (some candidate, stream))
    (hfresh : s.tabu.contains candidate = false) :
    Draws ctx s ⟨some candidate, s.tabu.insert candidate, stream⟩ :=
  neighbour_of_fresh hcandidate hfresh

/-- The world goes from `w` to `w'` in the iteration `t`. -/
structure Tries (t : Trial ε) (w w' : σ) : Prop where
  goes_on : ctx.observer.cancelled w = false
  draws : Draws ctx t.before t.draw
  found : t.draw.found = some t.candidate
  /-- The candidate is evaluated first, then the observer hears of it. -/
  evaluates : ∃ w₁, ctx.program.evaluate t.candidate timeout w = .ok (t.evaluation, w₁) ∧
    ctx.observer.notify (t.event ctx epoch) w₁ = w'

/-- The state of an epoch that found no neighbour. -/
def State.giveUp (s : State ε) (draw : NeighbourDraw ε) : State ε :=
  { s with tabu := draw.tabu, stream := draw.stream }

variable {ctx epoch timeout}

/-- An iteration stops because it was asked to, gives up, or tries a candidate. -/
theorem step_ok_iff {iteration : Nat} {s s' : State ε} {ending? : Option Ending} {w w' : σ} :
    step ctx epoch timeout iteration s w = .ok ((s', ending?), w') ↔
      (ctx.observer.cancelled w = true ∧ s = s' ∧ some .cancelled = ending? ∧ w = w') ∨
      (ctx.observer.cancelled w = false ∧ ∃ draw, Draws ctx s draw ∧ draw.found = none ∧
        s.giveUp draw = s' ∧ some .exhausted = ending? ∧ w = w') ∨
      ∃ t : Trial ε, t.iteration = iteration ∧ t.before = s ∧ Tries ctx epoch timeout t w w' ∧
        t.after = s' ∧ (if solves t.evaluation then some .repaired else none) = ending? := by
  rw [step, Run.get_bind_ok]
  cases hcancelled : ctx.observer.cancelled w with
  | true =>
    rw [if_pos rfl, Run.pure_ok, Prod.mk.injEq]
    constructor
    · rintro ⟨⟨hs, hending⟩, hw⟩
      exact .inl ⟨rfl, hs, hending, hw⟩
    · rintro (⟨-, hs, hending, hw⟩ | ⟨hfalse, -⟩ | ⟨t, -, -, ht, -⟩)
      · exact ⟨⟨hs, hending⟩, hw⟩
      · cases hfalse
      · cases hcancelled.symm.trans ht.goes_on
  | false =>
    rw [if_neg Bool.false_ne_true, Run.lift_bind_ok]
    constructor
    · rintro ⟨draw, hdraw, h⟩
      cases hfound : draw.found with
      | none =>
        rw [hfound, Run.pure_ok, Prod.mk.injEq] at h
        obtain ⟨⟨hs, hending⟩, hw⟩ := h
        exact .inr (.inl ⟨rfl, draw, hdraw, hfound, hs, hending, hw⟩)
      | some candidate =>
        rw [hfound, Run.bind_ok] at h
        obtain ⟨e, w₁, heval, h⟩ := h
        rw [Run.modify_bind_ok, Run.pure_ok, Prod.mk.injEq] at h
        obtain ⟨⟨hs, hending⟩, hw⟩ := h
        exact .inr (.inr ⟨⟨iteration, s, draw, candidate, e⟩, rfl, rfl,
          ⟨hcancelled, hdraw, hfound, w₁, heval, hw⟩, hs, hending⟩)
    · rintro (⟨htrue, -⟩ | ⟨-, draw, hdraw, hfound, rfl, rfl, rfl⟩ | ⟨t, rfl, rfl, ht, rfl, rfl⟩)
      · cases htrue
      · refine ⟨draw, hdraw, ?_⟩
        rw [hfound, Run.pure_ok]
        exact ⟨rfl, rfl⟩
      · obtain ⟨w₁, heval, hnotify⟩ := ht.evaluates
        refine ⟨t.draw, ht.draws, ?_⟩
        rw [ht.found, Run.bind_ok]
        refine ⟨t.evaluation, w₁, heval, ?_⟩
        rw [Run.modify_bind_ok, Run.pure_ok]
        exact ⟨rfl, hnotify⟩

/-! ## The iterations of an epoch -/

variable (ctx epoch timeout)

/-- The iterations that are left lead from the state `s` and the world `w` through some trials to
an end. -/
inductive Course : (left iteration : Nat) → (s : State ε) → (w : σ) → List (Trial ε) →
    (final : State ε) → Ending → (w' : σ) → Prop
  | spent (iteration : Nat) (s : State ε) (w : σ) : Course 0 iteration s w [] s .spent w
  | cancelled (left iteration : Nat) (s : State ε) {w : σ}
      (hcancelled : ctx.observer.cancelled w = true) :
      Course (left + 1) iteration s w [] s .cancelled w
  | exhausted (left iteration : Nat) {s : State ε} {w : σ} {draw : NeighbourDraw ε}
      (hcancelled : ctx.observer.cancelled w = false) (hdraw : Draws ctx s draw)
      (hfound : draw.found = none) :
      Course (left + 1) iteration s w [] (s.giveUp draw) .exhausted w
  | repaired (left : Nat) {t : Trial ε} {w w' : σ} (ht : Tries ctx epoch timeout t w w')
      (hsolves : solves t.evaluation = true) :
      Course (left + 1) t.iteration t.before w [t] t.after .repaired w'
  | next {left : Nat} {t : Trial ε} {w w₁ w' : σ} {trials : List (Trial ε)} {final : State ε}
      {ending : Ending} (ht : Tries ctx epoch timeout t w w₁)
      (hsolves : solves t.evaluation = false)
      (hrest : Course left (t.iteration + 1) t.after w₁ trials final ending w') :
      Course (left + 1) t.iteration t.before w (t :: trials) final ending w'

variable {ctx epoch timeout}

section Loop

variable {left iteration : Nat} {s final : State ε} {ending : Ending} {w w' : σ}

/-- A loop that returns went through some course. -/
theorem exists_course_of_loop
    (h : loop ctx epoch timeout left iteration s w = .ok ((final, ending), w')) :
    ∃ trials, Course ctx epoch timeout left iteration s w trials final ending w' := by
  induction left generalizing iteration s w with
  | zero =>
    rw [loop, Run.pure_ok, Prod.mk.injEq] at h
    obtain ⟨⟨rfl, rfl⟩, rfl⟩ := h
    exact ⟨[], .spent iteration s w⟩
  | succ left ih =>
    rw [loop, Run.bind_ok] at h
    obtain ⟨⟨s₁, ending?⟩, w₁, hstep, h⟩ := h
    obtain ⟨hcancelled, rfl, rfl, rfl⟩ | ⟨hcancelled, draw, hdraw, hfound, rfl, rfl, rfl⟩ |
      ⟨t, rfl, rfl, ht, rfl, hending⟩ := step_ok_iff.mp hstep
    · rw [Run.pure_ok, Prod.mk.injEq] at h
      obtain ⟨⟨rfl, rfl⟩, rfl⟩ := h
      exact ⟨[], .cancelled left iteration s hcancelled⟩
    · rw [Run.pure_ok, Prod.mk.injEq] at h
      obtain ⟨⟨rfl, rfl⟩, rfl⟩ := h
      exact ⟨[], .exhausted left iteration hcancelled hdraw hfound⟩
    · -- only a trial that does not solve is followed by another iteration
      cases hsolves : solves t.evaluation with
      | true =>
        rw [if_pos hsolves] at hending
        subst hending
        rw [Run.pure_ok, Prod.mk.injEq] at h
        obtain ⟨⟨rfl, rfl⟩, rfl⟩ := h
        exact ⟨[t], .repaired left ht hsolves⟩
      | false =>
        rw [if_neg (by simp [hsolves])] at hending
        subst hending
        obtain ⟨trials, hrest⟩ := ih h
        exact ⟨t :: trials, .next ht hsolves hrest⟩

theorem Course.loop_ok {trials : List (Trial ε)}
    (h : Course ctx epoch timeout left iteration s w trials final ending w') :
    loop ctx epoch timeout left iteration s w = .ok ((final, ending), w') := by
  induction h with
  | spent iteration s w => rfl
  | cancelled left iteration s hcancelled =>
    rw [loop, Run.bind_ok]
    exact ⟨_, _, step_ok_iff.mpr (.inl ⟨hcancelled, rfl, rfl, rfl⟩), rfl⟩
  | exhausted left iteration hcancelled hdraw hfound =>
    rw [loop, Run.bind_ok]
    exact ⟨_, _, step_ok_iff.mpr
      (.inr (.inl ⟨hcancelled, _, hdraw, hfound, rfl, rfl, rfl⟩)), rfl⟩
  | @repaired left t w w' ht hsolves =>
    have hstep := step_ok_iff.mpr (.inr (.inr ⟨t, rfl, rfl, ht, rfl, rfl⟩))
    rw [if_pos hsolves] at hstep
    rw [loop, Run.bind_ok]
    exact ⟨_, _, hstep, rfl⟩
  | @next left t w w₁ w' trials final ending ht hsolves hrest ih =>
    have hstep := step_ok_iff.mpr (.inr (.inr ⟨t, rfl, rfl, ht, rfl, rfl⟩))
    rw [if_neg (by simp [hsolves])] at hstep
    rw [loop, Run.bind_ok]
    exact ⟨_, _, hstep, ih⟩

/-- The loop returns exactly what some course ends in. -/
theorem loop_ok_iff :
    loop ctx epoch timeout left iteration s w = .ok ((final, ending), w') ↔
      ∃ trials, Course ctx epoch timeout left iteration s w trials final ending w' :=
  ⟨exists_course_of_loop, fun ⟨_, h⟩ => h.loop_ok⟩

end Loop

/-! ## Whole epochs -/

/-- An epoch returns its result if its iterations come to an end and the best patch can be put in
words. -/
theorem run_ok_iff {stream stream' : Stream} {r : EpochResult} {w w' : σ} :
    run ctx epoch stream w = .ok ((r, stream'), w') ↔
      ∃ timeout trials final ending w₁, ctx.config.timeout = .ok timeout ∧
        Course ctx epoch timeout ctx.config.maxIter 1 (start ctx.original stream) w trials final
          ending w₁ ∧
        result ctx epoch final ending = .ok r ∧ final.stream = stream' ∧
        ctx.observer.notify (completeEvent ctx epoch final) w₁ = w' := by
  constructor
  · intro h
    obtain ⟨timeout, htimeout, h⟩ := Run.lift_bind_ok.mp h
    obtain ⟨⟨final, ending⟩, w₁, hloop, h⟩ := Run.bind_ok.mp h
    obtain ⟨trials, hcourse⟩ := loop_ok_iff.mp hloop
    obtain ⟨r, hresult, h⟩ := Run.lift_bind_ok.mp h
    rw [Run.modify_bind_ok, Run.pure_ok, Prod.mk.injEq] at h
    obtain ⟨⟨rfl, hstream⟩, hnotify⟩ := h
    exact ⟨timeout, trials, final, ending, w₁, htimeout, hcourse, hresult, hstream, hnotify⟩
  · rintro ⟨timeout, trials, final, ending, w₁, htimeout, hcourse, hresult, rfl, hnotify⟩
    refine Run.lift_bind_ok.mpr ⟨timeout, htimeout, ?_⟩
    refine Run.bind_ok.mpr ⟨(final, ending), w₁, loop_ok_iff.mpr ⟨trials, hcourse⟩, ?_⟩
    refine Run.lift_bind_ok.mpr ⟨r, hresult, ?_⟩
    exact Run.modify_bind_ok.mpr (Run.pure_ok.mpr ⟨rfl, hnotify⟩)

/-- What the result of an epoch says of its end. -/
theorem result_ok_iff {s : State ε} {ending : Ending} {r : EpochResult} :
    result ctx epoch s ending = .ok r ↔
      ∃ words, s.best.edits.mapM ctx.program.describe = .ok words ∧
        r = ⟨epoch, decide (ending = .repaired), s.evaluations, s.invalid, s.bestFitness, words,
          ctx.program.diff s.best, .zero⟩ := by
  unfold result
  cases hwords : s.best.edits.mapM ctx.program.describe with
  | error fault => simp [bind, Except.bind]
  | ok words => simp [bind, Except.bind, pure, Except.pure, eq_comm]

end Epoch

end ProgramRepair
