import ProgramRepair.Proofs.Search.Course
import ProgramRepair.Search.Engine

/-!
# Epochs in small steps

An epoch on a worker comes to the world three times in an iteration: it reads
whether the search was asked to stop, it evaluates a candidate, and it tells the
observer. A `Position` is where it stands between two of these, `advance` is the
next step, and `conclude` is all that is left to do. Main statements:

* `conclude_eq`: what is left is one step and what is left then;
* `advance_remaining`: every step brings the end closer;
* `advance_answer`, `conclude_answer`: where a program answers alike in all worlds
  and nobody asks to stop, neither depends on the world or on who watches.
-/

namespace ProgramRepair

/-! ## Answers -/

namespace Run

variable {α β σ τ : Type}

/-- What a computation returns in a world, without the world after it. -/
def answer (x : Run σ α) (w : σ) : Except Fault α := (x w).map Prod.fst

theorem answer_eq_ok {x : Run σ α} {w : σ} {a : α} :
    answer x w = .ok a ↔ ∃ w', x w = .ok (a, w') := by
  unfold answer
  cases hx : x w with
  | error fault => simp [Except.map]
  | ok p =>
    obtain ⟨b, w'⟩ := p
    simp [Except.map]

theorem answer_eq_error {x : Run σ α} {w : σ} {fault : Fault} :
    answer x w = .error fault ↔ x w = .error fault := by
  unfold answer
  cases hx : x w <;> simp [Except.map]

/-- Computations in two parts answer alike if their parts do. -/
theorem answer_bind_congr {x : Run σ α} {y : Run τ α} {f : α → Run σ β} {g : α → Run τ β} {w : σ}
    {v : τ} (hxy : answer x w = answer y v)
    (hfg : ∀ a w' v', x w = .ok (a, w') → answer (f a) w' = answer (g a) v') :
    answer (x >>= f) w = answer (y >>= g) v := by
  cases hx : x w with
  | error fault =>
    have hy : y v = .error fault := answer_eq_error.mp (hxy ▸ answer_eq_error.mpr hx)
    change Except.map Prod.fst (x w >>= _) = Except.map Prod.fst (y v >>= _)
    rw [hx, hy]
    rfl
  | ok p =>
    obtain ⟨a, w'⟩ := p
    obtain ⟨v', hy⟩ := answer_eq_ok.mp (hxy ▸ answer_eq_ok.mpr ⟨w', hx⟩)
    change Except.map Prod.fst (x w >>= _) = Except.map Prod.fst (y v >>= _)
    rw [hx, hy]
    exact hfg a w' v' hx

theorem answer_get_bind (f : σ → Run σ α) (w : σ) : answer (get >>= f) w = answer (f w) w := rfl

theorem answer_modify_bind (g : σ → σ) (f : PUnit → Run σ α) (w : σ) :
    answer (modify g >>= f) w = answer (f ⟨⟩) (g w) := rfl

/-- What does not look at the world answers alike in all worlds. -/
theorem answer_lift (x : Except Fault α) (w : σ) (v : τ) :
    answer (liftM x : Run σ α) w = answer (liftM x : Run τ α) v := by
  cases x <;> rfl

end Run

variable {ε σ : Type}

/-- The answers of a program depend on the patch and the time limit only. -/
def Program.AnswersAlike (p : Program ε σ) : Prop :=
  ∀ patch timeout w v, Run.answer (p.evaluate patch timeout) w =
    Run.answer (p.evaluate patch timeout) v

/-- The same search in front of another observer. -/
def SearchContext.watchedBy (ctx : SearchContext ε σ) (o : Observer σ) : SearchContext ε σ :=
  { ctx with observer := o }

namespace Search

/-! ## The baseline -/

/-- The baseline does not depend on the world or on who watches. -/
theorem warmupSamples_answer {program : Program ε σ} (hprogram : program.AnswersAlike)
    (o₁ o₂ : Observer σ) (config : SearchConfig) (left rep : Nat) (w v : σ) :
    Run.answer (warmupSamples program o₁ config left rep) w =
      Run.answer (warmupSamples program o₂ config left rep) v := by
  induction left generalizing rep w v with
  | zero => rfl
  | succ left ih =>
    rw [warmupSamples, warmupSamples]
    refine Run.answer_bind_congr (Run.answer_lift _ w v) fun timeout w₁ v₁ _ => ?_
    refine Run.answer_bind_congr (hprogram .empty timeout w₁ v₁) fun e w₂ v₂ _ => ?_
    rw [Run.answer_modify_bind, Run.answer_modify_bind]
    exact Run.answer_bind_congr (ih (rep + 1) _ _) fun _ _ _ _ => rfl

theorem warmup_answer {program : Program ε σ} (hprogram : program.AnswersAlike)
    (o₁ o₂ : Observer σ) (config : SearchConfig) (w v : σ) :
    Run.answer (warmup program o₁ config) w =
      Run.answer (warmup program o₂ config) v := by
  refine Run.answer_bind_congr (Run.answer_lift _ w v) fun _ w₁ v₁ _ => ?_
  exact Run.answer_bind_congr (warmupSamples_answer hprogram o₁ o₂ config _ _ w₁ v₁)
    fun _ _ _ _ => rfl

end Search

variable [DecidableEq ε] [Hashable ε]

namespace Search

open Epoch

/-! ## Positions -/

/-- What an epoch knows between two iterations. -/
structure Stage (ε : Type) [DecidableEq ε] [Hashable ε] where
  timeout : Duration
  /-- The number of iterations that are left. -/
  left : Nat
  iteration : Nat
  state : State ε

/-- Where an epoch stands on its worker. -/
inductive Position (ε : Type) [DecidableEq ε] [Hashable ε] where
  /-- It has not started. -/
  | waiting
  /-- The next iteration, if there is one, is about to start. -/
  | between (g : Stage ε)
  /-- A candidate was drawn and is about to be evaluated. -/
  | drawn (g : Stage ε) (draw : NeighbourDraw ε) (candidate : Patch ε)
  /-- A candidate was evaluated and the observer is about to hear of it. -/
  | evaluated (g : Stage ε) (draw : NeighbourDraw ε) (candidate : Patch ε) (e : Evaluation)
  /-- The iterations are over. -/
  | ended (s : State ε) (ending : Ending)
  /-- The worker has the result, if the epoch was started at all. -/
  | done (result : Option EpochResult)

/-- The result of an epoch that is done and was started. -/
def Position.result? : Position ε → Option EpochResult
  | .done result => result
  | _ => none

variable (ctx : SearchContext ε σ) (seed : UInt64) (epoch : Nat)

/-- The next step of an epoch. It looks at the world or changes it at most once. -/
def advance : Position ε → Run σ (Position ε)
  | .waiting => do
    if ctx.observer.cancelled (← get) then return .done none
    let timeout ← ctx.config.timeout
    let stream := .derive seed (UInt64.ofNat epoch)
    return .between ⟨timeout, ctx.config.maxIter, 1, start ctx.original stream⟩
  | .between ⟨_, 0, _, s⟩ => return .ended s .spent
  | .between ⟨timeout, left + 1, iteration, s⟩ => do
    if ctx.observer.cancelled (← get) then return .ended s .cancelled
    let draw ← neighbour ctx.program ctx.config.operators s.best s.tabu s.stream
    match draw.found with
    | none => return .ended (s.giveUp draw) .exhausted
    | some candidate => return .drawn ⟨timeout, left, iteration, s⟩ draw candidate
  | .drawn g draw candidate => do
    let e ← ctx.program.evaluate candidate g.timeout
    return .evaluated g draw candidate e
  | .evaluated g draw candidate e => do
    let s := g.state.record draw candidate e
    modify (ctx.observer.notify
      (searchingEvent ctx epoch g.iteration s candidate e (improves e g.state.bestFitness)))
    return if solves e then .ended s .repaired
      else .between { g with iteration := g.iteration + 1, state := s }
  | .ended s ending => do
    let r ← result ctx epoch s ending
    modify (ctx.observer.notify (completeEvent ctx epoch s))
    return .done (some r)
  | .done result => return .done result

/-! ## All that is left -/

/-- The end of an epoch whose iterations are over. -/
def finish (s : State ε) (ending : Ending) : Run σ (Option EpochResult) := do
  let r ← result ctx epoch s ending
  modify (ctx.observer.notify (completeEvent ctx epoch s))
  return some r

/-- The iterations that are left, and the end. -/
def goOn (g : Stage ε) : Run σ (Option EpochResult) := do
  let (s, ending) ← loop ctx epoch g.timeout g.left g.iteration g.state
  finish ctx epoch s ending

/-- The rest of the iteration with an evaluated candidate, and all that is left after it. -/
def settle (g : Stage ε) (draw : NeighbourDraw ε) (candidate : Patch ε) (e : Evaluation) :
    Run σ (Option EpochResult) := do
  let s := g.state.record draw candidate e
  modify (ctx.observer.notify
    (searchingEvent ctx epoch g.iteration s candidate e (improves e g.state.bestFitness)))
  if solves e then finish ctx epoch s .repaired
  else goOn ctx epoch { g with iteration := g.iteration + 1, state := s }

/-- All that an epoch has left to do from its position on. -/
def conclude : Position ε → Run σ (Option EpochResult)
  | .waiting => do
    if ctx.observer.cancelled (← get) then return none
    let (r, _) ← Epoch.run ctx epoch (.derive seed (UInt64.ofNat epoch))
    return some r
  | .between g => goOn ctx epoch g
  | .drawn g draw candidate => do
    let e ← ctx.program.evaluate candidate g.timeout
    settle ctx epoch g draw candidate e
  | .evaluated g draw candidate e => settle ctx epoch g draw candidate e
  | .ended s ending => finish ctx epoch s ending
  | .done result => return result

variable {ctx seed epoch}

/-- What is left is one step and what is left then. -/
theorem conclude_eq (p : Position ε) :
    conclude ctx seed epoch p = advance ctx seed epoch p >>= conclude ctx seed epoch := by
  cases p with
  | waiting =>
    simp only [conclude, advance, bind_assoc]
    congr 1
    funext w
    split
    · simp only [pure_bind, conclude]
    · simp only [bind_assoc, pure_bind, Epoch.run, conclude, goOn, finish]
  | between g =>
    obtain ⟨timeout, left, iteration, s⟩ := g
    cases left with
    | zero => rfl
    | succ left =>
      simp only [conclude, advance, goOn, loop, step, bind_assoc]
      congr 1
      funext w
      split
      · simp only [pure_bind, conclude]
      · simp only [bind_assoc]
        congr 1
        funext draw
        cases draw.found with
        | none => simp only [pure_bind, conclude]; rfl
        | some candidate =>
          simp only [pure_bind, bind_assoc, conclude, settle]
          congr 1
          funext e
          congr 1
          funext u
          cases solves e <;> rfl
  | drawn g draw candidate => simp only [conclude, advance, bind_assoc, pure_bind]
  | evaluated g draw candidate e =>
    simp only [conclude, advance, settle, bind_assoc, pure_bind]
    congr 1
    funext u
    cases solves e <;> rfl
  | ended s ending => simp only [conclude, advance, finish, bind_assoc, pure_bind]
  | done result => simp only [conclude, advance, pure_bind]

/-! ## Every step counts -/

/-- How many steps an epoch takes at most from its position on. -/
def Position.remaining (maxIter : Nat) : Position ε → Nat
  | .waiting => 3 * maxIter + 3
  | .between g => 3 * g.left + 2
  | .drawn g _ _ => 3 * g.left + 4
  | .evaluated g _ _ _ => 3 * g.left + 3
  | .ended _ _ => 1
  | .done _ => 0

/-- Whether an epoch has nothing left to do. -/
def Position.isDone : Position ε → Bool
  | .done _ => true
  | _ => false

theorem advance_remaining {p p' : Position ε} {w w' : σ}
    (h : advance ctx seed epoch p w = .ok (p', w')) (hp : p.isDone = false) :
    p'.remaining ctx.config.maxIter < p.remaining ctx.config.maxIter := by
  cases p with
  | waiting =>
    rw [advance, Run.get_bind_ok] at h
    split at h
    · obtain ⟨rfl, -⟩ := Run.pure_ok.mp h
      exact Nat.succ_pos _
    · obtain ⟨timeout, -, h⟩ := Run.lift_bind_ok.mp h
      obtain ⟨rfl, -⟩ := Run.pure_ok.mp h
      exact Nat.lt_succ_self _
  | between g =>
    obtain ⟨timeout, left, iteration, s⟩ := g
    cases left with
    | zero =>
      obtain ⟨rfl, -⟩ := Run.pure_ok.mp h
      exact Nat.lt_succ_self _
    | succ left =>
      rw [advance, Run.get_bind_ok] at h
      split at h
      · obtain ⟨rfl, -⟩ := Run.pure_ok.mp h
        simp only [Position.remaining]
        omega
      · obtain ⟨draw, -, h⟩ := Run.lift_bind_ok.mp h
        cases hfound : draw.found with
        | none =>
          rw [hfound] at h
          obtain ⟨rfl, -⟩ := Run.pure_ok.mp h
          simp only [Position.remaining]
          omega
        | some candidate =>
          rw [hfound] at h
          obtain ⟨rfl, -⟩ := Run.pure_ok.mp h
          simp only [Position.remaining]
          omega
  | drawn g draw candidate =>
    obtain ⟨e, w₁, -, h⟩ := Run.bind_ok.mp h
    obtain ⟨rfl, -⟩ := Run.pure_ok.mp h
    exact Nat.lt_succ_self _
  | evaluated g draw candidate e =>
    rw [advance, Run.modify_bind_ok, Run.pure_ok] at h
    obtain ⟨rfl, -⟩ := h
    split
    · simp only [Position.remaining]
      omega
    · exact Nat.lt_succ_self _
  | ended s ending =>
    obtain ⟨r, -, h⟩ := Run.lift_bind_ok.mp h
    rw [Run.modify_bind_ok, Run.pure_ok] at h
    obtain ⟨rfl, -⟩ := h
    exact Nat.lt_succ_self _
  | done result => cases hp

/-! ## Steps that do not depend on the world -/

/-- While nobody asks to stop, a step answers alike in all worlds and in front of everyone. -/
theorem advance_answer (hprogram : ctx.program.AnswersAlike) {o₁ o₂ : Observer σ} {w v : σ}
    (hw : o₁.cancelled w = false) (hv : o₂.cancelled v = false) (p : Position ε) :
    Run.answer (advance (ctx.watchedBy o₁) seed epoch p) w =
      Run.answer (advance (ctx.watchedBy o₂) seed epoch p) v := by
  have hgo₁ : ¬ (ctx.watchedBy o₁).observer.cancelled w = true := ne_true_of_eq_false hw
  have hgo₂ : ¬ (ctx.watchedBy o₂).observer.cancelled v = true := ne_true_of_eq_false hv
  cases p with
  | waiting =>
    rw [advance, advance, Run.answer_get_bind, Run.answer_get_bind, if_neg hgo₁, if_neg hgo₂]
    exact Run.answer_bind_congr (Run.answer_lift _ w v) fun _ _ _ _ => rfl
  | between g =>
    obtain ⟨timeout, left, iteration, s⟩ := g
    cases left with
    | zero => rfl
    | succ left =>
      rw [advance, advance, Run.answer_get_bind, Run.answer_get_bind, if_neg hgo₁, if_neg hgo₂]
      refine Run.answer_bind_congr (Run.answer_lift _ w v) fun draw _ _ _ => ?_
      cases draw.found <;> rfl
  | drawn g draw candidate =>
    exact Run.answer_bind_congr (hprogram candidate g.timeout w v) fun _ _ _ _ => rfl
  | evaluated g draw candidate e => rfl
  | ended s ending =>
    exact Run.answer_bind_congr (Run.answer_lift _ w v) fun _ _ _ _ => rfl
  | done result => rfl

/-- Where nobody ever asks to stop, all that is left answers alike. -/
theorem conclude_answer (hprogram : ctx.program.AnswersAlike) {o₁ o₂ : Observer σ}
    (ho₁ : ∀ w, o₁.cancelled w = false) (ho₂ : ∀ w, o₂.cancelled w = false) (p : Position ε)
    (w v : σ) :
    Run.answer (conclude (ctx.watchedBy o₁) seed epoch p) w =
      Run.answer (conclude (ctx.watchedBy o₂) seed epoch p) v := by
  -- every step brings the end closer
  induction hn : p.remaining ctx.config.maxIter using Nat.strongRecOn generalizing p w v with
  | _ n ih =>
    cases hdone : p.isDone with
    | true =>
      cases p with
      | done result => rfl
      | _ => cases hdone
    | false =>
      have hsplit : ∀ o, conclude (ctx.watchedBy o) seed epoch p =
          advance (ctx.watchedBy o) seed epoch p >>= conclude (ctx.watchedBy o) seed epoch :=
        fun o => conclude_eq p
      rw [hsplit o₁, hsplit o₂]
      refine Run.answer_bind_congr (advance_answer hprogram (ho₁ w) (ho₂ v) p) ?_
      intro p' w' v' hstep
      have hless : p'.remaining (ctx.watchedBy o₁).config.maxIter <
          p.remaining (ctx.watchedBy o₁).config.maxIter := advance_remaining hstep hdone
      exact ih _ (hn ▸ hless) p' w' v' rfl

end Search

end ProgramRepair
