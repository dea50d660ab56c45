import ProgramRepair.Proofs.Search.Stopping

/-!
# Searches that return

A search faults only if something that it asks for does: room, a time limit, an
evaluation, a new edit or the words for an edit. Where these are all there it
returns. Main statements:

* `Run.Gives`: a computation returns in every world, with a value that has a property;
* `Unfailing.gives_epoch`: an epoch returns;
* `Unfailing.gives_run`: so does a whole search.

The words for an edit need to be there only for edits that the program makes.
-/

namespace ProgramRepair

/-! ## Computations that return -/

namespace Run

variable {α β σ : Type} {P : α → Prop} {Q : β → Prop}

/-- The computation returns in every world, and what it returns has the property. -/
def Gives (x : Run σ α) (P : α → Prop) : Prop := ∀ w, ∃ a w', x w = .ok (a, w') ∧ P a

theorem gives_pure {a : α} (h : P a) : Gives (pure a : Run σ α) P := fun w => ⟨a, w, rfl, h⟩

theorem Gives.bind {x : Run σ α} {f : α → Run σ β} (hx : Gives x P)
    (hf : ∀ a, P a → Gives (f a) Q) : Gives (x >>= f) Q := by
  intro w
  obtain ⟨a, w₁, hw₁, ha⟩ := hx w
  obtain ⟨b, w', hw', hb⟩ := hf a ha w₁
  exact ⟨b, w', bind_ok.mpr ⟨a, w₁, hw₁, hw'⟩, hb⟩

theorem gives_get_bind {f : σ → Run σ α} (hf : ∀ w, Gives (f w) P) : Gives (get >>= f) P :=
  fun w => hf w w

theorem gives_modify_bind {g : σ → σ} {f : PUnit → Run σ α} (hf : Gives (f ⟨⟩) P) :
    Gives (modify g >>= f) P := fun w => hf (g w)

theorem gives_lift_bind {x : Except Fault α} {f : α → Run σ β} {a : α} (hx : x = .ok a)
    (hf : Gives (f a) Q) : Gives (liftM x >>= f) Q := by
  subst hx
  exact fun w => hf w

theorem gives_ite {c : Prop} [Decidable c] {x y : Run σ α} (hx : Gives x P) (hy : Gives y P) :
    Gives (if c then x else y) P := by
  split
  · exact hx
  · exact hy

end Run

/-- What is made of a list has one member for each of its members. -/
theorem forall₂_of_mapM_ok {α β κ : Type} {f : α → Except κ β} {as : List α} {bs : List β}
    (h : as.mapM f = .ok bs) : List.Forall₂ (fun a b => f a = .ok b) as bs := by
  induction as generalizing bs with
  | nil =>
    cases h
    exact .nil
  | cons a as ih =>
    rw [List.mapM_cons] at h
    cases hb : f a with
    | error fault =>
      rw [hb] at h
      cases h
    | ok b =>
      cases hbs : as.mapM f with
      | error fault =>
        rw [hb, hbs] at h
        cases h
      | ok bs =>
        rw [hb, hbs] at h
        cases h
        exact .cons hb (ih hbs)

variable {ε σ : Type}

/-! ## Neighbours -/

/-- The program makes edits without a fault. -/
def Program.Creates (program : Program ε σ) : Prop :=
  ∀ op method s, ∃ drawn, program.createEdit op method s = .ok drawn

theorem Program.Creates.exists_drawCandidate {program : Program ε σ} (h : program.Creates)
    (operators : List EditOperator) (base : Patch ε) (s : Stream) :
    ∃ drawn, drawCandidate program operators base s = .ok drawn := by
  unfold drawCandidate
  obtain ⟨shrink, s₁, hcoin⟩ : ∃ shrink s₁,
      (if base.isEmpty then (false, s) else s.coin) = (shrink, s₁) := ⟨_, _, rfl⟩
  rw [hcoin]
  cases shrink with
  | true =>
    dsimp only
    rw [if_pos rfl]
    cases s₁.below .double base.length with
    | mk i s₂ => exact ⟨_, rfl⟩
  | false =>
    obtain ⟨op, s₂, hchoose⟩ : ∃ op s₂, s₁.choose operators = (op, s₂) := ⟨_, _, rfl⟩
    dsimp only
    rw [if_neg Bool.false_ne_true, hchoose]
    cases op with
    | none => exact ⟨_, rfl⟩
    | some op =>
      obtain ⟨⟨edit, s₃⟩, hedit⟩ := h op .weighted s₂
      dsimp only
      rw [hedit]
      exact ⟨_, rfl⟩

variable [DecidableEq ε] [Hashable ε]

theorem Program.Creates.exists_neighbour {program : Program ε σ} (h : program.Creates)
    (operators : List EditOperator) (base : Patch ε) (tabu : Tabu ε) (s : Stream) :
    ∃ draw, neighbour program operators base tabu s = .ok draw := by
  unfold neighbour
  generalize maxNeighbourDraws = draws
  induction draws generalizing s with
  | zero => exact ⟨_, rfl⟩
  | succ draws ih =>
    obtain ⟨⟨candidate, s₁⟩, hcandidate⟩ := h.exists_drawCandidate operators base s
    rw [drawNeighbour, hcandidate]
    cases candidate with
    | none => exact ⟨_, rfl⟩
    | some c =>
      change ∃ draw, (if tabu.contains c = true then _ else _) = _
      split
      · exact ih s₁
      · exact ⟨_, rfl⟩

namespace Search

open Epoch Run

/-! ## Epochs -/

/-- Nothing that a search asks for faults. The words for an edit are there if the edit is good, as
all edits are that the program makes. -/
structure Unfailing (search : Search ε σ) (Good : ε → Prop) : Prop where
  warmupRoom : reserve search.config.warmupReps 8 = .ok ()
  /-- Epochs side by side ask for no room. -/
  epochRoom : search.config.parallelEpochs = false →
    reserve search.config.epoch resultSize = .ok ()
  timeout : ∃ timeout, search.config.timeout = .ok timeout
  evaluate : ∀ timeout, search.config.timeout = .ok timeout → ∀ patch,
    Gives (search.program.evaluate patch timeout) fun _ => True
  creates : search.program.Creates
  makes : search.program.Makes Good
  describe : ∀ edit, Good edit → ∃ words, search.program.describe edit = .ok words

namespace Unfailing

variable {search : Search ε σ} {Good : ε → Prop} (h : search.Unfailing Good)
  (observer : Observer σ) (original : Option Binary64)

include h

theorem gives_step (epoch : Nat) {timeout : Duration} (htimeout : search.config.timeout = .ok timeout)
    (iteration : Nat) {s : State ε} (hs : s.best.All Good) :
    Gives (step (search.context observer original) epoch timeout iteration s)
      fun r => r.1.best.All Good := by
  refine gives_get_bind fun w => gives_ite (gives_pure hs) ?_
  obtain ⟨draw, hdraw⟩ := h.creates.exists_neighbour search.config.operators s.best s.tabu s.stream
  refine gives_lift_bind hdraw ?_
  cases hfound : draw.found with
  | none => exact gives_pure hs
  | some candidate =>
    refine (h.evaluate timeout htimeout candidate).bind fun e _ => gives_modify_bind (gives_pure ?_)
    change (if _ then candidate else s.best).All Good
    split
    · exact h.makes.neighbour hs hdraw hfound
    · exact hs

theorem gives_loop (epoch : Nat) {timeout : Duration} (htimeout : search.config.timeout = .ok timeout)
    (left iteration : Nat) {s : State ε} (hs : s.best.All Good) :
    Gives (loop (search.context observer original) epoch timeout left iteration s)
      fun r => r.1.best.All Good := by
  induction left generalizing iteration s with
  | zero => exact gives_pure hs
  | succ left ih =>
    refine (h.gives_step observer original epoch htimeout iteration hs).bind ?_
    rintro ⟨s', _ | ending⟩ hs'
    · exact ih (iteration + 1) hs'
    · exact gives_pure hs'

/-- The edits of a best patch are good, so there are words for them. -/
theorem exists_result (epoch : Nat) {s : State ε} (hs : s.best.All Good) (ending : Ending) :
    ∃ r, result (search.context observer original) epoch s ending = .ok r := by
  obtain ⟨words, hwords⟩ := exists_mapM_ok fun e he => h.describe e (hs e he)
  exact ⟨_, result_ok_iff.mpr ⟨words, hwords, rfl⟩⟩

theorem gives_epoch (epoch : Nat) (stream : Stream) :
    Gives (Epoch.run (search.context observer original) epoch stream) fun _ => True := by
  obtain ⟨timeout, htimeout⟩ := h.timeout
  refine gives_lift_bind htimeout ?_
  refine (h.gives_loop observer original epoch htimeout _ 1 (Patch.all_empty)).bind ?_
  rintro ⟨s, ending⟩ hs
  obtain ⟨r, hr⟩ := h.exists_result observer original epoch hs ending
  refine gives_lift_bind hr ?_
  exact gives_modify_bind (gives_pure trivial)

/-! ## Whole searches -/

omit [DecidableEq ε] [Hashable ε] in
theorem gives_warmupSamples (left rep : Nat) :
    Gives (warmupSamples search.program observer search.config left rep) fun _ => True := by
  obtain ⟨timeout, htimeout⟩ := h.timeout
  induction left generalizing rep with
  | zero => exact gives_pure trivial
  | succ left ih =>
    refine gives_lift_bind htimeout ?_
    refine (h.evaluate timeout htimeout .empty).bind fun e _ => gives_modify_bind ?_
    exact (ih (rep + 1)).bind fun rest _ => gives_pure trivial

theorem gives_sequentialEpochs (left epoch : Nat) (stream : Stream) :
    Gives (sequentialEpochs (search.context observer original) left epoch stream)
      fun _ => True := by
  induction left generalizing epoch stream with
  | zero => exact gives_pure trivial
  | succ left ih =>
    refine gives_get_bind fun w => gives_ite (gives_pure trivial) ?_
    refine (h.gives_epoch observer original epoch stream).bind fun ⟨r, s⟩ _ => ?_
    exact (ih (epoch + 1) s).bind fun rest _ => gives_pure trivial

theorem gives_parallelEpochs (left epoch : Nat) :
    Gives (parallelEpochs (search.context observer original) search.seed left epoch)
      fun _ => True := by
  induction left generalizing epoch with
  | zero => exact gives_pure trivial
  | succ left ih =>
    refine gives_get_bind fun w => gives_ite (ih (epoch + 1)) ?_
    refine (h.gives_epoch observer original epoch _).bind fun ⟨r, s⟩ _ => ?_
    exact (ih (epoch + 1)).bind fun rest _ => gives_pure trivial

omit [DecidableEq ε] [Hashable ε] in
theorem gives_warmup : Gives (warmup search.program observer search.config) fun _ => True :=
  gives_lift_bind h.warmupRoom <|
    (h.gives_warmupSamples observer _ 1).bind fun _ _ => gives_pure trivial

/-- A search that asks for nothing that faults returns, whoever watches. -/
theorem gives_run : Gives (search.run observer) fun _ => True := by
  refine (h.gives_warmup observer).bind fun original _ => ?_
  dsimp only
  split
  case isTrue hparallel =>
    exact (h.gives_parallelEpochs observer original _ 1).bind fun _ _ => gives_pure trivial
  case isFalse hsequential =>
    refine gives_lift_bind (h.epochRoom (Bool.eq_false_iff.mpr hsequential)) ?_
    exact (h.gives_sequentialEpochs observer original _ 1 _).bind fun _ _ => gives_pure trivial

end Unfailing

/-! ### Two epochs that find a repair -/

section TwoEpochs

open Rehearsal

/-- A rehearsal of tokens makes an edit whenever it is asked to. -/
theorem creates_twoEpochs : twoEpochs.program.Creates := by
  intro op method s
  exact ⟨(some ⟨op, (s.below .single 3).1⟩, (s.below .single 3).2), rfl⟩

theorem unfailing_twoEpochs : twoEpochs.Unfailing fun _ => True where
  warmupRoom := sturdy_twoEpochs.warmupRoom
  epochRoom _ := sturdy_twoEpochs.epochRoom
  timeout := sturdy_twoEpochs.timeout
  evaluate timeout _ patch w := by
    obtain ⟨e, w', heval⟩ := sturdy_twoEpochs.evaluate patch timeout w
    exact ⟨e, w', heval, trivial⟩
  creates := creates_twoEpochs
  makes _ _ _ _ _ := trivial
  describe edit _ := sturdy_twoEpochs.describe edit

end TwoEpochs

end Search

end ProgramRepair
