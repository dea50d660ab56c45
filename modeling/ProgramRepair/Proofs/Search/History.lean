import ProgramRepair.Proofs.Search.Recording
import ProgramRepair.Search.Rehearsal

/-!
# The first iterations of an epoch

A `History` is what an epoch has done up to a moment: its trials so far, and the
state and the world that they led to. Unlike a `Course` it says nothing of an
end, so it also describes an epoch that a fault breaks off. Main statements:

* `History.loop_eq`: the state of a history is one that the loop really is in;
* `run_ok_history`: a whole epoch is a history with a result.

What holds after each iteration is proved by induction on the history.
-/

namespace ProgramRepair

variable {ε σ : Type}

/-- The events among some sightings. -/
def eventsHeard (sightings : List (Sighting ε)) : List Event :=
  sightings.filterMap fun
    | .evaluated _ _ => none
    | .heard event => some event

variable [DecidableEq ε] [Hashable ε]

namespace Epoch

variable (ctx : SearchContext ε σ) (epoch : Nat) (timeout : Duration) (stream : Stream) (w : σ)

/-- The first iterations of an epoch lead from its start in the world `w` through some trials to a
state and a world. -/
inductive History : List (Trial ε) → State ε → σ → Prop
  | start : History [] (start ctx.original stream) w
  | next {trials : List (Trial ε)} {t : Trial ε} {w₁ w₂ : σ}
      (hearlier : History trials t.before w₁)
      (hunsolved : ∀ u ∈ trials, solves u.evaluation = false)
      (hleft : trials.length < ctx.config.maxIter)
      (hiteration : t.iteration = trials.length + 1)
      (ht : Tries ctx epoch timeout t w₁ w₂) :
      History (trials ++ [t]) t.after w₂

variable {ctx epoch timeout stream w}

/-! ## The loop -/

/-- As long as nothing was solved, the loop goes on from the state of a history. -/
theorem History.loop_eq {trials : List (Trial ε)} {s : State ε} {w' : σ}
    (h : History ctx epoch timeout stream w trials s w')
    (hunsolved : ∀ u ∈ trials, solves u.evaluation = false) :
    loop ctx epoch timeout ctx.config.maxIter 1 (Epoch.start ctx.original stream) w =
      loop ctx epoch timeout (ctx.config.maxIter - trials.length) (trials.length + 1) s w' := by
  induction h with
  | start => rfl
  | @next trials t w₁ w₂ hearlier hbefore hleft hiteration ht ih =>
    have hstep := step_ok_iff.mpr (.inr (.inr ⟨t, hiteration, rfl, ht, rfl, rfl⟩))
    rw [if_neg (by simp [hunsolved t])] at hstep
    obtain ⟨left, hleft⟩ := Nat.exists_eq_add_of_lt hleft
    have hsplit : ctx.config.maxIter - trials.length = left + 1 := by omega
    have hrest : ctx.config.maxIter - (trials ++ [t]).length = left := by
      rw [List.length_append, List.length_singleton]
      omega
    rw [ih hbefore, hsplit, hrest, loop, List.length_append, List.length_singleton]
    change (step ctx epoch timeout _ t.before w₁ >>= _) = _
    rw [hstep]
    rfl

/-! ## Whole epochs -/

/-- Giving up shows neither in the result nor in the event at the end. -/
theorem result_giveUp (s : State ε) (draw : NeighbourDraw ε) (ending : Ending) :
    result ctx epoch (s.giveUp draw) ending = result ctx epoch s ending := rfl

theorem completeEvent_giveUp (s : State ε) (draw : NeighbourDraw ε) :
    completeEvent ctx epoch (s.giveUp draw) = completeEvent ctx epoch s := rfl

/-- A course that goes on from a history makes it longer by its trials. -/
theorem Course.history {left iteration : Nat} {s final : State ε} {w₀ w' : σ}
    {trials : List (Trial ε)} {ending : Ending}
    (h : Course ctx epoch timeout left iteration s w₀ trials final ending w')
    {earlier : List (Trial ε)} (hearlier : History ctx epoch timeout stream w earlier s w₀)
    (hunsolved : ∀ u ∈ earlier, solves u.evaluation = false)
    (hiteration : iteration = earlier.length + 1)
    (hleft : earlier.length + left = ctx.config.maxIter) :
    ∃ s', History ctx epoch timeout stream w (earlier ++ trials) s' w' ∧
      result ctx epoch final ending = result ctx epoch s' ending ∧
      completeEvent ctx epoch final = completeEvent ctx epoch s' := by
  induction h generalizing earlier with
  | spent iteration s w | cancelled left iteration s hcancelled =>
    rw [List.append_nil]
    exact ⟨s, hearlier, rfl, rfl⟩
  | @exhausted left iteration s w draw hcancelled hdraw hfound =>
    rw [List.append_nil]
    exact ⟨s, hearlier, result_giveUp s draw _, completeEvent_giveUp s draw⟩
  | @repaired left t w w' ht hsolves =>
    exact ⟨t.after, .next hearlier hunsolved (by omega) hiteration ht, rfl, rfl⟩
  | @next left t w w₁ w' trials final ending ht hsolves hrest ih =>
    have hnext := History.next hearlier hunsolved (by omega) hiteration ht
    have hlength : (earlier ++ [t]).length = earlier.length + 1 := by simp
    rw [List.append_cons]
    refine ih hnext ?_ (by omega) (by omega)
    intro u hu
    obtain hu | hu := List.mem_append.mp hu
    · exact hunsolved u hu
    · obtain rfl := List.mem_singleton.mp hu
      exact hsolves

/-- A result has the number of its epoch. -/
theorem epoch_of_run {stream' : Stream} {r : EpochResult} {w' : σ}
    (h : run ctx epoch stream w = .ok ((r, stream'), w')) : r.epoch = epoch := by
  obtain ⟨_, _, _, _, _, -, -, hresult, -, -⟩ := run_ok_iff.mp h
  obtain ⟨_, -, rfl⟩ := result_ok_iff.mp hresult
  rfl

/-- An epoch that returns has a history with its result, and its record is that of the history. -/
theorem run_ok_history {stream' : Stream} {r : EpochResult} {w' : σ}
    (h : run ctx epoch stream w = .ok ((r, stream'), w')) :
    ∃ timeout trials s ending w₁, History ctx epoch timeout stream w trials s w₁ ∧
      result ctx epoch s ending = .ok r ∧
      run ctx.recorded epoch stream (w, []) =
        .ok ((r, stream'), (w', sightings ctx epoch trials s)) := by
  obtain ⟨timeout, trials, final, ending, w₁, htimeout, hcourse, hresult, rfl, rfl⟩ :=
    run_ok_iff.mp h
  obtain ⟨s, hhistory, hsame, hevent⟩ :=
    hcourse.history .start (List.forall_mem_nil _) rfl (Nat.zero_add _)
  refine ⟨timeout, trials, s, ending, w₁, hhistory, hsame ▸ hresult, ?_⟩
  rw [hcourse.run_recorded htimeout hresult [], List.nil_append, sightings, hevent, sightings]

theorem eventsHeard_sightings (trials : List (Trial ε)) (s : State ε) :
    eventsHeard (sightings ctx epoch trials s) =
      trials.map (Trial.event ctx epoch) ++ [completeEvent ctx epoch s] := by
  induction trials with
  | nil => rfl
  | cons t trials ih =>
    change t.event ctx epoch :: eventsHeard (sightings ctx epoch trials s) = _
    rw [ih, List.map_cons, List.cons_append]

end Epoch

/-! ## Trials of tokens -/

namespace Rehearsal

/-- The patch of one deletion. -/
def deletionOf (number : Nat) : Patch Token := ⟨[⟨.deletion, number⟩]⟩

/-- An iteration that starts from the empty patch and draws the deletion with a number. The draw
takes two words of the stream: one for the operator and one for the number. -/
def deletionTrial (iteration : Nat) (before : Epoch.State Token) (number : Nat) (e : Evaluation) :
    Epoch.Trial Token where
  iteration := iteration
  before := before
  draw :=
    { found := some (deletionOf number)
      tabu := before.tabu.insert (deletionOf number)
      stream := { before.stream with used := before.stream.used + 2 } }
  candidate := deletionOf number
  evaluation := e

/-- A stream for two such draws, of the numbers 0 and 1 of three. -/
def zeroThenOne : Stream := ⟨default, 1, #[0, 0, 0, 1431655766], 0⟩

/-- The second of two such draws is not in the tabu set after the first one. -/
theorem deletionOf_one_fresh :
    (Tabu.empty.insert (deletionOf 0)).contains (deletionOf 1) = false := by
  rw [Tabu.contains_insert, Tabu.contains_empty]
  rfl

end Rehearsal

end ProgramRepair
