import ProgramRepair.Proofs.Search.Course

/-!
# Recorded searches

`SearchContext.recorded` is the same search in a larger world, which also keeps
everything that can be seen of it from outside: the patches that it evaluates,
with what comes of them, and the events that its observer hears, in the order in
which they happen. Main statements:

* `Course.recorded`: recording changes nothing in the course of an epoch;
* `Course.run_recorded`: what the record of a whole epoch is.
-/

namespace ProgramRepair

variable {ε σ τ : Type}

/-- What can be seen of a search from outside. -/
inductive Sighting (ε : Type) where
  /-- A patch was evaluated, with this outcome. -/
  | evaluated (patch : Patch ε) (e : Evaluation)
  /-- The observer heard of an event. -/
  | heard (event : Event)

/-- The evaluations among some sightings. -/
def evaluations (sightings : List (Sighting ε)) : List (Patch ε × Evaluation) :=
  sightings.filterMap fun
    | .evaluated patch e => some (patch, e)
    | .heard _ => none

/-- The same program in a world that keeps its evaluations. -/
def Program.recorded (p : Program ε σ) : Program ε (σ × List (Sighting ε)) where
  evaluate patch timeout := fun (w, log) => do
    let (e, w) ← p.evaluate patch timeout w
    return (e, w, log ++ [.evaluated patch e])
  createEdit := p.createEdit
  diff := p.diff
  describe := p.describe

/-- The same observer in a world that keeps what it hears. -/
def Observer.recorded (ε : Type) (o : Observer σ) : Observer (σ × List (Sighting ε)) where
  notify event := fun (w, log) => (o.notify event w, log ++ [.heard event])
  cancelled := fun (w, _) => o.cancelled w

/-- The same search in a world that keeps what can be seen of it. -/
def SearchContext.recorded (ctx : SearchContext ε σ) : SearchContext ε (σ × List (Sighting ε)) where
  program := ctx.program.recorded
  observer := ctx.observer.recorded ε
  config := ctx.config
  original := ctx.original

/-! ## Neighbours

A draw asks a program for new edits and for nothing else. -/

theorem drawCandidate_congr {p : Program ε σ} {q : Program ε τ} (h : p.createEdit = q.createEdit)
    (operators : List EditOperator) (base : Patch ε) (s : Stream) :
    drawCandidate p operators base s = drawCandidate q operators base s := by
  simp only [drawCandidate, h]

variable [DecidableEq ε] [Hashable ε]

theorem drawNeighbour_congr {p : Program ε σ} {q : Program ε τ} (h : p.createEdit = q.createEdit)
    (operators : List EditOperator) (base : Patch ε) (tabu : Tabu ε) (draws : Nat) (s : Stream) :
    drawNeighbour p operators base tabu draws s = drawNeighbour q operators base tabu draws s := by
  induction draws generalizing s with
  | zero => rfl
  | succ draws ih => simp only [drawNeighbour, drawCandidate_congr h, ih]

theorem neighbour_congr {p : Program ε σ} {q : Program ε τ} (h : p.createEdit = q.createEdit)
    (operators : List EditOperator) (base : Patch ε) (tabu : Tabu ε) (s : Stream) :
    neighbour p operators base tabu s = neighbour q operators base tabu s :=
  drawNeighbour_congr h operators base tabu maxNeighbourDraws s

namespace Epoch

variable {ctx : SearchContext ε σ} {epoch : Nat} {timeout : Duration}

/-! ## Epochs -/

/-- The candidate of a trial with what came of it. -/
def Trial.outcome (t : Trial ε) : Patch ε × Evaluation := (t.candidate, t.evaluation)

/-- What is seen of an iteration. -/
def Trial.sightings (ctx : SearchContext ε σ) (epoch : Nat) (t : Trial ε) : List (Sighting ε) :=
  [.evaluated t.candidate t.evaluation, .heard (t.event ctx epoch)]

theorem Draws.recorded {s : State ε} {draw : NeighbourDraw ε} (h : Draws ctx s draw) :
    Draws ctx.recorded s draw := by
  have hcongr : ctx.recorded.program.createEdit = ctx.program.createEdit := rfl
  rw [Draws, neighbour_congr hcongr]
  exact h

theorem Tries.recorded {t : Trial ε} {w w' : σ} (h : Tries ctx epoch timeout t w w')
    (log : List (Sighting ε)) :
    Tries ctx.recorded epoch timeout t (w, log) (w', log ++ t.sightings ctx epoch) := by
  obtain ⟨w₁, heval, hnotify⟩ := h.evaluates
  refine ⟨h.goes_on, h.draws.recorded, h.found, (w₁, log ++ [.evaluated t.candidate t.evaluation]),
    ?_, ?_⟩
  · change (ctx.program.evaluate t.candidate timeout w >>= _) = _
    rw [heval]
    rfl
  · change (ctx.observer.notify (t.event ctx epoch) w₁, _) = _
    rw [hnotify, List.append_assoc]
    rfl

/-- Recording changes nothing in the course of an epoch. -/
theorem Course.recorded {left iteration : Nat} {s final : State ε} {w w' : σ}
    {trials : List (Trial ε)} {ending : Ending}
    (h : Course ctx epoch timeout left iteration s w trials final ending w')
    (log : List (Sighting ε)) :
    Course ctx.recorded epoch timeout left iteration s (w, log) trials final ending
      (w', log ++ trials.flatMap (Trial.sightings ctx epoch)) := by
  induction h generalizing log with
  | spent iteration s w =>
    rw [List.flatMap_nil, List.append_nil]
    exact .spent iteration s (w, log)
  | cancelled left iteration s hcancelled =>
    rw [List.flatMap_nil, List.append_nil]
    exact .cancelled left iteration s hcancelled
  | exhausted left iteration hcancelled hdraw hfound =>
    rw [List.flatMap_nil, List.append_nil]
    exact .exhausted left iteration hcancelled hdraw.recorded hfound
  | repaired left ht hsolves =>
    rw [List.flatMap_singleton]
    exact .repaired left (ht.recorded log) hsolves
  | next ht hsolves hrest ih =>
    rw [List.flatMap_cons, ← List.append_assoc]
    exact .next (ht.recorded log) hsolves (ih _)

/-- What is seen of a whole epoch. -/
def sightings (ctx : SearchContext ε σ) (epoch : Nat) (trials : List (Trial ε)) (final : State ε) :
    List (Sighting ε) :=
  trials.flatMap (Trial.sightings ctx epoch) ++ [.heard (completeEvent ctx epoch final)]

theorem evaluations_sightings (trials : List (Trial ε)) (final : State ε) :
    evaluations (sightings ctx epoch trials final) = trials.map Trial.outcome := by
  induction trials with
  | nil => rfl
  | cons t trials ih =>
    change t.outcome :: evaluations (sightings ctx epoch trials final) = _
    rw [ih, List.map_cons]

/-- A recorded epoch has the same result, and its record is what is seen of its course. -/
theorem Course.run_recorded {stream : Stream} {trials : List (Trial ε)} {final : State ε}
    {ending : Ending} {r : EpochResult} {w w₁ : σ} (htimeout : ctx.config.timeout = .ok timeout)
    (hcourse : Course ctx epoch timeout ctx.config.maxIter 1 (start ctx.original stream) w trials
      final ending w₁)
    (hresult : result ctx epoch final ending = .ok r) (log : List (Sighting ε)) :
    run ctx.recorded epoch stream (w, log) = .ok ((r, final.stream),
      (ctx.observer.notify (completeEvent ctx epoch final) w₁,
        log ++ sightings ctx epoch trials final)) := by
  refine run_ok_iff.mpr ⟨timeout, trials, final, ending, _, htimeout, hcourse.recorded log,
    hresult, rfl, ?_⟩
  change (_, _ ++ [Sighting.heard (completeEvent ctx epoch final)]) = _
  rw [List.append_assoc]
  rfl

end Epoch

end ProgramRepair
