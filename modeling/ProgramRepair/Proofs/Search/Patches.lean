import ProgramRepair.Proofs.Search.Reachable
import ProgramRepair.Proofs.Search.Returning

/-!
# The patches of a search

An epoch starts from the empty patch, and its patches only get edits that the program
makes. So what is true of all edits that a program makes is true of all edits that a
search evaluates and reports. Main statements:

* `Reachable.all`: the edits that an epoch evaluates or reports are edits of the program;
* `MayEvaluate.all`, `MayReport.showsAll`: the same for whole searches, with their baselines;
* `Reachable.exists_result`: an epoch at its end has a result, if there are words for the
  edits of the program;
* `Reachable.idle`, `exists_idle_run`: without any edit to make, an epoch ends with no evaluation.
-/

namespace ProgramRepair

variable {ε σ : Type} {Good : ε → Prop}

/-- All edits of the patch that was evaluated are good. -/
def Sighting.All (Good : ε → Prop) : Sighting ε → Prop
  | .evaluated patch _ => patch.All Good
  | .heard _ => True

/-- The result shows a patch of good edits, in words and as a diff. -/
def EpochResult.ShowsAll (r : EpochResult) (program : Program ε σ) (Good : ε → Prop) : Prop :=
  ∃ best : Patch ε, best.All Good ∧ best.edits.mapM program.describe = .ok r.bestPatch ∧
    r.diff = program.diff best

/-- The result is that of an epoch that evaluated nothing. -/
structure EpochResult.IsIdle (r : EpochResult) : Prop where
  evaluations : r.fitnessEvaluations = 0
  bestPatch : r.bestPatch = []
  success : r.success = false

variable [DecidableEq ε] [Hashable ε]

/-- Where no edit can be made, the empty patch has no neighbour. -/
theorem Program.Makes.found_eq_none {program : Program ε σ} (h : program.Makes fun _ => False)
    {operators : List EditOperator} {tabu : Tabu ε} {s : Stream} {draw : NeighbourDraw ε}
    (hdraw : ProgramRepair.neighbour program operators .empty tabu s = .ok draw) :
    draw.found = none := by
  obtain ⟨hnone, -⟩ | ⟨candidate, s₁, s₂, hcandidate, -, -⟩ := drawNeighbour_ok hdraw
  · exact hnone
  · obtain ⟨i, hi, -⟩ | ⟨op, -, s₃, s₄, edit, hedit, -⟩ := drawCandidate_ok hcandidate
    · exact absurd hi (Nat.not_lt_zero i)
    · exact (h op s₃ edit s₄ hedit).elim

namespace Search

open Epoch

variable {ctx : SearchContext ε σ} {seed : UInt64} {epoch : Nat} {seen more : List (Sighting ε)}
  {p q : Position ε} {w w' : σ}

/-! ## Edits of the program -/

/-- All edits that the epoch goes on with are good. -/
def Position.All (ctx : SearchContext ε σ) (Good : ε → Prop) : Position ε → Prop
  | .waiting | .done none => True
  | .between g => g.state.best.All Good
  | .drawn g _ candidate | .evaluated g _ candidate _ =>
    g.state.best.All Good ∧ candidate.All Good
  | .ended s _ => s.best.All Good
  | .done (some r) => r.ShowsAll ctx.program Good

/-- Whichever patch is kept, its edits are good. -/
theorem all_record {s : State ε} {draw : NeighbourDraw ε} {candidate : Patch ε} {e : Evaluation}
    (hbest : s.best.All Good) (hcandidate : candidate.All Good) :
    (s.record draw candidate e).best.All Good := by
  change (if _ then candidate else s.best).All Good
  split
  · exact hcandidate
  · exact hbest

theorem Advances.all (h : Advances ctx seed epoch p w more q w') (hmakes : ctx.program.Makes Good)
    (hp : p.All ctx Good) : q.All ctx Good ∧ ∀ s ∈ more, s.All Good := by
  cases h with
  | skips => exact ⟨trivial, List.forall_mem_nil _⟩
  | opens => exact ⟨Patch.all_empty, List.forall_mem_nil _⟩
  | spends | stops | exhausts => exact ⟨hp, List.forall_mem_nil _⟩
  | draws hgo hdraw hfound => exact ⟨⟨hp, hmakes.neighbour hp hdraw hfound⟩, List.forall_mem_nil _⟩
  | evaluates => exact ⟨hp, List.forall_mem_singleton.mpr hp.2⟩
  | solves | goesOn => exact ⟨all_record hp.1 hp.2, List.forall_mem_singleton.mpr trivial⟩
  | concludes hresult =>
    obtain ⟨words, hwords, rfl⟩ := result_ok_iff.mp hresult
    exact ⟨⟨_, hp, hwords, rfl⟩, List.forall_mem_singleton.mpr trivial⟩

/-- An epoch evaluates and reports only edits of the program. -/
theorem Reachable.all (h : Reachable ctx seed epoch seen p) (hmakes : ctx.program.Makes Good) :
    p.All ctx Good ∧ ∀ s ∈ seen, s.All Good := by
  induction h with
  | waiting => exact ⟨trivial, List.forall_mem_nil _⟩
  | started => exact ⟨Patch.all_empty, List.forall_mem_nil _⟩
  | next hearlier hstep ih =>
    obtain ⟨hp, hseen⟩ := ih
    obtain ⟨hq, hmore⟩ := hstep.all hmakes hp
    exact ⟨hq, List.forall_mem_append.mpr ⟨hseen, hmore⟩⟩

/-- An epoch at its end has a result if there are words for the edits of the program. -/
theorem Reachable.exists_result {s : State ε} {ending : Ending}
    (h : Reachable ctx seed epoch seen (.ended s ending)) (hmakes : ctx.program.Makes Good)
    (hwords : ∀ e, Good e → ∃ words, ctx.program.describe e = .ok words) :
    ∃ r, result ctx epoch s ending = .ok r := by
  obtain ⟨words, hmap⟩ := exists_mapM_ok fun e he => hwords e ((h.all hmakes).1 e he)
  exact ⟨_, result_ok_iff.mpr ⟨words, hmap, rfl⟩⟩

/-! ## Searches -/

section Searches

variable (search : Search ε σ) (observer : Observer σ)

/-- The search evaluates the patch in some run, in worlds that others may change. -/
inductive MayEvaluate (patch : Patch ε) : Prop
  | inTurn {point : Point ε} {moves : List (Move ε σ)} {e : Evaluation}
      (hmoves : Journey search observer .start moves point)
      (he : .evaluated patch e ∈ sightingsOf moves)
  | beside {original : Option Binary64} {b : Nat → Position ε} {moves : List (Move ε σ)}
      {e : Evaluation}
      (hmoves : Watched (search.context observer original) search.seed search.config.epoch
        (fun _ => .waiting) moves b)
      (he : .evaluated patch e ∈ sightingsOf moves)

end Searches

variable {search : Search ε σ} {observer : Observer σ} {moves : List (Move ε σ)}

theorem Proceeds.all {point point' : Point ε}
    (h : Proceeds search observer point w more point' w')
    (hpoint : point.Explained search observer moves) (hmakes : search.program.Makes Good) :
    ∀ s ∈ more, s.All Good := by
  cases h with
  | evaluates => exact List.forall_mem_singleton.mpr Patch.all_empty
  | within hstep =>
    obtain ⟨-, -, hreachable, -⟩ := hpoint
    exact (hstep.all hmakes (hreachable.all hmakes).1).2
  | hears | closes => exact List.forall_mem_singleton.mpr trivial
  | reserves | settles | completes | stops | opens => exact List.forall_mem_nil _

/-- A search whose epochs run one after the other evaluates only edits of the program. -/
theorem Journey.all {point : Point ε} (h : Journey search observer .start moves point)
    (hmakes : search.program.Makes Good) : ∀ s ∈ sightingsOf moves, s.All Good := by
  induction h with
  | stay => exact List.forall_mem_nil _
  | next hearlier hepoch hstep ih =>
    rw [sightingsOf_append, sightingsOf_singleton]
    exact List.forall_mem_append.mpr ⟨ih, hstep.all hearlier.explained hmakes⟩

/-- So does a search with its epochs side by side. -/
theorem Watched.all {n : Nat} {b : Nat → Position ε}
    (h : Watched ctx seed n (fun _ => .waiting) moves b) (hmakes : ctx.program.Makes Good) :
    ∀ s ∈ sightingsOf moves, s.All Good := by
  induction h with
  | start => exact List.forall_mem_nil _
  | next hearlier hepoch hstep ih =>
    rw [sightingsOf_append, sightingsOf_singleton]
    refine List.forall_mem_append.mpr ⟨ih, ?_⟩
    exact (hstep.all hmakes ((hearlier.reachable _).all hmakes).1).2

/-- All edits of all patches that a search evaluates are edits of the program. -/
theorem MayEvaluate.all {patch : Patch ε} (h : MayEvaluate search observer patch)
    (hmakes : search.program.Makes Good) : patch.All Good := by
  cases h with
  | inTurn hmoves he => exact hmoves.all hmakes _ he
  | beside hmoves he => exact hmoves.all hmakes _ he

/-- All edits that a search reports are edits of the program. -/
theorem MayReport.showsAll {report : Report} (h : MayReport search observer report)
    (hmakes : search.program.Makes Good) : ∀ r ∈ report.epochs, r.ShowsAll search.program Good := by
  intro r hr
  obtain ⟨seen, hcomes⟩ := h.exists_comesTo r hr
  exact (hcomes.reachable.2.all hmakes).1

/-! ## Nothing to edit -/

/-- Nothing was evaluated up to the position. -/
def Position.IsIdle : Position ε → Prop
  | .waiting | .done none => True
  | .between g => g.state.best = .empty ∧ g.state.evaluations = 0
  | .drawn _ _ _ | .evaluated _ _ _ _ => False
  | .ended s ending => s.best = .empty ∧ s.evaluations = 0 ∧ ending ≠ .repaired
  | .done (some r) => r.IsIdle

/-- The result at the end of an epoch that evaluated nothing. -/
theorem isIdle_of_result {s : State ε} {ending : Ending} {r : EpochResult}
    (h : result ctx epoch s ending = .ok r) (hs : (Position.ended s ending).IsIdle) : r.IsIdle := by
  obtain ⟨words, hwords, rfl⟩ := result_ok_iff.mp h
  obtain ⟨hbest, hevaluations, hending⟩ := hs
  rw [hbest] at hwords
  cases hwords
  exact ⟨hevaluations, rfl, decide_eq_false hending⟩

theorem Advances.idle (h : Advances ctx seed epoch p w more q w')
    (hnothing : ctx.program.Makes fun _ => False) (hp : p.IsIdle) : q.IsIdle := by
  cases h with
  | skips => trivial
  | opens => exact ⟨rfl, rfl⟩
  | spends | stops | exhausts => exact ⟨hp.1, hp.2, by decide⟩
  | draws hgo hdraw hfound =>
    -- the best patch is empty, so a candidate would have a new edit
    rw [Draws, hp.1] at hdraw
    rw [hnothing.found_eq_none hdraw] at hfound
    cases hfound
  | evaluates | solves | goesOn => exact hp.elim
  | concludes hresult => exact isIdle_of_result hresult hp

/-- An epoch of a program with nothing to edit comes to no evaluation. -/
theorem Reachable.idle (h : Reachable ctx seed epoch seen p)
    (hnothing : ctx.program.Makes fun _ => False) : p.IsIdle := by
  induction h with
  | waiting => trivial
  | started => exact ⟨rfl, rfl⟩
  | next hearlier hstep ih => exact hstep.idle hnothing ih

theorem MayReport.idle {report : Report} (h : MayReport search observer report)
    (hnothing : search.program.Makes fun _ => False) : ∀ r ∈ report.epochs, r.IsIdle := by
  intro r hr
  obtain ⟨seen, hcomes⟩ := h.exists_comesTo r hr
  exact hcomes.reachable.2.idle hnothing

/-- An epoch with nothing to edit comes to its end in every world, whatever an evaluation does. -/
theorem exists_idle_run (hnothing : ctx.program.Makes fun _ => False)
    (hcreates : ctx.program.Creates) {timeout : Duration}
    (htimeout : ctx.config.timeout = .ok timeout) (epoch : Nat) (stream : Stream) (w : σ) :
    ∃ r stream' w', Epoch.run ctx epoch stream w = .ok ((r, stream'), w') ∧ r.IsIdle := by
  -- an epoch is over at once
  obtain ⟨final, ending, hcourse, hidle⟩ : ∃ final ending,
      Course ctx epoch timeout ctx.config.maxIter 1 (start ctx.original stream) w [] final ending
        w ∧ (Position.ended final ending).IsIdle := by
    cases ctx.config.maxIter with
    | zero => exact ⟨_, _, .spent 1 _ w, rfl, rfl, by decide⟩
    | succ left =>
      cases hcancelled : ctx.observer.cancelled w with
      | true => exact ⟨_, _, .cancelled left 1 _ hcancelled, rfl, rfl, by decide⟩
      | false =>
        obtain ⟨draw, hdraw⟩ := hcreates.exists_neighbour ctx.config.operators .empty .empty stream
        exact ⟨_, _, .exhausted left 1 hcancelled hdraw (hnothing.found_eq_none hdraw), rfl, rfl,
          by decide⟩
  obtain ⟨r, hr⟩ : ∃ r, result ctx epoch final ending = .ok r := by
    refine ⟨_, result_ok_iff.mpr ⟨[], ?_, rfl⟩⟩
    rw [hidle.1]
    rfl
  exact ⟨r, _, _, run_ok_iff.mpr ⟨timeout, [], final, ending, w, htimeout, hcourse, hr, rfl, rfl⟩,
    isIdle_of_result hr hidle⟩

end Search

end ProgramRepair
