import ProgramRepair.Proofs.Binary64.Mean
import ProgramRepair.Proofs.Search.Best
import ProgramRepair.Proofs.Search.Reachable
import ProgramRepair.Proofs.Search.Returning

/-!
# Searches that find nothing better

While no candidate is better than the unchanged program, the best patch of an epoch stays empty,
and all candidates have one edit. So a search whose unchanged program has the fitness zero never
tries the empty patch, and no other search can report it as a repair. Main statements:

* `Reachable.repair_seen`: a successful epoch evaluated the patch that it reports;
* `Reachable.unimproved`: what an epoch does that finds nothing better;
* `IsBaselineMean.isZero_of_solves`: the baseline of a program that passes is zero;
* `repairs_have_edits`: a repair that is reported has an edit.
-/

namespace ProgramRepair

variable {ε σ : Type} [DecidableEq ε] [Hashable ε]

/-- Status and fitness of an evaluation depend on the patch alone. -/
def Program.Scores (program : Program ε σ) (score : Patch ε → Status × Option Binary64) : Prop :=
  ∀ patch e, program.Answers patch e → (e.status, e.fitness) = score patch

/-- The patch has a single edit. -/
def Patch.IsSingle (p : Patch ε) : Prop := ∃ edit, p = Patch.empty.add edit

omit [DecidableEq ε] [Hashable ε] in
/-- A patch without edits can only grow. -/
theorem Patch.IsNeighbour.isSingle {p : Patch ε} (h : Patch.empty.IsNeighbour p) : p.IsSingle := by
  cases h with
  | grown edit => exact ⟨edit, rfl⟩
  | shrunk index hindex => exact absurd hindex (Nat.not_lt_zero index)

theorem NeighbourDraw.IsFor.isNeighbour {base candidate : Patch ε} {tabu : Tabu ε}
    {draw : NeighbourDraw ε} (h : draw.IsFor base tabu) (hfound : draw.found = some candidate) :
    base.IsNeighbour candidate := by
  cases h with
  | found s hneighbour hfresh =>
    obtain rfl := Option.some.inj hfound
    exact hneighbour
  | exhausted s => cases hfound

namespace Search

open Epoch

variable {ctx : SearchContext ε σ} {seed : UInt64} {epoch : Nat} {seen more : List (Sighting ε)}
  {p q : Position ε} {w w' : σ}

/-! ## What was evaluated -/

/-- What is seen of an epoch are answers of the program. -/
theorem Reachable.answers (h : Reachable ctx seed epoch seen p) {patch : Patch ε} {e : Evaluation}
    (he : .evaluated patch e ∈ seen) : ctx.program.Answers patch e := by
  induction h with
  | waiting | started => cases he
  | next hearlier hstep ih =>
    obtain he | he := List.mem_append.mp he
    · exact ih he
    · cases hstep with
      | evaluates heval =>
        cases List.mem_singleton.mp he
        exact ⟨_, _, _, heval⟩
      | solves | goesOn | concludes => cases List.mem_singleton.mp he
      | _ => cases he

/-- The candidate of the position, and the repair that it ends with, were seen. -/
def Position.RepairSeen (ctx : SearchContext ε σ) (seen : List (Sighting ε)) : Position ε → Prop
  | .evaluated _ _ candidate e => .evaluated candidate e ∈ seen
  | .ended s ending => ending = .repaired → ∃ e, .evaluated s.best e ∈ seen ∧ solves e = true
  | .done (some r) => r.success = true → ∃ patch e, .evaluated patch e ∈ seen ∧ solves e = true ∧
      patch.edits.mapM ctx.program.describe = .ok r.bestPatch
  | _ => True

theorem Advances.repairSeen (h : Advances ctx seed epoch p w more q w')
    (hp : p.RepairSeen ctx seen) : q.RepairSeen ctx (seen ++ more) := by
  cases h with
  | skips | opens | draws | goesOn => trivial
  | spends | stops | exhausts => exact fun hending => nomatch hending
  | evaluates => exact List.mem_append_right _ (List.mem_singleton_self _)
  | @solves g draw candidate e w event hevent hsolves =>
    intro _
    obtain ⟨hbest, -⟩ := Trial.after_of_solves (t := ⟨g.iteration, g.state, draw, candidate, e⟩)
      hsolves
    change (g.state.record draw candidate e).best = candidate at hbest
    rw [hbest]
    exact ⟨e, List.mem_append_left _ hp, hsolves⟩
  | @concludes s ending r w hresult =>
    obtain ⟨words, hwords, rfl⟩ := result_ok_iff.mp hresult
    intro hsuccess
    obtain ⟨e, he, hsolves⟩ := hp (of_decide_eq_true hsuccess)
    exact ⟨s.best, e, List.mem_append_left _ he, hsolves, hwords⟩

/-- A successful epoch evaluated the patch that it reports, and this patch repairs the program. -/
theorem Reachable.repair_seen (h : Reachable ctx seed epoch seen p) : p.RepairSeen ctx seen := by
  induction h with
  | waiting | started => trivial
  | next hearlier hstep ih => exact hstep.repairSeen ih

/-! ## Epochs without an improvement -/

/-- The best patch is still that of the start. -/
def IsUnchanged (original : Option Binary64) (s : State ε) : Prop :=
  s.best = .empty ∧ s.bestFitness = original

/-- The sighting is one of an epoch that found nothing better than the unchanged program. -/
def Unimproved : Sighting ε → Prop
  | .evaluated patch _ => patch.IsSingle
  | .heard event => event.improved = false

/-- The result is one of an epoch that found nothing better than the unchanged program. -/
structure ShowsUnchanged (ctx : SearchContext ε σ) (r : EpochResult) : Prop where
  bestFitness : r.bestFitness = ctx.original
  bestPatch : r.bestPatch = []
  diff : r.diff = ctx.program.diff .empty

/-- Nothing better than the unchanged program was found up to the position. -/
def Position.Unimproved (ctx : SearchContext ε σ) : Position ε → Prop
  | .waiting | .done none => True
  | .between g => IsUnchanged ctx.original g.state
  | .drawn g _ candidate => IsUnchanged ctx.original g.state ∧ candidate.IsSingle
  | .evaluated g _ candidate e => IsUnchanged ctx.original g.state ∧ candidate.IsSingle ∧
      improves e ctx.original = false
  | .ended s ending => ending ≠ .repaired → IsUnchanged ctx.original s
  | .done (some r) => r.success = false → ShowsUnchanged ctx r

theorem Advances.unimproved (h : Advances ctx seed epoch p w more q w')
    (hnone : ∀ patch e, ctx.program.Answers patch e → improves e ctx.original = false)
    (hp : p.Unimproved ctx) : q.Unimproved ctx ∧ ∀ s ∈ more, Unimproved s := by
  cases h with
  | skips => exact ⟨trivial, List.forall_mem_nil _⟩
  | opens => exact ⟨⟨rfl, rfl⟩, List.forall_mem_nil _⟩
  | spends | stops | exhausts => exact ⟨fun _ => hp, List.forall_mem_nil _⟩
  | draws hgo hdraw hfound =>
    have hneighbour := (neighbour_isFor hdraw).isNeighbour hfound
    rw [hp.1] at hneighbour
    exact ⟨⟨hp, hneighbour.isSingle⟩, List.forall_mem_nil _⟩
  | evaluates heval =>
    obtain ⟨hunchanged, hsingle⟩ := hp
    exact ⟨⟨hunchanged, hsingle, hnone _ _ ⟨_, _, _, heval⟩⟩, List.forall_mem_singleton.mpr hsingle⟩
  | solves hevent =>
    obtain ⟨⟨-, hfitness⟩, -, hworse⟩ := hp
    subst hevent
    refine ⟨fun hending => absurd rfl hending, List.forall_mem_singleton.mpr ?_⟩
    change improves _ _ = false
    rwa [hfitness]
  | @goesOn g draw candidate e w event hevent hsolves =>
    obtain ⟨⟨hbest, hfitness⟩, -, hworse⟩ := hp
    subst hevent
    rw [← hfitness] at hworse
    obtain ⟨hbest', hfitness'⟩ := Trial.after_of_not_kept
      (t := ⟨g.iteration, g.state, draw, candidate, e⟩) hworse hsolves
    exact ⟨⟨hbest'.trans hbest, hfitness'.trans hfitness⟩, List.forall_mem_singleton.mpr hworse⟩
  | @concludes s ending r w hresult =>
    obtain ⟨words, hwords, rfl⟩ := result_ok_iff.mp hresult
    refine ⟨fun hsuccess => ?_, List.forall_mem_singleton.mpr rfl⟩
    obtain ⟨hbest, hfitness⟩ := hp (of_decide_eq_false hsuccess)
    rw [hbest] at hwords ⊢
    cases hwords
    exact ⟨hfitness, rfl, rfl⟩

/-- An epoch that finds nothing better than the unchanged program only tries patches of a single
edit, and shows the empty patch as its best one unless it ends with a repair. -/
theorem Reachable.unimproved (h : Reachable ctx seed epoch seen p)
    (hnone : ∀ patch e, ctx.program.Answers patch e → improves e ctx.original = false) :
    p.Unimproved ctx ∧ ∀ s ∈ seen, Unimproved s := by
  induction h with
  | waiting => exact ⟨trivial, List.forall_mem_nil _⟩
  | started => exact ⟨⟨rfl, rfl⟩, List.forall_mem_nil _⟩
  | next hearlier hstep ih =>
    obtain ⟨hp, hseen⟩ := ih
    obtain ⟨hq, hmore⟩ := hstep.unimproved hnone hp
    exact ⟨hq, List.forall_mem_append.mpr ⟨hseen, hmore⟩⟩

/-! ## Programs that pass unchanged -/

variable {search : Search ε σ} {observer : Observer σ}

omit [DecidableEq ε] [Hashable ε] in
/-- The baseline is the mean of one sample for each evaluation of the unchanged program, if they all
agree. -/
theorem IsBaselineMean.eq_mean_replicate {original : Option Binary64} {v : Binary64}
    (h : search.IsBaselineMean original)
    (hv : ∀ e, search.program.Answers .empty e → sample e = some v) :
    original = mean (List.replicate search.config.warmupReps v) := by
  obtain ⟨samples, ⟨es, hlength, rfl, hes⟩, rfl⟩ := h
  have hsamples : es.filterMap sample = List.replicate es.length v := by
    clear hlength
    induction es with
    | nil => rfl
    | cons e es ih =>
      obtain ⟨he, hes⟩ := List.forall_mem_cons.mp hes
      rw [List.filterMap_cons_some (hv e he), ih hes]
      rfl
  rw [hsamples, ← hlength, Nat.add_zero]

theorem mean_replicate {n : Nat} (hn : 0 < n) (v : Binary64) :
    mean (List.replicate n v) = some (Binary64.sum (List.replicate n v) / .ofNat n) := by
  have hne : List.replicate n v ≠ [] :=
    List.ne_nil_of_length_pos (by rwa [List.length_replicate])
  rw [mean, if_neg hne, List.length_replicate]

section Passing

variable {score : Patch ε → Status × Option Binary64}

omit [DecidableEq ε] [Hashable ε] in
/-- The baseline of a program that passes unchanged is zero. -/
theorem IsBaselineMean.isZero_of_solves {original : Option Binary64}
    (h : search.IsBaselineMean original) (hscores : search.program.Scores score)
    (hreps : 0 < search.config.warmupReps) {e : Evaluation}
    (he : search.program.Answers .empty e) (hsolves : solves e = true) :
    ∃ z, original = some z ∧ z.isZero = true := by
  obtain ⟨hstatus, hrepaired⟩ := Bool.and_eq_true_iff.mp hsolves
  obtain ⟨z, hz, hzero⟩ := isRepaired_iff.mp hrepaired
  have hsample : ∀ e', search.program.Answers .empty e' → sample e' = some z := by
    intro e' he'
    have hsame : (e'.status, e'.fitness) = (e.status, e.fitness) :=
      (hscores _ _ he').trans (hscores _ _ he).symm
    rw [Prod.mk.injEq] at hsame
    exact sample_eq_some.mpr ⟨hsame.1 ▸ hstatus, hsame.2.trans hz⟩
  refine ⟨_, (h.eq_mean_replicate hsample).trans (mean_replicate hreps z), ?_⟩
  exact Binary64.isZero_mean_replicate hzero hreps

omit [DecidableEq ε] [Hashable ε] in
/-- Nothing that is not negative is better than zero. -/
theorem improves_eq_false {z : Binary64} (hz : z.isZero = true) {e : Evaluation}
    (he : ∀ f, e.fitness = some f → Binary64.zero.le f = true) : improves e (some z) = false := by
  rw [improves, Bool.and_eq_false_iff]
  right
  cases hfitness : e.fitness with
  | none => rfl
  | some f => exact Binary64.lt_eq_false_of_isZero hz (he f hfitness)

/-- An epoch that counts as successful shows a patch with an edit. -/
theorem ComesTo.bestPatch_ne_nil {original : Option Binary64} {k : Nat} {r : EpochResult}
    (h : ComesTo search observer original k seen (.done (some r)))
    (hscores : search.program.Scores score)
    (hfitness : ∀ patch f, (score patch).2 = some f → Binary64.zero.le f = true)
    (hreps : 0 < search.config.warmupReps) (hsuccess : r.success = true) : r.bestPatch ≠ [] := by
  obtain ⟨hmean, hreachable⟩ := h.reachable
  obtain ⟨patch, e, he, hsolves, hwords⟩ := hreachable.repair_seen hsuccess
  intro hnil
  rw [hnil] at hwords
  -- the repair is the empty patch, so the unchanged program passes and nothing is better
  have hempty : patch = .empty := by
    have hedits := (forall₂_of_mapM_ok hwords).length_eq
    exact congrArg Patch.mk (List.eq_nil_of_length_eq_zero hedits)
  have hanswer := hreachable.answers he
  rw [hempty] at hanswer
  obtain ⟨z, rfl, hz⟩ := hmean.isZero_of_solves hscores hreps hanswer hsolves
  obtain ⟨-, hseen⟩ := hreachable.unimproved fun patch' e' he' =>
    improves_eq_false hz fun f hf => hfitness patch' f ((hscores _ _ he') ▸ hf)
  -- but then the empty patch is no candidate
  obtain ⟨edit, hedit⟩ : patch.IsSingle := hseen _ he
  rw [hempty] at hedit
  exact absurd (congrArg Patch.length hedit) (by simp)

/-- A reported repair is never the unmodified program, if the status and the fitness of a patch
depend on the patch alone and no fitness is negative: neither where epochs run one after the other
nor side by side, whatever their schedule is and whenever the search is asked to stop. -/
theorem repairs_have_edits (search : Search ε σ) (observer : Observer σ)
    (score : Patch ε → Status × Option Binary64) (hscores : search.program.Scores score)
    (hfitness : ∀ patch f, (score patch).2 = some f → Binary64.zero.le f = true)
    (hreps : 1 ≤ search.config.warmupReps) :
    ∀ report, MayReport search observer report →
      ∀ r ∈ report.epochs, r.success = true → r.bestPatch ≠ [] := by
  intro report hreport r hr
  obtain ⟨seen, hcomes⟩ := hreport.exists_comesTo r hr
  exact hcomes.bestPatch_ne_nil hscores hfitness hreps

end Passing

/-! ### A program that passes unchanged -/

section TwoEpochs

open Rehearsal

/-- Every epoch finds a repair at once, whatever the baseline and its stream are. -/
theorem twoEpochs_epoch (original : Option Binary64) (epoch : Nat) (stream : Stream) (w : World) :
    ∃ r stream' w', Epoch.run (twoEpochs.context silent original) epoch stream w =
      .ok ((r, stream'), w') ∧ r.success = true := by
  obtain ⟨timeout, htimeout⟩ := sturdy_twoEpochs.timeout
  obtain ⟨number, s', hcandidate⟩ := sideBySide_drawCandidate stream
  obtain ⟨draw, hfound, hdraw⟩ : ∃ draw, draw.found = some (deletionOf number) ∧
      Draws (twoEpochs.context silent original) (start original stream) draw :=
    ⟨_, rfl, .of_fresh hcandidate (Tabu.contains_empty _)⟩
  obtain ⟨w₁, heval⟩ := allPassing_evaluate (deletionOf number) timeout w
  have ht : Tries (twoEpochs.context silent original) epoch timeout
      ⟨1, start original stream, draw, deletionOf number, passing⟩ w w₁ :=
    ⟨rfl, hdraw, hfound, w₁, heval, rfl⟩
  obtain ⟨r, hr⟩ := unfailing_twoEpochs.exists_result silent original epoch (fun _ _ => trivial)
    (s := (Trial.after ⟨1, start original stream, draw, deletionOf number, passing⟩)) .repaired
  refine ⟨r, _, _, run_ok_iff.mpr ⟨timeout, _, _, _, w₁, htimeout, .repaired 1 ht rfl, hr, rfl,
    rfl⟩, ?_⟩
  obtain ⟨words, -, rfl⟩ := result_ok_iff.mp hr
  rfl

/-- Both epochs of the rehearsal report a repair, and it has an edit. -/
theorem twoEpochs_repairs_have_edits :
    1 ≤ twoEpochs.config.warmupReps ∧
    ∃ report search' w', twoEpochs.run silent ⟨[0], [], none, false⟩ =
        .ok ((report, search'), w') ∧ report.epochs ≠ [] ∧
      ∀ r ∈ report.epochs, r.success = true ∧ r.bestPatch ≠ [] := by
  have hscores : twoEpochs.program.Scores fun _ => (.success, some .zero) := by
    rintro patch e ⟨timeout, w, w', heval⟩
    obtain ⟨w₁, hpasses⟩ := allPassing_evaluate patch timeout w
    cases heval.symm.trans hpasses
    rfl
  have hfitness : ∀ (patch : Patch Token) f, (Status.success, some Binary64.zero).2 = some f →
      Binary64.zero.le f = true := by
    rintro _ _ ⟨⟩
    rfl
  obtain ⟨original, w₁, hwarmup, -⟩ := unfailing_twoEpochs.gives_warmup silent
    ⟨[0], [], none, false⟩
  obtain ⟨r₁, s₁, w₂, hfirst, hsuccess₁⟩ := twoEpochs_epoch original 1 (twoZeros 0) w₁
  obtain ⟨r₂, s₂, w₃, hsecond, hsuccess₂⟩ := twoEpochs_epoch original 2 s₁ w₂
  have hepochs : sequentialEpochs (twoEpochs.context silent original) 2 1 (twoZeros 0) w₁ =
      .ok (([r₁, r₂], s₂), w₃) :=
    sequentialEpochs_cons rfl hfirst (sequentialEpochs_cons rfl hsecond rfl)
  have hrun : twoEpochs.run silent ⟨[0], [], none, false⟩ =
      .ok ((⟨original, [r₁, r₂], .zero⟩, { twoEpochs with stream := s₂ }), w₃) := by
    refine Run.bind_ok.mpr ⟨original, w₁, hwarmup, ?_⟩
    exact Run.lift_bind_ok.mpr
      ⟨(), sturdy_twoEpochs.epochRoom, Run.bind_ok.mpr ⟨_, _, hepochs, rfl⟩⟩
  have hedits := repairs_have_edits twoEpochs silent _ hscores hfitness le_rfl _ (.alone hrun)
  refine ⟨le_rfl, _, _, _, hrun, List.cons_ne_nil _ _, fun r hr => ?_⟩
  have hsuccess : r.success = true := by
    obtain rfl | hr := List.mem_cons.mp hr
    · exact hsuccess₁
    · obtain rfl := List.mem_singleton.mp hr
      exact hsuccess₂
  exact ⟨hsuccess, hedits r hr hsuccess⟩

end TwoEpochs

end Search

end ProgramRepair
