import ProgramRepair.Outcome.Classifier
import ProgramRepair.Proofs.Search.Unchanged

/-!
# Programs whose patches all score alike

If every patch gets the same fitness, the baseline is the mean of copies of it, rounded at every
step of the sum and once more for the quotient. What the search does depends on where that mean
stands. Main statements:

* `Advances.takesFirst`, `Reachable.takesFirst`: below the mean, the first candidate becomes the
  best one and stays it;
* `ComesTo.staysUnchanged`: otherwise the best patch stays empty;
* `mean_decides_uniform_search`: the two cases for all searches, and when the mean is the fitness
  itself;
* `tenthFailing_improves`: three copies of one tenth have a mean above it.
-/

namespace ProgramRepair

variable {ε σ : Type}

/-- All evaluations may compete, with the same fitness. -/
def Program.IsUniform (program : Program ε σ) (v : Binary64) : Prop :=
  ∀ patch e, program.Answers patch e → e.status.isComparable = true ∧ e.fitness = some v

namespace Search

open Epoch

/-- The mean of a number of copies of a fitness, as a baseline computes it. -/
def meanOfCopies (n : Nat) (v : Binary64) : Binary64 :=
  Binary64.sum (List.replicate n v) / .ofNat n

/-- The mean of one or two copies is exact, up to a fitness of one. -/
theorem meanOfCopies_of_le_two {n : Nat} {v : Binary64} (hv : Binary64.zero.lt v = true)
    (hle : v.le .one = true) (hn : 0 < n) (hn' : n ≤ 2) : meanOfCopies n v = v := by
  obtain ⟨-, -, hrank⟩ := Binary64.lt_iff.mp hv
  obtain ⟨-, -, hrank'⟩ := Binary64.le_iff.mp hle
  have hmagnitude : v.magnitude ≤ 0x3FF * Nat.pow 2 52 := by
    obtain ⟨negative, m⟩ := v
    cases negative with
    | false => exact Int.ofNat_le.mp hrank'
    | true => exact absurd hrank (by simp [Binary64.rank, Binary64.zero])
  have hlt : v.magnitude < Binary64.infiniteMagnitude := Nat.lt_of_le_of_lt hmagnitude (by decide)
  refine Binary64.mean_replicate_of_exact (decide_eq_true hlt) hv ?_ hn (by omega)
  intro j hj
  obtain rfl | rfl | rfl : j = 0 ∨ j = 1 ∨ j = 2 := by omega
  · rw [Nat.zero_mul]
    exact ⟨0, by decide, rfl⟩
  · rw [Nat.one_mul]
    exact Binary64.isExact_units hlt
  · exact Binary64.isExact_two_mul_units hmagnitude

/-! ## Evaluations of a uniform program -/

section Evaluations

variable {program : Program ε σ} {v : Binary64}

theorem improves_of_isUniform {e : Evaluation} (hstatus : e.status.isComparable = true)
    (hfitness : e.fitness = some v) (m : Binary64) : improves e (some m) = v.lt m := by
  rw [improves, hstatus, hfitness, Bool.true_and]
  rfl

theorem solves_of_isUniform {e : Evaluation} (hv : Binary64.zero.lt v = true)
    (hfitness : e.fitness = some v) : solves e = false := by
  refine Bool.eq_false_iff.mpr fun hsolves => ?_
  obtain ⟨f, hf, hzero⟩ := isRepaired_iff.mp (Bool.and_eq_true_iff.mp hsolves).2
  obtain rfl : v = f := Option.some.inj (hfitness.symm.trans hf)
  obtain ⟨-, -, hrank⟩ := Binary64.lt_iff.mp hv
  rw [Binary64.rank_of_isZero hzero] at hrank
  exact absurd hrank (Int.lt_irrefl 0)

/-- The baseline of a uniform program is the mean of copies of its fitness. -/
theorem IsBaselineMean.eq_meanOfCopies {search : Search ε σ} {original : Option Binary64}
    (h : search.IsBaselineMean original) (huniform : search.program.IsUniform v)
    (hreps : 1 ≤ search.config.warmupReps) :
    original = some (meanOfCopies search.config.warmupReps v) := by
  have hsample : ∀ e, search.program.Answers .empty e → sample e = some v :=
    fun e he => sample_eq_some.mpr (huniform .empty e he)
  exact (h.eq_mean_replicate hsample).trans (mean_replicate hreps v)

end Evaluations

variable [DecidableEq ε] [Hashable ε]

/-! ## The first candidate -/

variable {ctx : SearchContext ε σ} {seed : UInt64} {epoch : Nat} {seen more : List (Sighting ε)}
  {p q : Position ε} {w w' : σ} {v m : Binary64}

/-- The first candidate, if there was one, is the best patch. -/
def IsFirst (original : Option Binary64) (v : Binary64) (s : State ε) : Prop :=
  (s.evaluations = 0 → IsUnchanged original s) ∧
    (s.evaluations ≠ 0 → s.best.IsSingle ∧ s.bestFitness = some v)

/-- Only the first candidate counts as an improvement. -/
def ShowsFirst (event : Event) : Prop :=
  event.phase = .searching → (event.improved = true ↔ event.iteration = 1)

/-- The epoch took its first candidate as the best one, and none after it. -/
def Position.TakesFirst (original : Option Binary64) (v : Binary64) : Position ε → Prop
  | .waiting | .done none => True
  | .between g => IsFirst original v g.state ∧ g.iteration = g.state.evaluations + 1
  | .drawn g _ candidate => IsFirst original v g.state ∧ g.iteration = g.state.evaluations + 1 ∧
      (g.state.evaluations = 0 → candidate.IsSingle)
  | .evaluated g _ candidate e => IsFirst original v g.state ∧
      g.iteration = g.state.evaluations + 1 ∧ (g.state.evaluations = 0 → candidate.IsSingle) ∧
      e.status.isComparable = true ∧ e.fitness = some v
  | .ended s ending => IsFirst original v s ∧ ending ≠ .repaired
  | .done (some r) => r.success = false ∧
      (r.fitnessEvaluations ≠ 0 → r.bestFitness = some v ∧ r.bestPatch.length = 1)

/-- A candidate with the fitness of all others is kept only if it is the first one. -/
theorem IsFirst.record {g : Stage ε} (draw : NeighbourDraw ε) {candidate : Patch ε}
    {e : Evaluation} (hfirst : IsFirst (some m) v g.state) (hbelow : v.lt m = true)
    (hsolves : solves e = false) (hsingle : g.state.evaluations = 0 → candidate.IsSingle)
    (hstatus : e.status.isComparable = true) (hfitness : e.fitness = some v) :
    IsFirst (some m) v (g.state.record draw candidate e) ∧
      (improves e g.state.bestFitness = true ↔ g.state.evaluations = 0) := by
  obtain ⟨t, ht⟩ : ∃ t, t = Trial.mk g.iteration g.state draw candidate e := ⟨_, rfl⟩
  have hafter : g.state.record draw candidate e = t.after := by rw [ht]; rfl
  have hcount : t.after.evaluations = g.state.evaluations + 1 := by rw [ht]; rfl
  rw [hafter]
  by_cases hzero : g.state.evaluations = 0
  · have himproves : improves e g.state.bestFitness = true := by
      rw [(hfirst.1 hzero).2, improves_of_isUniform hstatus hfitness, hbelow]
    obtain ⟨hbest, hbestFitness⟩ : t.after.best = candidate ∧ t.after.bestFitness = e.fitness := by
      subst ht
      exact Trial.after_of_improves himproves
    refine ⟨⟨fun hnone => by omega, fun _ => ?_⟩, iff_of_true himproves hzero⟩
    rw [hbest, hbestFitness]
    exact ⟨hsingle hzero, hfitness⟩
  · obtain ⟨hbefore, hfitnessBefore⟩ := hfirst.2 hzero
    have himproves : improves e g.state.bestFitness = false := by
      rw [hfitnessBefore, improves_of_isUniform hstatus hfitness, Binary64.lt_irrefl]
    obtain ⟨hbest, hbestFitness⟩ : t.after.best = g.state.best ∧
        t.after.bestFitness = g.state.bestFitness := by
      subst ht
      exact Trial.after_of_not_kept himproves hsolves
    refine ⟨⟨fun hnone => by omega, fun _ => ?_⟩, iff_of_false ?_ hzero⟩
    · rw [hbest, hbestFitness]
      exact ⟨hbefore, hfitnessBefore⟩
    · rw [himproves]
      exact Bool.false_ne_true

theorem Advances.takesFirst (h : Advances ctx seed epoch p w more q w')
    (huniform : ctx.program.IsUniform v) (hv : Binary64.zero.lt v = true)
    (horiginal : ctx.original = some m) (hbelow : v.lt m = true)
    (hp : p.TakesFirst ctx.original v) :
    q.TakesFirst ctx.original v ∧ ∀ event ∈ eventsHeard more, ShowsFirst event := by
  cases h with
  | skips => exact ⟨trivial, List.forall_mem_nil _⟩
  | opens =>
    exact ⟨⟨⟨fun _ => ⟨rfl, rfl⟩, fun hne => absurd rfl hne⟩, rfl⟩, List.forall_mem_nil _⟩
  | spends | stops | exhausts => exact ⟨⟨hp.1, by decide⟩, List.forall_mem_nil _⟩
  | draws hgo hdraw hfound =>
    refine ⟨⟨hp.1, hp.2, fun hzero => ?_⟩, List.forall_mem_nil _⟩
    have hneighbour := (neighbour_isFor hdraw).isNeighbour hfound
    rw [(hp.1.1 hzero).1] at hneighbour
    exact hneighbour.isSingle
  | evaluates heval =>
    obtain ⟨hfirst, hiteration, hsingle⟩ := hp
    exact ⟨⟨hfirst, hiteration, hsingle, huniform _ _ ⟨_, _, _, heval⟩⟩, List.forall_mem_nil _⟩
  | solves _ hsolves =>
    obtain ⟨-, -, -, -, hfitness⟩ := hp
    cases hsolves.symm.trans (solves_of_isUniform hv hfitness)
  | @goesOn g draw candidate e w event hevent hsolves =>
    obtain ⟨hfirst, hiteration, hsingle, hstatus, hfitness⟩ := hp
    rw [horiginal] at hfirst ⊢
    obtain ⟨hnext, himproved⟩ :=
      hfirst.record draw hbelow hsolves hsingle hstatus hfitness
    subst hevent
    refine ⟨⟨hnext, congrArg Nat.succ hiteration⟩, List.forall_mem_singleton.mpr fun _ => ?_⟩
    change improves e g.state.bestFitness = true ↔ g.iteration = 1
    rw [himproved, hiteration]
    omega
  | @concludes s ending r w hresult =>
    obtain ⟨hfirst, hending⟩ := hp
    obtain ⟨words, hwords, rfl⟩ := result_ok_iff.mp hresult
    refine ⟨⟨decide_eq_false hending, fun hsome => ?_⟩, List.forall_mem_singleton.mpr ?_⟩
    · obtain ⟨⟨edit, hbest⟩, hfitness⟩ := hfirst.2 hsome
      have hlength := (forall₂_of_mapM_ok hwords).length_eq
      rw [hbest] at hlength
      exact ⟨hfitness, hlength.symm⟩
    · exact fun hphase => nomatch hphase

/-- Below the baseline, the first candidate of an epoch becomes the best one and stays it. -/
theorem Reachable.takesFirst (h : Reachable ctx seed epoch seen p)
    (huniform : ctx.program.IsUniform v) (hv : Binary64.zero.lt v = true)
    (horiginal : ctx.original = some m) (hbelow : v.lt m = true) :
    p.TakesFirst ctx.original v ∧ ∀ event ∈ eventsHeard seen, ShowsFirst event := by
  induction h with
  | waiting => exact ⟨trivial, List.forall_mem_nil _⟩
  | started =>
    exact ⟨⟨⟨fun _ => ⟨rfl, rfl⟩, fun hne => absurd rfl hne⟩, rfl⟩, List.forall_mem_nil _⟩
  | next hearlier hstep ih =>
    obtain ⟨hp, hseen⟩ := ih
    obtain ⟨hq, hmore⟩ := hstep.takesFirst huniform hv horiginal hbelow hp
    rw [eventsHeard_append]
    exact ⟨hq, List.forall_mem_append.mpr ⟨hseen, hmore⟩⟩

/-! ## Both cases -/

/-- What is seen of an epoch whose best patch stays empty. -/
structure StaysUnchanged (ctx : SearchContext ε σ) (seen : List (Sighting ε)) (p : Position ε) :
    Prop where
  improved : ∀ event ∈ eventsHeard seen, event.improved = false
  candidates : ∀ patch e, .evaluated patch e ∈ seen → patch.IsSingle
  result : ∀ r, p = .done (some r) → r.success = false ∧ ShowsUnchanged ctx r

/-- What is seen of an epoch whose first candidate stays the best one. -/
structure KeepsFirst (v : Binary64) (seen : List (Sighting ε)) (p : Position ε) : Prop where
  improved : ∀ event ∈ eventsHeard seen, event.phase = .searching →
    (event.improved = true ↔ event.iteration = 1)
  result : ∀ r, p = .done (some r) → r.success = false ∧
    (r.fitnessEvaluations ≠ 0 → r.bestFitness = some v ∧ r.bestPatch.length = 1)

variable {search : Search ε σ} {observer : Observer σ} {original : Option Binary64} {k : Nat}

theorem ComesTo.staysUnchanged (h : ComesTo search observer original k seen p)
    (huniform : search.program.IsUniform v) (hv : Binary64.zero.lt v = true)
    (hreps : 1 ≤ search.config.warmupReps)
    (hnot : v.lt (meanOfCopies search.config.warmupReps v) = false) :
    StaysUnchanged (search.context observer original) seen p := by
  obtain ⟨hmean, hreachable⟩ := h.reachable
  obtain rfl := hmean.eq_meanOfCopies huniform hreps
  obtain ⟨hp, hseen⟩ := hreachable.unimproved fun patch e he => by
    obtain ⟨hstatus, hfitness⟩ := huniform patch e he
    exact (improves_of_isUniform hstatus hfitness _).trans hnot
  constructor
  case improved =>
    intro event hevent
    obtain ⟨sighting, hsighting, hheard⟩ := List.mem_filterMap.mp hevent
    cases sighting with
    | evaluated => cases hheard
    | heard event =>
      obtain rfl := Option.some.inj hheard
      exact hseen _ hsighting
  case candidates => exact fun patch e he => hseen _ he
  case result =>
    rintro r rfl
    have hsuccess : r.success = false := by
      refine Bool.eq_false_iff.mpr fun hsuccess => ?_
      obtain ⟨patch, e, he, hsolves, -⟩ := hreachable.repair_seen hsuccess
      obtain ⟨-, hfitness⟩ := huniform patch e (hreachable.answers he)
      cases hsolves.symm.trans (solves_of_isUniform hv hfitness)
    exact ⟨hsuccess, hp hsuccess⟩

theorem ComesTo.keepsFirst (h : ComesTo search observer original k seen p)
    (huniform : search.program.IsUniform v) (hv : Binary64.zero.lt v = true)
    (hreps : 1 ≤ search.config.warmupReps)
    (hbelow : v.lt (meanOfCopies search.config.warmupReps v) = true) : KeepsFirst v seen p := by
  obtain ⟨hmean, hreachable⟩ := h.reachable
  obtain rfl := hmean.eq_meanOfCopies huniform hreps
  obtain ⟨hp, hseen⟩ := hreachable.takesFirst huniform hv rfl hbelow
  exact ⟨hseen, by rintro r rfl; exact hp⟩

/-- What a search does whose patches all get the same fitness, in all its runs: the mean of the
copies that the baseline adds up is the fitness of the unchanged program. If it is above the single
fitness, the first candidate of each epoch is an improvement and stays the best patch; otherwise
there is no improvement, all candidates are of a single edit, and every epoch ends with the empty
patch. The mean is the single fitness if all its multiples on the way are doubles, as they are for
one or two evaluations of the unchanged program. -/
theorem mean_decides_uniform_search (search : Search ε σ) (observer : Observer σ) (v : Binary64)
    (huniform : search.program.IsUniform v) (hv : Binary64.zero.lt v = true)
    (hreps : 1 ≤ search.config.warmupReps) :
    (∀ original k seen p, ComesTo search observer original k seen p →
      original = some (meanOfCopies search.config.warmupReps v) ∧
      (v.lt (meanOfCopies search.config.warmupReps v) = true → KeepsFirst v seen p) ∧
      (v.lt (meanOfCopies search.config.warmupReps v) = false →
        StaysUnchanged (search.context observer original) seen p)) ∧
    (∀ report, MayReport search observer report →
      report.originalFitness = some (meanOfCopies search.config.warmupReps v) ∧
      ∀ r ∈ report.epochs, ∃ seen,
        ComesTo search observer report.originalFitness r.epoch seen (.done (some r))) ∧
    (v.isFinite = true → search.config.warmupReps < 2 ^ 53 →
      (∀ j ≤ search.config.warmupReps, Binary64.IsExact (j * Binary64.units v.magnitude)) →
        meanOfCopies search.config.warmupReps v = v) ∧
    (v.le .one = true → search.config.warmupReps ≤ 2 →
      meanOfCopies search.config.warmupReps v = v) := by
  refine ⟨?_, ?_, ?_, ?_⟩
  · intro original k seen p h
    exact ⟨h.reachable.1.eq_meanOfCopies huniform hreps, h.keepsFirst huniform hv hreps,
      h.staysUnchanged huniform hv hreps⟩
  · intro report h
    exact ⟨h.isBaselineMean.eq_meanOfCopies huniform hreps, h.exists_comesTo⟩
  · intro hfinite hcount hexact
    exact Binary64.mean_replicate_of_exact hfinite hv hexact hreps hcount
  · intro hle hcount
    exact meanOfCopies_of_le_two hv hle hreps hcount

/-! ### Rehearsals in which all patches are alike -/

section Alike

open Rehearsal

/-- A rehearsal in which every patch has the same result. -/
def alike (e : Evaluation) (reps : Nat) : Search Token World where
  program := tokens [⟨[], [], none, none, none, [e]⟩] 3
  config := ⟨reps, 1, 1, .one, [.deletion], some 0, false⟩
  seed := 0
  stream := .ofSeed 0

theorem alike_evaluate (e : Evaluation) (reps : Nat) (patch : Patch Token) (timeout : Duration)
    (w : World) : ∃ w', (alike e reps).program.evaluate patch timeout w = .ok (e, w') := by
  refine ⟨{ w with uses := w.uses.set 0 (w.uses[0]?.getD 0 + 1) }, ?_⟩
  change Except.ok (([e][w.uses[0]?.getD 0 % 1]?).getD unscripted, _) = _
  rw [Nat.mod_one]
  rfl

theorem isUniform_alike {e : Evaluation} {v : Binary64} (hstatus : e.status.isComparable = true)
    (hfitness : e.fitness = some v) (reps : Nat) : (alike e reps).program.IsUniform v := by
  rintro patch e' ⟨timeout, w, w', heval⟩
  obtain ⟨w₁, hsame⟩ := alike_evaluate e reps patch timeout w
  cases heval.symm.trans hsame
  exact ⟨hstatus, hfitness⟩

theorem unfailing_alike (e : Evaluation) {reps : Nat} (hroom : reserve reps 8 = .ok ()) :
    (alike e reps).Unfailing fun _ => True where
  warmupRoom := hroom
  epochRoom _ := rfl
  timeout := sturdy_twoEpochs.timeout
  evaluate timeout _ patch w := by
    obtain ⟨w', heval⟩ := alike_evaluate e reps patch timeout w
    exact ⟨e, w', heval, trivial⟩
  creates := creates_twoEpochs
  makes _ _ _ _ _ := trivial
  describe edit _ := ⟨edit.text, rfl⟩

/-- The only epoch tries one candidate, whatever the baseline is. -/
theorem alike_epoch {e : Evaluation} (hsolves : solves e = false) {reps : Nat}
    (hroom : reserve reps 8 = .ok ()) (original : Option Binary64) (w : World) :
    ∃ r stream' w', Epoch.run ((alike e reps).context silent original) 1 (.ofSeed 0) w =
      .ok ((r, stream'), w') ∧ r.fitnessEvaluations = 1 := by
  obtain ⟨timeout, htimeout⟩ := sturdy_twoEpochs.timeout
  obtain ⟨number, s', hcandidate⟩ := sideBySide_drawCandidate (.ofSeed 0)
  obtain ⟨draw, hfound, hdraw⟩ : ∃ draw, draw.found = some (deletionOf number) ∧
      Draws ((alike e reps).context silent original) (start original (.ofSeed 0)) draw :=
    ⟨_, rfl, .of_fresh hcandidate (Tabu.contains_empty _)⟩
  obtain ⟨w₁, heval⟩ := alike_evaluate e reps (deletionOf number) timeout w
  have ht : Tries ((alike e reps).context silent original) 1 timeout
      ⟨1, start original (.ofSeed 0), draw, deletionOf number, e⟩ w w₁ :=
    ⟨rfl, hdraw, hfound, w₁, heval, rfl⟩
  obtain ⟨r, hr⟩ := (unfailing_alike e hroom).exists_result silent original 1 (fun _ _ => trivial)
    (s := (Trial.after ⟨1, start original (.ofSeed 0), draw, deletionOf number, e⟩)) .spent
  refine ⟨r, _, _, run_ok_iff.mpr ⟨timeout, _, _, _, w₁, htimeout, .next ht hsolves (.spent ..), hr,
    rfl, rfl⟩, ?_⟩
  obtain ⟨words, -, rfl⟩ := result_ok_iff.mp hr
  rfl

theorem alike_run {e : Evaluation} (hsolves : solves e = false) (reps : Nat)
    (hroom : reserve reps 8 = .ok ()) :
    ∃ report search' w', (alike e reps).run silent ⟨[0], [], none, false⟩ =
      .ok ((report, search'), w') ∧ ∃ r ∈ report.epochs, r.fitnessEvaluations = 1 := by
  obtain ⟨original, w₁, hwarmup, -⟩ := (unfailing_alike e hroom).gives_warmup silent
    ⟨[0], [], none, false⟩
  obtain ⟨r, s', w₂, hepoch, hr⟩ := alike_epoch hsolves hroom original w₁
  have hepochs : sequentialEpochs ((alike e reps).context silent original) 1 1 (.ofSeed 0) w₁ =
      .ok (([r], s'), w₂) := sequentialEpochs_cons rfl hepoch rfl
  refine ⟨⟨original, [r], .zero⟩, { alike e reps with stream := s' }, w₂, ?_, r,
    List.mem_singleton_self r, hr⟩
  refine Run.bind_ok.mpr ⟨original, w₁, hwarmup, ?_⟩
  exact Run.lift_bind_ok.mpr ⟨(), rfl, Run.bind_ok.mpr ⟨_, _, hepochs, rfl⟩⟩

/-- One half. -/
def half : Binary64 := ⟨false, 0x3FE * Nat.pow 2 52⟩

/-- Three copies of one half have the mean one half, so a rehearsal in which half of the tests fail
for every patch keeps the empty patch. -/
theorem halfFailing_stays_unchanged :
    (alike halfFailing 3).program.IsUniform half ∧ Binary64.zero.lt half = true ∧
    1 ≤ (alike halfFailing 3).config.warmupReps ∧
    ∃ report search' w', (alike halfFailing 3).run silent ⟨[0], [], none, false⟩ =
        .ok ((report, search'), w') ∧ report.originalFitness = some half ∧
      ∃ r ∈ report.epochs, r.fitnessEvaluations = 1 ∧ r.success = false ∧
        r.bestFitness = some half ∧ r.bestPatch = [] := by
  have huniform : (alike halfFailing 3).program.IsUniform half := isUniform_alike rfl rfl 3
  have hhalf : Binary64.zero.lt half = true := by decide
  have hreps : 1 ≤ (alike halfFailing 3).config.warmupReps := by decide
  obtain ⟨hpositions, hreports, hexact, -⟩ :=
    mean_decides_uniform_search (alike halfFailing 3) silent half huniform hhalf hreps
  have hmean : meanOfCopies (alike halfFailing 3).config.warmupReps half = half := by
    refine hexact (by decide) (by decide) fun j hj => ?_
    have hunits : Binary64.units half.magnitude = 2 ^ 1073 := by decide +kernel
    rw [hunits]
    exact Binary64.isExact_mul_two_pow (Nat.lt_of_le_of_lt hj (by decide)) (by omega)
  obtain ⟨report, search', w', hrun, r, hr, hcount⟩ :=
    alike_run (e := halfFailing) (by decide) 3 rfl
  obtain ⟨horiginal, hcomes⟩ := hreports _ (.alone hrun)
  obtain ⟨seen, hr'⟩ := hcomes r hr
  obtain ⟨-, -, hstays⟩ := hpositions _ _ _ _ hr'
  rw [hmean] at horiginal hstays
  obtain ⟨hsuccess, hshows⟩ := (hstays (Binary64.lt_irrefl half)).result r rfl
  exact ⟨huniform, hhalf, hreps, report, search', w', hrun, horiginal, r, hr, hcount, hsuccess,
    hshows.bestFitness.trans horiginal, hshows.bestPatch⟩

/-- One of ten tests fails. -/
def tenthFailing : Evaluation :=
  ⟨.failing 1 10, some (Summary.failureRatio 1 10), "", "", some 1, .zero⟩

/-- Three copies of one tenth have a mean above one tenth, so a rehearsal in which one of ten tests
fails for every patch reports a best patch that changes nothing about the tests. -/
theorem tenthFailing_improves :
    Summary.scoreOfCounts 1 9 = (tenthFailing.status, tenthFailing.fitness) ∧
    Search.new (alike tenthFailing 3).program (alike tenthFailing 3).config 0 =
      .ok (alike tenthFailing 3) ∧
    (alike tenthFailing 3).program.IsUniform (Summary.failureRatio 1 10) ∧
    Binary64.zero.lt (Summary.failureRatio 1 10) = true ∧
    ∃ report search' w', (alike tenthFailing 3).run silent ⟨[0], [], none, false⟩ =
        .ok ((report, search'), w') ∧
      report.originalFitness ≠ some (Summary.failureRatio 1 10) ∧
      ∃ r ∈ report.epochs, r.success = false ∧ r.bestPatch ≠ [] := by
  have huniform : (alike tenthFailing 3).program.IsUniform (Summary.failureRatio 1 10) :=
    isUniform_alike rfl rfl 3
  have htenth : Binary64.zero.lt (Summary.failureRatio 1 10) = true := by decide +kernel
  have hbelow : (Summary.failureRatio 1 10).lt
      (meanOfCopies 3 (Summary.failureRatio 1 10)) = true := by decide +kernel
  have hsolves : solves tenthFailing = false := solves_of_isUniform htenth rfl
  obtain ⟨report, search', w', hrun, r, hr, hcount⟩ :=
    alike_run hsolves 3 rfl
  have horiginal : report.originalFitness =
      some (meanOfCopies 3 (Summary.failureRatio 1 10)) :=
    (MayReport.alone hrun).isBaselineMean.eq_meanOfCopies huniform (by decide)
  obtain ⟨seen, hcomes⟩ := (MayReport.alone hrun).exists_comesTo r hr
  obtain ⟨hsuccess, hfirst⟩ :=
    (hcomes.keepsFirst huniform htenth (by decide) hbelow).result r rfl
  refine ⟨by decide +kernel, rfl, huniform, htenth, report, search', w', hrun, ?_, r, hr, hsuccess,
    ?_⟩
  · rw [horiginal]
    intro hsame
    rw [Option.some.inj hsame, Binary64.lt_irrefl] at hbelow
    exact Bool.false_ne_true hbelow
  · obtain ⟨-, hlength⟩ := hfirst (hcount ▸ Nat.one_ne_zero)
    exact List.ne_nil_of_length_pos (hlength ▸ Nat.one_pos)

end Alike

end Search

end ProgramRepair
