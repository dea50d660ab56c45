import ProgramRepair.Proofs.Binary64.Rounding
import ProgramRepair.Proofs.Search.History
import ProgramRepair.Proofs.Search.Success

/-!
# The best candidate so far

The best fitness of an epoch is the least one among that of the unchanged program
and those of the candidates that count, and the best patch is the candidate that
first reached it. Main statements:

* `Trial.keepsBest`: one iteration keeps `KeepsBest`, the invariant of the best patch
  and its fitness;
* `best_is_minimum_so_far`: it holds after every iteration of an epoch and of its
  result, and the best fitness in the events never goes up.

A fitness of zero is kept even if it is no improvement, so this needs that no
fitness is negative.
-/

namespace ProgramRepair

variable {ε σ : Type}

/-! ## Fitness values that count -/

theorem Search.sample_eq_some {e : Evaluation} {f : Binary64} :
    sample e = some f ↔ e.status.isComparable = true ∧ e.fitness = some f := by
  unfold sample
  split <;> simp_all

/-- Runs that broke, ran out of time or have no fitness do not count. -/
theorem Search.sample_eq_none {e : Evaluation} :
    sample e = none ↔ e.status = .invalid ∨ e.status = .timeout ∨ e.fitness = none := by
  unfold sample
  cases e.status <;> simp [Status.isComparable]

/-- The fitness values that the best one is chosen from: that of the unchanged program and those
of the candidates that count. -/
def fitnessValues (original : Option Binary64) (outcomes : List (Patch ε × Evaluation)) :
    List Binary64 :=
  original.toList ++ outcomes.filterMap fun p => Search.sample p.2

theorem fitnessValues_concat (original : Option Binary64) (outcomes : List (Patch ε × Evaluation))
    (p : Patch ε × Evaluation) :
    fitnessValues original (outcomes ++ [p]) =
      fitnessValues original outcomes ++ (Search.sample p.2).toList := by
  rw [fitnessValues, List.filterMap_append, ← List.append_assoc, fitnessValues]
  congr 1

/-- The value is the least of some values, and absent if there are none. -/
def IsMinimum : Option Binary64 → List Binary64 → Prop
  | none, values => values = []
  | some m, values => m ∈ values ∧ ∀ v ∈ values, m.le v = true

/-- A value is at most another one, where an absent value stands above all others. -/
def NotAbove : Option Binary64 → Option Binary64 → Prop
  | _, none => True
  | none, some _ => False
  | some x, some y => x.le y = true

theorem IsMinimum.concat_of_le {m f : Binary64} {values : List Binary64}
    (h : IsMinimum (some m) values) (hle : m.le f = true) : IsMinimum (some m) (values ++ [f]) := by
  obtain ⟨hmem, hleast⟩ := h
  refine ⟨List.mem_append_left _ hmem, ?_⟩
  intro v hv
  obtain hv | hv := List.mem_append.mp hv
  · exact hleast v hv
  · obtain rfl := List.mem_singleton.mp hv
    exact hle

theorem isMinimum_concat {f : Binary64} {values : List Binary64} (hf : f.isNaN = false)
    (h : ∀ v ∈ values, f.le v = true) : IsMinimum (some f) (values ++ [f]) := by
  refine ⟨List.mem_concat_self, ?_⟩
  intro v hv
  obtain hv | hv := List.mem_append.mp hv
  · exact h v hv
  · obtain rfl := List.mem_singleton.mp hv
    exact Binary64.le_refl hf

/-- What is better than the least of some values is strictly below all of them. -/
theorem IsMinimum.lt_of_isBetter {best : Option Binary64} {f : Binary64} {values : List Binary64}
    (h : IsMinimum best values) (hbetter : isBetter (some f) best = true) :
    ∀ v ∈ values, f.lt v = true := by
  intro v hv
  cases best with
  | none =>
    have hvalues : values = [] := h
    exact absurd (hvalues ▸ hv) List.not_mem_nil
  | some m => exact Binary64.lt_of_lt_of_le hbetter (h.2 v hv)

/-- What is not better than the best is not below a best that there is. -/
theorem exists_of_not_isBetter {best : Option Binary64} {f : Binary64}
    (h : isBetter (some f) best = false) : ∃ m, best = some m ∧ f.lt m = false := by
  cases best with
  | none => cases h
  | some m => exact ⟨m, rfl, h⟩

/-- The least of some values is the least of more of them if that did not change. -/
theorem IsMinimum.mono {x y : Option Binary64} {values more : List Binary64}
    (hx : IsMinimum x values) (hy : IsMinimum y values) (hsubset : values ⊆ more)
    (hmore : IsMinimum y more) : IsMinimum x more := by
  cases y with
  | none =>
    have hvalues : values = [] := hy
    have hnil : more = [] := hmore
    rwa [hnil, ← hvalues]
  | some y =>
    cases x with
    | none =>
      have hvalues : values = [] := hx
      exact absurd (hvalues ▸ hy.1) List.not_mem_nil
    | some x =>
      have hxy : x.le y = true := hx.2 y hy.1
      exact ⟨hsubset hx.1, fun v hv => Binary64.le_trans hxy (hmore.2 v hv)⟩

/-- The least of more values is not above the least of fewer. -/
theorem IsMinimum.notAbove {x y : Option Binary64} {values more : List Binary64}
    (hy : IsMinimum y values) (hx : IsMinimum x (values ++ more)) : NotAbove x y := by
  cases y with
  | none => cases x <;> trivial
  | some y =>
    have hmem : y ∈ values ++ more := List.mem_append_left _ hy.1
    cases x with
    | none =>
      have hnil : values ++ more = [] := hx
      rw [hnil] at hmem
      exact absurd hmem List.not_mem_nil
    | some x => exact hx.2 y hmem

theorem NotAbove.trans {x y z : Option Binary64} (hxy : NotAbove x y) (hyz : NotAbove y z) :
    NotAbove x z := by
  cases z with
  | none => cases x <;> trivial
  | some z =>
    cases y with
    | none => exact hyz.elim
    | some y =>
      cases x with
      | none => exact hxy.elim
      | some x => exact Binary64.le_trans hxy hyz

/-! ## The invariant -/

/-- The outcome is strictly better than the unchanged program and everything before it. -/
def Leads (original : Option Binary64) (outcomes : List (Patch ε × Evaluation))
    (p : Patch ε × Evaluation) : Prop :=
  ∃ earlier later f, outcomes = earlier ++ p :: later ∧ Search.sample p.2 = some f ∧
    ∀ v ∈ fitnessValues original earlier, f.lt v = true

/-- What the best patch and its fitness are after some outcomes. -/
structure KeepsBest (original : Option Binary64) (outcomes : List (Patch ε × Evaluation))
    (best : Patch ε) (bestFitness : Option Binary64) : Prop where
  minimum : IsMinimum bestFitness (fitnessValues original outcomes)
  /-- Without an improvement or a repair the best patch changes nothing. -/
  unchanged : (∀ p, ¬ Leads original outcomes p) → (∀ p ∈ outcomes, ¬ p.2.Repairs) →
    best = .empty
  /-- With improvements and no repair it is the first candidate that reached the minimum. -/
  improved : (∃ p, Leads original outcomes p) → (∀ p ∈ outcomes, ¬ p.2.Repairs) →
    ∃ p, Leads original outcomes p ∧
      IsMinimum (Search.sample p.2) (fitnessValues original outcomes) ∧ best = p.1
  /-- A repair is kept in any case. -/
  repaired : ∀ p ∈ outcomes, p.2.Repairs → best = p.1

/-- An outcome leads if it did so before the last one came, or is the last one and does. -/
theorem leads_concat {original : Option Binary64} {outcomes : List (Patch ε × Evaluation)}
    {p q : Patch ε × Evaluation} :
    Leads original (outcomes ++ [q]) p ↔ Leads original outcomes p ∨
      p = q ∧ ∃ f, Search.sample q.2 = some f ∧
        ∀ v ∈ fitnessValues original outcomes, f.lt v = true := by
  constructor
  · rintro ⟨earlier, later, f, hsplit, hf, hlt⟩
    obtain rfl | ⟨later, last, rfl⟩ := List.eq_nil_or_concat later
    · obtain ⟨rfl, hq⟩ := List.append_inj' hsplit rfl
      obtain rfl := List.singleton_inj.mp hq
      exact .inr ⟨rfl, f, hf, hlt⟩
    · rw [List.concat_eq_append, ← List.cons_append, ← List.append_assoc] at hsplit
      obtain ⟨houtcomes, -⟩ := List.append_inj' hsplit rfl
      exact .inl ⟨earlier, later, f, houtcomes, hf, hlt⟩
  · rintro (⟨earlier, later, f, rfl, hf, hlt⟩ | ⟨rfl, f, hf, hlt⟩)
    · exact ⟨earlier, later ++ [q], f, by simp, hf, hlt⟩
    · exact ⟨outcomes, [], f, rfl, hf, hlt⟩

theorem KeepsBest.start {original : Option Binary64}
    (horiginal : ∀ f, original = some f → Binary64.zero.le f = true) :
    KeepsBest original ([] : List (Patch ε × Evaluation)) .empty original where
  minimum := by
    cases original with
    | none => rfl
    | some f =>
      obtain ⟨-, hf⟩ := Binary64.isNaN_of_le (horiginal f rfl)
      exact ⟨List.mem_singleton_self f, List.forall_mem_singleton.mpr (Binary64.le_refl hf)⟩
  unchanged _ _ := rfl
  improved := by
    rintro ⟨p, earlier, later, f, hsplit, -⟩
    exact absurd hsplit (by simp)
  repaired := List.forall_mem_nil _

section Next

variable {original : Option Binary64} {outcomes : List (Patch ε × Evaluation)}
  {best : Patch ε} {bestFitness : Option Binary64} {p : Patch ε × Evaluation}

/-- An outcome that neither leads nor repairs, and is not below the minimum, changes nothing. -/
theorem KeepsBest.keep (h : KeepsBest original outcomes best bestFitness)
    (hminimum : IsMinimum bestFitness (fitnessValues original (outcomes ++ [p])))
    (hbehind : ¬ ∃ f, Search.sample p.2 = some f ∧ ∀ v ∈ fitnessValues original outcomes,
      f.lt v = true)
    (hrepairs : ¬ p.2.Repairs) : KeepsBest original (outcomes ++ [p]) best bestFitness := by
  have hleads : ∀ q, Leads original (outcomes ++ [p]) q ↔ Leads original outcomes q := by
    intro q
    rw [leads_concat]
    refine or_iff_left ?_
    rintro ⟨-, hleads⟩
    exact hbehind hleads
  have hold : ∀ q ∈ outcomes, q ∈ outcomes ++ [p] := fun q => List.mem_append_left [p]
  constructor
  case minimum => exact hminimum
  case unchanged =>
    intro hnone hunsolved
    refine h.unchanged ?_ (fun q hq => hunsolved q (hold q hq))
    intro q
    rw [← hleads]
    exact hnone q
  case improved =>
    rintro ⟨q, hq⟩ hunsolved
    obtain ⟨first, hfirst, hleast, hbest⟩ :=
      h.improved ⟨q, (hleads q).mp hq⟩ (fun q hq => hunsolved q (hold q hq))
    have hsubset : fitnessValues original outcomes ⊆ fitnessValues original (outcomes ++ [p]) := by
      rw [fitnessValues_concat]
      exact List.subset_append_left _ _
    exact ⟨first, (hleads first).mpr hfirst, hleast.mono h.minimum hsubset hminimum, hbest⟩
  case repaired =>
    intro q hq hqrepairs
    obtain hq | hq := List.mem_append.mp hq
    · exact h.repaired q hq hqrepairs
    · obtain rfl := List.mem_singleton.mp hq
      exact absurd hqrepairs hrepairs

/-- An outcome that leads or repairs, and is at most everything before it, becomes the best. -/
theorem keepsBest_concat {f : Binary64} (hunsolved : ∀ q ∈ outcomes, ¬ q.2.Repairs)
    (hp : Search.sample p.2 = some f) (hf : f.isNaN = false)
    (hle : ∀ v ∈ fitnessValues original outcomes, f.le v = true)
    (hkept : (∀ v ∈ fitnessValues original outcomes, f.lt v = true) ∨ p.2.Repairs) :
    KeepsBest original (outcomes ++ [p]) p.1 (some f) := by
  have hminimum : IsMinimum (some f) (fitnessValues original (outcomes ++ [p])) := by
    rw [fitnessValues_concat, hp]
    exact isMinimum_concat hf hle
  have hlast : p ∈ outcomes ++ [p] := List.mem_concat_self
  constructor
  case minimum => exact hminimum
  case unchanged =>
    intro hnone hnorepair
    obtain hlt | hrepairs := hkept
    · exact absurd (leads_concat.mpr (.inr ⟨rfl, f, hp, hlt⟩)) (hnone p)
    · exact absurd hrepairs (hnorepair p hlast)
  case improved =>
    rintro - hnorepair
    obtain hlt | hrepairs := hkept
    · exact ⟨p, leads_concat.mpr (.inr ⟨rfl, f, hp, hlt⟩), hp ▸ hminimum, rfl⟩
    · exact absurd hrepairs (hnorepair p hlast)
  case repaired =>
    intro q hq hqrepairs
    obtain hq | hq := List.mem_append.mp hq
    · exact absurd hqrepairs (hunsolved q hq)
    · obtain rfl := List.mem_singleton.mp hq
      rfl

end Next

namespace Epoch

variable [DecidableEq ε] [Hashable ε]

/-! ## One iteration -/

theorem improves_of_sample {e : Evaluation} {f : Binary64} (h : Search.sample e = some f)
    (best : Option Binary64) : improves e best = isBetter (some f) best := by
  obtain ⟨hcomparable, hfitness⟩ := Search.sample_eq_some.mp h
  rw [improves, hcomparable, hfitness, Bool.true_and]

theorem solves_of_sample {e : Evaluation} {f : Binary64} (h : Search.sample e = some f) :
    solves e = f.isZero := by
  obtain ⟨hcomparable, hfitness⟩ := Search.sample_eq_some.mp h
  rw [solves, hcomparable, hfitness, Bool.true_and, isRepaired]

/-- What does not count is neither an improvement nor a repair. -/
theorem not_kept_of_sample {e : Evaluation} (h : Search.sample e = none)
    (best : Option Binary64) : improves e best = false ∧ solves e = false := by
  obtain hstatus | hstatus | hfitness := Search.sample_eq_none.mp h
  · simp [improves, solves, hstatus, Status.isComparable]
  · simp [improves, solves, hstatus, Status.isComparable]
  · simp [improves, solves, hfitness, isBetter, isRepaired]

/-- An improvement is kept. -/
theorem Trial.after_of_improves {t : Trial ε}
    (h : improves t.evaluation t.before.bestFitness = true) :
    t.after.best = t.candidate ∧ t.after.bestFitness = t.evaluation.fitness := by
  have hkeep : (improves t.evaluation t.before.bestFitness || solves t.evaluation) = true := by
    rw [h, Bool.true_or]
  exact ⟨if_pos hkeep, if_pos hkeep⟩

/-- What is neither an improvement nor a repair leaves the best patch as it is. -/
theorem Trial.after_of_not_kept {t : Trial ε}
    (himproves : improves t.evaluation t.before.bestFitness = false)
    (hsolves : solves t.evaluation = false) :
    t.after.best = t.before.best ∧ t.after.bestFitness = t.before.bestFitness := by
  have hkeep : ¬ (improves t.evaluation t.before.bestFitness || solves t.evaluation) = true := by
    rw [himproves, hsolves]
    exact Bool.false_ne_true
  exact ⟨if_neg hkeep, if_neg hkeep⟩

/-- One iteration keeps the best patch and its fitness what they should be. -/
theorem Trial.keepsBest {original : Option Binary64} {outcomes : List (Patch ε × Evaluation)}
    {t : Trial ε} (h : KeepsBest original outcomes t.before.best t.before.bestFitness)
    (hunsolved : ∀ q ∈ outcomes, ¬ q.2.Repairs)
    (hvalues : ∀ v ∈ fitnessValues original outcomes, Binary64.zero.le v = true)
    (hfitness : ∀ f, Search.sample t.evaluation = some f → Binary64.zero.le f = true) :
    KeepsBest original (outcomes ++ [t.outcome]) t.after.best t.after.bestFitness := by
  cases hsample : Search.sample t.evaluation with
  | none =>
    obtain ⟨himproves, hsolves⟩ := not_kept_of_sample hsample t.before.bestFitness
    obtain ⟨hbest, hbestFitness⟩ := Trial.after_of_not_kept himproves hsolves
    rw [hbest, hbestFitness]
    refine h.keep ?_ ?_ ?_
    · rw [fitnessValues_concat, Trial.outcome, hsample]
      simpa using h.minimum
    · rintro ⟨f, hf, -⟩
      cases hsample.symm.trans hf
    · rw [← solves_iff, Trial.outcome, hsolves]
      exact Bool.false_ne_true
  | some f =>
    have hzero : Binary64.zero.le f = true := hfitness f hsample
    obtain ⟨-, hf⟩ := Binary64.isNaN_of_le hzero
    have himproves := improves_of_sample hsample t.before.bestFitness
    have hsolves := solves_of_sample hsample
    obtain ⟨-, hevaluation⟩ := Search.sample_eq_some.mp hsample
    cases hbetter : improves t.evaluation t.before.bestFitness with
    | true =>
      obtain ⟨hbest, hbestFitness⟩ := Trial.after_of_improves hbetter
      have hlt := h.minimum.lt_of_isBetter (himproves ▸ hbetter)
      rw [hbest, hbestFitness, hevaluation]
      exact keepsBest_concat hunsolved hsample hf (fun v hv => Binary64.le_of_lt (hlt v hv))
        (.inl hlt)
    | false =>
      cases hsolved : solves t.evaluation with
      | true =>
        -- a repair need not be better: zero is at most everything that is not negative
        obtain ⟨hbest, hbestFitness⟩ := Trial.after_of_solves hsolved
        have hle : ∀ v ∈ fitnessValues original outcomes, f.le v = true :=
          fun v hv => Binary64.le_of_isZero (hsolves ▸ hsolved) (hvalues v hv)
        rw [hbest, hbestFitness, hevaluation]
        exact keepsBest_concat hunsolved hsample hf hle (.inr (solves_iff.mp hsolved))
      | false =>
        obtain ⟨hbest, hbestFitness⟩ := Trial.after_of_not_kept hbetter hsolved
        obtain ⟨m, hm, hnot⟩ := exists_of_not_isBetter (himproves ▸ hbetter)
        obtain ⟨hmem, hleast⟩ : IsMinimum (some m) _ := hm ▸ h.minimum
        have hmf : m.le f = true :=
          Binary64.le_of_not_lt hf (Binary64.isNaN_of_le (hvalues m hmem)).2 hnot
        rw [hbest, hbestFitness]
        refine h.keep ?_ ?_ ?_
        · rw [fitnessValues_concat, Trial.outcome, hsample, hm]
          exact IsMinimum.concat_of_le ⟨hmem, hleast⟩ hmf
        · rintro ⟨g, hg, hlt⟩
          obtain rfl := Option.some.inj (hsample.symm.trans hg)
          exact Bool.false_ne_true (hnot.symm.trans (hlt m hmem))
        · rw [← solves_iff, Trial.outcome, hsolved]
          exact Bool.false_ne_true

/-! ## Whole epochs -/

variable {ctx : SearchContext ε σ} {epoch : Nat} {timeout : Duration} {stream : Stream} {w : σ}

/-- What a program says of the trials of an epoch it says of one of its evaluations. -/
theorem History.evaluated {trials : List (Trial ε)} {s : State ε} {w' : σ}
    (h : History ctx epoch timeout stream w trials s w') :
    ∀ t ∈ trials, ∃ w₀ w₁,
      ctx.program.evaluate t.candidate timeout w₀ = .ok (t.evaluation, w₁) := by
  induction h with
  | start => exact List.forall_mem_nil _
  | @next trials t w₁ w₂ hearlier hunsolved hleft hiteration ht ih =>
    intro u hu
    obtain hu | hu := List.mem_append.mp hu
    · exact ih u hu
    · obtain rfl := List.mem_singleton.mp hu
      obtain ⟨w', heval, -⟩ := ht.evaluates
      exact ⟨w₁, w', heval⟩

/-- A program whose candidates have no negative fitness where it counts. -/
def NonNegative (program : Program ε σ) : Prop :=
  ∀ patch timeout w e w', program.evaluate patch timeout w = .ok (e, w') →
    ∀ f, Search.sample e = some f → Binary64.zero.le f = true

theorem History.nonNegative {trials : List (Trial ε)} {s : State ε} {w' : σ}
    (h : History ctx epoch timeout stream w trials s w') (hprogram : NonNegative ctx.program)
    (horiginal : ∀ f, ctx.original = some f → Binary64.zero.le f = true) :
    ∀ v ∈ fitnessValues ctx.original (trials.map Trial.outcome), Binary64.zero.le v = true := by
  intro v hv
  obtain hv | hv := List.mem_append.mp hv
  · exact horiginal v (Option.mem_toList.mp hv)
  · obtain ⟨p, hp, hsample⟩ := List.mem_filterMap.mp hv
    obtain ⟨t, ht, rfl⟩ := List.mem_map.mp hp
    obtain ⟨w₀, w₁, heval⟩ := h.evaluated t ht
    exact hprogram _ _ _ _ _ heval v hsample

/-- The best patch and its fitness are what they should be after every iteration. -/
theorem History.keepsBest {trials : List (Trial ε)} {s : State ε} {w' : σ}
    (h : History ctx epoch timeout stream w trials s w') (hprogram : NonNegative ctx.program)
    (horiginal : ∀ f, ctx.original = some f → Binary64.zero.le f = true) :
    KeepsBest ctx.original (trials.map Trial.outcome) s.best s.bestFitness := by
  induction h with
  | start => exact .start horiginal
  | @next trials t w₁ w₂ hearlier hunsolved hleft hiteration ht ih =>
    rw [List.map_append, List.map_singleton]
    obtain ⟨w', heval, -⟩ := ht.evaluates
    exact Trial.keepsBest ih (forall_outcome_not_repairs hunsolved)
      (hearlier.nonNegative hprogram horiginal) (hprogram _ _ _ _ _ heval)

/-- The best fitness is not above what it was after an earlier iteration. -/
theorem History.notAbove {trials : List (Trial ε)} {s : State ε} {w' : σ}
    (h : History ctx epoch timeout stream w trials s w') (hprogram : NonNegative ctx.program)
    (horiginal : ∀ f, ctx.original = some f → Binary64.zero.le f = true) :
    ∀ t ∈ trials, NotAbove s.bestFitness t.after.bestFitness := by
  induction h with
  | start => exact List.forall_mem_nil _
  | @next trials t w₁ w₂ hearlier hunsolved hleft hiteration ht ih =>
    have hbefore := (hearlier.keepsBest hprogram horiginal).minimum
    have hafter := (hearlier.next hunsolved hleft hiteration ht).keepsBest hprogram horiginal
    have hminimum := hafter.minimum
    intro u hu
    obtain hu | hu := List.mem_append.mp hu
    · rw [List.map_append, List.map_singleton, fitnessValues_concat] at hminimum
      exact (hbefore.notAbove hminimum).trans (ih u hu)
    · obtain rfl := List.mem_singleton.mp hu
      exact hminimum.notAbove (by rwa [List.append_nil])

/-- The best fitness in the events of an epoch never goes up. -/
theorem History.events_pairwise {trials : List (Trial ε)} {s : State ε} {w' : σ}
    (h : History ctx epoch timeout stream w trials s w') (hprogram : NonNegative ctx.program)
    (horiginal : ∀ f, ctx.original = some f → Binary64.zero.le f = true) :
    (trials.map (Trial.event ctx epoch)).Pairwise fun earlier later =>
      NotAbove later.bestFitness earlier.bestFitness := by
  induction h with
  | start => exact List.Pairwise.nil
  | @next trials t w₁ w₂ hearlier hunsolved hleft hiteration ht ih =>
    have hlast := (hearlier.next hunsolved hleft hiteration ht).notAbove hprogram horiginal
    rw [List.map_append, List.map_singleton]
    refine List.pairwise_append.mpr ⟨ih, List.pairwise_singleton _ _, ?_⟩
    intro event hevent last hlastEvent
    obtain ⟨u, hu, rfl⟩ := List.mem_map.mp hevent
    obtain rfl := List.mem_singleton.mp hlastEvent
    exact hlast u (List.mem_append_left _ hu)

/-- The best fitness is the least of that of the unchanged program and of those that count so far,
and the best patch is the candidate that first reached it, or a repair. Both hold after every
iteration of an epoch and of its result; outcomes that do not count change neither; and the best
fitness in the events never goes up. -/
theorem best_is_minimum_so_far (ctx : SearchContext ε σ) (epoch : Nat) (stream : Stream) (w : σ)
    (hprogram : NonNegative ctx.program)
    (horiginal : ∀ f, ctx.original = some f → Binary64.zero.le f = true) :
    (∀ timeout trials s w', History ctx epoch timeout stream w trials s w' →
      KeepsBest ctx.original (trials.map Trial.outcome) s.best s.bestFitness ∧
      (∀ t ∈ trials, t.evaluation.status = .invalid ∨ t.evaluation.status = .timeout ∨
          t.evaluation.fitness = none →
        t.after.best = t.before.best ∧ t.after.bestFitness = t.before.bestFitness) ∧
      (trials.map (Trial.event ctx epoch)).Pairwise fun earlier later =>
        NotAbove later.bestFitness earlier.bestFitness) ∧
    ∀ r stream' w', run ctx epoch stream w = .ok ((r, stream'), w') →
      ∃ log best, run ctx.recorded epoch stream (w, []) = .ok ((r, stream'), (w', log)) ∧
        KeepsBest ctx.original (evaluations log) best r.bestFitness ∧
        best.edits.mapM ctx.program.describe = .ok r.bestPatch ∧
        r.diff = ctx.program.diff best ∧
        (eventsHeard log).Pairwise fun earlier later =>
          NotAbove later.bestFitness earlier.bestFitness := by
  constructor
  · intro timeout trials s w' h
    refine ⟨h.keepsBest hprogram horiginal, ?_, h.events_pairwise hprogram horiginal⟩
    intro t ht hignored
    obtain ⟨himproves, hsolves⟩ :=
      not_kept_of_sample (Search.sample_eq_none.mpr hignored) t.before.bestFitness
    exact Trial.after_of_not_kept himproves hsolves
  · intro r stream' w' hrun
    obtain ⟨timeout, trials, s, ending, w₁, hhistory, hresult, hrecorded⟩ := run_ok_history hrun
    obtain ⟨words, hwords, rfl⟩ := result_ok_iff.mp hresult
    refine ⟨_, s.best, hrecorded, ?_, hwords, rfl, ?_⟩
    · rw [evaluations_sightings]
      exact hhistory.keepsBest hprogram horiginal
    · rw [eventsHeard_sightings]
      refine List.pairwise_append.mpr ⟨hhistory.events_pairwise hprogram horiginal,
        List.pairwise_singleton _ _, ?_⟩
      intro event hevent last hlast
      obtain ⟨u, hu, rfl⟩ := List.mem_map.mp hevent
      obtain rfl := List.mem_singleton.mp hlast
      exact hhistory.notAbove hprogram horiginal u hu

/-! ### An improvement after a broken candidate -/

section ImprovesOnce

open Rehearsal

/-- What a script answers is one of its results or the answer for what it has no rule for. -/
theorem judge_mem (script : List Rule) (text : List Char) (length : Nat) (w : World) :
    (judge script text length w).1 = unscripted ∨
      ∃ rule ∈ script, (judge script text length w).1 ∈ rule.results := by
  unfold judge
  split
  · exact .inl rfl
  · next i hi =>
    cases hrule : script[i]? with
    | none => exact .inl rfl
    | some rule =>
      dsimp only [Option.map_some, Option.getD_some]
      cases hresult : rule.results[w.uses[i]?.getD 0 % rule.results.length]? with
      | none => exact .inl rfl
      | some e =>
        exact .inr ⟨rule, List.mem_of_getElem? hrule, List.mem_of_getElem? hresult⟩

/-- A candidate that broke, although it carries a fitness of zero. -/
def broken : Evaluation := ⟨.invalid, some .zero, "", "", none, .zero⟩

/-- A candidate of which half the tests fail. -/
def halfFailing : Evaluation :=
  ⟨.failing 1 2, some ⟨false, 0x3FE * Nat.pow 2 52⟩, "", "", some 1, .zero⟩

/-- A rehearsal in which the first patch breaks and the second one fails fewer tests than the
unchanged program. -/
def improvesOnce : SearchContext Token World where
  program := tokens [⟨[], [], none, none, none, [broken, halfFailing]⟩] 3
  observer := observer
  config := ⟨0, 1, 2, .one, [.deletion], none, false⟩
  original := some .one

def brokenTrial : Trial Token :=
  deletionTrial 1 (start (some .one) zeroThenOne) 0 broken

def improvingTrial : Trial Token := deletionTrial 2 brokenTrial.after 1 halfFailing

theorem nonNegative_improvesOnce : NonNegative improvesOnce.program := by
  intro patch timeout w e w' heval f hf
  have he : (judge _ _ _ _).1 = e := congrArg Prod.fst (Except.ok.inj heval)
  obtain h | ⟨rule, hrule, h⟩ := judge_mem _ _ _ _
  · obtain rfl := he.symm.trans h
    cases hf
  · obtain rfl := List.mem_singleton.mp hrule
    rw [he] at h
    obtain rfl | h := List.mem_cons.mp h
    · cases hf
    · obtain rfl := List.mem_singleton.mp h
      obtain rfl := Option.some.inj hf
      decide

/-- The broken candidate changes nothing, and the next one is the best with its fitness. -/
theorem improvesOnce_keeps_second :
    ∃ timeout w, History improvesOnce 1 timeout zeroThenOne ⟨[0], [], none, false⟩
        [brokenTrial, improvingTrial] improvingTrial.after w ∧
      KeepsBest improvesOnce.original [brokenTrial.outcome, improvingTrial.outcome]
        (deletionOf 1) halfFailing.fitness := by
  have hbroken : Draws improvesOnce brokenTrial.before brokenTrial.draw :=
    .of_fresh rfl (Tabu.contains_empty _)
  have himproving : Draws improvesOnce improvingTrial.before improvingTrial.draw :=
    .of_fresh rfl deletionOf_one_fresh
  obtain ⟨w₁, hw₁⟩ : ∃ w₁, w₁ = observer.notify (brokenTrial.event improvesOnce 1)
      ⟨[1], [], none, false⟩ := ⟨_, rfl⟩
  have ht₁ : Tries improvesOnce 1 ⟨0⟩ brokenTrial ⟨[0], [], none, false⟩ w₁ :=
    ⟨rfl, hbroken, rfl, ⟨[1], [], none, false⟩, rfl, hw₁.symm⟩
  obtain ⟨w₂, ht₂⟩ : ∃ w₂, Tries improvesOnce 1 ⟨0⟩ improvingTrial w₁ w₂ :=
    ⟨_, hw₁ ▸ rfl, himproving, rfl, { w₁ with uses := [2] }, hw₁ ▸ rfl, rfl⟩
  have hfirst : History improvesOnce 1 ⟨0⟩ zeroThenOne ⟨[0], [], none, false⟩ [brokenTrial] _ w₁ :=
    .next .start (List.forall_mem_nil _) (by decide) rfl ht₁
  have hsecond : History improvesOnce 1 ⟨0⟩ zeroThenOne ⟨[0], [], none, false⟩
      [brokenTrial, improvingTrial] _ w₂ :=
    .next hfirst (List.forall_mem_singleton.mpr rfl) (by decide) rfl ht₂
  have horiginal : ∀ f, improvesOnce.original = some f → Binary64.zero.le f = true := by
    intro f hf
    obtain rfl := Option.some.inj hf
    decide
  obtain ⟨hmoments, -⟩ := best_is_minimum_so_far improvesOnce 1 zeroThenOne _
    nonNegative_improvesOnce horiginal
  exact ⟨⟨0⟩, w₂, hsecond, (hmoments _ _ _ _ hsecond).1⟩

end ImprovesOnce

end Epoch

end ProgramRepair
