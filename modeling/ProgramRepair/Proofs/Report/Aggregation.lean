import Mathlib.Algebra.Ring.Nat
import Mathlib.Data.List.Basic
import Mathlib.Data.List.Perm.Subperm
import ProgramRepair.Report

/-!
# What a report says of its epochs

A report sorts its epochs by whether they found a repair, lists each repair once, and takes the mean
of the work that the repairs took. Main statements:

* `isSplit`: every epoch is in exactly one of the two lists, and both keep the order;
* `firstOccurrences_append`: what is new in two lists one after the other;
* `listsFirst_uniqueRepairs`: each repair is listed once, in the order of the first epochs that
  found it;
* `averageEvaluations_eq`: the mean, unless the work does not fit into a counter;
* `aggregation_is_faithful`: all of this together.
-/

namespace ProgramRepair.Report

/-! ## Two kinds of epochs -/

/-- The members of a list are divided among two others, which keep their order. -/
structure IsSplit (whole yes no : List EpochResult) : Prop where
  yes_sublist : yes.Sublist whole
  no_sublist : no.Sublist whole
  perm : (yes ++ no).Perm whole
  apart : ∀ e ∈ yes, e ∉ no

theorem mem_successful {r : Report} {e : EpochResult} :
    e ∈ r.successful ↔ e ∈ r.epochs ∧ e.success = true := List.mem_filter

theorem mem_unsuccessful {r : Report} {e : EpochResult} :
    e ∈ r.unsuccessful ↔ e ∈ r.epochs ∧ e.success = false := by
  simp [unsuccessful]

theorem isSplit (r : Report) : IsSplit r.epochs r.successful r.unsuccessful where
  yes_sublist := List.filter_sublist
  no_sublist := List.filter_sublist
  perm := List.filter_append_perm (fun e : EpochResult => e.success) r.epochs
  apart := by
    intro e hyes hno
    have hsuccess := (mem_successful.mp hyes).2
    rw [(mem_unsuccessful.mp hno).2] at hsuccess
    cases hsuccess

theorem successCount_le (r : Report) : r.successCount ≤ r.epochs.length :=
  List.length_filter_le _ _

/-! ## First occurrences -/

variable {seen seen' l a b : List String} {s : String}

/-- The list `firsts` has each member of `l` once, ordered by where `l` has it first. -/
structure ListsFirst (l firsts : List String) : Prop where
  nodup : firsts.Nodup
  mem_iff : ∀ s, s ∈ firsts ↔ s ∈ l
  ordered : firsts.Pairwise fun s t => l.idxOf s < l.idxOf t

theorem mem_firstOccurrences : s ∈ firstOccurrences seen l ↔ s ∈ l ∧ s ∉ seen := by
  induction l generalizing seen with
  | nil => simp [firstOccurrences]
  | cons t rest ih =>
    rw [firstOccurrences]
    by_cases ht : t ∈ seen
    · rw [if_pos ht, ih]
      constructor
      · rintro ⟨hs, hseen⟩
        exact ⟨List.mem_cons_of_mem t hs, hseen⟩
      · rintro ⟨hs, hseen⟩
        rcases List.mem_cons.mp hs with rfl | hs
        · exact absurd ht hseen
        · exact ⟨hs, hseen⟩
    · rw [if_neg ht, List.mem_cons, ih]
      by_cases hst : s = t
      · subst hst
        simp [ht]
      · simp [hst]

theorem nodup_firstOccurrences : (firstOccurrences seen l).Nodup := by
  induction l generalizing seen with
  | nil => exact List.nodup_nil
  | cons t rest ih =>
    rw [firstOccurrences]
    split
    · exact ih
    · -- `t` counts as seen from here on
      refine List.nodup_cons.mpr ⟨?_, ih⟩
      intro ht
      exact (mem_firstOccurrences.mp ht).2 List.mem_cons_self

/-- Only which texts were seen matters. -/
theorem firstOccurrences_congr (h : ∀ s, s ∈ seen ↔ s ∈ seen') :
    firstOccurrences seen l = firstOccurrences seen' l := by
  induction l generalizing seen seen' with
  | nil => rfl
  | cons t rest ih =>
    have hnext : ∀ s, s ∈ t :: seen ↔ s ∈ t :: seen' := by
      intro s
      rw [List.mem_cons, List.mem_cons, h s]
    rw [firstOccurrences, firstOccurrences, ih h, ih hnext]
    simp only [h t]

/-- What was seen before is left out. -/
theorem firstOccurrences_append_seen (seen' : List String) :
    firstOccurrences (seen' ++ seen) l = (firstOccurrences seen l).filter (· ∉ seen') := by
  induction l generalizing seen with
  | nil => rfl
  | cons t rest ih =>
    by_cases ht : t ∈ seen
    · simp [firstOccurrences, ht, ih]
    · by_cases ht' : t ∈ seen'
      · -- `t` is dropped on both sides, and it makes no difference that the right side has seen it
        have hseen : ∀ s, s ∈ seen' ++ seen ↔ s ∈ seen' ++ t :: seen := by
          intro s
          simp only [List.mem_append, List.mem_cons]
          constructor
          · rintro (hs | hs)
            · exact Or.inl hs
            · exact Or.inr (Or.inr hs)
          · rintro (hs | rfl | hs)
            · exact Or.inl hs
            · exact Or.inl ht'
            · exact Or.inr hs
        simp [firstOccurrences, ht, ht', firstOccurrences_congr hseen, ih]
      · have hseen : ∀ s, s ∈ t :: (seen' ++ seen) ↔ s ∈ seen' ++ t :: seen := by
          intro s
          simp only [List.mem_append, List.mem_cons]
          exact or_left_comm
        simp [firstOccurrences, ht, ht', firstOccurrences_congr hseen, ih]

theorem firstOccurrences_append_from :
    firstOccurrences seen (a ++ b) =
      firstOccurrences seen a ++ firstOccurrences (firstOccurrences seen a ++ seen) b := by
  induction a generalizing seen with
  | nil => rfl
  | cons t rest ih =>
    rw [List.cons_append, firstOccurrences, firstOccurrences]
    by_cases ht : t ∈ seen
    · rw [if_pos ht, if_pos ht, ih]
    · rw [if_neg ht, if_neg ht, ih, List.cons_append]
      congr 2
      refine firstOccurrences_congr ?_
      intro s
      simp only [List.mem_append, List.mem_cons, or_assoc]
      exact or_left_comm

/-- The first occurrences in two lists are those in the first one and what is new in the second. -/
theorem firstOccurrences_append :
    firstOccurrences [] (a ++ b) =
      firstOccurrences [] a ++ (firstOccurrences [] b).filter (· ∉ firstOccurrences [] a) := by
  rw [firstOccurrences_append_from, firstOccurrences_append_seen]

/-- They come in the order of their places. -/
theorem ordered_firstOccurrences :
    (firstOccurrences seen l).Pairwise fun s t => l.idxOf s < l.idxOf t := by
  induction l generalizing seen with
  | nil => exact List.Pairwise.nil
  | cons t rest ih =>
    have hshift : ∀ seen : List String, t ∈ seen → (firstOccurrences seen rest).Pairwise
        fun s s' => (t :: rest).idxOf s < (t :: rest).idxOf s' := by
      intro seen ht
      have hrest : (firstOccurrences seen rest).Pairwise fun s t => rest.idxOf s < rest.idxOf t := ih
      refine hrest.imp_of_mem ?_
      intro s s' hs hs' hlt
      -- neither of them is `t`, so both are one place further
      have hne : ∀ u ∈ firstOccurrences seen rest, t ≠ u := by
        rintro u hu rfl
        exact (mem_firstOccurrences.mp hu).2 ht
      rw [List.idxOf_cons_ne _ (hne s hs), List.idxOf_cons_ne _ (hne s' hs')]
      omega
    rw [firstOccurrences]
    split
    · next ht => exact hshift seen ht
    · refine List.Pairwise.cons ?_ (hshift _ List.mem_cons_self)
      intro s hs
      have hne : t ≠ s := by
        rintro rfl
        exact (mem_firstOccurrences.mp hs).2 List.mem_cons_self
      rw [List.idxOf_cons_self, List.idxOf_cons_ne _ hne]
      omega

theorem listsFirst_firstOccurrences (l : List String) : ListsFirst l (firstOccurrences [] l) where
  nodup := nodup_firstOccurrences
  mem_iff s := by simp [mem_firstOccurrences]
  ordered := ordered_firstOccurrences

/-! ## Repairs -/

/-- The diffs of the epochs that found a repair. -/
def repairDiffs (r : Report) : List String := r.successful.map (·.diff)

theorem listsFirst_uniqueRepairs (r : Report) : ListsFirst r.repairDiffs r.uniqueRepairs :=
  listsFirst_firstOccurrences _

theorem uniqueRepairs_append {r : Report} {a b : List EpochResult} (h : r.epochs = a ++ b) :
    r.uniqueRepairs = uniqueRepairs { r with epochs := a } ++
      (uniqueRepairs { r with epochs := b }).filter
        (· ∉ uniqueRepairs { r with epochs := a }) := by
  simp only [uniqueRepairs, successful, h, List.filter_append, List.map_append]
  exact firstOccurrences_append

theorem uniqueRepairCount_le (r : Report) : r.uniqueRepairCount ≤ r.successCount := by
  have hsubset : r.uniqueRepairs ⊆ r.repairDiffs := by
    intro s hs
    exact ((listsFirst_uniqueRepairs r).mem_iff s).mp hs
  have hlength : r.uniqueRepairs.length ≤ r.repairDiffs.length :=
    (List.subperm_of_subset (listsFirst_uniqueRepairs r).nodup hsubset).length_le
  simpa [repairDiffs, uniqueRepairCount, successCount] using hlength

/-- A repair that was found is listed. -/
theorem uniqueRepairCount_eq_zero_iff (r : Report) :
    r.uniqueRepairCount = 0 ↔ r.successCount = 0 := by
  constructor
  · intro hnone
    rw [successCount, List.length_eq_zero_iff, List.eq_nil_iff_forall_not_mem]
    intro e he
    have hmem : e.diff ∈ r.uniqueRepairs :=
      ((listsFirst_uniqueRepairs r).mem_iff _).mpr (List.mem_map_of_mem he)
    rw [List.length_eq_zero_iff.mp hnone] at hmem
    cases hmem
  · intro hnone
    have hle := uniqueRepairCount_le r
    omega

/-! ## Work -/

/-- The evaluations of all epochs that found a repair. -/
def repairWork (r : Report) : Nat := (r.successful.map (·.fitnessEvaluations)).sum

/-- Sums only grow, so it is enough that the last one fits. -/
theorem sumOfCounters_eq (start : Nat) (ns : List Nat) (hstart : start < counterLimit) :
    sumOfCounters start ns =
      if start + ns.sum < counterLimit then .ok (start + ns.sum) else .error .countOverflow := by
  induction ns generalizing start with
  | nil => simp [sumOfCounters, hstart]
  | cons n ns ih =>
    rw [sumOfCounters, List.sum_cons]
    by_cases hnext : start + n < counterLimit
    · rw [if_pos hnext, ih _ hnext, Nat.add_assoc]
    · have hlate : ¬ start + (n + ns.sum) < counterLimit := by omega
      rw [if_neg hnext, if_neg hlate]

/-- Where no repair was found there is no mean, and else it is the quotient of the work and the
number of repairs, if the work is not too much for a counter. -/
theorem averageEvaluations_eq (r : Report) :
    r.averageEvaluations =
      if r.successCount = 0 then .ok none
      else if r.repairWork < counterLimit then
        .ok (some (.ofNat r.repairWork / .ofNat r.successCount))
      else .error .countOverflow := by
  have hempty : r.successful.isEmpty = true ↔ r.successCount = 0 := by
    rw [List.isEmpty_iff, successCount, List.length_eq_zero_iff]
  have hsum := sumOfCounters_eq 0 (r.successful.map (·.fitnessEvaluations)) (by decide)
  rw [Nat.zero_add] at hsum
  rw [averageEvaluations]
  by_cases hnone : r.successCount = 0
  · rw [if_pos (hempty.mpr hnone), if_pos hnone]
  · rw [if_neg (mt hempty.mp hnone), if_neg hnone, hsum, repairWork]
    split
    · rfl
    · rfl

theorem exists_average_iff (r : Report) :
    (∃ x, r.averageEvaluations = .ok (some x)) ↔
      0 < r.successCount ∧ r.repairWork < counterLimit := by
  rw [averageEvaluations_eq]
  by_cases hnone : r.successCount = 0
  · simp [hnone]
  · by_cases hfits : r.repairWork < counterLimit
    · simp [hnone, hfits, Nat.pos_of_ne_zero hnone]
    · simp [hnone, hfits]

theorem averageEvaluations_eq_none_iff (r : Report) :
    r.averageEvaluations = .ok none ↔ r.successCount = 0 := by
  rw [averageEvaluations_eq]
  by_cases hnone : r.successCount = 0
  · simp [hnone]
  · by_cases hfits : r.repairWork < counterLimit
    · simp [hnone, hfits]
    · simp [hnone, hfits]

/-! ## Together -/

/-- The epochs are divided into those that found a repair and those that found none. The repairs are
the diffs of the first kind, each once and in the order in which they were found, so that more
epochs only add to them. There are at most as many as epochs that found one, and none only if no
epoch found one. Where no epoch found one there is no mean of the evaluations, and otherwise there
is one exactly if their sum fits into a counter. -/
theorem aggregation_is_faithful (r : Report) :
    IsSplit r.epochs r.successful r.unsuccessful ∧
    (∀ e ∈ r.epochs, (e ∈ r.successful ↔ e.success = true) ∧
      (e ∈ r.unsuccessful ↔ e.success = false)) ∧
    ListsFirst r.repairDiffs r.uniqueRepairs ∧
    (∀ a b, r.epochs = a ++ b → r.uniqueRepairs = uniqueRepairs { r with epochs := a } ++
      (uniqueRepairs { r with epochs := b }).filter
        (· ∉ uniqueRepairs { r with epochs := a })) ∧
    r.uniqueRepairCount ≤ r.successCount ∧ r.successCount ≤ r.epochs.length ∧
    (r.uniqueRepairCount = 0 ↔ r.successCount = 0) ∧
    (r.averageEvaluations = .ok none ↔ r.successCount = 0) ∧
    ((∃ x, r.averageEvaluations = .ok (some x)) ↔
      0 < r.successCount ∧ r.repairWork < counterLimit) := by
  refine ⟨isSplit r, ?_, listsFirst_uniqueRepairs r, ?_, uniqueRepairCount_le r, successCount_le r,
    uniqueRepairCount_eq_zero_iff r, averageEvaluations_eq_none_iff r, exists_average_iff r⟩
  · intro e he
    simp [mem_successful, mem_unsuccessful, he]
  · intro a b hsplit
    exact uniqueRepairs_append hsplit

/-- An epoch with a number, an outcome, a count of evaluations and a diff. -/
def epochOf (number : Nat) (success : Bool) (evaluations : Nat) (diff : String) : EpochResult :=
  ⟨number, success, evaluations, 0, some .zero, [], diff, .zero⟩

/-- One repair is found twice, with an epoch in between that found none. -/
theorem aggregation_of_four_epochs :
    let early := [epochOf 1 true 10 "-bad\n", epochOf 2 false 100 "-other\n"]
    let late := [epochOf 3 true 30 "-bad\n", epochOf 4 true 20 "+fix\n"]
    let r : Report := ⟨none, early ++ late, .zero⟩
    r.uniqueRepairs = uniqueRepairs { r with epochs := early } ++
      (uniqueRepairs { r with epochs := late }).filter
        (· ∉ uniqueRepairs { r with epochs := early }) ∧
    r.uniqueRepairs = ["-bad\n", "+fix\n"] ∧ ∃ x, r.averageEvaluations = .ok (some x) := by
  intro early late r
  obtain ⟨-, -, -, happend, -, -, -, -, hmean⟩ := aggregation_is_faithful r
  exact ⟨happend early late rfl, by decide, hmean.mpr ⟨by decide, by decide⟩⟩

/-- Two epochs found a repair, but the sum of their counters does not fit into one, so the report has
no mean. -/
theorem repairs_without_mean :
    let r : Report := ⟨none, [epochOf 1 true (2 ^ 64 - 1) "-a\n", epochOf 2 true 1 "-a\n"], .zero⟩
    r.successCount = 2 ∧ r.averageEvaluations = .error .countOverflow := by
  decide +kernel

end ProgramRepair.Report
