import Mathlib.Algebra.BigOperators.Fin
import Mathlib.Data.Finset.Prod
import ProgramRepair.Proofs.Project.Edits
import ProgramRepair.Proofs.Search.Neighbourhood

/-!
# The neighbourhoods of projects

All edits of a project can be counted: a replacement or an insertion has two units of one
file, a deletion has one. So it is known beforehand how many evaluations an epoch spends
around one patch at most. Main statements:

* `Project.card_possibleEdits`: the number of edits that a project can make;
* `Project.makesWithin`: it makes no others;
* `Project.work_around_best_is_bounded`: searches over programs with finitely many edits, and
  over projects, are bounded by the neighbourhoods of their best patches.
-/

namespace ProgramRepair

open Source

/-- How many edits with an operator there are in a file with a number of units. -/
def EditOperator.choices (units : Nat) : EditOperator → Nat
  | .replacement | .insertion => units * units
  | .deletion => units

namespace Project

variable {p : Project} {operators : List EditOperator} {e : Edit} {op : EditOperator} {i n : Nat}

/-- How many edits a project can make with the operators. -/
def editCount (p : Project) (operators : List EditOperator) : Nat :=
  (p.files.map fun f => ∑ op ∈ operators.toFinset, op.choices f.unitCount).sum

/-- The edits with an operator in the file `i`, which has `n` units. -/
def editsIn (op : EditOperator) (i n : Nat) : Finset Edit :=
  (Finset.range n ×ˢ Finset.range n).image fun (u, v) => .ofOperator op ⟨i, u⟩ ⟨i, v⟩

theorem mem_editsIn :
    e ∈ editsIn op i n ↔ ∃ u v, u < n ∧ v < n ∧ Edit.ofOperator op ⟨i, u⟩ ⟨i, v⟩ = e := by
  simp [editsIn, and_assoc]

/-- The edits that a project can make with the operators. -/
def possibleEdits (p : Project) (operators : List EditOperator) : Finset Edit :=
  Finset.univ.biUnion fun i : Fin p.files.length =>
    operators.toFinset.biUnion fun op => editsIn op i p.files[i].unitCount

/-! ## Counting edits -/

theorem card_editsIn (op : EditOperator) (i n : Nat) :
    (editsIn op i n).card = op.choices n := by
  cases op with
  | replacement | insertion =>
    -- both units are told by the edit
    rw [editsIn, Finset.card_image_of_injective, Finset.card_product, Finset.card_range]
    · rfl
    · rintro ⟨u, v⟩ ⟨u', v'⟩ heq
      cases heq
      rfl
  | deletion =>
    have hunits : editsIn .deletion i n = (Finset.range n).image fun u => .deletion ⟨i, u⟩ := by
      ext e
      rw [mem_editsIn, Finset.mem_image]
      constructor
      · rintro ⟨u, v, hu, -, rfl⟩
        exact ⟨u, Finset.mem_range.mpr hu, rfl⟩
      · rintro ⟨u, hu, rfl⟩
        exact ⟨u, u, Finset.mem_range.mp hu, Finset.mem_range.mp hu, rfl⟩
    rw [hunits, Finset.card_image_of_injective, Finset.card_range]
    · rfl
    · intro u u' heq
      cases heq
      rfl

/-- An edit tells its operator and its file. -/
theorem eq_of_mem_editsIn {op' : EditOperator} {i' n' : Nat} (h : e ∈ editsIn op i n)
    (h' : e ∈ editsIn op' i' n') : op = op' ∧ i = i' := by
  obtain ⟨u, v, -, -, rfl⟩ := mem_editsIn.mp h
  obtain ⟨u', v', -, -, heq⟩ := mem_editsIn.mp h'
  cases op <;> cases op' <;> cases heq <;> exact ⟨rfl, rfl⟩

theorem card_possibleEdits (p : Project) (operators : List EditOperator) :
    (p.possibleEdits operators).card = p.editCount operators := by
  have hoperators : ∀ i : Fin p.files.length,
      (operators.toFinset.biUnion fun op => editsIn op i p.files[i].unitCount).card =
        ∑ op ∈ operators.toFinset, op.choices p.files[i].unitCount := by
    intro i
    rw [Finset.card_biUnion]
    · exact Finset.sum_congr rfl fun op _ => card_editsIn op i _
    · intro op _ op' _ hne
      refine Finset.disjoint_left.mpr fun e h h' => hne ?_
      exact (eq_of_mem_editsIn h h').1
  rw [possibleEdits, Finset.card_biUnion]
  · calc ∑ i : Fin p.files.length,
          (operators.toFinset.biUnion fun op => editsIn op i p.files[i].unitCount).card
        = ∑ i : Fin p.files.length, ∑ op ∈ operators.toFinset, op.choices p.files[i].unitCount :=
          Finset.sum_congr rfl fun i _ => hoperators i
      _ = p.editCount operators :=
          Fin.sum_univ_fun_getElem p.files fun f => ∑ op ∈ operators.toFinset, op.choices f.unitCount
  · intro i _ i' _ hne
    refine Finset.disjoint_left.mpr fun e h h' => hne ?_
    obtain ⟨op, -, hop⟩ := Finset.mem_biUnion.mp h
    obtain ⟨op', -, hop'⟩ := Finset.mem_biUnion.mp h'
    exact Fin.ext (eq_of_mem_editsIn hop hop').2

/-- A project that was set up makes no other edits. -/
theorem makesWithin {σ : Type} {program : Program Edit σ} (hprogram : program.IsOf p)
    (hp : ∀ f ∈ p.files, f.IsSplit) (operators : List EditOperator) :
    program.MakesWithin operators (p.possibleEdits operators) := by
  intro op hop method s edit s' hedit
  rw [hprogram.createEdit] at hedit
  obtain ⟨i, f, u, v, hf, hu, hv, rfl⟩ := createEdit_ok hp hedit
  obtain ⟨hi, rfl⟩ := List.getElem?_eq_some_iff.mp hf
  refine Finset.mem_biUnion.mpr ⟨⟨i, hi⟩, Finset.mem_univ _, ?_⟩
  exact Finset.mem_biUnion.mpr ⟨op, List.mem_toFinset.mpr hop, mem_editsIn.mpr ⟨u, v, hu, hv, rfl⟩⟩

/-! ## Searches -/

/-- A search spends at most as many evaluations around one best patch as there are edits to add to
it and edits of it to take away, and an epoch that never leaves the empty patch at most as many as
there are edits. Over a project that was set up, there are as many as there are pairs of units of one
file for replacements and for insertions, and units for deletions, where these are configured. -/
theorem work_around_best_is_bounded :
    (∀ {ε σ : Type} [DecidableEq ε] [Hashable ε] (search : Search ε σ) (observer : Observer σ)
      (E : Finset ε), search.program.MakesWithin search.config.operators E →
        search.BoundedBy observer E.card) ∧
    ∀ {σ : Type} (search : Search Edit σ) (observer : Observer σ) (p : Project), p.SetUp →
      search.program.IsOf p →
      (∃ E : Finset Edit, search.program.MakesWithin search.config.operators E ∧
        E.card = p.editCount search.config.operators) ∧
      search.BoundedBy observer (p.editCount search.config.operators) := by
  constructor
  · intro ε σ _ _ search observer E hmakes
    exact Search.boundedBy_card hmakes
  · intro σ search observer p hp hprogram
    have hmakes := makesWithin hprogram hp.isSplit search.config.operators
    refine ⟨⟨_, hmakes, card_possibleEdits p _⟩, ?_⟩
    rw [← card_possibleEdits]
    exact Search.boundedBy_card hmakes

/-! ### A search for replacements -/

section Replacements

open Search Epoch Rehearsal

/-- Tokens are made from an alphabet. -/
theorem makesWithin_tokens (script : List Rule) (alphabet : Nat) (operators : List EditOperator) :
    (tokens script alphabet).MakesWithin operators
      ((operators.toFinset ×ˢ Finset.range alphabet).image fun (op, number) => ⟨op, number⟩) := by
  intro op hop method s edit s' hedit
  change createToken alphabet op method s = _ at hedit
  unfold createToken at hedit
  split at hedit
  · cases hedit
  · next hne =>
    have hlt := s.below_lt .single (Nat.pos_of_ne_zero hne)
    cases hbelow : s.below .single alphabet with
    | mk number s₁ =>
      rw [hbelow] at hedit hlt
      cases hedit
      refine Finset.mem_image.mpr ⟨(op, number), ?_, rfl⟩
      exact Finset.mem_product.mpr ⟨List.mem_toFinset.mpr hop, Finset.mem_range.mpr hlt⟩

/-- A search for deletions of three tokens is bounded by three edits, and one for replacements in a
file of two units by four. The latter has a round around the empty patch. -/
theorem replacements_are_bounded :
    secondPasses.BoundedBy observer 3 ∧
    weightedProject.SetUp ∧ weightedProject.editCount [.replacement] = 4 ∧
    (replacing weightedProject).BoundedBy unwatched 4 ∧
    ∃ rounds seen p, Rounds ((replacing weightedProject).context unwatched none) 0 1 rounds seen p ∧
      (rounds.filter (·.base = .empty)).length = 1 ∧
      (rounds.filter (·.base = .empty)).length ≤ 4 + (Patch.empty : Patch Edit).length := by
  obtain ⟨htokens, hproject⟩ := work_around_best_is_bounded
  have hthree := htokens secondPasses observer _ (makesWithin_tokens _ 3 [.deletion])
  have hcount : weightedProject.editCount [.replacement] = 4 := by decide +kernel
  obtain ⟨-, hbounded⟩ := hproject (replacing weightedProject) unwatched weightedProject
    setUp_weightedProject (isOf_program broken _)
  change (replacing weightedProject).BoundedBy unwatched
    (weightedProject.editCount [.replacement]) at hbounded
  rw [hcount] at hbounded
  obtain ⟨stream, hcandidate⟩ := draws_doubling
  have hdraw : Draws ((replacing weightedProject).context unwatched none)
      (Epoch.start none (.ofSeed 0)) _ := .of_fresh hcandidate (Tabu.contains_empty _)
  have hstarted : Rounds ((replacing weightedProject).context unwatched none) 0 1 [] []
      (.between ⟨⟨0⟩, 1, 1, Epoch.start none (.ofSeed 0)⟩) := .started
  have hrounds : Rounds ((replacing weightedProject).context unwatched none) 0 1 _ _ _ :=
    hstarted.next (.draws (w := twoFiles) rfl hdraw rfl)
  exact ⟨hthree, setUp_weightedProject, hcount, hbounded, _, _, _, hrounds, rfl,
    hbounded.around hrounds .empty⟩

end Replacements

end Project

end ProgramRepair
