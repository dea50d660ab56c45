import ProgramRepair.Project.Variant
import ProgramRepair.Proofs.Binary64.Mean
import ProgramRepair.Proofs.Disk.Resolution
import ProgramRepair.Proofs.Random.Stream
import ProgramRepair.Proofs.Search.Returning

/-!
# The edits that a project makes

Each unit of a file has a weight, so what is drawn by weight is the number of a unit. An
edit names a unit to change and a unit of the same file to take text from. Main
statements:

* `SetUp.isSplit`, `SetUp.isWeight`: what is true of all files of a project that was set up;
* `isWeight_total`: weights add up to a weight or to infinity;
* `createEdit_ok`: everything that a new edit can be;
* `exists_createEdit`: a project makes edits without a fault if its weights add up;
* `createEdit_of_no_units`: it makes none if no file has a unit;
* `createEdit_reweighed`: all outcomes, whatever weights were set.
-/

namespace ProgramRepair

/-! ## Choices by weight -/

namespace WeightedChoice

theorem length_runningSums (start : Binary64) (ws : List Binary64) :
    (runningSums start ws).1.length = ws.length := by
  induction ws generalizing start with
  | nil => rfl
  | cons w ws ih => exact congrArg (· + 1) (ih (start + w))

/-- What the weights add up to. -/
def total : List Binary64 → Binary64
  | [] => .zero
  | w :: ws => (runningSums w ws).2

variable {weights : List Binary64} {s s' : Stream}

/-- A place that is drawn is one in the list: the sums are one less than the weights. -/
theorem draw_lt {i : Nat} (h : draw weights s = .ok (some i, s')) : i < weights.length := by
  cases weights with
  | nil => cases h
  | cons w ws =>
    obtain ⟨sums, t, hsums⟩ : ∃ sums t, runningSums w ws = (sums, t) := ⟨_, _, rfl⟩
    have hlength : sums.length = ws.length := by
      rw [← length_runningSums w ws, hsums]
    rw [draw, hsums] at h
    dsimp only at h
    split at h
    · cases h
    · split at h
      · cases h
      · obtain ⟨x, s₁, hx⟩ : ∃ x s₁, fraction s = (x, s₁) := ⟨_, _, rfl⟩
        rw [hx] at h
        cases h
        -- each sum that the point has passed moves it one place on
        rw [List.length_cons, ← hlength]
        exact Nat.lt_succ_of_le (List.takeWhile_sublist _).length_le

/-- Weights that do not add up cannot be drawn by. -/
theorem draw_of_not_finite (h : (total weights).isFinite = false) (s : Stream) :
    draw weights s = .error .infiniteWeight := by
  cases weights with
  | nil => cases h
  | cons w ws =>
    obtain ⟨sums, t, hsums⟩ : ∃ sums t, runningSums w ws = (sums, t) := ⟨_, _, rfl⟩
    rw [total, hsums] at h
    rw [draw, hsums]
    dsimp only
    have hzero : t.isZero = false := by
      by_contra hzero
      have hmagnitude : t.magnitude = 0 := Binary64.isZero_iff.mp (eq_true_of_ne_false hzero)
      rw [Binary64.isFinite, hmagnitude] at h
      cases h
    rw [hzero, h]
    rfl

/-- A draw by weights that add up does not fault. -/
theorem exists_draw (h : (total weights).isFinite = true) (s : Stream) :
    ∃ drawn, draw weights s = .ok drawn := by
  cases weights with
  | nil => exact ⟨_, rfl⟩
  | cons w ws =>
    obtain ⟨sums, t, hsums⟩ : ∃ sums t, runningSums w ws = (sums, t) := ⟨_, _, rfl⟩
    rw [total, hsums] at h
    rw [draw, hsums]
    dsimp only
    split
    · exact ⟨_, rfl⟩
    · rw [if_neg (by simp [h])]
      exact ⟨_, rfl⟩

end WeightedChoice

/-! ## Sums of weights -/

namespace Project

open Binary64

variable {x y : Binary64}

theorem isWeight_iff :
    isWeight x = true ↔ x.isFinite = true ∧ (x.negative = true → x.magnitude = 0) := by
  obtain ⟨negative, m⟩ := x
  rw [isWeight, Bool.and_eq_true, and_congr_right_iff]
  intro hfinite
  cases negative <;>
    simp [lt, rank, zero, isNaN_of_isFinite hfinite, show isNaN ⟨false, 0⟩ = false from rfl]

theorem isWeight_one : isWeight .one = true := by decide +kernel

/-- A weight is a number of units. -/
theorem signedUnits_of_isWeight (h : isWeight x = true) : x.signedUnits = units x.magnitude := by
  rw [signedUnits]
  split
  · next hnegative => simp [(isWeight_iff.mp h).2 hnegative]
  · rfl

theorem infinity_add (hy : isWeight y = true) : infinity + y = infinity := by
  have hfinite := (isWeight_iff.mp hy).1
  change add infinity y = infinity
  rw [add, isNaN_of_isFinite hfinite, isInfinite_of_isFinite hfinite]
  rfl

/-- Two weights add up to a weight, or to infinity. -/
theorem isWeight_add (hx : isWeight x = true) (hy : isWeight y = true) :
    isWeight (x + y) = true ∨ x + y = infinity := by
  have hxfinite := (isWeight_iff.mp hx).1
  have hyfinite := (isWeight_iff.mp hy).1
  change isWeight (add x y) = true ∨ add x y = infinity
  rw [add, isNaN_of_isFinite hxfinite, isNaN_of_isFinite hyfinite, isInfinite_of_isFinite hxfinite,
    isInfinite_of_isFinite hyfinite, signedUnits_of_isWeight hx, signedUnits_of_isWeight hy]
  simp only [Bool.or_self, Bool.false_eq_true, if_false]
  split
  · exact .inl (isWeight_iff.mpr ⟨rfl, fun _ => rfl⟩)
  · -- the sum is not negative, and it is rounded to a finite number or to infinity
    have hsum : ofSignedUnits (units x.magnitude + units y.magnitude) =
        ⟨false, nearest (units x.magnitude + units y.magnitude) 1⟩ := by
      rw [ofSignedUnits]
      norm_cast
    rw [hsum]
    rcases Nat.lt_or_eq_of_le
      (nearest_le_infinite (units x.magnitude + units y.magnitude) 1) with hlt | heq
    · exact .inl (isWeight_iff.mpr ⟨decide_eq_true hlt, fun h => by cases h⟩)
    · exact .inr (by rw [heq]; rfl)

/-- Weights add up to a weight, or to infinity. The induction is on the weights that are still to be
added. -/
theorem isWeight_runningSums {start : Binary64} {ws : List Binary64}
    (hstart : isWeight start = true ∨ start = infinity) (hws : ∀ w ∈ ws, isWeight w = true) :
    isWeight (WeightedChoice.runningSums start ws).2 = true ∨
      (WeightedChoice.runningSums start ws).2 = infinity := by
  induction ws generalizing start with
  | nil => exact hstart
  | cons w ws ih =>
    obtain ⟨hw, hws⟩ := List.forall_mem_cons.mp hws
    refine ih ?_ hws
    rcases hstart with hstart | rfl
    · exact isWeight_add hstart hw
    · exact .inr (infinity_add hw)

theorem isWeight_total {ws : List Binary64} (h : ∀ w ∈ ws, isWeight w = true) :
    isWeight (WeightedChoice.total ws) = true ∨ WeightedChoice.total ws = infinity := by
  cases ws with
  | nil => exact .inl (by decide +kernel)
  | cons w ws =>
    obtain ⟨hw, hws⟩ := List.forall_mem_cons.mp h
    exact isWeight_runningSums (.inl hw) hws

/-- Weights add up unless their sum is infinite. -/
theorem isFinite_total_iff {ws : List Binary64} (h : ∀ w ∈ ws, isWeight w = true) :
    (WeightedChoice.total ws).isFinite = true ↔ WeightedChoice.total ws ≠ infinity := by
  constructor
  · rintro hfinite heq
    rw [heq] at hfinite
    cases hfinite
  · intro hne
    exact (isWeight_iff.mp ((isWeight_total h).resolve_right hne)).1

end Project

/-! ## Set-up -/

/-- The file is a text that was split, and each of its units has a weight. -/
structure Source.File.IsSplit (f : File) : Prop where
  parsed : ∃ path g text, f = { parse path g text with weights := f.weights }
  weighed : f.weights.length = f.unitCount

theorem Source.File.isSplit_parse (path : String) (g : Granularity) (text : List Char) :
    (parse path g text).IsSplit where
  parsed := ⟨path, g, text, rfl⟩
  weighed := List.length_map _

theorem Source.File.IsSplit.withWeights {f : File} (h : f.IsSplit) {weights : List Binary64}
    (hweights : weights.length = f.unitCount) : IsSplit { f with weights } where
  parsed := by
    obtain ⟨path, g, text, hparsed⟩ := h.parsed
    refine ⟨path, g, text, ?_⟩
    rw [hparsed]
  weighed := hweights

/-- What is made of a list is made of its members. -/
theorem exists_of_mem_mapM {α β κ : Type} {f : α → Except κ β} {as : List α} {bs : List β} {b : β}
    (h : as.mapM f = .ok bs) (hb : b ∈ bs) : ∃ a, f a = .ok b := by
  have hall := forall₂_of_mapM_ok h
  clear h
  induction hall with
  | nil => cases hb
  | cons ha hrest ih =>
    obtain rfl | hb := List.mem_cons.mp hb
    · exact ⟨_, ha⟩
    · exact ih hb

namespace Project

/-- The project was read from a disk, and then it was given weights. -/
inductive SetUp : Project → Prop
  | loaded {d : Disk} {cwd : Place} {c : ProgramConfig} {p : Project}
      (h : load d cwd c = .ok p) : SetUp p
  | weighted {p p' : Project} {target : String} {weights : List Binary64} (hp : SetUp p)
      (h : p.setWeights target weights = .ok p') : SetUp p'

variable {p p' : Project}

/-- The files of a project that is read are texts that are split. -/
theorem exists_parse_of_load {d : Disk} {cwd : Place} {c : ProgramConfig}
    (h : load d cwd c = .ok p) {f : Source.File} (hf : f ∈ p.files) :
    ∃ path g text, f = .parse path g text := by
  obtain ⟨⟨⟩, -, h⟩ := Disk.bind_eq_ok.mp h
  obtain ⟨files, hfiles, h⟩ := Disk.bind_eq_ok.mp h
  cases h
  obtain ⟨relative, hread⟩ := exists_of_mem_mapM hfiles hf
  obtain ⟨source, -, hread⟩ := Disk.bind_eq_ok.mp hread
  cases hread
  exact ⟨_, _, _, rfl⟩

/-- A call that is accepted sets valid weights, one for each unit, and changes nothing else. -/
theorem setWeights_ok {target : String} {weights : List Binary64}
    (h : p.setWeights target weights = .ok p') :
    ∃ i f, p.files[i]? = some f ∧ weights.length = f.unitCount ∧
      (∀ w ∈ weights, isWeight w = true) ∧
      p' = { p with files := p.files.modify i fun f => { f with weights } } := by
  unfold setWeights at h
  split at h
  · cases h
  · next i hi =>
    have hlt : i < p.files.length := (List.findIdx?_eq_some_iff_getElem.mp hi).1
    have hf : p.files[i]? = some p.files[i] := List.getElem?_eq_getElem hlt
    rw [hf] at h
    dsimp only at h
    split at h
    · cases h
    · next hcount =>
      split at h
      · cases h
      · next hvalid =>
        cases h
        refine ⟨i, p.files[i], hf, not_not.mp hcount, ?_, rfl⟩
        simpa using hvalid

/-- What is true of a file with its old weights and with new ones stays true of all files. -/
theorem forall_files_of_setWeights {P : Source.File → Prop} {target : String}
    {weights : List Binary64} (h : p.setWeights target weights = .ok p')
    (hp : ∀ f ∈ p.files, P f)
    (hset : ∀ f, P f → weights.length = f.unitCount → (∀ w ∈ weights, isWeight w = true) →
      P { f with weights }) : ∀ f ∈ p'.files, P f := by
  obtain ⟨i, f, hf, hcount, hvalid, rfl⟩ := setWeights_ok h
  intro f' hf'
  obtain ⟨j, hj⟩ := List.mem_iff_getElem?.mp hf'
  rw [List.getElem?_modify] at hj
  obtain ⟨g, hg, rfl⟩ := Option.map_eq_some_iff.mp hj
  have hold := hp g (List.mem_of_getElem? hg)
  split
  · next hij =>
    subst hij
    obtain rfl := Option.some.inj (hf.symm.trans hg)
    exact hset _ hold hcount hvalid
  · exact hold

/-- Whatever weights a project was given, there is one for each unit. -/
theorem SetUp.isSplit (h : p.SetUp) : ∀ f ∈ p.files, f.IsSplit := by
  induction h with
  | loaded h =>
    intro f hf
    obtain ⟨path, g, text, rfl⟩ := exists_parse_of_load h hf
    exact Source.File.isSplit_parse path g text
  | weighted hp h ih =>
    exact forall_files_of_setWeights h ih fun f hf hcount _ => hf.withWeights hcount

/-- All weights are valid: those that a file is read with, and all that were accepted. -/
theorem SetUp.isWeight (h : p.SetUp) : ∀ f ∈ p.files, ∀ w ∈ f.weights, isWeight w = true := by
  induction h with
  | loaded h =>
    intro f hf w hw
    obtain ⟨path, g, text, rfl⟩ := exists_parse_of_load h hf
    obtain ⟨unit, -, rfl⟩ := List.mem_map.mp hw
    exact isWeight_one
  | weighted hp h ih => exact forall_files_of_setWeights h ih fun f _ _ hvalid => hvalid

/-- The weights of each file add up to a finite number. -/
def FiniteWeights (p : Project) : Prop :=
  ∀ f ∈ p.files, (WeightedChoice.total f.weights).isFinite = true

/-! ## New edits -/

theorem mem_editableFiles {i : Nat} :
    i ∈ p.editableFiles ↔ ∃ f, p.files[i]? = some f ∧ 0 < f.unitCount := by
  rw [editableFiles, List.mem_filter, Option.any_eq_true]
  constructor
  · rintro ⟨-, f, hf, hunits⟩
    exact ⟨f, hf, of_decide_eq_true hunits⟩
  · rintro ⟨f, hf, hunits⟩
    exact ⟨List.mem_range.mpr (List.getElem?_eq_some_iff.mp hf).1, f, hf, decide_eq_true hunits⟩

/-- The unit to change is one of the file, however it is drawn. -/
theorem drawTarget_lt {f : Source.File} {method : SelectionMethod} {s s' : Stream} {u : Nat}
    (hf : f.IsSplit) (hunits : 0 < f.unitCount) (h : drawTarget f method s = .ok (u, s')) :
    u < f.unitCount := by
  have hbelow := s.below_lt .double hunits
  cases method with
  | random =>
    rw [drawTarget, Except.ok.injEq] at h
    rwa [h] at hbelow
  | weighted =>
    obtain ⟨⟨drawn, s₁⟩, hdraw, h⟩ := Disk.bind_eq_ok.mp h
    cases drawn with
    | some i =>
      cases h
      rw [← hf.weighed]
      exact WeightedChoice.draw_lt hdraw
    | none =>
      have hbelow := s₁.below_lt .double hunits
      rw [Except.ok.inj h] at hbelow
      exact hbelow

/-- A unit to change can be drawn if the weights add up, or are not asked for. -/
theorem exists_drawTarget {f : Source.File} {method : SelectionMethod}
    (hf : method = .weighted → (WeightedChoice.total f.weights).isFinite = true) (s : Stream) :
    ∃ drawn, drawTarget f method s = .ok drawn := by
  cases method with
  | random => exact ⟨_, rfl⟩
  | weighted =>
    obtain ⟨⟨drawn, s₁⟩, hdraw⟩ := WeightedChoice.exists_draw (hf rfl) s
    unfold drawTarget
    dsimp only
    rw [hdraw]
    cases drawn with
    | some i => exact ⟨_, rfl⟩
    | none => exact ⟨_, rfl⟩

theorem drawTarget_of_not_finite {f : Source.File}
    (hf : (WeightedChoice.total f.weights).isFinite = false) (s : Stream) :
    drawTarget f .weighted s = .error .infiniteWeight := by
  rw [drawTarget, WeightedChoice.draw_of_not_finite hf]
  rfl

/-- How an edit is made once a file is chosen. -/
theorem createEdit_of_choose {op : EditOperator} {method : SelectionMethod} {s s₁ : Stream}
    {i : Nat} {f : Source.File} (hchoose : s.choose p.editableFiles = (some i, s₁))
    (hf : p.files[i]? = some f) :
    p.createEdit op method s = (drawTarget f method s₁).map fun (u, s₂) =>
      (some (.ofOperator op ⟨i, u⟩ ⟨i, (s₂.below .double f.unitCount).1⟩),
        (s₂.below .double f.unitCount).2) := by
  rw [createEdit, hchoose]
  dsimp only
  rw [hf]
  dsimp only
  cases drawTarget f method s₁ <;> rfl

/-- There is a fault if a unit has to be drawn by weights that do not add up. -/
theorem createEdit_of_not_finite {op : EditOperator} {s s₁ : Stream} {i : Nat} {f : Source.File}
    (hchoose : s.choose p.editableFiles = (some i, s₁)) (hf : p.files[i]? = some f)
    (hweights : (WeightedChoice.total f.weights).isFinite = false) :
    p.createEdit op .weighted s = .error .infiniteWeight := by
  rw [createEdit_of_choose hchoose hf, drawTarget_of_not_finite hweights]
  rfl

/-- Otherwise there is an edit, and both of its units are in the file. -/
theorem exists_createEdit_of_choose {op : EditOperator} {method : SelectionMethod} {s s₁ : Stream}
    {i : Nat} {f : Source.File} (hchoose : s.choose p.editableFiles = (some i, s₁))
    (hf : p.files[i]? = some f) (hsplit : f.IsSplit) (hunits : 0 < f.unitCount)
    (hweights : method = .weighted → (WeightedChoice.total f.weights).isFinite = true) :
    ∃ u v s', u < f.unitCount ∧ v < f.unitCount ∧
      p.createEdit op method s = .ok (some (.ofOperator op ⟨i, u⟩ ⟨i, v⟩), s') := by
  obtain ⟨⟨u, s₂⟩, htarget⟩ := exists_drawTarget hweights s₁
  rw [createEdit_of_choose hchoose hf, htarget]
  exact ⟨u, _, _, drawTarget_lt hsplit hunits htarget, s₂.below_lt .double hunits, rfl⟩

/-- Everything that a new edit can be: both units are drawn from one file. -/
theorem createEdit_ok {op : EditOperator} {method : SelectionMethod} {s s' : Stream}
    {edit : Source.Edit} (hp : ∀ f ∈ p.files, f.IsSplit)
    (h : p.createEdit op method s = .ok (some edit, s')) :
    ∃ i f u v, p.files[i]? = some f ∧ u < f.unitCount ∧ v < f.unitCount ∧
      edit = .ofOperator op ⟨i, u⟩ ⟨i, v⟩ := by
  obtain ⟨i, s₁, hchoose⟩ : ∃ i s₁, s.choose p.editableFiles = (i, s₁) := ⟨_, _, rfl⟩
  cases i with
  | none =>
    rw [createEdit, hchoose] at h
    cases h
  | some i =>
    obtain ⟨f, hf, hunits⟩ := mem_editableFiles.mp (Stream.mem_of_choose hchoose)
    rw [createEdit_of_choose hchoose hf] at h
    cases htarget : drawTarget f method s₁ with
    | error fault =>
      rw [htarget] at h
      cases h
    | ok drawn =>
      rw [htarget] at h
      cases h
      exact ⟨i, f, drawn.1, _, hf, drawTarget_lt (hp f (List.mem_of_getElem? hf)) hunits htarget,
        drawn.2.below_lt .double hunits, rfl⟩

/-- A project whose weights add up makes edits without a fault. -/
theorem exists_createEdit (hp : p.FiniteWeights) (op : EditOperator) (method : SelectionMethod)
    (s : Stream) : ∃ drawn, p.createEdit op method s = .ok drawn := by
  obtain ⟨i, s₁, hchoose⟩ : ∃ i s₁, s.choose p.editableFiles = (i, s₁) := ⟨_, _, rfl⟩
  cases i with
  | none =>
    rw [createEdit, hchoose]
    exact ⟨_, rfl⟩
  | some i =>
    obtain ⟨f, hf, -⟩ := mem_editableFiles.mp (Stream.mem_of_choose hchoose)
    have hweights : method = .weighted → (WeightedChoice.total f.weights).isFinite = true :=
      fun _ => hp f (List.mem_of_getElem? hf)
    obtain ⟨drawn, htarget⟩ := exists_drawTarget hweights s₁
    rw [createEdit_of_choose hchoose hf, htarget]
    exact ⟨_, rfl⟩

/-- A project without units makes no edit. -/
theorem createEdit_of_no_units (hp : ∀ f ∈ p.files, f.unitCount = 0) (op : EditOperator)
    (method : SelectionMethod) (s : Stream) : p.createEdit op method s = .ok (none, s) := by
  have hnone : p.editableFiles = [] := by
    rw [List.eq_nil_iff_forall_not_mem]
    intro i hi
    obtain ⟨f, hf, hunits⟩ := mem_editableFiles.mp hi
    exact absurd (hp f (List.mem_of_getElem? hf)) (Nat.ne_of_gt hunits)
  rw [createEdit, Stream.choose, if_pos (by simp [hnone])]

/-! ## Edits by any accepted weights -/

/-- The project after some calls that set weights. A call that is rejected leaves it as it was. -/
def reweigh (p : Project) : List (String × List Binary64) → Project
  | [] => p
  | (target, weights) :: calls =>
    match p.setWeights target weights with
    | .ok p' => p'.reweigh calls
    | .error _ => p.reweigh calls

theorem SetUp.reweigh (hp : p.SetUp) (calls : List (String × List Binary64)) :
    (p.reweigh calls).SetUp := by
  induction calls generalizing p with
  | nil => exact hp
  | cons call calls ih =>
    rw [Project.reweigh]
    split
    · next p' hset => exact ih (hp.weighted hset)
    · exact ih hp

/-- What comes of a new edit if there are units. A file is chosen, and there is a fault exactly if a
unit of it has to be drawn by weights with an infinite sum. -/
theorem SetUp.createEdit_of_units (hp : p.SetUp) (hunits : ∃ f ∈ p.files, 0 < f.unitCount)
    (op : EditOperator) (method : SelectionMethod) (s : Stream) :
    ∃ i s₁ f, s.choose p.editableFiles = (some i, s₁) ∧ p.files[i]? = some f ∧ 0 < f.unitCount ∧
      if method = .weighted ∧ WeightedChoice.total f.weights = .infinity then
        p.createEdit op method s = .error .infiniteWeight
      else ∃ u v s', u < f.unitCount ∧ v < f.unitCount ∧
        p.createEdit op method s = .ok (some (.ofOperator op ⟨i, u⟩ ⟨i, v⟩), s') := by
  have hne : p.editableFiles ≠ [] := by
    obtain ⟨f, hf, hunits⟩ := hunits
    obtain ⟨i, hi⟩ := List.mem_iff_getElem?.mp hf
    exact List.ne_nil_of_mem (mem_editableFiles.mpr ⟨f, hi, hunits⟩)
  obtain ⟨i, hi, s₁, hchoose⟩ := Stream.exists_choose hne s
  obtain ⟨f, hf, hunits⟩ := mem_editableFiles.mp hi
  refine ⟨i, s₁, f, hchoose, hf, hunits, ?_⟩
  have hmem : f ∈ p.files := List.mem_of_getElem? hf
  have hfinite := isFinite_total_iff (hp.isWeight f hmem)
  split
  · next hinfinite =>
    obtain ⟨rfl, hinfinite⟩ := hinfinite
    exact createEdit_of_not_finite hchoose hf
      (Bool.eq_false_iff.mpr fun h => hfinite.mp h hinfinite)
  · next hadds =>
    exact exists_createEdit_of_choose hchoose hf (hp.isSplit f hmem) hunits
      fun hmethod => hfinite.mpr fun h => hadds ⟨hmethod, h⟩

/-- Every outcome of a new edit, where weights were set by any calls. All weights are valid then,
but they are added up, and the sum can be infinite. If no file has a unit there is no edit. Otherwise
a file is chosen. If a unit of it has to be drawn by weights with an infinite sum, there is a fault;
in all other cases there is an edit of the given kind whose units are in this file. -/
theorem createEdit_reweighed (hp : p.SetUp) (calls : List (String × List Binary64))
    (op : EditOperator) (method : SelectionMethod) (s : Stream) :
    let q := p.reweigh calls
    (∀ f ∈ q.files, f.weights.length = f.unitCount ∧ ∀ w ∈ f.weights, isWeight w = true) ∧
    ((∃ s', q.createEdit op method s = .ok (none, s')) ↔ ∀ f ∈ q.files, f.unitCount = 0) ∧
    ((∃ f ∈ q.files, 0 < f.unitCount) → ∃ i s₁ f, s.choose q.editableFiles = (some i, s₁) ∧
      q.files[i]? = some f ∧ 0 < f.unitCount ∧
      if method = .weighted ∧ WeightedChoice.total f.weights = .infinity then
        q.createEdit op method s = .error .infiniteWeight
      else ∃ u v s', u < f.unitCount ∧ v < f.unitCount ∧
        q.createEdit op method s = .ok (some (.ofOperator op ⟨i, u⟩ ⟨i, v⟩), s')) := by
  intro q
  have hq : q.SetUp := hp.reweigh calls
  refine ⟨fun f hf => ⟨(hq.isSplit f hf).weighed, hq.isWeight f hf⟩, ⟨?_, ?_⟩,
    fun hunits => hq.createEdit_of_units hunits op method s⟩
  · rintro ⟨s', hnone⟩ f hf
    by_contra hunits
    obtain ⟨i, s₁, f, -, -, -, hedit⟩ :=
      hq.createEdit_of_units ⟨f, hf, Nat.pos_of_ne_zero hunits⟩ op method s
    split at hedit
    · cases hnone.symm.trans hedit
    · obtain ⟨u, v, s₂, -, -, hedit⟩ := hedit
      cases hnone.symm.trans hedit
  · intro hunits
    exact ⟨s, createEdit_of_no_units hunits op method s⟩

section TwoLines

deriving instance DecidableEq for Source.File

deriving instance DecidableEq for Project

/-- A project with a file of two lines. -/
def twoLines : Project := ⟨".", "true", .exitCode, [.parse "t" .line "a\nb\n".toList]⟩

theorem setUp_twoLines : twoLines.SetUp := by
  let file : Entry := .file (Text.bytesOf "a\nb\n") ⟨Disk.fileMode, true, 0, none⟩
  let config : ProgramConfig := ⟨".", none, ["t"], "true", .line, .exitCode⟩
  have hload : (load ⟨[(["t"], file)], [], 0, 0⟩ [] config).toOption = some twoLines := by
    decide +kernel
  exact .loaded (Disk.ok_of_toOption hload)

/-- Two weights that add up, and two calls that are rejected. -/
theorem createEdit_reweighed_of_ratio :
    let q := twoLines.reweigh [("t", [.two, .one]), ("u", []), ("t", [.infinity, .one])]
    twoLines.SetUp ∧ q.files.map (·.weights) = [[.two, .one]] ∧
      ∃ u v s', u < 2 ∧ v < 2 ∧ q.createEdit .replacement .weighted (.ofSeed 0) =
        .ok (some (.replacement ⟨0, u⟩ ⟨0, v⟩), s') := by
  intro q
  obtain ⟨-, -, houtcome⟩ := createEdit_reweighed setUp_twoLines
    [("t", [.two, .one]), ("u", []), ("t", [.infinity, .one])] .replacement .weighted (.ofSeed 0)
  have hfiles : ∀ f ∈ q.files, f.unitCount = 2 ∧ WeightedChoice.total f.weights ≠ .infinity := by
    decide +kernel
  obtain ⟨i, s₁, f, -, hf, -, hedit⟩ := houtcome (by decide +kernel)
  obtain ⟨hunits, hadds⟩ := hfiles f (List.mem_of_getElem? hf)
  have hi : i < 1 := (List.getElem?_eq_some_iff.mp hf).1
  obtain rfl : i = 0 := Nat.lt_one_iff.mp hi
  rw [if_neg fun h => hadds h.2, hunits] at hedit
  exact ⟨setUp_twoLines, by decide +kernel, hedit⟩

/-- Twice the largest number is accepted, but has an infinite sum, and then no edit can be made. -/
theorem createEdit_faults_on_largest :
    let largest : Binary64 := ⟨false, Binary64.infiniteMagnitude - 1⟩
    twoLines.SetUp ∧ (twoLines.setWeights "t" [largest, largest]).isOk = true ∧
      (twoLines.reweigh [("t", [largest, largest])]).createEdit .deletion .weighted (.ofSeed 0) =
        .error .infiniteWeight := by
  intro largest
  have hfiles : (twoLines.reweigh [("t", [largest, largest])]).files =
      [{ Source.File.parse "t" .line "a\nb\n".toList with weights := [largest, largest] }] := by
    decide +kernel
  have heditable : (twoLines.reweigh [("t", [largest, largest])]).editableFiles = [0] := by
    decide +kernel
  obtain ⟨i, hi, s₁, hchoose⟩ := Stream.exists_choose (List.cons_ne_nil 0 []) (.ofSeed 0)
  obtain rfl := List.mem_singleton.mp hi
  refine ⟨setUp_twoLines, by decide +kernel, ?_⟩
  exact createEdit_of_not_finite (heditable ▸ hchoose) (by rw [hfiles]; rfl) (by decide +kernel)

end TwoLines

end Project

end ProgramRepair
