import ProgramRepair.Proofs.Project.Choice
import ProgramRepair.Proofs.Project.Materializing
import ProgramRepair.Proofs.Search.Patches
import ProgramRepair.Proofs.Source.Rendering

/-!
# Edits of a search take effect

An edit names units by their numbers. The words for it look its files up, and the
renderer passes over what is not there. The edits that a project makes are well
formed: all units that they name are there, in one file. So every edit of every
patch that a search comes to has words, and the renderer does what the words
say. Main statements:

* `describe_eq`, `WellFormed.applies`: what the words and the renderer make of a
  well-formed edit;
* `takesOver_of_wellFormed`: patches of well-formed edits are taken over edit by edit;
* `search_edits_take_effect`: a search over a project that was set up evaluates and
  reports only such patches, and evaluates none if no file has a unit;
* `rendered_ingredient`: of an edit with units of two files, the words name both, and
  the renderer takes the text from the file of the target.
-/

namespace ProgramRepair

/-! ## Words -/

namespace Source.Edit

/-- The unit that an edit takes text from. -/
def ingredient? : Edit → Option Site
  | replacement _ ingredient | insertion _ ingredient => some ingredient
  | deletion _ => none

/-- An edit whose units are in the file with this path, in words. -/
def wordsIn (path : String) : Edit → String
  | replacement target ingredient =>
    "Replacement(" ++ (path ++ ":" ++ toString target.unit) ++ ", " ++
      (path ++ ":" ++ toString ingredient.unit) ++ ")"
  | insertion target ingredient =>
    "Insertion(" ++ (path ++ ":" ++ toString target.unit) ++ ", " ++
      (path ++ ":" ++ toString ingredient.unit) ++ ")"
  | deletion target => "Deletion(" ++ (path ++ ":" ++ toString target.unit) ++ ")"

/-- An edit in words, where the unit to change and the unit to take text from are in the files with
these paths. -/
def wordsFrom (path ingredientPath : String) : Edit → String
  | replacement target ingredient =>
    "Replacement(" ++ (path ++ ":" ++ toString target.unit) ++ ", " ++
      (ingredientPath ++ ":" ++ toString ingredient.unit) ++ ")"
  | insertion target ingredient =>
    "Insertion(" ++ (path ++ ":" ++ toString target.unit) ++ ", " ++
      (ingredientPath ++ ":" ++ toString ingredient.unit) ++ ")"
  | deletion target => "Deletion(" ++ (path ++ ":" ++ toString target.unit) ++ ")"

theorem wordsFrom_self (path : String) (e : Edit) : e.wordsFrom path path = e.wordsIn path := by
  cases e <;> rfl

/-- A slot to which the edit has brought a text. -/
def bring (e : Edit) (text : List Char) (slot : Slot) : Slot :=
  if e.isInsertion then { slot with before := slot.before ++ [text] }
  else { slot with body := text }

end Source.Edit

/-! ## Units -/

namespace Source.File

variable {f : File}

section Ingredient

variable {e : Edit} {s : Site}

theorem broughtText_of_ingredient (hs : e.ingredient? = some s) :
    f.broughtText e = f.transplanted s.unit e.target.unit := by
  cases e with
  | replacement target ingredient | insertion target ingredient =>
    obtain rfl := Option.some.inj hs
    rfl
  | deletion target => cases hs

/-- Whether an edit takes effect does not depend on the file that its ingredient is said to be in. -/
theorem effective_iff_of_ingredient {fileIndex : Nat} (hs : e.ingredient? = some s) :
    f.Effective fileIndex e ↔
      e.target.file = fileIndex ∧ e.target.unit < f.unitCount ∧ s.unit < f.unitCount := by
  cases e with
  | replacement target ingredient | insertion target ingredient =>
    obtain rfl := Option.some.inj hs
    rfl
  | deletion target => cases hs

/-- The renderer takes the ingredient from the file that it renders, whichever file the edit names.
An ingredient that is not there changes nothing. -/
theorem slots_concat_of_ingredient (hs : e.ingredient? = some s) {there : List Char}
    (hthere : f.unit? e.target.unit = some there) (before : List Edit) :
    f.slots e.target.file (before ++ [e]) =
      match f.unit? s.unit with
      | some text => (f.slots e.target.file before).modify e.target.unit
          (e.bring (fitted f.granularity there text))
      | none => f.slots e.target.file before := by
  have heffective : f.Effective e.target.file e ↔ _ := effective_iff_of_ingredient hs
  rw [slots_concat (length_slots _ _ _)]
  cases htext : f.unit? s.unit with
  | some text =>
    have hplace : f.place e = e.bring (fitted f.granularity there text) := by
      rw [← transplanted_eq_fitted htext hthere, ← broughtText_of_ingredient hs]
      rfl
    rw [if_pos (heffective.mpr ⟨rfl, lt_unitCount hthere, lt_unitCount htext⟩), hplace]
  | none =>
    have hmissing : ¬ s.unit < f.unitCount := Nat.not_lt.mpr (List.getElem?_eq_none_iff.mp htext)
    rw [if_neg fun h => hmissing (heffective.mp h).2.2]

end Ingredient

/-- Every unit of a file has its place among the pieces. -/
theorem IsSplit.mem_pieces (h : f.IsSplit) {u : Nat} (hu : u < f.unitCount) :
    .unit u ∈ f.split.pieces := by
  obtain ⟨path, g, text, hparsed⟩ := h.parsed
  obtain ⟨parts, hsplit, -, -⟩ := exists_parts_parse path g text
  have hpieces : f.split = Split.ofParts 0 parts := by
    rw [hparsed]
    exact hsplit
  -- the numbers of the pieces are those of the units, in order
  have hindex : u ∈ f.split.pieces.filterMap Piece.index? := by
    rw [hpieces, Split.indices_ofParts, List.mem_range'_1]
    rw [unitCount, hpieces] at hu
    omega
  obtain ⟨piece, hpiece, hpieceIndex⟩ := List.mem_filterMap.mp hindex
  cases piece with
  | fixed line => cases hpieceIndex
  | unit v =>
    cases hpieceIndex
    exact hpiece

end Source.File

namespace Project

open Source Source.File

variable {p : Project} {e : Edit} {f : File}

/-- All units that the edit names are there, and they are in one file. -/
structure WellFormed (p : Project) (e : Edit) : Prop where
  file : e.target.file < p.files.length
  target : e.target.unit < p.files[e.target.file].unitCount
  ingredient : ∀ s, e.ingredient? = some s →
    s.file = e.target.file ∧ s.unit < p.files[e.target.file].unitCount

/-- A well-formed edit is effective on its file. -/
theorem WellFormed.exists_effective (h : p.WellFormed e) :
    ∃ f, p.files[e.target.file]? = some f ∧ f.Effective e.target.file e ∧
      e.target.unit < f.unitCount ∧
      ∀ s, e.ingredient? = some s → s.file = e.target.file ∧ s.unit < f.unitCount := by
  refine ⟨_, List.getElem?_eq_getElem h.file, ?_, h.target, h.ingredient⟩
  cases e with
  | replacement target ingredient | insertion target ingredient =>
    exact ⟨rfl, h.target, (h.ingredient ingredient rfl).2⟩
  | deletion target => exact ⟨rfl, h.target⟩

theorem describeSite_eq {s : Site} (h : p.files[s.file]? = some f) :
    p.describeSite s = .ok (f.path ++ ":" ++ toString s.unit) := by
  rw [describeSite, h]

/-- The words for an edit look both of its files up. -/
theorem describe_eq_wordsFrom {g : File} (htarget : p.files[e.target.file]? = some f)
    (hingredient : ∀ s, e.ingredient? = some s → p.files[s.file]? = some g) :
    p.describe e = .ok (e.wordsFrom f.path g.path) := by
  cases e with
  | replacement target ingredient | insertion target ingredient =>
    rw [describe, describeSite_eq (s := target) htarget,
      describeSite_eq (hingredient ingredient rfl)]
    rfl
  | deletion target =>
    rw [describe, describeSite_eq (s := target) htarget]
    rfl

/-- There are words for an edit whose units are in a file of the project. -/
theorem describe_eq (htarget : p.files[e.target.file]? = some f)
    (hingredient : ∀ s, e.ingredient? = some s → s.file = e.target.file) :
    p.describe e = .ok (e.wordsIn f.path) := by
  rw [← Edit.wordsFrom_self]
  refine describe_eq_wordsFrom htarget fun s hs => ?_
  rw [hingredient s hs]
  exact htarget

theorem WellFormed.exists_words (h : p.WellFormed e) : ∃ words, p.describe e = .ok words := by
  obtain ⟨f, hf, -, -, hingredient⟩ := h.exists_effective
  exact ⟨_, describe_eq hf fun s hs => (hingredient s hs).1⟩

/-! ## Rendering -/

/-- After the edits `before`, the renderer does to the file `f` what the words for the edit say. -/
structure Applies (p : Project) (f : File) (before : List Edit) (e : Edit) : Prop where
  file : p.files[e.target.file]? = some f
  words : p.describe e = .ok (e.wordsIn f.path)
  /-- The text that is moved is that of the unit in the words. -/
  ingredient : ∀ s, e.ingredient? = some s → p.files[s.file]? = some f ∧
    f.unit? s.unit = some (f.unitText s.unit) ∧
    f.transplant? s.unit e.target.unit = some (f.transplanted s.unit e.target.unit) ∧
    f.broughtText e = f.transplanted s.unit e.target.unit
  /-- The target has a slot, and it is the one that changes. -/
  slot : e.target.unit < (f.slots e.target.file before).length ∧
    f.slots e.target.file (before ++ [e]) =
      (f.slots e.target.file before).modify e.target.unit (f.place e)
  /-- The slot stands in the rendered file. -/
  shown : .unit e.target.unit ∈ f.split.pieces

theorem WellFormed.applies (h : p.WellFormed e) (hp : ∀ f ∈ p.files, f.IsSplit)
    (before : List Edit) : ∃ f, p.Applies f before e := by
  obtain ⟨f, hf, heffective, htarget, hingredient⟩ := h.exists_effective
  have hlength : (f.slots e.target.file before).length = f.unitCount := length_slots _ _ _
  -- the words and the renderer look the units up in the same file
  refine ⟨f, hf, describe_eq hf fun s hs => (hingredient s hs).1, ?_, ⟨hlength ▸ htarget, ?_⟩,
    (hp f (List.mem_of_getElem? hf)).mem_pieces htarget⟩
  · intro s hs
    obtain ⟨hfile, hunit⟩ := hingredient s hs
    exact ⟨hfile ▸ hf, unit?_eq_some hunit, transplant?_eq_some hunit htarget,
      broughtText_of_ingredient hs⟩
  · rw [slots_concat hlength, if_pos heffective]

/-! ## Patches -/

/-- The edits of the patch are well formed, and the renderer takes over one after the other. -/
structure TakesOver (p : Project) (patch : Patch Edit) : Prop where
  wellFormed : patch.All p.WellFormed
  applies : ∀ before e after, patch.edits = before ++ e :: after → ∃ f, p.Applies f before e

theorem takesOver_of_wellFormed (hp : ∀ f ∈ p.files, f.IsSplit) {patch : Patch Edit}
    (h : patch.All p.WellFormed) : p.TakesOver patch where
  wellFormed := h
  applies before e after hedits := by
    have he : e ∈ patch.edits := by
      rw [hedits]
      exact List.mem_append_right _ List.mem_cons_self
    exact (h e he).applies hp before

/-! ## The edits that a project makes -/

theorem wellFormed_ofOperator {op : EditOperator} {i u v : Nat} (hf : p.files[i]? = some f)
    (hu : u < f.unitCount) (hv : v < f.unitCount) :
    p.WellFormed (.ofOperator op ⟨i, u⟩ ⟨i, v⟩) := by
  obtain ⟨hi, rfl⟩ := List.getElem?_eq_some_iff.mp hf
  cases op with
  | replacement | insertion =>
    refine ⟨hi, hu, ?_⟩
    rintro _ ⟨⟩
    exact ⟨rfl, hv⟩
  | deletion =>
    refine ⟨hi, hu, ?_⟩
    rintro _ ⟨⟩

end Project

/-- The program makes and shows edits as the project does; how it evaluates them is its own. -/
structure Program.IsOf {σ : Type} (program : Program Source.Edit σ) (p : Project) : Prop where
  createEdit : program.createEdit = p.createEdit
  diff : program.diff = p.diff
  describe : program.describe = p.describe

namespace Project

open Source

variable {p : Project} {σ : Type} {program : Program Edit σ}

theorem isOf_program (execute : Executor) (p : Project) : (p.program execute).IsOf p :=
  ⟨rfl, rfl, rfl⟩

/-- All edits that a project makes are well formed. -/
theorem makes_wellFormed (hprogram : program.IsOf p) (hp : ∀ f ∈ p.files, f.IsSplit) :
    program.Makes p.WellFormed := by
  intro op s edit s' hedit
  rw [hprogram.createEdit] at hedit
  obtain ⟨i, f, u, v, hf, hu, hv, rfl⟩ := createEdit_ok hp hedit
  exact wellFormed_ofOperator hf hu hv

theorem creates (hprogram : program.IsOf p) (hweights : p.FiniteWeights) : program.Creates := by
  intro op method s
  rw [hprogram.createEdit]
  exact exists_createEdit hweights op method s

theorem creates_of_no_units (hprogram : program.IsOf p)
    (hunits : ∀ f ∈ p.files, f.unitCount = 0) : program.Creates := by
  intro op method s
  rw [hprogram.createEdit]
  exact ⟨_, createEdit_of_no_units hunits op method s⟩

theorem makes_nothing (hprogram : program.IsOf p) (hunits : ∀ f ∈ p.files, f.unitCount = 0) :
    program.Makes fun _ => False := by
  intro op s edit s' hedit
  rw [hprogram.createEdit, createEdit_of_no_units hunits] at hedit
  cases hedit

/-! ## Searches -/

section Searches

open Search Epoch

variable {search : Search Edit σ}

/-- An evaluation faults only if its command does. -/
theorem gives_evaluate {execute : Executor} {timeout : Duration}
    (hexecute : ∀ command cwd here disk, ∃ r, execute command cwd timeout here disk = .ok r)
    (p : Project) (slot : Nat) (patch : Patch Edit) :
    Run.Gives (p.evaluate execute slot patch timeout) fun _ => True := by
  intro w
  cases hvariant : p.materialize slot patch w with
  | mk r v =>
    cases r with
    | error e =>
      obtain ⟨cause, hinvalid⟩ : ∃ cause, p.evaluate execute slot patch timeout w =
          .ok (.ofInvalid cause, v) := evaluate_of_materialize_error hvariant
      exact ⟨_, _, hinvalid, trivial⟩
    | ok dir =>
      obtain ⟨⟨r, disk⟩, hr⟩ := hexecute p.testCommand dir v.cwd v.disk
      rw [evaluate_of_materialize_ok hvariant, runTests, hr]
      cases r with
      | ok out => exact ⟨_, _, rfl, trivial⟩
      | error e => exact ⟨_, _, rfl, trivial⟩

/-- A search over a project faults only for want of room, of time, or in a command. -/
theorem unfailing {execute : Executor} {config : SearchConfig} (hp : p.SetUp)
    (hweights : p.FiniteWeights)
    (hexecute : ∀ timeout, config.timeout = .ok timeout → ∀ command cwd here disk, ∃ r,
      execute command cwd timeout here disk = .ok r)
    (hwarmup : reserve config.warmupReps 8 = .ok ())
    (hepoch : config.parallelEpochs = false → reserve config.epoch resultSize = .ok ())
    (htimeout : ∃ timeout, config.timeout = .ok timeout) (seed : UInt64) (stream : Stream) :
    (⟨p.program execute, config, seed, stream⟩ : Search Edit Workspace).Unfailing p.WellFormed where
  warmupRoom := hwarmup
  epochRoom := hepoch
  timeout := htimeout
  evaluate timeout htimeout patch := gives_evaluate (hexecute timeout htimeout) p 0 patch
  creates := creates (isOf_program execute p) hweights
  makes := makes_wellFormed (isOf_program execute p) hp.isSplit
  describe _ hedit := hedit.exists_words

/-- Searches over projects. The project is one that was read and given weights, and the search runs
with any operators, random numbers and length, in any world. Then edits are made without a fault
unless the weights of a file add up to infinity; every patch that the search evaluates or reports is
well formed and taken over edit by edit, as the words for it say; and there are words for it. If no
file has a unit, only the unchanged project is evaluated, for the baseline, and every epoch ends,
with no evaluation and nothing to report. -/
theorem search_edits_take_effect (search : Search Edit σ) (observer : Observer σ) (hp : p.SetUp)
    (hprogram : search.program.IsOf p) :
    (p.FiniteWeights → search.program.Creates) ∧
    (∀ patch, MayEvaluate search observer patch → p.TakesOver patch) ∧
    (∀ report, MayReport search observer report → ∀ r ∈ report.epochs, ∃ best, p.TakesOver best ∧
      best.edits.mapM p.describe = .ok r.bestPatch ∧ r.diff = p.diff best) ∧
    (∀ original k seen s ending,
      Reachable (search.context observer original) search.seed k seen (.ended s ending) →
      p.TakesOver s.best ∧ ∃ r, result (search.context observer original) k s ending = .ok r) ∧
    ((∀ f ∈ p.files, f.unitCount = 0) →
      (∀ patch, MayEvaluate search observer patch → patch = .empty) ∧
      (∀ report, MayReport search observer report → ∀ r ∈ report.epochs, r.IsIdle) ∧
      ∀ timeout, search.config.timeout = .ok timeout → ∀ original k stream w, ∃ r stream' w',
        Epoch.run (search.context observer original) k stream w = .ok ((r, stream'), w') ∧
          r.IsIdle) := by
  have hmakes := makes_wellFormed hprogram hp.isSplit
  refine ⟨creates hprogram, ?_, ?_, ?_, ?_⟩
  · intro patch hpatch
    exact takesOver_of_wellFormed hp.isSplit (hpatch.all hmakes)
  · intro report hreport r hr
    obtain ⟨best, hbest, hwords, hdiff⟩ := hreport.showsAll hmakes r hr
    rw [hprogram.describe] at hwords
    rw [hprogram.diff] at hdiff
    exact ⟨best, takesOver_of_wellFormed hp.isSplit hbest, hwords, hdiff⟩
  · intro original k seen s ending hreachable
    refine ⟨takesOver_of_wellFormed hp.isSplit (hreachable.all hmakes).1,
      hreachable.exists_result hmakes fun e he => ?_⟩
    change ∃ words, search.program.describe e = .ok words
    rw [hprogram.describe]
    exact he.exists_words
  · intro hunits
    have hnothing := makes_nothing hprogram hunits
    refine ⟨fun patch hpatch => Patch.eq_empty_of_all (hpatch.all hnothing),
      fun report hreport => hreport.idle hnothing, fun timeout htimeout original k stream w => ?_⟩
    exact exists_idle_run hnothing (creates_of_no_units hprogram hunits) htimeout k stream w

end Searches

/-! ### A file with units and one without -/

section TwoFiles

open Search Epoch

/-- A workspace without a scratch directory, in which every variant is invalid. -/
def twoFiles : Workspace :=
  workspaceWith [(["project", "target"], fileOf "a\nb\n"), (["project", "none"], fileOf "")]

/-- A project that only changes the second line of its first file. -/
def weightedProject : Project :=
  ⟨"project", "true", .exitCode,
    [{ File.parse "target" .line "a\nb\n".toList with weights := [.zero, .one] },
      .parse "none" .line []]⟩

/-- A project with nothing to edit. -/
def blankProject : Project := ⟨"project", "true", .exitCode, [.parse "none" .line []]⟩

theorem setUp_weightedProject : weightedProject.SetUp := by
  obtain ⟨p, hload⟩ : ∃ p, p = Project.mk "project" "true" .exitCode
    [.parse "target" .line "a\nb\n".toList, .parse "none" .line []] := ⟨_, rfl⟩
  have hread : (load twoFiles.disk [] (programOf ["target", "none"])).toOption = some p := by
    rw [hload]
    decide +kernel
  have hweights : (p.setWeights "target" [.zero, .one]).toOption = some weightedProject := by
    rw [hload]
    decide +kernel
  exact .weighted (.loaded (Disk.ok_of_toOption hread)) (Disk.ok_of_toOption hweights)

theorem setUp_blankProject : blankProject.SetUp := by
  have hload : (load twoFiles.disk [] (programOf ["none"])).toOption = some blankProject := by
    decide +kernel
  exact .loaded (Disk.ok_of_toOption hload)

/-- A single replacement. -/
def onceReplacing : SearchConfig := ⟨1, 1, 1, .one, [.replacement], none, false⟩

theorem exists_timeout_onceReplacing : ∃ timeout, onceReplacing.timeout = .ok timeout :=
  Duration.exists_ofSeconds rfl rfl (by decide +kernel)

/-- No command can be run. -/
def broken : Executor := fun _ _ _ _ disk => .ok (.error .notFound, disk)

def replacing (p : Project) : Search Edit Workspace :=
  ⟨p.program broken, onceReplacing, 0, .ofSeed 0⟩

/-- Nobody watches. -/
def unwatched : Observer Workspace := ⟨fun _ w => w, fun _ => false⟩

/-- The second line is replaced by the first one. -/
def doubling : Patch Edit := ⟨[.replacement ⟨0, 1⟩ ⟨0, 0⟩]⟩

theorem draws_doubling : ∃ stream,
    drawCandidate (weightedProject.program broken) [.replacement] .empty (.ofSeed 0) =
      .ok (some doubling, stream) := by
  have hdrawn : (drawCandidate (weightedProject.program broken)
      [.replacement] .empty (.ofSeed 0)).toOption.bind (·.1) = some doubling := by
    decide +kernel
  obtain ⟨⟨candidate, stream⟩, hcandidate, hfound⟩ := Option.bind_eq_some_iff.mp hdrawn
  obtain rfl : candidate = some doubling := hfound
  exact ⟨stream, Disk.ok_of_toOption hcandidate⟩

/-- No variant can be prepared, so every patch is found to be invalid. -/
theorem mayEvaluate_doubling : MayEvaluate (replacing weightedProject) unwatched doubling := by
  obtain ⟨timeout, htimeout⟩ := exists_timeout_onceReplacing
  obtain ⟨stream, hcandidate⟩ := draws_doubling
  obtain ⟨e, hinvalid⟩ : ∃ e, ∀ patch,
      (weightedProject.program broken).evaluate patch timeout twoFiles = .ok (e, twoFiles) :=
    ⟨_, fun _ => rfl⟩
  have hwarm : Journey (replacing weightedProject) unwatched .start _ (.warm 0 1 [] e) :=
    (Journey.step (.stay .start) (.reserves (w := twoFiles) rfl)).step
      (.evaluates htimeout (hinvalid .empty))
  obtain ⟨original, moves, hbaseline⟩ : ∃ original moves,
      Journey (replacing weightedProject) unwatched .start moves
        (.epochs original [] (.ofSeed 0)) :=
    ⟨_, _, (hwarm.step (.hears (w := twoFiles))).step (.settles (w := twoFiles) rfl)⟩
  have hdraw : Draws ((replacing weightedProject).context unwatched original)
      (Epoch.start original (.ofSeed 0)) _ :=
    .of_fresh hcandidate (Tabu.contains_empty _)
  have hdrawn : Journey (replacing weightedProject) unwatched .start _ _ :=
    (hbaseline.step (.opens (w := twoFiles) Nat.one_pos rfl htimeout)).step
      (.within (w := twoFiles) (.draws rfl hdraw rfl) rfl)
  have hevaluated : Journey (replacing weightedProject) unwatched .start _ _ :=
    hdrawn.step (.within (.evaluates (hinvalid doubling)) rfl)
  refine .inTurn hevaluated (e := e) ?_
  rw [sightingsOf_append]
  exact List.mem_append_right _ (List.mem_singleton_self _)

/-- The search over the first project evaluates a replacement that is taken over, and comes to a
report; an epoch over the second one ends without an evaluation. -/
theorem doubling_takes_effect :
    weightedProject.SetUp ∧ weightedProject.FiniteWeights ∧
    MayEvaluate (replacing weightedProject) unwatched doubling ∧
    weightedProject.TakesOver doubling ∧
    (∃ report search' w', (replacing weightedProject).run unwatched twoFiles =
        .ok ((report, search'), w') ∧
      ∀ r ∈ report.epochs, ∃ best, weightedProject.TakesOver best ∧
        best.edits.mapM weightedProject.describe = .ok r.bestPatch ∧
        r.diff = weightedProject.diff best) ∧
    blankProject.SetUp ∧
    ∃ r stream w, Epoch.run ((replacing blankProject).context unwatched none) 1 (.ofSeed 0)
      twoFiles = .ok ((r, stream), w) ∧ r.IsIdle := by
  have hweights : weightedProject.FiniteWeights := by
    unfold FiniteWeights
    decide +kernel
  have hbroken : ∀ timeout, onceReplacing.timeout = .ok timeout → ∀ command cwd here disk, ∃ r,
      broken command cwd timeout here disk = .ok r := fun _ _ _ _ _ _ => ⟨_, rfl⟩
  have hunfailing : (replacing weightedProject).Unfailing weightedProject.WellFormed :=
    unfailing setUp_weightedProject hweights hbroken rfl (fun _ => rfl)
      exists_timeout_onceReplacing 0 (.ofSeed 0)
  obtain ⟨timeout, htimeout⟩ := exists_timeout_onceReplacing
  obtain ⟨-, hevaluated, hreported, -⟩ := search_edits_take_effect (replacing weightedProject)
    unwatched setUp_weightedProject (isOf_program broken _)
  obtain ⟨-, -, -, -, hblank⟩ := search_edits_take_effect (replacing blankProject) unwatched
    setUp_blankProject (isOf_program broken _)
  obtain ⟨-, -, hidle⟩ := hblank (List.forall_mem_singleton.mpr (by decide +kernel))
  obtain ⟨⟨report, search'⟩, w', hrun, -⟩ := hunfailing.gives_run unwatched twoFiles
  exact ⟨setUp_weightedProject, hweights, mayEvaluate_doubling,
    hevaluated _ mayEvaluate_doubling, ⟨report, search', w', hrun, hreported _ (.alone hrun)⟩,
    setUp_blankProject, hidle timeout htimeout none 1 (.ofSeed 0) twoFiles⟩

end TwoFiles

/-! ## Ingredients of other files -/

/-- The words for an edit and the renderer, where target and ingredient are units of the project.
The words name both files. The renderer changes the slot of the target, but by the number of the
ingredient alone: what it brings there is the target file's own unit with this number, and if there
is none it leaves the file as it was. So it brings the text that the words name if the ingredient is
in the target's file. -/
theorem rendered_ingredient (hp : p.SetUp) {e : Edit} {s : Site} {f g : File}
    {there text : List Char} (hs : e.ingredient? = some s)
    (hf : p.files[e.target.file]? = some f) (hthere : f.unit? e.target.unit = some there)
    (hg : p.files[s.file]? = some g) (htext : g.unit? s.unit = some text) (before : List Edit) :
    p.describe e = .ok (e.wordsFrom f.path g.path) ∧
    (p.render ⟨before ++ [e]⟩)[e.target.file]? = some (f.render e.target.file (before ++ [e])) ∧
    .unit e.target.unit ∈ f.split.pieces ∧
    e.target.unit < (f.slots e.target.file before).length ∧
    (s.file = e.target.file → f.slots e.target.file (before ++ [e]) =
      (f.slots e.target.file before).modify e.target.unit
        (e.bring (fitted f.granularity there text))) ∧
    (∀ own, f.unit? s.unit = some own → f.slots e.target.file (before ++ [e]) =
      (f.slots e.target.file before).modify e.target.unit
        (e.bring (fitted f.granularity there own))) ∧
    (f.unit? s.unit = none →
      f.slots e.target.file (before ++ [e]) = f.slots e.target.file before) := by
  have htarget : e.target.unit < f.unitCount := File.lt_unitCount hthere
  have hslots := File.slots_concat_of_ingredient hs hthere before
  have hwords : p.describe e = .ok (e.wordsFrom f.path g.path) := by
    refine describe_eq_wordsFrom hf fun s' hs' => ?_
    rw [← Option.some.inj (hs.symm.trans hs')]
    exact hg
  refine ⟨hwords, ?_, (hp.isSplit f (List.mem_of_getElem? hf)).mem_pieces htarget, ?_, ?_, ?_, ?_⟩
  · rw [render, List.getElem?_mapIdx, hf, Option.map_some]
  · rw [File.length_slots]
    exact htarget
  · intro hsame
    -- both paths look the unit up in one file
    obtain rfl : f = g := by
      rw [hsame, hf] at hg
      exact Option.some.inj hg
    rw [hslots, htext]
  · intro own hown
    rw [hslots, hown]
  · intro hnone
    rw [hslots, hnone]

/-- A project with two files. -/
def pairProject : Project :=
  ⟨"project", "true", .exitCode,
    [.parse "a" .statement "if x:\n    f()\ne()\n".toList,
      .parse "b" .statement "if y:\n    g()\nh()\n".toList]⟩

theorem setUp_pairProject : pairProject.SetUp := by
  have hload : (load (workspaceWith [(["project", "a"], fileOf "if x:\n    f()\ne()\n"),
      (["project", "b"], fileOf "if y:\n    g()\nh()\n")]).disk []
      { programOf ["a", "b"] with granularity := .statement }).toOption = some pairProject := by
    decide +kernel
  exact .loaded (Disk.ok_of_toOption hload)

/-- A unit is inserted in front of another one of its file, and stands at its indentation. -/
theorem rendered_ingredient_of_insertion :
    let f := File.parse "b" .statement "if y:\n    g()\nh()\n".toList
    pairProject.SetUp ∧ pairProject.files[1]? = some f ∧
      pairProject.describe (.insertion ⟨1, 1⟩ ⟨1, 2⟩) = .ok "Insertion(b:1, b:2)" ∧
      f.slots 1 [.deletion ⟨1, 1⟩, .insertion ⟨1, 1⟩ ⟨1, 2⟩] =
        (f.slots 1 [.deletion ⟨1, 1⟩]).modify 1
          (Edit.bring (.insertion ⟨1, 1⟩ ⟨1, 2⟩) "    h()".toList) ∧
      pairProject.render ⟨[.deletion ⟨1, 1⟩, .insertion ⟨1, 1⟩ ⟨1, 2⟩]⟩ =
        ["if x:\n    f()\ne()\n".toList, "if y:\n    h()\n    pass\nh()\n".toList] := by
  intro f
  have hf : pairProject.files[1]? = some f := rfl
  have hthere : f.unit? 1 = some "    g()".toList := by decide +kernel
  have htext : f.unit? 2 = some "h()".toList := by decide +kernel
  have hfitted : fitted f.granularity "    g()".toList "h()".toList = "    h()".toList := by
    decide +kernel
  obtain ⟨hwords, -, -, -, hslots, -⟩ := rendered_ingredient setUp_pairProject
    (e := .insertion ⟨1, 1⟩ ⟨1, 2⟩) rfl hf hthere hf htext [.deletion ⟨1, 1⟩]
  exact ⟨setUp_pairProject, hf, hwords, hfitted ▸ hslots rfl, by decide +kernel⟩

/-- The words say `h()` of the second file, and the renderer brings `e()` of the first one. -/
theorem ingredient_of_other_file_is_ignored :
    pairProject.SetUp ∧
    (∃ g, pairProject.files[1]? = some g ∧ g.unit? 2 = some "h()".toList) ∧
    pairProject.describe (.replacement ⟨0, 1⟩ ⟨1, 2⟩) = .ok "Replacement(a:1, b:2)" ∧
    pairProject.render ⟨[.replacement ⟨0, 1⟩ ⟨1, 2⟩]⟩ =
      ["if x:\n    e()\ne()\n".toList, "if y:\n    g()\nh()\n".toList] :=
  ⟨setUp_pairProject, ⟨_, rfl, by decide +kernel⟩, by decide +kernel, by decide +kernel⟩

end Project

end ProgramRepair
