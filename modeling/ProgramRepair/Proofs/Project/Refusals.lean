import ProgramRepair.CommandLine
import ProgramRepair.Proofs.Project.Limits

/-!
# Runs that never begin

Whatever is wrong with a configuration or with the files that it names is an obstacle to a run.
`RepairConfig.obstacles` lists all of them, in the order in which a run comes across them. A run
checks some of them in several places, but it always stops at the first one, before it has changed
anything and before anybody was called. Main statements:

* `failsFirst_setUp`: setting a run up fails with its first obstacle;
* `Repair.runWith_of_obstacles`, `Repair.runWith_of_clear`: what a run does with and without them;
* `Repair.run_stops_at_first_obstacle`: a run that is refused has had no effect, and resolving a
  configuration before a run makes no difference.
-/

namespace ProgramRepair

/-! ## The first fault of a computation -/

section FailsFirst

variable {α β ε ε' : Type} {x : Except ε α} {faults faults' : List ε} {e : ε}

/-- A computation fails with the first of the faults, and succeeds if there are none. -/
def FailsFirst (x : Except ε α) (faults : List ε) : Prop :=
  ∀ e, x = .error e ↔ faults.head? = some e

theorem failsFirst_ok (a : α) : FailsFirst (.ok a : Except ε α) [] := by
  intro e
  constructor
  · nofun
  · nofun

theorem failsFirst_error (e : ε) : FailsFirst (.error e : Except ε α) [e] := by
  intro e'
  constructor
  · rintro ⟨⟩
    rfl
  · rintro ⟨⟩
    rfl

theorem FailsFirst.exists_ok (h : FailsFirst x []) : ∃ a, x = .ok a := by
  cases x with
  | error e => cases (h e).mp rfl
  | ok a => exact ⟨a, rfl⟩

theorem FailsFirst.eq_nil {a : α} (h : FailsFirst (.ok a) faults) : faults = [] := by
  cases faults with
  | nil => rfl
  | cons e rest => cases (h e).mpr rfl

/-- The faults of a second part count only if the first part has none. -/
theorem FailsFirst.bind {f : α → Except ε β} (h : FailsFirst x faults)
    (hf : ∀ a, x = .ok a → FailsFirst (f a) faults') :
    FailsFirst (x >>= f) (faults ++ faults') := by
  cases hx : x with
  | ok a =>
    rw [hx] at h
    obtain rfl := h.eq_nil
    exact hf a hx
  | error e =>
    intro e'
    have hhead : (faults ++ faults').head? = some e := by
      rw [List.head?_append, (h e).mp hx]
      rfl
    rw [hhead]
    exact (failsFirst_error e : FailsFirst (.error e : Except ε β) [e]) e'

theorem FailsFirst.map (h : FailsFirst x faults) (g : α → β) :
    FailsFirst (x >>= fun a => pure (g a)) faults := by
  have hboth : FailsFirst (x >>= fun a => pure (g a)) (faults ++ []) :=
    h.bind fun a _ => failsFirst_ok (g a)
  rw [List.append_nil] at hboth
  exact hboth

theorem FailsFirst.mapError (h : FailsFirst x faults) (g : ε → ε') :
    FailsFirst (x.mapError g) (faults.map g) := by
  cases x with
  | ok a =>
    obtain rfl := h.eq_nil
    exact failsFirst_ok a
  | error e =>
    intro e'
    rw [List.head?_map, (h e).mp rfl]
    exact (failsFirst_error (g e) : FailsFirst (.error (g e) : Except ε' α) [g e]) e'

/-- The fault of a check, if it has one. -/
def faultIf (p : Prop) [Decidable p] (e : ε) : List ε := if p then [e] else []

theorem FailsFirst.check {p : Prop} [Decidable p] (h : ¬ p → FailsFirst x faults) :
    FailsFirst (if p then .error e else x) (faultIf p e ++ faults) := by
  unfold faultIf
  by_cases hp : p
  · rw [if_pos hp, if_pos hp]
    intro e'
    exact (failsFirst_error e : FailsFirst (.error e : Except ε α) [e]) e'
  · rw [if_neg hp, if_neg hp]
    exact h hp

/-- The fault of a computation, if it fails. -/
def failure? : Except ε α → Option ε
  | .error e => some e
  | .ok _ => none

/-- A list is worked through up to the first member that cannot be worked on. -/
theorem failsFirst_mapM (f : α → Except ε β) (l : List α) :
    FailsFirst (l.mapM f) (l.filterMap fun a => failure? (f a)) := by
  induction l with
  | nil => exact failsFirst_ok []
  | cons a l ih =>
    have hfirst : FailsFirst (f a) (failure? (f a)).toList := by
      cases f a with
      | error e => exact failsFirst_error e
      | ok b => exact failsFirst_ok b
    have hsplit : ((a :: l).filterMap fun a => failure? (f a)) =
        (failure? (f a)).toList ++ l.filterMap fun a => failure? (f a) := by
      rw [List.filterMap_cons]
      cases failure? (f a) with
      | none => rfl
      | some e => rfl
    rw [List.mapM_cons, hsplit]
    refine hfirst.bind ?_
    intro b _
    exact ih.map (b :: ·)

end FailsFirst

/-! ## What can be wrong -/

/-- The members of a list that were there before, once for each time that they come again. -/
def repetitions {α : Type} [DecidableEq α] (l : List α) : List α :=
  (l.zipIdx.filter fun (a, i) => a ∈ l.take i).map (·.1)

def ProgramConfig.flaws (c : ProgramConfig) : List ConfigError :=
  faultIf (Text.trim c.testCommand.toList = []) .missingTestCommand ++
  faultIf (c.targetFiles = []) .noTargetFiles

def SearchConfig.flaws (c : SearchConfig) : List ConfigError :=
  faultIf (c.epoch = 0) .invalidEpoch ++
  (faultIf (c.maxIter = 0) .invalidMaxIter ++
  (faultIf (¬ (c.timeoutSecs.isFinite = true ∧ Binary64.zero.lt c.timeoutSecs = true))
    (.invalidTimeout c.timeoutSecs) ++
  (faultIf (c.operators = []) .noOperators ++
  (repetitions c.operators).map .duplicateOperator)))

/-- The target files that cannot be read, in the order in which they are listed. -/
def ProgramConfig.unreadable (d : Disk) (cwd : Place) (c : ProgramConfig) : List ProgramError :=
  c.targetFiles.filterMap fun relative =>
    let path := Disk.join c.projectPath relative
    (failure? (d.readText cwd path)).map (.readTarget path)

/-- All obstacles to a run, in the order of its checks: its target file cannot be loaded, the
program or the search has flaws, or target files cannot be read. Nothing is known of the others as
long as the target file is not loaded. -/
def RepairConfig.obstacles (d : Disk) (cwd : Place) (c : RepairConfig) : List RepairError :=
  match c.resolve d cwd with
  | .error e => [.config e]
  | .ok c =>
    (c.program.flaws ++ c.search.flaws).map .config ++ (c.program.unreadable d cwd).map .program

/-! ## Checks -/

section Checks

variable {α : Type} [DecidableEq α] {d : Disk} {cwd : Place}

/-- The members that were passed are known in the reverse of their order. -/
theorem head?_repetitions_from (before l : List α) :
    (((l.zipIdx before.length).filter fun (a, i) =>
      a ∈ (before.reverse ++ l).take i).map (·.1)).head? = firstRepeated before l := by
  induction l generalizing before with
  | nil => rfl
  | cons a l ih =>
    have htake : (before.reverse ++ a :: l).take before.length = before.reverse := by
      rw [List.take_append_of_le_length (by simp), List.take_of_length_le (by simp)]
    have hnext : before.reverse ++ a :: l = (a :: before).reverse ++ l := by simp
    rw [List.zipIdx_cons, List.filter_cons, firstRepeated]
    simp only [htake, List.mem_reverse, decide_eq_true_eq]
    by_cases ha : a ∈ before
    · rw [if_pos ha, if_pos ha, List.map_cons, List.head?_cons]
    · rw [if_neg ha, if_neg ha, hnext]
      exact ih (a :: before)

theorem head?_repetitions (l : List α) : (repetitions l).head? = firstRepeated [] l :=
  head?_repetitions_from [] l

theorem ProgramConfig.failsFirst_validate (c : ProgramConfig) :
    FailsFirst c.validate c.flaws := by
  have hfiles : FailsFirst (if c.targetFiles = [] then .error .noTargetFiles else .ok ())
      (faultIf (c.targetFiles = []) ConfigError.noTargetFiles ++ []) :=
    FailsFirst.check fun _ => failsFirst_ok ()
  rw [List.append_nil] at hfiles
  exact FailsFirst.check fun _ => hfiles

theorem SearchConfig.failsFirst_validate (c : SearchConfig) : FailsFirst c.validate c.flaws := by
  have htimeout : (!(c.timeoutSecs.isFinite && Binary64.zero.lt c.timeoutSecs)) = true ↔
      ¬ (c.timeoutSecs.isFinite = true ∧ Binary64.zero.lt c.timeoutSecs = true) := by
    rw [Bool.not_eq_true', ← Bool.not_eq_true, Bool.and_eq_true]
  unfold validate
  simp only [htimeout]
  refine .check fun _ => .check fun _ => .check fun _ => .check fun _ => ?_
  intro e
  rw [List.head?_map, head?_repetitions]
  cases firstRepeated [] c.operators with
  | none => exact failsFirst_ok () e
  | some op => exact failsFirst_error (ConfigError.duplicateOperator op) e

theorem RepairConfig.failsFirst_validate (c : RepairConfig) :
    FailsFirst c.validate (c.program.flaws ++ c.search.flaws) :=
  c.program.failsFirst_validate.bind fun _ _ => c.search.failsFirst_validate

/-- The program is checked once more before its target files are read, but only unreadable files
are left to find by then. -/
theorem Project.failsFirst_load {c : ProgramConfig} (hvalid : c.validate = .ok ()) :
    FailsFirst (Project.load d cwd c) (c.unreadable d cwd) := by
  have hfiles := failsFirst_mapM (fun relative => do
    let path := Disk.join c.projectPath relative
    let source ← (d.readText cwd path).mapError (ProgramError.readTarget path)
    return Source.File.parse relative c.granularity source.toList) c.targetFiles
  have hunreadable : (c.targetFiles.filterMap fun relative => failure? (do
      let path := Disk.join c.projectPath relative
      let source ← (d.readText cwd path).mapError (ProgramError.readTarget path)
      return Source.File.parse relative c.granularity source.toList)) = c.unreadable d cwd := by
    unfold ProgramConfig.unreadable
    congr 1
    funext relative
    dsimp only
    cases d.readText cwd (Disk.join c.projectPath relative) with
    | error cause => rfl
    | ok source => rfl
  rw [hunreadable] at hfiles
  unfold Project.load
  rw [hvalid]
  exact hfiles.map (Project.mk c.projectPath c.testCommand c.classifier)

/-- Setting a run up fails with its first obstacle, and without one it succeeds. -/
theorem Repair.failsFirst_setUp (d : Disk) (cwd : Place) (c : RepairConfig) :
    FailsFirst (Repair.setUp d cwd c) (c.obstacles d cwd) := by
  unfold Repair.setUp RepairConfig.obstacles
  cases c.resolve d cwd with
  | error e => exact failsFirst_error _
  | ok c' =>
    have hvalidate := c'.failsFirst_validate.mapError RepairError.config
    refine hvalidate.bind ?_
    intro u hok
    -- the program was accepted here, so loading it does not refuse it
    have hprogram : c'.program.validate = .ok () := by
      cases hvalid : c'.program.validate with
      | ok u => rfl
      | error e =>
        unfold RepairConfig.validate at hok
        rw [hvalid] at hok
        cases hok
    have hload : FailsFirst (Project.load d cwd c'.program) (c'.program.unreadable d cwd) :=
      Project.failsFirst_load hprogram
    exact (hload.mapError RepairError.program).map fun project => (project, c'.search)

/-- The settings of a run that is set up were accepted. -/
theorem Repair.validate_of_setUp {c : RepairConfig} {project : Project} {settings : SearchConfig}
    (h : Repair.setUp d cwd c = .ok (project, settings)) : settings.validate = .ok () := by
  obtain ⟨c', -, h⟩ := Disk.bind_eq_ok.mp h
  obtain ⟨u, hvalid, h⟩ := Disk.bind_eq_ok.mp h
  obtain ⟨project', -, h⟩ := Disk.bind_eq_ok.mp h
  obtain ⟨-, rfl⟩ := Prod.mk.inj (Except.ok.inj h)
  cases hboth : c'.validate with
  | error e =>
    rw [hboth] at hvalid
    cases hvalid
  | ok u =>
    obtain ⟨u', -, hsearch⟩ := Disk.bind_eq_ok.mp hboth
    exact hsearch

/-! ## Resolving twice -/

/-- A program that was resolved names no target file any more. -/
theorem ProgramConfig.targetConfig_of_resolve {c c' : ProgramConfig}
    (h : c.resolve d cwd = .ok c') : c'.targetConfig = none := by
  unfold ProgramConfig.resolve at h
  cases htarget : c.targetConfig with
  | none =>
    rw [htarget] at h
    obtain rfl := Except.ok.inj h
    exact htarget
  | some file =>
    rw [htarget] at h
    obtain ⟨source, -, h⟩ := Disk.bind_eq_ok.mp h
    obtain ⟨targets, -, h⟩ := Disk.bind_eq_ok.mp h
    obtain rfl := Except.ok.inj h
    rfl

/-- So there is nothing left to resolve, on any disk. -/
theorem RepairConfig.resolve_of_resolve {c c' : RepairConfig} (h : c.resolve d cwd = .ok c')
    (d' : Disk) (cwd' : Place) : c'.resolve d' cwd' = .ok c' := by
  obtain ⟨program, hprogram, hc'⟩ := Disk.bind_eq_ok.mp h
  obtain rfl := Except.ok.inj hc'
  have hagain : program.resolve d' cwd' = .ok program := by
    rw [ProgramConfig.resolve, ProgramConfig.targetConfig_of_resolve hprogram]
  exact Disk.bind_eq_ok.mpr ⟨program, hagain, rfl⟩

theorem Repair.setUp_of_resolve {c c' : RepairConfig} (h : c.resolve d cwd = .ok c') :
    Repair.setUp d cwd c' = Repair.setUp d cwd c := by
  unfold Repair.setUp
  rw [h, RepairConfig.resolve_of_resolve h]

/-- A call hands a configuration over that it has resolved itself. -/
theorem CommandLine.exists_of_readConfig {w : Workspace} {path : String} {c' : RepairConfig}
    (h : readConfig w path = .ok c') :
    ∃ c, parseConfig w path = .ok c ∧ c.resolve w.disk w.cwd = .ok c' := by
  obtain ⟨c, hparse, h⟩ := Disk.bind_eq_ok.mp h
  cases hresolve : c.resolve w.disk w.cwd with
  | error e =>
    rw [hresolve] at h
    cases h
  | ok resolved =>
    rw [hresolve] at h
    obtain rfl := Except.ok.inj h
    exact ⟨c, hparse, hresolve⟩

end Checks

/-! ## Runs -/

namespace Repair

variable {τ : Type} {makeScratch : Workspace → Except ProgramError Workspace}
  {execute execute' : Executor} {c c' : RepairConfig} {fresh fresh' : UInt64}
  {observer observer' : Observer (Workspace × τ)} {w w' : Workspace} {rest rest' : τ}
  {e : RepairError}

/-- Where there are obstacles, the first one is all that a run comes to. -/
theorem runWith_of_obstacles (h : (c.obstacles w.disk w.cwd).head? = some e) :
    runWith makeScratch execute c fresh observer (w, rest) = .ok (.error e, w, rest) := by
  have hsetUp := (failsFirst_setUp w.disk w.cwd c e).mpr h
  unfold runWith
  dsimp only
  rw [hsetUp]

theorem exists_setUp {d : Disk} {cwd : Place} (h : c.obstacles d cwd = []) :
    ∃ project settings, setUp d cwd c = .ok (project, settings) := by
  have hsetUp := failsFirst_setUp d cwd c
  rw [h] at hsetUp
  obtain ⟨⟨project, settings⟩, hok⟩ := hsetUp.exists_ok
  exact ⟨project, settings, hok⟩

/-- Without obstacles a run that gets no scratch directory ends there. -/
theorem runWith_of_no_scratch {cause : ProgramError} (h : c.obstacles w.disk w.cwd = [])
    (hscratch : makeScratch w = .error cause) :
    runWith makeScratch execute c fresh observer (w, rest) =
      .ok (.error (.program cause), w, rest) := by
  obtain ⟨project, settings, hsetUp⟩ := exists_setUp h
  unfold runWith
  dsimp only
  rw [hsetUp]
  dsimp only
  rw [hscratch]

/-- With a scratch directory the run searches. Its settings were accepted before, so the search
does not refuse them, and only the removal of the scratch directory can still go wrong. -/
theorem runWith_of_clear {scratched : Workspace} (h : c.obstacles w.disk w.cwd = [])
    (hscratch : makeScratch w = .ok scratched)
    (hrun : runWith makeScratch execute c fresh observer (w, rest) = .ok (.error e, w', rest')) :
    ∃ cause, e = .disk cause := by
  obtain ⟨project, settings, hsetUp⟩ := exists_setUp h
  obtain ⟨search, hsearch, -, -⟩ := Search.exists_new (validate_of_setUp hsetUp)
    ((project.program execute).inLargerWorld τ) fresh
  unfold runWith at hrun
  dsimp only at hrun
  rw [hsetUp] at hrun
  dsimp only at hrun
  rw [hscratch] at hrun
  dsimp only at hrun
  rw [hsearch] at hrun
  obtain ⟨⟨⟨report, search'⟩, w₁, rest₁⟩, -, hrun⟩ := Disk.bind_eq_ok.mp hrun
  dsimp only at hrun
  split at hrun
  · cases hrun
  · next cause w₂ hclose =>
    cases hrun
    exact ⟨cause, rfl⟩

/-- A run that is refused was refused by its first obstacle, or it got no scratch directory. Either
way it would have ended like that whoever had watched it, whatever commands do and with any seed. -/
theorem runWith_of_refused
    (hrun : runWith makeScratch execute c fresh observer (w, rest) = .ok (.error e, w', rest'))
    (hrefused : ∀ cause, e ≠ .disk cause) :
    ((c.obstacles w.disk w.cwd).head? = some e ∨ c.obstacles w.disk w.cwd = [] ∧
      ∃ cause, makeScratch w = .error cause ∧ e = .program cause) ∧
    w' = w ∧ rest' = rest ∧ ∀ execute' fresh' observer',
      runWith makeScratch execute' c fresh' observer' (w, rest) = .ok (.error e, w, rest) := by
  cases hobstacles : c.obstacles w.disk w.cwd with
  | cons first later =>
    -- nothing of this depends on who watches or on what commands do
    have hhead : (c.obstacles w.disk w.cwd).head? = some first := by
      rw [hobstacles]
      rfl
    rw [runWith_of_obstacles hhead] at hrun
    cases hrun
    refine ⟨.inl rfl, rfl, rfl, ?_⟩
    intro execute' fresh' observer'
    exact runWith_of_obstacles hhead
  | nil =>
    cases hscratch : makeScratch w with
    | error cause =>
      rw [runWith_of_no_scratch hobstacles hscratch] at hrun
      cases hrun
      refine ⟨.inr ⟨rfl, cause, rfl, rfl⟩, rfl, rfl, ?_⟩
      intro execute' fresh' observer'
      exact runWith_of_no_scratch hobstacles hscratch
    | ok scratched =>
      obtain ⟨cause, hdisk⟩ := runWith_of_clear hobstacles hscratch hrun
      exact absurd hdisk (hrefused cause)

theorem runWith_of_resolve (h : c.resolve w.disk w.cwd = .ok c') :
    runWith makeScratch execute c' fresh observer (w, rest) =
      runWith makeScratch execute c fresh observer (w, rest) := by
  unfold runWith
  dsimp only
  rw [setUp_of_resolve h]

/-- A run with obstacles comes to the first one and has no effect. Any run that is refused, be it
for its configuration or for its program, was refused by its first obstacle, or had none and got no
scratch directory. Such a run leaves the disk as it was, with no scratch directory on it, and all
else in the world too, and with other observers, other commands and other seeds it ends the same, so
it called none of them. A configuration and what it is resolved to make the same run, which covers
what a call hands over. -/
theorem run_stops_at_first_obstacle (makeScratch : Workspace → Except ProgramError Workspace)
    (execute : Executor) (fresh : UInt64) (observer : Observer (Workspace × τ)) (w : Workspace)
    (rest : τ) :
    (∀ (c : RepairConfig) e, (c.obstacles w.disk w.cwd).head? = some e →
      runWith makeScratch execute c fresh observer (w, rest) = .ok (.error e, w, rest)) ∧
    (∀ (c : RepairConfig) e w' rest',
      runWith makeScratch execute c fresh observer (w, rest) = .ok (.error e, w', rest') →
      (∀ cause, e ≠ .disk cause) →
        ((c.obstacles w.disk w.cwd).head? = some e ∨ c.obstacles w.disk w.cwd = [] ∧
          ∃ cause, makeScratch w = .error cause ∧ e = .program cause) ∧
        w' = w ∧ rest' = rest ∧ ∀ execute' fresh' observer',
          runWith makeScratch execute' c fresh' observer' (w, rest) = .ok (.error e, w, rest)) ∧
    (∀ c c' : RepairConfig, c.resolve w.disk w.cwd = .ok c' →
      runWith makeScratch execute c' fresh observer (w, rest) =
        runWith makeScratch execute c fresh observer (w, rest)) ∧
    ∀ path c', CommandLine.readConfig w path = .ok c' →
      ∃ c, CommandLine.parseConfig w path = .ok c ∧ c.resolve w.disk w.cwd = .ok c' := by
  refine ⟨?_, ?_, ?_, ?_⟩
  · intro c e hfirst
    exact runWith_of_obstacles hfirst
  · intro c e w' rest' hrun hrefused
    exact runWith_of_refused hrun hrefused
  · intro c c' hresolve
    exact runWith_of_resolve hresolve
  · intro path c' hread
    exact CommandLine.exists_of_readConfig hread

/-- A project with nothing but a target file, which names two files that are not there. -/
def bareWorkspace : Workspace :=
  .ofDisk ⟨[(["p"], .directory ⟨0o755, true, 0, none⟩),
    (["p", "t.json"], .file
      (Text.bytesOf "\x7b\"target_files\": [\"a\", \"b\"], \"test_command\": \"true\"\x7d")
      ⟨0o644, true, 0, none⟩)], [], 0, 0⟩ []

/-- A configuration of that project that asks for no epoch. -/
def hastyConfig : RepairConfig where
  program := ⟨"/p", some "t.json", [], "", .statement, .exitCode⟩
  search := { SearchConfig.standard with epoch := 0 }

/-- What the configuration is resolved to. -/
def hastyResolved : RepairConfig where
  program := ⟨"/p", none, ["a", "b"], "true", .statement, .exitCode⟩
  search := { SearchConfig.standard with epoch := 0 }

/-- The run has three obstacles and stops at the first one, also with the resolved configuration and
with commands that cannot even be started. -/
theorem hasty_run_stops :
    hastyConfig.obstacles bareWorkspace.disk [] = [.config .invalidEpoch,
      .program (.readTarget "/p/a" .notFound), .program (.readTarget "/p/b" .notFound)] ∧
    hastyConfig.resolve bareWorkspace.disk [] = .ok hastyResolved ∧
    run (fun _ _ _ _ _ => .error .countOverflow) hastyResolved 0 Search.silent
      (bareWorkspace, ()) = .ok (.error (.config .invalidEpoch), bareWorkspace, ()) ∧
    run (fun _ _ _ _ d => .ok (.error .notFound, d)) hastyConfig 1 Search.silent
      (bareWorkspace, ()) = .ok (.error (.config .invalidEpoch), bareWorkspace, ()) := by
  obtain ⟨hstops, hrefused, hresolved, -⟩ := run_stops_at_first_obstacle (τ := Unit)
    (fun w => .ok w.openScratch) (fun _ _ _ _ _ => .error .countOverflow) 0 Search.silent
    bareWorkspace ()
  have hobstacles : hastyConfig.obstacles bareWorkspace.disk [] = [.config .invalidEpoch,
      .program (.readTarget "/p/a" .notFound), .program (.readTarget "/p/b" .notFound)] := by
    decide +kernel
  have hresolve : hastyConfig.resolve bareWorkspace.disk [] = .ok hastyResolved :=
    Disk.ok_of_toOption (by decide +kernel)
  have hfirst : (hastyConfig.obstacles bareWorkspace.disk bareWorkspace.cwd).head? =
      some (.config .invalidEpoch) := congrArg List.head? hobstacles
  have hrun := hstops hastyConfig _ hfirst
  obtain ⟨-, -, -, hothers⟩ := hrefused hastyConfig _ _ _ hrun nofun
  exact ⟨hobstacles, hresolve, (hresolved hastyConfig hastyResolved hresolve).trans hrun,
    hothers _ _ _⟩

end Repair

end ProgramRepair
