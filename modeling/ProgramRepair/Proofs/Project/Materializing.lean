import ProgramRepair.Proofs.Project.Copying

/-!
# What is tested

Before the test command starts, an evaluation prepares its slot and writes the
target files there. Both keep to the variant of the slot. Main statements:

* `writeVariant_leaves`: the target files are written one after the other, and
  the last one that is written to a place stays;
* `materialize_spec`: all that an evaluation does before its command starts;
* `materializeAll_outside`: whatever patches are tried, nothing changes outside
  the scratch directory;
* `materialize_renders`: the command finds the target files as the patch makes
  them.

Target files that are reached through links, and target files that are listed
twice, are not as good: see `linkedTarget_is_changed` and `repeatedTarget_is_lost`.
-/

namespace ProgramRepair.Project

open Disk DiskWork Workspace

variable {p : Project} {w v v' : Workspace} {root r : Place} {slot slot' : Nat} {d d' : Disk}

/-! ## Target files -/

/-- There is no link on the way to a target file. -/
theorem LiesAt.not_isLink_target (h : p.LiesAt w root) {f : Source.File} (hf : f ∈ p.files)
    (hr : r <+: names f.path) : ¬ w.disk.IsLink (root ++ r) := by
  by_cases hne : r = names f.path
  · rintro ⟨target, htarget⟩
    obtain ⟨contents, a, hfile⟩ := h.isFile f hf
    rw [hne, hfile] at htarget
    cases htarget
  · exact fun hlink => hlink.not_isDirectory (h.isDirectory_target hf hr hne)

theorem Sound.not_isLink_target (h : p.Sound w root d) (hlies : p.LiesAt w root) {f : Source.File}
    (hf : f ∈ p.files) {q : Place} (hq : q <+: variantIn w slot ++ names f.path) :
    ¬ d.IsLink q := by
  refine h.not_isLink hlies hq fun r hr _ => ?_
  have hsome := hlies.wellFormed.isSome_of_prefix (hlies.isSome_target hf)
    ((List.prefix_append_right_inj root).mpr hr)
  rw [isLink_of_shape_eq (h.shape_of_isSome hlies hsome)]
  exact hlies.not_isLink_target hf hr

theorem LiesAt.straight_target (h : p.LiesAt w root) {f : Source.File} (hf : f ∈ p.files)
    (slot : Nat) : Straight (join (variantPath (freshScratch w.disk) slot) f.path)
      (variantIn w slot ++ names f.path) :=
  (literal_variantIn w slot).straight.join (h.relative f hf) (h.noParent f hf)

/-- The directories that a target file is in are made in the variant. -/
theorem makeParents_leaves (hlies : p.LiesAt w root) (h : p.Sound w root d) {f : Source.File}
    (hf : f ∈ p.files) :
    Leaves (makeParents w.cwd (join (variantPath (freshScratch w.disk) slot) f.path)) d
      (fun _ => p.Grown w root slot (names f.path) d) (p.Grown w root slot (names f.path) d) := by
  have hgrown := h.grown slot (names f.path)
  rw [makeParents]
  split
  · next up hup =>
    have hliteral := (hlies.straight_target hf slot).literal_parent hup
    rw [List.dropLast_append_of_ne_nil (hlies.names_ne_nil hf)] at hliteral
    have hdrop := List.dropLast_prefix (names f.path)
    refine (makeDirectories_leaves hlies hgrown hliteral
      (fun s hs => hlies.isName_target hf s (hdrop.subset hs)) fun r hr => ?_).mono
      (fun _ d₁ hd₁ => hd₁.1) fun _ hd => hd
    have hne : r ≠ names f.path := by
      rintro rfl
      have hlength := hr.length_le
      have hpos := List.length_pos_iff.mpr (hlies.names_ne_nil hf)
      simp only [List.length_dropLast] at hlength
      omega
    exact h.isDirectory_of_before hlies (hlies.isDirectory_target hf (hr.trans hdrop) hne)
  · exact leaves_pure hgrown

/-- A target file is written at its place in the variant. -/
theorem writeFile_leaves (hlies : p.LiesAt w root) (h : p.Sound w root d) {f : Source.File}
    (hf : f ∈ p.files) (contents : List Char) :
    Leaves (writeFile w.cwd (join (variantPath (freshScratch w.disk) slot) f.path) contents) d
      (fun _ d' => p.Grown w root slot (names f.path) d d' ∧ ∃ mode,
        d'.contentAt (variantIn w slot ++ names f.path) =
          some (.file (Text.encode contents) mode))
      (p.Grown w root slot (names f.path) d) := by
  rw [writeFile]
  refine leaves_bind ((makeParents_leaves hlies h hf).mono (fun _ d₁ hgrown => ?_) fun _ hd => hd)
  refine leaves_change (fun d' hd' => ?_) hgrown
  obtain ⟨q, hq, hwrite⟩ := bind_eq_ok.mp hd'
  obtain rfl := placeForWriting_straight hq (hlies.straight_target hf slot) fun q hq =>
    hgrown.sound.not_isLink_target hlies hf hq
  obtain ⟨a, hplaces⟩ := hgrown.sound.exists_places_of_writeAt hwrite
  refine ⟨hgrown.places (.inl rfl) hplaces ⟨hlies.isName_target hf, nofun, nofun, ?_⟩, a.mode, ?_⟩
  · exact fun hbystander => absurd rfl (hbystander.notTarget f hf)
  · rw [contentAt, hplaces.isPut.self]
    rfl

/-! ## All target files -/

/-- Every target file that was written has its contents, unless another one was written to the same
place after it. -/
def Written (w : Workspace) (slot : Nat) (done : List (Source.File × List Char)) (d : Disk) :
    Prop :=
  ∀ (i : Nat) (f : Source.File) (contents : List Char), done[i]? = some (f, contents) →
    (∀ (j : Nat) (g : Source.File × List Char), i < j → done[j]? = some g →
      names g.1.path ≠ names f.path) →
    ∃ mode, d.contentAt (variantIn w slot ++ names f.path) =
      some (.file (Text.encode contents) mode)

theorem Written.next {done : List (Source.File × List Char)} {f : Source.File}
    {contents : List Char} (h : Written w slot done d)
    (hgrown : p.Grown w root slot (names f.path) d d')
    (hself : ∃ mode, d'.contentAt (variantIn w slot ++ names f.path) =
      some (.file (Text.encode contents) mode)) :
    Written w slot (done ++ [(f, contents)]) d' := by
  intro i g contents' hi hlast
  rcases Nat.lt_trichotomy i done.length with hlt | rfl | hgt
  · -- an earlier file stays, for the new one is at another place
    rw [List.getElem?_append_left hlt] at hi
    have hne : names f.path ≠ names g.path :=
      hlast done.length (f, contents) hlt (by simp)
    obtain ⟨mode, hmode⟩ := h i g contents' hi fun j k hij hj =>
      hlast j k hij (by rw [List.getElem?_append_left (List.getElem?_eq_some_iff.mp hj).1, hj])
    exact ⟨mode, hgrown.contentAt_kept (by simpa using hne.symm) hmode⟩
  · obtain ⟨rfl, rfl⟩ : f = g ∧ contents = contents' := by simpa using hi
    exact hself
  · rw [List.getElem?_eq_none (by simp; omega)] at hi
    cases hi

/-- The disk `d'` is `d` after work on the target files of a variant. -/
structure Retouched (p : Project) (w : Workspace) (root : Place) (slot : Nat) (d d' : Disk) :
    Prop where
  within : p.Within w root slot d d'
  whole : p.Whole w root slot d → p.Whole w root slot d'

theorem Grown.retouched {f : Source.File} (h : p.Grown w root slot (names f.path) d d')
    (hf : f ∈ p.files) : p.Retouched w root slot d d' where
  within := h.within
  whole hwhole r c hbystander hc :=
    h.contentAt_kept (by simpa using hbystander.notTarget f hf) (hwhole r c hbystander hc)

theorem Retouched.trans {d'' : Disk} (h : p.Retouched w root slot d d')
    (h' : p.Retouched w root slot d' d'') : p.Retouched w root slot d d'' :=
  ⟨h.within.trans h'.within, fun hwhole => h'.whole (h.whole hwhole)⟩

/-- The target files of a variant are written one after the other. -/
theorem writeVariant_leaves (hlies : p.LiesAt w root) (h : p.Sound w root d) (slot : Nat)
    (patch : Patch Source.Edit) :
    Leaves (p.writeVariant w.cwd (variantPath (freshScratch w.disk) slot) patch) d
      (fun _ d' => p.Retouched w root slot d d' ∧ Written w slot (p.files.zip (p.render patch)) d')
      (p.Retouched w root slot d) := by
  rw [writeVariant]
  refine leaves_forM (I := fun done d' => p.Retouched w root slot d d' ∧ Written w slot done d') ?_
    ⟨⟨h.within slot, id⟩, nofun⟩
  rintro done ⟨f, contents⟩ rest d₁ hsplit ⟨hretouched, hwritten⟩
  have hf : f ∈ p.files :=
    (List.of_mem_zip (hsplit ▸ List.mem_append_right done List.mem_cons_self)).1
  refine (writeFile_leaves hlies hretouched.within.sound hf contents).mono (fun _ d' hd' => ?_)
    fun d' hd' => hretouched.trans (hd'.retouched hf)
  exact ⟨hretouched.trans (hd'.1.retouched hf), hwritten.next hd'.1 hd'.2⟩

/-! ## Workspaces -/

/-- A workspace that a program has used since its scratch directory was made in `w`. -/
structure InUse (p : Project) (w : Workspace) (root : Place) (v : Workspace) : Prop where
  scratch : v.scratch = some (freshScratch w.disk)
  cwd : v.cwd = w.cwd
  sound : p.Sound w root v.disk
  whole : ∀ slot ∈ v.ready, p.Whole w root slot v.disk

theorem inUse_openScratch (h : p.LiesAt w root) : p.InUse w root w.openScratch :=
  ⟨rfl, rfl, sound_openScratch h, nofun⟩

theorem not_prefix_of_slot_ne (h : slot' ≠ slot) (r : Place) :
    ¬ variantIn w slot <+: variantIn w slot' ++ r := by
  rintro ⟨r', hr'⟩
  exact h (variantIn_append_inj hr').1.symm

/-- Work in one slot leaves the variants in the others as they are. -/
theorem Whole.within (h : p.Whole w root slot' d) (hne : slot' ≠ slot)
    (hwithin : p.Within w root slot d d') : p.Whole w root slot' d' := by
  intro r c hbystander hc
  rw [contentAt_of_lookup_eq (hwithin.frame _ (not_prefix_of_slot_ne hne r))]
  exact h r c hbystander hc

/-- A slot that holds a copy holds it from then on. -/
theorem prepare_ready {result : Except Disk.Error String} (h : p.prepare slot v = (result, v')) :
    v.ready ⊆ v'.ready := by
  unfold prepare at h
  split at h
  · obtain ⟨-, rfl⟩ := Prod.mk.inj h
    exact List.Subset.refl _
  · dsimp only at h
    split at h
    · obtain ⟨-, rfl⟩ := Prod.mk.inj h
      exact List.Subset.refl _
    · split at h
      · obtain ⟨-, rfl⟩ := Prod.mk.inj h
        exact List.subset_cons_self _ _
      · obtain ⟨-, rfl⟩ := Prod.mk.inj h
        exact List.Subset.refl _

/-- Preparing a slot makes a whole variant in it, or fails and keeps to the variant anyway. -/
theorem prepare_spec (hlies : p.LiesAt w root) (hv : p.InUse w root v)
    {result : Except Disk.Error String} (h : p.prepare slot v = (result, v')) :
    p.InUse w root v' ∧ p.Within w root slot v.disk v'.disk ∧
      ∀ dir, result = .ok dir → dir = variantPath (freshScratch w.disk) slot ∧ slot ∈ v'.ready := by
  unfold prepare at h
  rw [hv.scratch, hv.cwd] at h
  dsimp only at h
  have hleaves := copyTree_leaves hlies hv.sound slot
  -- the slots that hold a copy are others, and the work keeps to this one
  have hothers : ∀ {d'}, p.Within w root slot v.disk d' → slot ∉ v.ready →
      ∀ slot' ∈ v.ready, p.Whole w root slot' d' := fun hwithin hslot slot' hslot' =>
    (hv.whole slot' hslot').within (by rintro rfl; exact hslot hslot') hwithin
  split at h
  · next hslot =>
    obtain ⟨rfl, rfl⟩ := Prod.mk.inj h
    exact ⟨hv, hv.sound.within slot, fun dir hdir => ⟨(Except.ok.inj hdir).symm, hslot⟩⟩
  · next hslot =>
    split at h
    · next disk hrun =>
      obtain ⟨hwithin, hwhole⟩ := hleaves.ok () disk hrun
      obtain ⟨rfl, rfl⟩ := Prod.mk.inj h
      refine ⟨⟨rfl, rfl, hwithin.sound, ?_⟩, hwithin,
        fun dir hdir => ⟨(Except.ok.inj hdir).symm, List.mem_cons_self⟩⟩
      intro slot' hslot'
      rcases List.mem_cons.mp hslot' with rfl | hslot'
      · exact hwhole
      · exact hothers hwithin hslot slot' hslot'
    · next e disk hrun =>
      have hwithin := hleaves.error e disk hrun
      obtain ⟨rfl, rfl⟩ := Prod.mk.inj h
      exact ⟨⟨rfl, rfl, hwithin.sound, hothers hwithin hslot⟩, hwithin, nofun⟩

theorem InUse.retouched (hv : p.InUse w root v) (h : p.Retouched w root slot v.disk d') :
    p.InUse w root { v with disk := d' } where
  scratch := hv.scratch
  cwd := hv.cwd
  sound := h.within.sound
  whole slot' hslot' := by
    by_cases hne : slot' = slot
    · subst hne
      exact h.whole (hv.whole slot' hslot')
    · exact (hv.whole slot' hslot').within hne h.within

/-! ## Evaluations -/

/-- What an evaluation does before its command starts: the path of the variant, or what went
wrong. -/
def materialize (p : Project) (slot : Nat) (patch : Patch Source.Edit) (w : Workspace) :
    Except Disk.Error String × Workspace :=
  match p.prepare slot w with
  | (.error e, w) => (.error e, w)
  | (.ok dir, w) =>
    match (p.writeVariant w.cwd dir patch).run.run w.disk with
    | (.error e, disk) => (.error e, { w with disk })
    | (.ok (), disk) => (.ok dir, { w with disk })

variable {patch : Patch Source.Edit} {result : Except Disk.Error String} {dir : String}

/-- All that an evaluation does before its command starts. -/
theorem materialize_spec (hlies : p.LiesAt w root) (hv : p.InUse w root v)
    (h : p.materialize slot patch v = (result, v')) :
    p.InUse w root v' ∧ p.Within w root slot v.disk v'.disk ∧
      ∀ dir, result = .ok dir → dir = variantPath (freshScratch w.disk) slot ∧ slot ∈ v'.ready ∧
        Written w slot (p.files.zip (p.render patch)) v'.disk := by
  unfold materialize at h
  split at h
  · next e v₁ hprepare =>
    obtain ⟨rfl, rfl⟩ := Prod.mk.inj h
    obtain ⟨hv₁, hwithin, -⟩ := prepare_spec hlies hv hprepare
    exact ⟨hv₁, hwithin, nofun⟩
  · next dir v₁ hprepare =>
    obtain ⟨hv₁, hwithin, hdir⟩ := prepare_spec hlies hv hprepare
    obtain ⟨rfl, hready⟩ := hdir dir rfl
    have hleaves := writeVariant_leaves hlies hv₁.sound slot patch
    rw [← hv₁.cwd] at hleaves
    split at h
    · next e disk hrun =>
      obtain ⟨rfl, rfl⟩ := Prod.mk.inj h
      have hretouched := hleaves.error e disk hrun
      exact ⟨hv₁.retouched hretouched, hwithin.trans hretouched.within, nofun⟩
    · next disk hrun =>
      obtain ⟨rfl, rfl⟩ := Prod.mk.inj h
      obtain ⟨hretouched, hwritten⟩ := hleaves.ok () disk hrun
      exact ⟨hv₁.retouched hretouched, hwithin.trans hretouched.within, fun dir hdir =>
        ⟨(Except.ok.inj hdir).symm, hready, hwritten⟩⟩

/-- The command of an evaluation starts when everything before it succeeded. -/
theorem evaluate_of_materialize_ok {execute : Executor} {timeout : Duration}
    (h : p.materialize slot patch v = (.ok dir, v')) :
    p.evaluate execute slot patch timeout v = p.runTests execute dir timeout v' := by
  unfold materialize at h
  unfold evaluate
  rcases hprepare : p.prepare slot v with ⟨e | dir₁, v₁⟩ <;> rw [hprepare] at h
  · cases h
  · dsimp only at h ⊢
    rcases hrun : (p.writeVariant v₁.cwd dir₁ patch).run.run v₁.disk with ⟨e | ⟨⟩, disk⟩ <;>
      rw [hrun] at h
    · cases h
    · cases h
      rfl

/-- Otherwise it does not start at all, and the candidate is invalid. -/
theorem evaluate_of_materialize_error {execute : Executor} {timeout : Duration} {e : Disk.Error}
    (h : p.materialize slot patch v = (.error e, v')) :
    ∃ cause, p.evaluate execute slot patch timeout v = .ok (.ofInvalid cause, v') := by
  unfold materialize at h
  unfold evaluate
  rcases hprepare : p.prepare slot v with ⟨e₁ | dir, v₁⟩ <;> rw [hprepare] at h
  · cases h
    exact ⟨_, rfl⟩
  · dsimp only at h ⊢
    rcases hrun : (p.writeVariant v₁.cwd dir patch).run.run v₁.disk with ⟨e₁ | ⟨⟩, disk⟩ <;>
      rw [hrun] at h
    · cases h
      exact ⟨_, rfl⟩
    · cases h

/-! ## Small projects -/

/-- A file of one's own. -/
def fileOf (text : String) : Entry := .file (Text.bytesOf text) ⟨fileMode, true, 0, none⟩

/-- A workspace with a directory for a project and one for scratch directories. -/
def workspaceWith (entries : List (Place × Entry)) : Workspace :=
  let directory := Entry.directory ⟨directoryMode, true, 0, none⟩
  .ofDisk ⟨(["tmp"], directory) :: (["project"], directory) :: entries, [], 0, 0⟩ []

/-- A program whose tests always pass. -/
def programOf (targets : List String) : ProgramConfig :=
  ⟨"project", none, targets, "true", .line, .exitCode⟩

/-- A project with a single file. -/
def smallProject : Project :=
  ⟨"project", "true", .exitCode, [Source.File.parse "target" .line "a\nb\n".toList]⟩

def smallWorkspace : Workspace := workspaceWith [(["project", "target"], fileOf "a\nb\n")]

/-- The patch that takes away the first line of the first target file. -/
def beheading : Patch Source.Edit := ⟨[.deletion ⟨0, 0⟩]⟩

theorem liesAt_smallProject : smallProject.LiesAt smallWorkspace ["project"] where
  wellFormed := .of_entries (by decide +kernel)
  temporary := contentAt_eq_directory.mp (by decide +kernel)
  canonical := ok_of_toOption (by decide +kernel)
  isDirectory := contentAt_eq_directory.mp (by decide +kernel)
  relative := by decide +kernel
  noParent := by decide +kernel
  isFile f hf := by
    have hfile : ∀ f ∈ smallProject.files,
        smallWorkspace.disk.contentAt (["project"] ++ names f.path) =
          some (.file (Text.bytesOf "a\nb\n") fileMode) := by
      decide +kernel
    obtain ⟨a, ha⟩ := lookup_of_contentAt_file (hfile f hf)
    exact ⟨_, a, ha⟩

/-! ## Series of evaluations -/

/-- The workspace after a series of evaluations whose commands change nothing, each in a slot of its
own choice. -/
def materializeAll (p : Project) (jobs : List (Nat × Patch Source.Edit)) (w : Workspace) :
    Workspace :=
  jobs.foldl (fun w job => (p.materialize job.1 job.2 w).2) w

theorem materializeAll_spec (hlies : p.LiesAt w root) (jobs : List (Nat × Patch Source.Edit))
    (hv : p.InUse w root v) :
    p.InUse w root (p.materializeAll jobs v) ∧
      ∀ q, ¬ freshScratch w.disk <+: q →
        (p.materializeAll jobs v).disk.lookup q = v.disk.lookup q := by
  induction jobs generalizing v with
  | nil => exact ⟨hv, fun _ _ => rfl⟩
  | cons job jobs ih =>
    obtain ⟨hv', hwithin, -⟩ :=
      materialize_spec hlies hv (rfl : p.materialize job.1 job.2 v = _)
    obtain ⟨huse, houtside⟩ := ih hv'
    refine ⟨huse, fun q hq => (houtside q hq).trans (hwithin.frame q fun hvariant => hq ?_)⟩
    have hscratch := freshScratch_prefix_variantIn w job.1 []
    rw [List.append_nil] at hscratch
    exact hscratch.trans hvariant

/-- Whatever patches are tried and whether or not their variants can be made, nothing changes
outside the scratch directory. -/
theorem materializeAll_outside (hlies : p.LiesAt w root) (jobs : List (Nat × Patch Source.Edit))
    {q : Place} (hq : ¬ freshScratch w.disk <+: q) :
    (p.materializeAll jobs w.openScratch).disk.lookup q = w.disk.lookup q := by
  rw [(materializeAll_spec hlies jobs (inUse_openScratch hlies)).2 q hq]
  refine (isPut_put (lookup_freshScratch w.disk) _).other ?_
  rintro rfl
  exact hq List.prefix_rfl

/-- Two attempts at the small project leave its file as it is. -/
theorem smallProject_is_kept :
    (smallProject.materializeAll [(0, beheading), (1, beheading)]
      smallWorkspace.openScratch).disk.lookup ["project", "target"] = some (fileOf "a\nb\n") :=
  (materializeAll_outside liesAt_smallProject [(0, beheading), (1, beheading)]
    (by decide +kernel)).trans (by decide +kernel)

/-- A target file that is a link leads out of the variant: what it stands for is changed. -/
theorem linkedTarget_is_changed :
    let w := workspaceWith
      [(["outside"], fileOf "a\nb\n"), (["project", "target"], .link "../outside")]
    (w.disk.read [] "outside").toOption = some (Text.bytesOf "a\nb\n") ∧
      (load w.disk [] (programOf ["target"])).toOption.map (fun p =>
        ((p.materialize 0 beheading w.openScratch).2.disk.read [] "outside").toOption) =
      some (some (Text.bytesOf "\nb\n")) := by
  decide +kernel

/-- The command finds every target file as the patch makes it, unless another target file is at the
same place and comes later. -/
theorem materialize_renders (hlies : p.LiesAt w root) (jobs : List (Nat × Patch Source.Edit))
    (h : p.materialize slot patch (p.materializeAll jobs w.openScratch) = (.ok dir, v'))
    {i : Nat} {f : Source.File} {contents : List Char} (hf : p.files[i]? = some f)
    (hcontents : (p.render patch)[i]? = some contents)
    (hlast : ∀ j g, i < j → p.files[j]? = some g → names g.path ≠ names f.path) :
    dir = variantPath (freshScratch w.disk) slot ∧ ∃ a,
      v'.disk.lookup (variantPlace (freshScratch w.disk) slot ++ names f.path) =
        some (.file (Text.encode contents) a) := by
  have huse := (materializeAll_spec hlies jobs (inUse_openScratch hlies)).1
  obtain ⟨hdir, -, hwritten⟩ := (materialize_spec hlies huse h).2.2 dir rfl
  refine ⟨hdir, ?_⟩
  obtain ⟨mode, hmode⟩ := hwritten i f contents
    (List.getElem?_zip_eq_some.mpr ⟨hf, hcontents⟩) fun j g hij hg =>
      hlast j g.1 hij (List.getElem?_zip_eq_some.mp hg).1
  exact lookup_of_contentAt_file hmode

theorem eq_of_fst {α β ε : Type} {x : Except ε α × β} {a : α} (h : x.1.toOption = some a) :
    x = (.ok a, x.2) :=
  Prod.ext (ok_of_toOption h) rfl

/-- The command that tests the small project without its first line finds it without that line. -/
theorem smallProject_renders : ∃ v' a,
    smallProject.materialize 0 beheading (smallProject.materializeAll [(0, .empty)]
      smallWorkspace.openScratch) = (.ok "/tmp/tabu-repair-000000/variant-0", v') ∧
    v'.disk.lookup ["tmp", "tabu-repair-000000", "variant-0", "target"] =
      some (.file (Text.bytesOf "\nb\n") a) := by
  have hdir : (smallProject.materialize 0 beheading (smallProject.materializeAll [(0, .empty)]
      smallWorkspace.openScratch)).1.toOption = some "/tmp/tabu-repair-000000/variant-0" := by
    decide +kernel
  have hplace : variantPlace (freshScratch smallWorkspace.disk) 0 ++ names "target" =
      ["tmp", "tabu-repair-000000", "variant-0", "target"] := by
    decide +kernel
  have hrender : (smallProject.render beheading)[0]? = some "\nb\n".toList := by decide +kernel
  obtain ⟨-, a, ha⟩ := materialize_renders (i := 0)
    (f := Source.File.parse "target" .line "a\nb\n".toList) liesAt_smallProject [(0, .empty)]
    (eq_of_fst hdir) rfl hrender fun
      | 0, _, hj, _ => absurd hj (Nat.lt_irrefl 0)
      | _ + 1, _, _, hg => nomatch hg
  refine ⟨_, a, eq_of_fst hdir, ?_⟩
  rw [← hplace]
  exact ha

/-- What the command of an evaluation finds at a path. -/
def found (p : Project) (patch : Patch Source.Edit) (w : Workspace) (path : String) :
    Option Bytes :=
  match p.materialize 0 patch w with
  | (.ok dir, w) => (w.disk.read w.cwd (join dir path)).toOption
  | (.error _, _) => none

/-- Of a target file that is listed twice, the second rendering is what the command finds: an edit
of the first is in the diff and is not tested. -/
theorem repeatedTarget_is_lost :
    (load smallWorkspace.disk [] (programOf ["target", "target"])).toOption.map (fun p =>
      ((p.render beheading)[0]?, p.found beheading smallWorkspace.openScratch "target")) =
      some (some "\nb\n".toList, some (Text.bytesOf "a\nb\n")) := by
  decide +kernel

end ProgramRepair.Project
