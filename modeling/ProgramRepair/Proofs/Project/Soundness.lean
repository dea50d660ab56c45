import ProgramRepair.Proofs.Disk.Writing
import ProgramRepair.Proofs.Project.Scratch

/-!
# What variants leave alone

`Sound` says what holds of a disk whatever variants were made on it, whole or in
part: everything outside the scratch directory is as it was, and what is in a
variant and is no target file was copied from the same place in the project. It
is enough to know that a single change keeps this, and when. Main statements:

* `sound_openScratch`: a disk is sound when the scratch directory was just made;
* `Sound.not_isLink`: no link leads out of the way to a place in a variant;
* `Grown.places`: a change in a variant that fits the project keeps a disk sound.
-/

namespace ProgramRepair

/-! ## Contents -/

/-- What a test command finds at a place. -/
inductive Content where
  | file (contents : Bytes) (mode : Nat)
  | directory
  | link
  /-- A device or a pipe, which keeps nothing of what is written to it. -/
  | special
deriving DecidableEq, Repr

def Entry.content : Entry → Content
  | .file contents a => .file contents a.mode
  | .directory _ => .directory
  | .link _ => .link
  | .null | .pipe _ => .special

@[simp] theorem Entry.content_unnumbered (e : Entry) : e.unnumbered.content = e.content := by
  cases e <;> rfl

namespace Disk

/-- What a test command finds at a place, if anything. -/
def contentAt (d : Disk) (p : Place) : Option Content := (d.lookup p).map Entry.content

variable {d d' : Disk} {p : Place}

theorem contentAt_of_shape_eq (h : d'.shape p = d.shape p) : d'.contentAt p = d.contentAt p := by
  simpa [shape, contentAt, Function.comp_def] using congrArg (Option.map Entry.content) h

theorem contentAt_of_lookup_eq (h : d'.lookup p = d.lookup p) : d'.contentAt p = d.contentAt p := by
  rw [contentAt, contentAt, h]

theorem contentAt_eq_directory : d.contentAt p = some .directory ↔ d.IsDirectory p := by
  unfold contentAt IsDirectory
  cases d.lookup p with
  | none => simp
  | some e => cases e <;> simp [Entry.content]

theorem contentAt_eq_link : d.contentAt p = some .link ↔ d.IsLink p := by
  unfold contentAt IsLink
  cases d.lookup p with
  | none => simp
  | some e => cases e <;> simp [Entry.content]

theorem lookup_of_contentAt_file {contents : Bytes} {mode : Nat}
    (h : d.contentAt p = some (.file contents mode)) :
    ∃ a, d.lookup p = some (.file contents a) := by
  obtain ⟨e, he, hcontent⟩ := Option.map_eq_some_iff.mp h
  cases e with
  | file bytes a =>
    cases hcontent
    exact ⟨a, he⟩
  | _ => cases hcontent

theorem isSome_lookup_of_contentAt {c : Content} (h : d.contentAt p = some c) :
    (d.lookup p).isSome := by
  obtain ⟨e, he, -⟩ := Option.map_eq_some_iff.mp h
  rw [he]
  rfl

end Disk

namespace Project

open Disk Workspace

/-! ## Projects -/

/-- The project is at the place `root` of a workspace, its target files are regular files in it,
and scratch directories can be made. Links may be anywhere else in the project. -/
structure LiesAt (p : Project) (w : Workspace) (root : Place) : Prop where
  wellFormed : w.disk.WellFormed
  temporary : w.disk.IsDirectory scratchRoot
  canonical : w.disk.canonical w.cwd p.root = .ok root
  isDirectory : w.disk.IsDirectory root
  relative : ∀ f ∈ p.files, isAbsolute f.path = false
  noParent : ∀ f ∈ p.files, ".." ∉ segments f.path
  isFile : ∀ f ∈ p.files, ∃ contents a,
    w.disk.lookup (root ++ names f.path) = some (.file contents a)

/-- A place in the project that is neither that of a target file nor in the scratch directory, if
that is in the project itself. -/
structure IsBystander (p : Project) (w : Workspace) (root r : Place) : Prop where
  notTarget : ∀ f ∈ p.files, r ≠ names f.path
  notScratch : ¬ freshScratch w.disk <+: root ++ r

/-- The place of the variant in a slot when the scratch directory is made in `w`. -/
def variantIn (w : Workspace) (slot : Nat) : Place := variantPlace (freshScratch w.disk) slot

variable {p : Project} {w : Workspace} {root r r' : Place} {slot slot' : Nat} {d d' : Disk}

theorem variantIn_append_inj (h : variantIn w slot ++ r = variantIn w slot' ++ r') :
    slot = slot' ∧ r = r' :=
  variantPlace_append_inj h

theorem freshScratch_prefix_variantIn (w : Workspace) (slot : Nat) (r : Place) :
    freshScratch w.disk <+: variantIn w slot ++ r :=
  scratch_prefix_variantPlace _ slot r

theorem literal_variantIn (w : Workspace) (slot : Nat) :
    Literal (variantPath (freshScratch w.disk) slot) (variantIn w slot) :=
  literal_variantPath (fun _ hs => isName_of_mem_freshScratch hs) slot

theorem variantIn_append_ne_freshScratch (w : Workspace) (slot : Nat) (r : Place) :
    variantIn w slot ++ r ≠ freshScratch w.disk := by
  simp [variantIn, variantPlace]

namespace LiesAt

theorem isName_target (h : p.LiesAt w root) {f : Source.File} (hf : f ∈ p.files) :
    ∀ s ∈ names f.path, IsName s := by
  refine fun s hs => isName_of_mem_names hs ?_
  rintro rfl
  exact h.noParent f hf (List.mem_filter.mp hs).1

theorem isSome_target (h : p.LiesAt w root) {f : Source.File} (hf : f ∈ p.files) :
    (w.disk.lookup (root ++ names f.path)).isSome := by
  obtain ⟨contents, a, hfile⟩ := h.isFile f hf
  rw [hfile]
  rfl

theorem names_ne_nil (h : p.LiesAt w root) {f : Source.File} (hf : f ∈ p.files) :
    names f.path ≠ [] := by
  intro hnil
  obtain ⟨contents, b, hfile⟩ := h.isFile f hf
  obtain ⟨a, ha⟩ := h.isDirectory
  rw [hnil, List.append_nil, ha] at hfile
  cases hfile

/-- The directories that a target file is in are in the project. -/
theorem isDirectory_target (h : p.LiesAt w root) {f : Source.File} (hf : f ∈ p.files)
    (hr : r <+: names f.path) (hne : r ≠ names f.path) : w.disk.IsDirectory (root ++ r) :=
  h.wellFormed.isDirectory_of_prefix (h.isSome_target hf)
    ((List.prefix_append_right_inj root).mpr hr) (by simpa using hne)

/-- What is in the project is not in the scratch directory. -/
theorem not_scratch (h : p.LiesAt w root) {q : Place} (hq : (w.disk.lookup q).isSome) :
    ¬ freshScratch w.disk <+: q :=
  not_freshScratch_prefix h.wellFormed hq

end LiesAt

/-! ## Sound disks -/

/-- What holds of a disk on which variants of a project were made, whole or in part. -/
structure Sound (p : Project) (w : Workspace) (root : Place) (d : Disk) : Prop where
  outside : ∀ q, ¬ freshScratch w.disk <+: q → d.shape q = w.disk.shape q
  scratch : d.IsDirectory (freshScratch w.disk)
  alone : ∀ q, freshScratch w.disk <+: q → d.Alone q
  isName : ∀ q, (d.lookup q).isSome → ∀ s ∈ q, IsName s
  notSpecial : ∀ slot r, d.contentAt (variantIn w slot ++ r) ≠ some .special
  /-- Links in a variant are copies of links. -/
  link : ∀ slot r, d.IsLink (variantIn w slot ++ r) → d.IsLink (root ++ r)
  /-- Everything else is a copy, too, unless it is a target file. -/
  copied : ∀ slot r c, p.IsBystander w root r → d.contentAt (variantIn w slot ++ r) = some c →
    w.disk.contentAt (root ++ r) = some c

/-- Before the first variant is made, there is nothing in the scratch directory. -/
theorem sound_openScratch (h : p.LiesAt w root) : p.Sound w root w.openScratch.disk := by
  have hput : w.disk.IsPut (freshScratch w.disk) (.directory (w.disk.newAttributes 0o700))
      w.openScratch.disk := isPut_put (lookup_freshScratch w.disk) _
  -- the place was free, and on a well-formed disk nothing is below a free place
  have hbelow : ∀ q, freshScratch w.disk <+: q → w.disk.lookup q = none := by
    intro q hq
    by_contra hne
    exact h.not_scratch (Option.isSome_iff_ne_none.mpr hne) hq
  have hvariants : ∀ slot r, w.openScratch.disk.lookup (variantIn w slot ++ r) = none := by
    intro slot r
    rw [hput.other (variantIn_append_ne_freshScratch w slot r),
      hbelow _ (freshScratch_prefix_variantIn w slot r)]
  refine ⟨?_, ⟨_, hput.self⟩, ?_, ?_, ?_, ?_, ?_⟩
  · intro q hq
    rw [shape, shape, hput.other]
    rintro rfl
    exact hq List.prefix_rfl
  · intro q hq r n hqn
    obtain ⟨e, he, hn⟩ := Option.bind_eq_some_iff.mp hqn
    by_cases hscratch : q = freshScratch w.disk
    · subst hscratch
      cases hput.self.symm.trans he
      cases hn
    · rw [hput.other hscratch, hbelow q hq] at he
      cases he
  · intro q hq
    by_cases hscratch : q = freshScratch w.disk
    · subst hscratch
      exact fun s hs => isName_of_mem_freshScratch hs
    · rw [hput.other hscratch] at hq
      exact h.wellFormed.isName q hq
  · intro slot r
    simp [contentAt, hvariants]
  · rintro slot r ⟨target, htarget⟩
    rw [hvariants] at htarget
    cases htarget
  · intro slot r c _ hc
    simp [contentAt, hvariants] at hc

namespace Sound

/-- What was on the disk before the scratch directory is as it was. -/
theorem shape_of_isSome (h : p.Sound w root d) (hlies : p.LiesAt w root) {q : Place}
    (hq : (w.disk.lookup q).isSome) : d.shape q = w.disk.shape q :=
  h.outside q (hlies.not_scratch hq)

theorem isDirectory_of_before (h : p.Sound w root d) (hlies : p.LiesAt w root) {q : Place}
    (hq : w.disk.IsDirectory q) : d.IsDirectory q :=
  (isDirectory_of_shape_eq (h.shape_of_isSome hlies hq.isSome_lookup)).mpr hq

theorem isDirectory_root (h : p.Sound w root d) (hlies : p.LiesAt w root) : d.IsDirectory root :=
  h.isDirectory_of_before hlies hlies.isDirectory

theorem isDirectory_of_prefix_scratch (h : p.Sound w root d) (hlies : p.LiesAt w root) {q : Place}
    (hq : q <+: freshScratch w.disk) : d.IsDirectory q := by
  by_cases hscratch : q = freshScratch w.disk
  · rw [hscratch]
    exact h.scratch
  · exact h.isDirectory_of_before hlies
      (isDirectory_of_prefix_freshScratch hlies.temporary hq hscratch)

/-- What is above a place in a variant is above the variants, or in the variant. -/
theorem prefix_cases (h : p.Sound w root d) (hlies : p.LiesAt w root) {q : Place}
    (hq : q <+: variantIn w slot ++ r) :
    d.IsDirectory q ∨ ∃ r', r' <+: r ∧ q = variantIn w slot ++ r' := by
  rcases List.prefix_or_prefix_of_prefix hq (List.prefix_append (variantIn w slot) r) with
    habove | ⟨r', rfl⟩
  · rcases List.prefix_concat_iff.mp habove with rfl | hscratch
    · -- the directory of the variant itself, which need not be there yet
      exact .inr ⟨[], List.nil_prefix, (List.append_nil _).symm⟩
    · exact .inl (h.isDirectory_of_prefix_scratch hlies hscratch)
  · exact .inr ⟨r', (List.prefix_append_right_inj _).mp hq, rfl⟩

/-- Where there is no link on the way through the project, there is none on the same way through a
variant. -/
theorem not_isLink (h : p.Sound w root d) (hlies : p.LiesAt w root) {q : Place}
    (hq : q <+: variantIn w slot ++ r)
    (hr : ∀ r', r' <+: r → q = variantIn w slot ++ r' → ¬ d.IsLink (root ++ r')) :
    ¬ d.IsLink q := by
  rcases h.prefix_cases hlies hq with hdirectory | ⟨r', hr', rfl⟩
  · exact fun hlink => hlink.not_isDirectory hdirectory
  · exact fun hlink => hr r' hr' rfl (h.link slot r' hlink)

/-- There is no device in a variant, so writing puts a file there. -/
theorem exists_places_of_writeAt {mode : Nat} {contents : Bytes} (h : p.Sound w root d)
    (hwrite : d.writeAt (variantIn w slot ++ r) mode contents = .ok d') :
    ∃ a, d.Places (variantIn w slot ++ r) (.file contents a) d' := by
  have halone := h.alone _ (freshScratch_prefix_variantIn w slot r)
  rcases writeAt_ok hwrite halone with hplaces | ⟨-, hdevice⟩
  · exact hplaces
  · refine absurd ?_ (h.notSpecial slot r)
    rcases hdevice with hnull | ⟨a, hpipe⟩
    · rw [contentAt, hnull]
      rfl
    · rw [contentAt, hpipe]
      rfl

end Sound

/-! ## Changes -/

/-- An entry that may be at a place in a variant. -/
structure Fits (p : Project) (w : Workspace) (root : Place) (d : Disk) (r : Place) (e : Entry) :
    Prop where
  isName : ∀ s ∈ r, IsName s
  notSpecial : e.content ≠ .special
  link : e.content = .link → d.IsLink (root ++ r)
  copied : p.IsBystander w root r → w.disk.contentAt (root ++ r) = some e.content

/-- A change in a variant keeps a disk sound if the new entry fits. -/
theorem Sound.places {e : Entry} (h : p.Sound w root d)
    (hplaces : d.Places (variantIn w slot ++ r) e d') (hfits : p.Fits w root d r e) :
    p.Sound w root d' := by
  have hself : d'.contentAt (variantIn w slot ++ r) = some e.content := by
    rw [contentAt, hplaces.isPut.self]
    rfl
  have hother : ∀ q, q ≠ variantIn w slot ++ r → d'.contentAt q = d.contentAt q :=
    fun q hq => contentAt_of_lookup_eq (hplaces.isPut.other hq)
  refine ⟨?_, hplaces.isDirectory_mono h.scratch, fun q hq => hplaces.alone (h.alone q hq), ?_, ?_,
    ?_, ?_⟩
  · intro q hq
    have hne : q ≠ variantIn w slot ++ r := by
      rintro rfl
      exact hq (freshScratch_prefix_variantIn w slot r)
    rw [shape, hplaces.isPut.other hne]
    exact h.outside q hq
  · intro q hq s hs
    by_cases hqr : q = variantIn w slot ++ r
    · subst hqr
      rcases List.mem_append.mp hs with hs | hs
      · rcases List.mem_append.mp hs with hs | hs
        · exact isName_of_mem_freshScratch hs
        · rw [List.mem_singleton.mp hs]
          exact isName_variant slot
      · exact hfits.isName s hs
    · rw [hplaces.isPut.other hqr] at hq
      exact h.isName q hq s hs
  · intro slot' r' hspecial
    by_cases hqr : variantIn w slot' ++ r' = variantIn w slot ++ r
    · rw [hqr, hself] at hspecial
      exact hfits.notSpecial (Option.some.inj hspecial)
    · rw [hother _ hqr] at hspecial
      exact h.notSpecial slot' r' hspecial
  · -- a link that is new is a copy of one, and the project keeps its links
    intro slot' r' hlink
    refine hplaces.isLink_mono ?_
    by_cases hqr : variantIn w slot' ++ r' = variantIn w slot ++ r
    · obtain ⟨rfl, rfl⟩ := variantIn_append_inj hqr
      rw [← contentAt_eq_link, hself] at hlink
      exact hfits.link (Option.some.inj hlink)
    · rw [← contentAt_eq_link, hother _ hqr, contentAt_eq_link] at hlink
      exact h.link slot' r' hlink
  · intro slot' r' c hbystander hc
    by_cases hqr : variantIn w slot' ++ r' = variantIn w slot ++ r
    · obtain ⟨rfl, rfl⟩ := variantIn_append_inj hqr
      rw [← hc, hself]
      exact hfits.copied hbystander
    · rw [hother _ hqr] at hc
      exact h.copied slot' r' c hbystander hc

/-- The disk `d'` is `d` after some work on the place `r` of a variant: what was there at other
places is there still, and everything that is new is in the variant. -/
structure Grown (p : Project) (w : Workspace) (root : Place) (slot : Nat) (r : Place)
    (d d' : Disk) : Prop where
  sound : p.Sound w root d'
  frame : ∀ q, ¬ variantIn w slot <+: q → d'.lookup q = d.lookup q
  kept : ∀ q, q ≠ variantIn w slot ++ r → (d.lookup q).isSome → d'.lookup q = d.lookup q
  directory : ∀ q, d.IsDirectory q → d'.IsDirectory q

theorem Sound.grown (h : p.Sound w root d) (slot : Nat) (r : Place) : p.Grown w root slot r d d :=
  ⟨h, fun _ _ => rfl, fun _ _ _ => rfl, fun _ hq => hq⟩

/-- Work goes on with a change at its own place, or where nothing was. -/
theorem Grown.places {d'' : Disk} {e : Entry} (h : p.Grown w root slot r d d')
    (hr' : r' = r ∨ d'.lookup (variantIn w slot ++ r') = none)
    (hplaces : d'.Places (variantIn w slot ++ r') e d'') (hfits : p.Fits w root d' r' e) :
    p.Grown w root slot r d d'' where
  sound := h.sound.places hplaces hfits
  frame q hq := by
    rw [hplaces.isPut.other, h.frame q hq]
    rintro rfl
    exact hq (List.prefix_append _ _)
  kept q hq hsome := by
    rw [hplaces.isPut.other, h.kept q hq hsome]
    rintro rfl
    -- nothing that was there before is at a place where nothing was
    rcases hr' with rfl | hnone
    · exact hq rfl
    · rw [← h.kept _ hq hsome, hnone] at hsome
      cases hsome
  directory q hq := hplaces.isDirectory_mono (h.directory q hq)

theorem Grown.contentAt_kept (h : p.Grown w root slot r d d') {q : Place} {c : Content}
    (hq : q ≠ variantIn w slot ++ r) (hc : d.contentAt q = some c) : d'.contentAt q = some c := by
  rw [← hc]
  exact contentAt_of_lookup_eq (h.kept q hq (isSome_lookup_of_contentAt hc))

end Project

end ProgramRepair
