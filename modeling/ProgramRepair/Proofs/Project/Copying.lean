import ProgramRepair.Proofs.Project.Soundness
import ProgramRepair.Proofs.Project.Work

/-!
# Copies are whole

Copying a project into a variant keeps the disk sound, wherever it fails, and
when it succeeds, everything in the project is in the variant. Main statements:

* `copyEntry_leaves`: one entry is copied to its place in the variant;
* `copyTree_leaves`: so are all of them.
-/

namespace ProgramRepair.Project

open Disk DiskWork Workspace

variable {p : Project} {w : Workspace} {root r : Place} {slot : Nat} {d d' : Disk} {path : String}

/-- The disk `d'` is `d` after work in the variant of one slot. -/
structure Within (p : Project) (w : Workspace) (root : Place) (slot : Nat) (d d' : Disk) :
    Prop where
  sound : p.Sound w root d'
  frame : ∀ q, ¬ variantIn w slot <+: q → d'.lookup q = d.lookup q

theorem Sound.within (h : p.Sound w root d) (slot : Nat) : p.Within w root slot d d :=
  ⟨h, fun _ _ => rfl⟩

theorem Grown.within (h : p.Grown w root slot r d d') : p.Within w root slot d d' :=
  ⟨h.sound, h.frame⟩

theorem Within.trans {d'' : Disk} (h : p.Within w root slot d d')
    (h' : p.Within w root slot d' d'') : p.Within w root slot d d'' :=
  ⟨h'.sound, fun q hq => (h'.frame q hq).trans (h.frame q hq)⟩

/-- Everything in the project but its target files is in the variant of a slot. -/
def Whole (p : Project) (w : Workspace) (root : Place) (slot : Nat) (d : Disk) : Prop :=
  ∀ r c, p.IsBystander w root r → w.disk.contentAt (root ++ r) = some c →
    d.contentAt (variantIn w slot ++ r) = some c

/-! ## Single entries -/

/-- A copy of what is at the same place in the project fits a variant. -/
theorem Sound.fits_copy {e e' : Entry} (h : p.Sound w root d) (hname : ∀ s ∈ r, IsName s)
    (he : d.lookup (root ++ r) = some e) (hcopy : e'.content = e.content)
    (hspecial : e.content ≠ .special) : p.Fits w root d r e' := by
  have hcontent : d.contentAt (root ++ r) = some e'.content := by rw [contentAt, he, hcopy]; rfl
  refine ⟨hname, hcopy ▸ hspecial, fun hlink => ?_, fun hr => ?_⟩
  · rw [hlink] at hcontent
    exact contentAt_eq_link.mp hcontent
  · rw [← hcontent]
    exact (contentAt_of_shape_eq (h.outside _ hr.notScratch)).symm

/-- The directories on the way to a place are made where they are directories in the project. -/
theorem makeDirectories_leaves {r₀ cwd : Place} {d₀ : Disk} (hlies : p.LiesAt w root)
    (h : p.Grown w root slot r₀ d₀ d) (hliteral : Literal path (variantIn w slot ++ r))
    (hname : ∀ s ∈ r, IsName s) (hdirectories : ∀ r', r' <+: r → d.IsDirectory (root ++ r')) :
    Leaves (change fun d => d.makeDirectories cwd path) d
      (fun _ d' => p.Grown w root slot r₀ d₀ d' ∧ (∀ q, d.IsDirectory q → d'.IsDirectory q) ∧
        d'.IsDirectory (variantIn w slot ++ r))
      (p.Grown w root slot r₀ d₀) := by
  refine leaves_change (fun d' hd' => ?_) h
  -- the directories of the project stay while those of the variant are made, so there is never a
  -- link on the way
  have hkept := makeDirectories_keeps
    (P := fun d' => p.Grown w root slot r₀ d₀ d' ∧ ∀ q, d.IsDirectory q → d'.IsDirectory q)
    (fun d' hd' q hq => hd'.1.sound.not_isLink hlies hq fun r' hr' _ hlink =>
      hlink.not_isDirectory (hd'.2 _ (hdirectories r' hr')))
    ?_ hliteral ⟨h, fun _ hq => hq⟩ hd'
  · exact ⟨hkept.1.1, hkept.1.2, hkept.2⟩
  rintro d₁ d₂ q ⟨hgrown, hmono⟩ hq hnone hplaces
  refine ⟨?_, fun q hq => hplaces.isDirectory_mono (hmono q hq)⟩
  rcases hgrown.sound.prefix_cases hlies hq with ⟨b, hb⟩ | ⟨r', hr', rfl⟩
  · cases hnone.symm.trans hb
  · obtain ⟨b, hb⟩ := hmono _ (hdirectories r' hr')
    exact hgrown.places (.inr hnone) hplaces
      (hgrown.sound.fits_copy (fun s hs => hname s (hr'.subset hs)) hb rfl nofun)

/-- An entry of the project is copied to its place in a variant. -/
theorem copyEntry_leaves (place : Place) (copyPath : String) {e : Entry}
    (hlies : p.LiesAt w root) (h : p.Sound w root d) (he : d.lookup (root ++ r) = some e)
    (hname : ∀ s ∈ r, IsName s)
    (hdirectories : ∀ r', r' <+: r → r' ≠ r → d.IsDirectory (root ++ r'))
    (hliteral : Literal path (variantIn w slot ++ r))
    (hend : d.IsLink (root ++ r) → endsAsDirectory path = false) :
    Leaves (copyEntry w.cwd root place copyPath path e) d
      (fun _ d' => p.Grown w root slot r d d' ∧
        d'.contentAt (variantIn w slot ++ r) = some e.content)
      (p.Grown w root slot r d) := by
  have hgrown := h.grown slot r
  -- only the copy itself may be a link
  have habove : ∀ q, q <+: variantIn w slot ++ r → q ≠ variantIn w slot ++ r → ¬ d.IsLink q := by
    intro q hq hne
    refine h.not_isLink hlies hq fun r' hr' hqr hlink => ?_
    exact hlink.not_isDirectory (hdirectories r' hr' fun heq => hne (by rw [hqr, heq]))
  cases e with
  | directory a =>
    have hall : ∀ r', r' <+: r → d.IsDirectory (root ++ r') := by
      intro r' hr'
      by_cases hne : r' = r
      · exact hne ▸ ⟨a, he⟩
      · exact hdirectories r' hr' hne
    refine (makeDirectories_leaves hlies hgrown hliteral hname hall).mono ?_ fun _ h => h
    exact fun _ d' hd' => ⟨hd'.1, contentAt_eq_directory.mpr hd'.2.2⟩
  | link target =>
    refine leaves_change (fun d' hd' => ?_) hgrown
    obtain ⟨q, hq, hnone, hplaces⟩ := makeLink_ok hd'
    obtain rfl := resolveEntry_literal hq hliteral (hend ⟨target, he⟩) habove
    have hspecial : (Entry.link target).content ≠ .special := by
      intro heq
      cases heq
    refine ⟨hgrown.places (.inl rfl) hplaces (h.fits_copy hname he rfl hspecial), ?_⟩
    rw [contentAt, hplaces.isPut.self]
    rfl
  | file contents a =>
    refine leaves_ask_bind (fun bytes hbytes => ?_) hgrown
    obtain ⟨-, rfl⟩ := contentsOf_file.mp hbytes
    refine leaves_ask_bind (fun q hq => ?_) hgrown
    have hself : ¬ d.IsLink (root ++ r) := by
      rintro ⟨target, htarget⟩
      cases he.symm.trans htarget
    obtain rfl := placeForWriting_straight hq hliteral.straight fun q hq =>
      h.not_isLink hlies hq fun r' hr' _ => by
        by_cases hne : r' = r
        · exact hne ▸ hself
        · exact fun hlink => hlink.not_isDirectory (hdirectories r' hr' hne)
    refine leaves_change_bind (fun d' hd' => leaves_modify ?_) hgrown
    obtain ⟨b, hplaces⟩ := h.exists_places_of_writeAt hd'
    -- with the rights of the original, the file is a copy
    have hcopy := hplaces.setMode (h.alone _ (freshScratch_prefix_variantIn w slot r)) a.mode
    have hspecial : (Entry.file contents a).content ≠ .special := by
      intro heq
      cases heq
    refine ⟨hgrown.places (.inl rfl) hcopy (h.fits_copy hname he rfl hspecial), ?_⟩
    rw [contentAt, hcopy.isPut.self]
    rfl
  | null => exact leaves_throw hgrown
  | pipe a => exact leaves_throw hgrown

/-! ## Whole projects -/

/-- What is known when some places of the project were copied, where `d` is the disk after the
directory of the variant was made. -/
structure Swept (p : Project) (w : Workspace) (root : Place) (slot : Nat) (d : Disk)
    (done : List Place) (d' : Disk) : Prop where
  within : p.Within w root slot d d'
  directory : ∀ q, d.IsDirectory q → d'.IsDirectory q
  copied : ∀ r c, root ++ r ∈ done → p.IsBystander w root r →
    w.disk.contentAt (root ++ r) = some c → d'.contentAt (variantIn w slot ++ r) = some c

/-- The copy of one more place. -/
theorem Swept.next {d'' : Disk} {done : List Place} (h : p.Swept w root slot d done d')
    (hgrown : p.Grown w root slot r d' d'')
    (hcopied : ∀ c, p.IsBystander w root r → w.disk.contentAt (root ++ r) = some c →
      d''.contentAt (variantIn w slot ++ r) = some c) :
    p.Swept w root slot d (done ++ [root ++ r]) d'' where
  within := h.within.trans hgrown.within
  directory q hq := hgrown.directory q (h.directory q hq)
  copied r' c hr' hbystander hc := by
    by_cases hrr' : r' = r
    · subst hrr'
      exact hcopied c hbystander hc
    · have hdone : root ++ r' ∈ done := by simpa [hrr'] using hr'
      exact hgrown.contentAt_kept (by simpa using hrr') (h.copied r' c hdone hbystander hc)

theorem copyBelow_leaves {done : List Place} (hlies : p.LiesAt w root)
    (h : p.Swept w root slot d done d') {q : Place} (hq : q ∈ d.descendants root)
    (hroot : d.IsDirectory root) :
    Leaves (copyBelow w.cwd root (variantPath (freshScratch w.disk) slot) q) d'
      (fun _ d'' => p.Swept w root slot d (done ++ [q]) d'') (p.Within w root slot d) := by
  obtain ⟨r, hr, rfl, hdirectories⟩ := exists_of_mem_descendants hq
  have hsound := h.within.sound
  refine leaves_bind (leaves_get ?_)
  split
  · next e he =>
    have hname : ∀ s ∈ r, IsName s := fun s hs =>
      hsound.isName (root ++ r) (by rw [he]; rfl) s (List.mem_append_right _ hs)
    obtain ⟨hne, hend⟩ := endsAsDirectory_intercalate hname hr
    rw [List.drop_left]
    have hcopy := copyEntry_leaves (root ++ r) (variantPath (freshScratch w.disk) slot) hlies
      hsound he hname ?_ ((literal_variantIn w slot).join hname) fun _ => by
        rw [endsAsDirectory_join (isAbsolute_intercalate hname) hne, hend]
    · refine hcopy.mono (fun _ d'' hd'' => h.next hd''.1 fun c hbystander hc => ?_)
        fun d'' hd'' => h.within.trans hd''.within
      rw [hd''.2, ← hc, ← contentAt_of_shape_eq (hsound.outside _ hbystander.notScratch),
        contentAt, he]
      rfl
    · intro r' hr' hne
      refine h.directory _ ?_
      by_cases hnil : r' = []
      · rwa [hnil, List.append_nil]
      · exact hdirectories r' hr' hnil hne
  · -- what is listed is there, and the project is as it was
    next hnone =>
    refine leaves_pure (h.next (hsound.grown slot r) fun c hbystander hc => ?_)
    have hcontent := contentAt_of_shape_eq (hsound.outside _ hbystander.notScratch)
    rw [hc, contentAt, hnone] at hcontent
    cases hcontent

/-- Everything in the project is one of its descendants. -/
theorem Sound.mem_descendants {c : Content} (h : p.Sound w root d) (hlies : p.LiesAt w root)
    (hr : r ≠ []) (hc : w.disk.contentAt (root ++ r) = some c) :
    root ++ r ∈ d.descendants root := by
  have hsome := isSome_lookup_of_contentAt hc
  refine Disk.mem_descendants hr ?_ fun r' hr' _ hne => ?_
  · rwa [isSome_lookup_of_shape_eq (h.shape_of_isSome hlies hsome)]
  · exact h.isDirectory_of_before hlies (hlies.wellFormed.isDirectory_of_prefix hsome
      ((List.prefix_append_right_inj root).mpr hr') (by simpa using hne))

/-- Once its directory is there, a variant gets everything that is in the project. -/
theorem copyDescendants_leaves (hlies : p.LiesAt w root) (h : p.Sound w root d)
    (hvariant : d.IsDirectory (variantIn w slot)) :
    Leaves ((d.descendants root).forM
        (copyBelow w.cwd root (variantPath (freshScratch w.disk) slot))) d
      (fun _ d' => p.Within w root slot d d' ∧ p.Whole w root slot d')
      (p.Within w root slot d) := by
  -- the directory of the variant is the copy of the root
  have hstart : p.Swept w root slot d [root] d := by
    refine ⟨h.within slot, fun _ hq => hq, fun r c hr hbystander hc => ?_⟩
    obtain rfl : r = [] := by simpa using hr
    have hroot := contentAt_eq_directory.mpr hlies.isDirectory
    rw [List.append_nil] at hc ⊢
    rw [contentAt_eq_directory.mpr hvariant, ← hc, hroot]
  refine (leaves_forM (I := fun done d' => p.Swept w root slot d (root :: done) d')
    (fun done q rest d' hsplit hd' => ?_) hstart).mono
    (fun _ d' hd' => ⟨hd'.within, fun r c hbystander hc => ?_⟩) fun _ hd' => hd'
  · have hq : q ∈ d.descendants root := hsplit ▸ List.mem_append_right _ List.mem_cons_self
    exact copyBelow_leaves hlies hd' hq (h.isDirectory_root hlies)
  refine hd'.copied r c ?_ hbystander hc
  by_cases hr : r = []
  · rw [hr, List.append_nil]
    exact List.mem_cons_self
  · exact List.mem_cons_of_mem _ (h.mem_descendants hlies hr hc)

/-- A copy of the project is whole when nothing failed. -/
theorem copyTree_leaves (hlies : p.LiesAt w root) (h : p.Sound w root d) (slot : Nat) :
    Leaves (copyTree w.cwd p.root (variantPath (freshScratch w.disk) slot)) d
      (fun _ d' => p.Within w root slot d d' ∧ p.Whole w root slot d')
      (p.Within w root slot d) := by
  have hcanonical : d.canonical w.cwd p.root = .ok root :=
    canonical_of_agree hlies.canonical fun q hq => h.shape_of_isSome hlies hq
  have hvariant := literal_variantIn w slot
  rw [copyTree]
  refine leaves_ask_bind (fun root' hroot' => ?_) (h.within slot)
  obtain rfl := Except.ok.inj (hcanonical.symm.trans hroot')
  refine leaves_ask_bind (fun entry hentry => ?_) (h.within slot)
  obtain ⟨place, e⟩ := entry
  dsimp only
  rcases findEntry_cases hentry hcanonical with ⟨target, rfl⟩ | ⟨rfl, he⟩
  · refine leaves_bind ?_
    rw [copyEntry]
    exact leaves_change (fun d' hd' => absurd hd'
      (makeLink_ne_ok (endsAsDirectory_join_empty hvariant.absolute))) (h.within slot)
  · obtain ⟨a, ha⟩ := h.isDirectory_root hlies
    obtain rfl := Option.some.inj (he.symm.trans ha)
    have hliteral : Literal (join (variantPath (freshScratch w.disk) slot) "")
        (variantIn w slot ++ []) := hvariant.join (q := []) nofun
    refine leaves_bind ?_
    rw [copyEntry]
    refine (makeDirectories_leaves hlies (h.grown slot []) hliteral nofun ?_).mono
      (fun _ d₁ hd₁ => ?_) fun _ hd₁ => hd₁.within
    · intro r' hr'
      rw [List.prefix_nil.mp hr', List.append_nil]
      exact ⟨a, ha⟩
    · obtain ⟨hgrown, -, hdirectory⟩ := hd₁
      rw [List.append_nil] at hdirectory
      refine leaves_bind (leaves_get ?_)
      refine (copyDescendants_leaves hlies hgrown.sound hdirectory).mono
        (fun _ d' hd' => ⟨hgrown.within.trans hd'.1, hd'.2⟩) fun _ hd' => hgrown.within.trans hd'

end ProgramRepair.Project
