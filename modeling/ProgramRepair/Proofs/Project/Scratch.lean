import ProgramRepair.Project.Variant
import ProgramRepair.Proofs.Disk.Tree

/-!
# Scratch directories

A scratch directory is made at a place at which there is nothing, and every slot
has a place of its own below it. Main statements:

* `lookup_freshScratch`: there is always a place left for a scratch directory;
* `variantPlace_append_inj`: what is in the variant of one slot is not in that of
  another.
-/

namespace ProgramRepair

/-! ## The scratch directory -/

namespace Workspace

theorem scratchName_injective : Function.Injective scratchName := by
  have hvalue : ∀ k (ds : List Char),
      Nat.ofDigitChars 10 (List.replicate k '0' ++ ds) 0 = Nat.ofDigitChars 10 ds 0 := by
    intro k ds
    induction k with
    | zero => rfl
    | succ k ih => simpa [List.replicate_succ, Nat.ofDigitChars_cons] using ih
  have hdigits : ∀ n, Nat.ofDigitChars 10 (Nat.toDigits 10 n) 0 = n :=
    fun n => Nat.ofDigitChars_toDigits (by decide) (by decide)
  -- the digits of a name, with or without zeros before them, have the number as their value
  intro m n h
  have hlists := congrArg String.toList h
  simp only [scratchName, String.toList_append, String.toList_ofList] at hlists
  have hvalues := congrArg (Nat.ofDigitChars 10 · 0) (List.append_cancel_left hlists)
  simpa only [hvalue, hdigits] using hvalues

theorem slash_not_mem_toDigits (n : Nat) : '/' ∉ Nat.toDigits 10 n := by
  intro hmem
  cases Nat.isDigit_of_mem_toDigits (by decide) (by decide) hmem

theorem isName_scratchName (n : Nat) : Disk.IsName (scratchName n) := by
  refine Disk.IsName.append ⟨by decide, by decide, by decide, by decide⟩ (by decide) ?_
  simp [slash_not_mem_toDigits]

variable {d : Disk}

/-- One of the names for scratch directories is left, for there are more of them than entries. -/
theorem exists_free_scratchName (d : Disk) :
    ∃ n ∈ List.range (d.entries.length + 1), d.lookup (scratchRoot ++ [scratchName n]) = none := by
  by_contra! htaken
  let places := (List.range (d.entries.length + 1)).map fun n => scratchRoot ++ [scratchName n]
  have hnodup : places.Nodup := by
    refine List.Nodup.map (fun m n hmn => scratchName_injective ?_) List.nodup_range
    simpa using hmn
  have hsubset : places ⊆ d.entries.map Prod.fst := by
    intro p hp
    obtain ⟨n, hn, rfl⟩ := List.mem_map.mp hp
    obtain ⟨e, he⟩ := Option.ne_none_iff_exists'.mp (htaken n hn)
    exact (Disk.mem_places_iff (by simp)).mpr (by rw [he]; rfl)
  -- there would be more names than entries
  have hlength := (hnodup.subperm hsubset).length_le
  simp only [places, List.length_map, List.length_range] at hlength
  omega

/-- The scratch directory is made under one of its names, where there is nothing. -/
theorem exists_freshScratch (d : Disk) :
    ∃ n, freshScratch d = scratchRoot ++ [scratchName n] ∧ d.lookup (freshScratch d) = none := by
  obtain ⟨n, hn, hfree⟩ := exists_free_scratchName d
  cases hfind : ((List.range (d.entries.length + 1)).map scratchName).find?
      fun name => d.lookup (scratchRoot ++ [name]) = none with
  | none =>
    have htaken := List.find?_eq_none.mp hfind (scratchName n) (List.mem_map_of_mem hn)
    exact absurd (decide_eq_true hfree) htaken
  | some name =>
    obtain ⟨m, -, rfl⟩ := List.mem_map.mp (List.mem_of_find?_eq_some hfind)
    have hscratch : freshScratch d = scratchRoot ++ [scratchName m] := by
      rw [freshScratch, hfind, Option.getD_some]
    exact ⟨m, hscratch, by simpa [hscratch] using List.find?_some hfind⟩

theorem lookup_freshScratch (d : Disk) : d.lookup (freshScratch d) = none :=
  (exists_freshScratch d).choose_spec.2

theorem isName_of_mem_freshScratch {s : String} (hs : s ∈ freshScratch d) : Disk.IsName s := by
  obtain ⟨n, hscratch, -⟩ := exists_freshScratch d
  rw [hscratch, scratchRoot, List.mem_append, List.mem_singleton, List.mem_singleton] at hs
  rcases hs with rfl | rfl
  · exact ⟨by decide, by decide, by decide, by decide⟩
  · exact isName_scratchName n

/-- Everything above the scratch directory is a directory that was there before. -/
theorem isDirectory_of_prefix_freshScratch {q : Place} (htemporary : d.IsDirectory scratchRoot)
    (hpre : q <+: freshScratch d) (hne : q ≠ freshScratch d) : d.IsDirectory q := by
  obtain ⟨n, hscratch, -⟩ := exists_freshScratch d
  rw [hscratch, scratchRoot] at hpre hne
  rcases List.prefix_concat_iff.mp hpre with hq | hq
  · exact absurd hq hne
  · rcases List.prefix_cons_iff.mp hq with rfl | ⟨t, rfl, ht⟩
    · exact Disk.isDirectory_root d
    · rw [List.prefix_nil.mp ht]
      exact htemporary

/-- What is on a disk is not in the scratch directory that is going to be made. -/
theorem not_freshScratch_prefix (hd : d.WellFormed) {q : Place} (hq : (d.lookup q).isSome) :
    ¬ freshScratch d <+: q := by
  intro hpre
  have hscratch := hd.isSome_of_prefix hq hpre
  rw [lookup_freshScratch] at hscratch
  cases hscratch

end Workspace

/-! ## Variants -/

namespace Project

/-- The place of the variant in a slot. -/
def variantPlace (scratch : Place) (slot : Nat) : Place := scratch ++ ["variant-" ++ toString slot]

theorem isName_variant (slot : Nat) : Disk.IsName ("variant-" ++ toString slot) := by
  refine Disk.IsName.append ⟨by decide, by decide, by decide, by decide⟩ (by decide) ?_
  simp [Nat.toString_eq_repr, Nat.toList_repr, Workspace.slash_not_mem_toDigits]

theorem literal_variantPath {scratch : Place} (h : ∀ s ∈ scratch, Disk.IsName s) (slot : Nat) :
    Disk.Literal (variantPath scratch slot) (variantPlace scratch slot) := by
  have hname : ∀ s ∈ ["variant-" ++ toString slot], Disk.IsName s := by
    simpa using isName_variant slot
  simpa [variantPath, variantPlace] using (Disk.Literal.pathOf h).join hname

theorem variantPlace_append_inj {scratch r r' : Place} {slot slot' : Nat}
    (h : variantPlace scratch slot ++ r = variantPlace scratch slot' ++ r') :
    slot = slot' ∧ r = r' := by
  simp only [variantPlace, List.append_assoc, List.append_cancel_left_eq, List.singleton_append,
    List.cons.injEq] at h
  obtain ⟨hname, hr⟩ := h
  have hlists := congrArg String.toList hname
  simp only [String.toList_append, List.append_cancel_left_eq, Nat.toString_eq_repr,
    Nat.toList_repr] at hlists
  have hvalue : ∀ n, Nat.ofDigitChars 10 (Nat.toDigits 10 n) 0 = n :=
    fun n => Nat.ofDigitChars_toDigits (by decide) (by decide)
  exact ⟨by rw [← hvalue slot, hlists, hvalue], hr⟩

theorem scratch_prefix_variantPlace (scratch : Place) (slot : Nat) (r : Place) :
    scratch <+: variantPlace scratch slot ++ r := by
  rw [variantPlace, List.append_assoc]
  exact List.prefix_append _ _

end Project

end ProgramRepair
