import Mathlib.Data.List.Induction
import Mathlib.Data.List.Infix
import Mathlib.Data.List.Nodup
import Mathlib.Data.List.Perm.Subperm
import ProgramRepair.Proofs.Disk.Path
import ProgramRepair.Proofs.Disk.Resolution

/-!
# Trees of entries

On a well-formed disk everything is in a directory, so what is below a place is
found by going through directories. Main statements:

* `WellFormed.isDirectory_of_prefix`: what is above an entry is a directory;
* `exists_of_mem_descendants`, `mem_descendants`: the descendants of a place are
  what is below it;
* `PlacesNodup.below`, `parentsFirst_below`: each is listed once, and after the
  directory that it is in.
-/

namespace ProgramRepair.Disk

/-- Names are valid, and whatever is on the disk is in a directory. -/
structure WellFormed (d : Disk) : Prop where
  isName : ∀ p, (d.lookup p).isSome → ∀ s ∈ p, IsName s
  parent : ∀ p, p ≠ [] → (d.lookup p).isSome → d.IsDirectory p.dropLast

variable {d : Disk} {p q r : Place}

theorem IsDirectory.isSome_lookup (h : d.IsDirectory p) : (d.lookup p).isSome := by
  obtain ⟨a, ha⟩ := h
  rw [ha]
  rfl

/-- Everything above a place that is not empty is a directory. -/
theorem WellFormed.isDirectory_of_prefix (h : d.WellFormed) (hp : (d.lookup p).isSome)
    (hpre : q <+: p) (hne : q ≠ p) : d.IsDirectory q := by
  obtain ⟨r, rfl⟩ := hpre
  -- upwards from the entry, one directory at a time
  induction r using List.reverseRecOn with
  | nil => exact absurd (List.append_nil q).symm hne
  | append_singleton r s ih =>
    rw [← List.append_assoc] at hp
    have hup : d.IsDirectory (q ++ r) := by
      simpa using h.parent (q ++ r ++ [s]) (by simp) hp
    by_cases hr : r = []
    · rwa [hr, List.append_nil] at hup
    · exact ih hup.isSome_lookup (by simpa using hr)

theorem WellFormed.isSome_of_prefix (h : d.WellFormed) (hp : (d.lookup p).isSome)
    (hpre : q <+: p) : (d.lookup q).isSome := by
  by_cases hq : q = p
  · rwa [hq]
  · exact (h.isDirectory_of_prefix hp hpre hq).isSome_lookup

/-! ## Descendants -/

/-- The places on the list of entries are those at which something is, except for the root. -/
theorem mem_places_iff (hp : p ≠ []) : p ∈ d.entries.map Prod.fst ↔ (d.lookup p).isSome := by
  rw [lookup, if_neg hp, List.lookup_isSome_iff, List.mem_map]
  simp only [beq_iff_eq, eq_comm (a := p)]

/-- It is enough to look at the entries on the list. -/
theorem WellFormed.of_entries (h : ∀ entry ∈ d.entries, (∀ s ∈ entry.1, IsName s) ∧
    (d.lookup entry.1.dropLast).any Entry.isDirectory) : d.WellFormed := by
  have hentry : ∀ p, p ≠ [] → (d.lookup p).isSome →
      (∀ s ∈ p, IsName s) ∧ (d.lookup p.dropLast).any Entry.isDirectory := by
    intro p hne hp
    obtain ⟨entry, hmem, rfl⟩ := List.mem_map.mp ((mem_places_iff hne).mpr hp)
    exact h entry hmem
  refine ⟨fun p hp => ?_, fun p hne hp => ?_⟩
  · by_cases hne : p = []
    · rw [hne]
      exact nofun
    · exact (hentry p hne hp).1
  · obtain ⟨e, he, hdirectory⟩ := (Option.any_eq_true _ _).mp (hentry p hne hp).2
    cases e with
    | directory a => exact ⟨a, he⟩
    | _ => cases hdirectory

theorem mem_children_iff {name : String} :
    name ∈ d.children p ↔ (d.lookup (p ++ [name])).isSome := by
  rw [← mem_places_iff (by simp), children, List.mem_filterMap, List.mem_map]
  constructor
  · rintro ⟨⟨q, e⟩, hmem, hname⟩
    refine ⟨(q, e), hmem, ?_⟩
    rcases List.eq_nil_or_concat q with rfl | ⟨up, s, rfl⟩
    · cases hname
    · simp only [List.concat_eq_append, List.reverse_append, List.reverse_cons, List.reverse_nil,
        List.nil_append, List.singleton_append, List.reverse_reverse, Option.ite_none_right_eq_some,
        Option.some.injEq] at hname ⊢
      obtain ⟨rfl, rfl⟩ := hname
      rfl
  · rintro ⟨⟨q, e⟩, hmem, rfl⟩
    exact ⟨(p ++ [name], e), hmem, by simp⟩

/-- What is listed below a place is below it, and reached through directories. -/
theorem exists_of_mem_below {depth : Nat} (h : q ∈ d.below depth p) :
    ∃ r, r ≠ [] ∧ q = p ++ r ∧ ∀ r', r' <+: r → r' ≠ [] → r' ≠ r → d.IsDirectory (p ++ r') := by
  induction depth generalizing p with
  | zero => cases h
  | succ depth ih =>
    obtain ⟨name, -, hq⟩ := List.mem_flatMap.mp h
    rcases List.mem_cons.mp hq with rfl | hq
    · refine ⟨[name], by simp, rfl, fun r' hr' hne hne' => ?_⟩
      rcases List.prefix_cons_iff.mp hr' with rfl | ⟨t, rfl, ht⟩
      · exact absurd rfl hne
      · exact absurd (by rw [List.prefix_nil.mp ht]) hne'
    · split at hq
      · next hdirectory =>
        obtain ⟨r, -, rfl, hdirectories⟩ := ih hq
        refine ⟨name :: r, by simp, by simp, fun r' hr' hne hne' => ?_⟩
        rcases List.prefix_cons_iff.mp hr' with rfl | ⟨t, rfl, ht⟩
        · exact absurd rfl hne
        · by_cases hnil : t = []
          · subst hnil
            cases he : d.lookup (p ++ [name]) with
            | none => simp [he] at hdirectory
            | some e =>
              cases e with
              | directory a => exact ⟨a, he⟩
              | _ => simp [he, Entry.isDirectory] at hdirectory
          · simpa using hdirectories t ht hnil (by simpa using hne')
      · cases hq

/-- What is in a place, however deep, is listed below it if the depth is enough. -/
theorem mem_below {depth : Nat} (hr : r ≠ []) (hdepth : r.length ≤ depth)
    (hp : (d.lookup (p ++ r)).isSome)
    (hdirectories : ∀ r', r' <+: r → r' ≠ [] → r' ≠ r → d.IsDirectory (p ++ r')) :
    p ++ r ∈ d.below depth p := by
  induction depth generalizing p r with
  | zero => exact absurd (List.length_eq_zero_iff.mp (Nat.le_zero.mp hdepth)) hr
  | succ depth ih =>
    obtain ⟨name, rest, rfl⟩ := List.exists_cons_of_ne_nil hr
    have hname : (d.lookup (p ++ [name])).isSome := by
      by_cases hrest : rest = []
      · rwa [hrest] at hp
      · refine (hdirectories [name] ?_ (by simp) ?_).isSome_lookup
        · exact List.prefix_append [name] rest
        · simpa using Ne.symm hrest
    refine List.mem_flatMap.mpr ⟨name, mem_children_iff.mpr hname, ?_⟩
    by_cases hrest : rest = []
    · rw [hrest]
      exact List.mem_cons_self
    · have hdirectory : (d.lookup (p ++ [name])).any Entry.isDirectory = true := by
        obtain ⟨a, ha⟩ := hdirectories [name] (List.prefix_append [name] rest) (by simp)
          (by simpa using Ne.symm hrest)
        rw [ha]
        rfl
      rw [if_pos hdirectory]
      refine List.mem_cons_of_mem _ ?_
      -- the rest of the way starts one directory further down
      have hlonger : p ++ name :: rest = p ++ [name] ++ rest := by simp
      rw [hlonger] at hp ⊢
      refine ih hrest (by simpa using hdepth) hp fun r' hr' hne hne' => ?_
      simpa using hdirectories (name :: r') (List.cons_prefix_cons.mpr ⟨rfl, hr'⟩) (by simp)
        (by simpa using hne')

/-- Every step to a place goes through another entry, so no place is deeper than there are
entries. -/
theorem length_le_entries (h : ∀ r', r' <+: r → r' ≠ [] → (d.lookup (p ++ r')).isSome) :
    r.length ≤ d.entries.length := by
  -- the places on the way, which are all different
  let places := (List.range r.length).map fun n => p ++ r.take (n + 1)
  have hnodup : places.Nodup := by
    refine List.Nodup.map_on (fun m hm n hn hmn => ?_) List.nodup_range
    have hlength := congrArg List.length (List.append_cancel_left hmn)
    simp only [List.length_take] at hlength
    have hm := List.mem_range.mp hm
    have hn := List.mem_range.mp hn
    omega
  have hsubset : places ⊆ d.entries.map Prod.fst := by
    intro q hq
    obtain ⟨n, hn, rfl⟩ := List.mem_map.mp hq
    have hne : r.take (n + 1) ≠ [] := by
      rw [ne_eq, List.take_eq_nil_iff]
      rintro (hzero | rfl)
      · cases hzero
      · cases List.mem_range.mp hn
    exact (mem_places_iff (by simp [hne])).mpr (h _ (List.take_prefix _ _) hne)
  simpa [places] using (hnodup.subperm hsubset).length_le

theorem exists_of_mem_descendants (h : q ∈ d.descendants p) :
    ∃ r, r ≠ [] ∧ q = p ++ r ∧ ∀ r', r' <+: r → r' ≠ [] → r' ≠ r → d.IsDirectory (p ++ r') :=
  exists_of_mem_below h

/-- What is below a place is one of its descendants. -/
theorem mem_descendants (hr : r ≠ []) (hp : (d.lookup (p ++ r)).isSome)
    (hdirectories : ∀ r', r' <+: r → r' ≠ [] → r' ≠ r → d.IsDirectory (p ++ r')) :
    p ++ r ∈ d.descendants p := by
  refine mem_below hr (length_le_entries (p := p) fun r' hr' hne => ?_) hp hdirectories
  by_cases hr'r : r' = r
  · rwa [hr'r]
  · exact (hdirectories r' hr' hne hr'r).isSome_lookup

/-! ## Orders of listing -/

section Listing

variable {root : Place} {e : Entry} {name : String} {entries : List (Place × Entry)}
  {l l' : List Place}

/-- No place is listed twice. -/
def PlacesNodup (d : Disk) : Prop := (d.entries.map Prod.fst).Nodup

instance (d : Disk) : Decidable d.PlacesNodup :=
  inferInstanceAs (Decidable (d.entries.map Prod.fst).Nodup)

/-- Where nothing is listed, there is nothing. -/
theorem lookup_eq_none_of_entries (hp : p ≠ []) (h : ∀ entry ∈ d.entries, ¬ p <+: entry.1)
    (r : Place) : d.lookup (p ++ r) = none := by
  rw [← Option.not_isSome_iff_eq_none, ← mem_places_iff (by simp [hp]), List.mem_map]
  rintro ⟨entry, hmem, hplace⟩
  exact h entry hmem (hplace ▸ List.prefix_append p r)

theorem map_fst_putEntry : (putEntry p e entries).map Prod.fst =
    if p ∈ entries.map Prod.fst then entries.map Prod.fst else entries.map Prod.fst ++ [p] := by
  induction entries with
  | nil => rfl
  | cons entry rest ih =>
    obtain ⟨q, f⟩ := entry
    by_cases hq : q = p
    · simp [putEntry, hq]
    · rw [putEntry, if_neg hq, List.map_cons, ih]
      by_cases hp : p ∈ rest.map Prod.fst
      · simp [hp]
      · simp [hp, Ne.symm hq]

theorem PlacesNodup.put (h : d.PlacesNodup) (p : Place) (e : Entry) : (d.put p e).PlacesNodup := by
  unfold PlacesNodup at h ⊢
  rw [Disk.put, map_fst_putEntry]
  split
  · exact h
  · next hp =>
    refine List.nodup_append.mpr ⟨h, List.nodup_singleton p, fun q hq q' hq' heq => hp ?_⟩
    rwa [← List.mem_singleton.mp hq', ← heq]

theorem PlacesNodup.children (h : d.PlacesNodup) (p : Place) : (d.children p).Nodup := by
  -- the name of a child determines its place
  obtain ⟨f, hchildren, hf⟩ : ∃ f : Place × Entry → Option String,
      d.children p = d.entries.filterMap f ∧
        ∀ entry name, f entry = some name → entry.1 = p ++ [name] := by
    refine ⟨_, rfl, fun entry name hname => ?_⟩
    obtain ⟨q, e⟩ := entry
    rcases List.eq_nil_or_concat q with rfl | ⟨up, s, rfl⟩
    · cases hname
    · simp only [List.concat_eq_append, List.reverse_append, List.reverse_cons, List.reverse_nil,
        List.nil_append, List.singleton_append, List.reverse_reverse, Option.ite_none_right_eq_some,
        Option.some.injEq] at hname
      obtain ⟨rfl, rfl⟩ := hname
      exact List.concat_eq_append
  rw [hchildren, List.Nodup, List.pairwise_filterMap]
  refine (List.pairwise_map.mp h).imp fun {entry entry'} hne name hname name' hname' heq => hne ?_
  rw [hf entry name hname, hf entry' name' hname', heq]

theorem isSome_of_mem_below {depth : Nat} (h : q ∈ d.below depth p) : (d.lookup q).isSome := by
  induction depth generalizing p with
  | zero => cases h
  | succ depth ih =>
    obtain ⟨name, hname, hq⟩ := List.mem_flatMap.mp h
    rcases List.mem_cons.mp hq with rfl | hq
    · exact mem_children_iff.mp hname
    · split at hq
      · exact ih hq
      · cases hq

theorem PlacesNodup.below (h : d.PlacesNodup) (depth : Nat) (p : Place) :
    (d.below depth p).Nodup := by
  induction depth generalizing p with
  | zero => exact List.nodup_nil
  | succ depth ih =>
    -- what is listed at one name is at or below it
    have hpre : ∀ {name q}, q ∈ (p ++ [name]) ::
        (if (d.lookup (p ++ [name])).any Entry.isDirectory then d.below depth (p ++ [name])
          else []) → p ++ [name] <+: q := by
      intro name q hq
      rcases List.mem_cons.mp hq with rfl | hq
      · exact List.prefix_rfl
      · split at hq
        · obtain ⟨r, -, rfl, -⟩ := exists_of_mem_below hq
          exact List.prefix_append _ _
        · cases hq
    refine List.nodup_flatMap.mpr ⟨fun name _ => List.nodup_cons.mpr ⟨fun hmem => ?_, ?_⟩, ?_⟩
    · split at hmem
      · obtain ⟨r, hr, heq, -⟩ := exists_of_mem_below hmem
        exact hr (by simpa using heq)
      · cases hmem
    · split
      · exact ih _
      · exact List.nodup_nil
    · refine (h.children p).imp fun {name name'} hne => ?_
      intro q hq hq'
      have hsame := List.prefix_of_prefix_length_le (hpre hq) (hpre hq') (by simp)
      exact hne (by simpa using hsame.eq_of_length (by simp))

/-- Each place comes after the directory that it is in, unless that is `root`. -/
def ParentsFirst (root : Place) (l : List Place) : Prop :=
  ∀ before q after, l = before ++ q :: after → q.dropLast = root ∨ q.dropLast ∈ before

theorem parentsFirst_nil (root : Place) : ParentsFirst root [] := by
  intro before q after hsplit
  simp at hsplit

theorem ParentsFirst.append (h : ParentsFirst root l) (h' : ParentsFirst root l') :
    ParentsFirst root (l ++ l') := by
  intro before q after hsplit
  rcases List.append_eq_append_iff.mp hsplit with ⟨between, rfl, hl'⟩ | ⟨between, hl, hrest⟩
  · exact (h' between q after hl').imp_right (List.mem_append_right l)
  · cases between with
    | nil => exact (h' [] q after hrest.symm).imp_right fun hmem => by cases hmem
    | cons b between =>
      obtain ⟨rfl, -⟩ := List.cons.inj hrest
      exact h before q between hl

/-- What is in a directory may follow it. -/
theorem ParentsFirst.cons (h : ParentsFirst (root ++ [name]) l) :
    ParentsFirst root ((root ++ [name]) :: l) := by
  intro before q after hsplit
  cases before with
  | nil =>
    obtain ⟨rfl, -⟩ := List.cons.inj hsplit
    exact .inl List.dropLast_concat
  | cons b before =>
    obtain ⟨rfl, hl⟩ := List.cons.inj hsplit
    exact .inr ((h before q after hl).elim (fun hroot => hroot ▸ List.mem_cons_self)
      (List.mem_cons_of_mem _))

theorem parentsFirst_below (d : Disk) (depth : Nat) (p : Place) :
    ParentsFirst p (d.below depth p) := by
  induction depth generalizing p with
  | zero => exact parentsFirst_nil p
  | succ depth ih =>
    rw [Disk.below]
    generalize d.children p = children
    induction children with
    | nil => exact parentsFirst_nil p
    | cons name rest hrest =>
      rw [List.flatMap_cons]
      refine ParentsFirst.append (.cons ?_) hrest
      split
      · exact ih _
      · exact parentsFirst_nil _

end Listing

end ProgramRepair.Disk
