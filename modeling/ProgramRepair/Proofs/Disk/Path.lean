import ProgramRepair.Disk.Access
import ProgramRepair.Proofs.Text.Lines

/-!
# Paths without detours

`names` are the steps of a path that lead further down. A `Straight` path starts
at the root and never goes up, so as long as there are no links on its way it
leads to the place of its names. A `Literal` path does not even stay where it is
for a step. Main statements:

* `segments_join`: a joined path has the steps of both of its parts;
* `Literal.pathOf`: the path of a place is literal;
* `Straight.literal_parent`: the parent of a straight path is literal and has one
  name less.
-/

namespace ProgramRepair.Disk

/-- What can be the name of an entry in a directory. -/
structure IsName (s : String) : Prop where
  ne_empty : s ≠ ""
  noSlash : '/' ∉ s.toList
  ne_current : s ≠ "."
  ne_parent : s ≠ ".."

instance (s : String) : Decidable (IsName s) :=
  decidable_of_iff (s ≠ "" ∧ '/' ∉ s.toList ∧ s ≠ "." ∧ s ≠ "..")
    ⟨fun ⟨h₁, h₂, h₃, h₄⟩ => ⟨h₁, h₂, h₃, h₄⟩, fun h => ⟨h.1, h.2, h.3, h.4⟩⟩

/-- The steps of a path that do not stay where they are. -/
def names (path : String) : List String := (segments path).filter (· ≠ ".")

/-- A path from the root that never goes up, and the place that its names make. -/
structure Straight (path : String) (p : Place) : Prop where
  absolute : isAbsolute path = true
  noParent : ".." ∉ segments path
  names_eq : names path = p

/-- A path from the root whose steps are the names of a place. -/
structure Literal (path : String) (p : Place) : Prop where
  absolute : isAbsolute path = true
  segments_eq : segments path = p
  isName : ∀ s ∈ p, IsName s

/-! ## Steps -/

@[simp] theorem segments_empty : segments "" = [] := by decide +kernel

/-- A slash between two paths does not show in their steps. -/
theorem segments_append_slash (a b : String) :
    segments (a ++ "/" ++ b) = segments a ++ segments b := by
  have hlist : (a ++ "/" ++ b).toList = a.toList ++ '/' :: b.toList := by simp
  simp only [segments, hlist, Text.cut_append_sep, List.filter_append, List.map_append]

/-- A path that ends with a slash is another path and that slash. -/
theorem exists_of_endsAsDirectory {path : String} (h : endsAsDirectory path = true) :
    ∃ a, path = a ++ "/" := by
  obtain ⟨init, hinit⟩ := List.getLast?_eq_some_iff.mp (beq_iff_eq.mp h)
  refine ⟨String.ofList init, String.toList_injective ?_⟩
  rw [hinit, String.toList_append, String.toList_ofList]
  rfl

theorem segments_join {relative : String} (h : isAbsolute relative = false) (base : String) :
    segments (join base relative) = segments base ++ segments relative := by
  rw [join, if_neg (by simp [h])]
  by_cases hempty : base = ""
  · subst hempty
    simp
  · by_cases hend : endsAsDirectory base = true
    · -- the slash between the two is there already
      obtain ⟨a, rfl⟩ := exists_of_endsAsDirectory hend
      have hslash : segments (a ++ "/") = segments a := by
        have happend := segments_append_slash a ""
        rwa [String.append_empty, segments_empty, List.append_nil] at happend
      rw [if_pos (.inr hend), segments_append_slash, hslash]
    · rw [if_neg (by simp [hempty, hend]), segments_append_slash]

/-- A path is what is left of it without the slashes at its end, and some slashes. -/
theorem exists_withoutFinalSlashes (path : String) :
    ∃ k, path.toList = (withoutFinalSlashes path).toList ++ List.replicate k '/' := by
  have hsplit := List.takeWhile_append_dropWhile (p := (· = '/')) (l := path.toList.reverse)
  have hslashes : (path.toList.reverse.takeWhile (· = '/')).reverse =
      List.replicate (path.toList.reverse.takeWhile (· = '/')).length '/' := by
    refine List.eq_replicate_iff.mpr ⟨List.length_reverse, fun c hc => ?_⟩
    exact of_decide_eq_true (List.all_eq_true.mp List.all_takeWhile c (List.mem_reverse.mp hc))
  refine ⟨(path.toList.reverse.takeWhile (· = '/')).length, ?_⟩
  rw [withoutFinalSlashes, String.toList_ofList, ← hslashes, ← List.reverse_append, hsplit,
    List.reverse_reverse]

/-- Slashes at the end of a path do not show in its steps. -/
theorem segments_withoutFinalSlashes (path : String) :
    segments (withoutFinalSlashes path) = segments path := by
  have hslashes : ∀ k, (Text.cut '/' (List.replicate k '/')).filter (· ≠ []) = [] := by
    intro k
    induction k with
    | zero => rfl
    | succ k ih => simpa [List.replicate_succ, Text.cut] using ih
  obtain ⟨k, hk⟩ := exists_withoutFinalSlashes path
  cases k with
  | zero => rw [segments, segments, hk, List.replicate_zero, List.append_nil]
  | succ k =>
    rw [segments, segments, hk, List.replicate_succ, Text.cut_append_sep, List.filter_append,
      hslashes, List.append_nil]

theorem endsAsDirectory_withoutFinalSlashes (path : String) :
    endsAsDirectory (withoutFinalSlashes path) = false := by
  rw [endsAsDirectory, withoutFinalSlashes, String.toList_ofList, List.getLast?_reverse]
  have hhead := List.head?_dropWhile_not (fun c => decide (c = '/')) path.toList.reverse
  cases hc : (path.toList.reverse.dropWhile (· = '/')).head? with
  | none => rfl
  | some c =>
    rw [hc] at hhead
    simpa using hhead

theorem segments_of_isName {s : String} (h : IsName s) : segments s = [s] := by
  have hne : s.toList ≠ [] := fun hnil => h.ne_empty (String.toList_injective hnil)
  rw [segments, Text.cut_of_not_mem h.noSlash]
  simp [hne]

/-- Names with slashes between them are the steps of the path that they make. -/
theorem segments_intercalate {ns : List String} (h : ∀ s ∈ ns, IsName s) :
    segments ("/".intercalate ns) = ns := by
  induction ns with
  | nil => exact segments_empty
  | cons s rest ih =>
    obtain ⟨hs, hrest⟩ := List.forall_mem_cons.mp h
    cases rest with
    | nil => rw [String.intercalate_singleton, segments_of_isName hs]
    | cons next rest =>
      rw [String.intercalate_cons_cons, segments_append_slash, segments_of_isName hs, ih hrest]
      rfl

/-! ## Absolute paths -/

theorem isAbsolute_append {a : String} (h : isAbsolute a = true) (b : String) :
    isAbsolute (a ++ b) = true := by
  have ha : a.toList.head? = some '/' := beq_iff_eq.mp h
  simp [isAbsolute, ha]

theorem isAbsolute_slash_append (a : String) : isAbsolute ("/" ++ a) = true :=
  isAbsolute_append (by decide) a

theorem isAbsolute_join {base : String} (h : isAbsolute base = true) (relative : String) :
    isAbsolute (join base relative) = true := by
  unfold join
  split
  · assumption
  · split
    · exact isAbsolute_append h relative
    · exact isAbsolute_append (isAbsolute_append h "/") relative

/-- A name stands for itself and does not start at the root. -/
theorem isAbsolute_of_isName {s : String} (h : IsName s) : isAbsolute s = false := by
  have hslash : s.toList.head? ≠ some '/' := fun hs => h.noSlash (List.mem_of_head? hs)
  simpa [isAbsolute] using hslash

theorem isAbsolute_intercalate {ns : List String} (h : ∀ s ∈ ns, IsName s) :
    isAbsolute ("/".intercalate ns) = false := by
  cases ns with
  | nil => decide
  | cons s rest =>
    have hs := h s List.mem_cons_self
    cases rest with
    | nil => rw [String.intercalate_singleton, isAbsolute_of_isName hs]
    | cons next rest =>
      have hne : s.toList ≠ [] := fun hnil => hs.ne_empty (String.toList_injective hnil)
      obtain ⟨c, cs, hc⟩ := List.exists_cons_of_ne_nil hne
      have hslash : c ≠ '/' := fun hc' => hs.noSlash (by simp [hc, hc'])
      simp [String.intercalate_cons_cons, isAbsolute, hc, hslash]

theorem segments_pathOf {p : Place} (h : ∀ s ∈ p, IsName s) : segments (pathOf p) = p := by
  have happend := segments_append_slash "" ("/".intercalate p)
  rw [segments_empty, List.nil_append, String.empty_append] at happend
  rw [pathOf, happend, segments_intercalate h]

/-! ## Paths that end with a slash -/

theorem endsAsDirectory_append {b : String} (hb : b ≠ "") (a : String) :
    endsAsDirectory (a ++ b) = endsAsDirectory b := by
  have hne : b.toList ≠ [] := fun hnil => hb (String.toList_injective hnil)
  simp [endsAsDirectory, List.getLast?_append, List.getLast?_eq_some_getLast hne]

theorem endsAsDirectory_join {relative : String} (hrelative : isAbsolute relative = false)
    (hne : relative ≠ "") (base : String) :
    endsAsDirectory (join base relative) = endsAsDirectory relative := by
  rw [join, if_neg (by simp [hrelative])]
  split
  · exact endsAsDirectory_append hne base
  · exact endsAsDirectory_append hne _

/-- Joined with the empty path, a path ends with a slash. -/
theorem endsAsDirectory_join_empty {base : String} (h : isAbsolute base = true) :
    endsAsDirectory (join base "") = true := by
  have hne : base ≠ "" := by
    rintro rfl
    cases h
  rw [join, if_neg (by decide)]
  split
  · next hend => simpa [hne] using hend
  · simp [endsAsDirectory]

theorem endsAsDirectory_of_isName {s : String} (h : IsName s) : endsAsDirectory s = false := by
  have hslash : s.toList.getLast? ≠ some '/' := fun hs => h.noSlash (List.mem_of_getLast? hs)
  simpa [endsAsDirectory] using hslash

/-- Names with slashes between them make a path that ends with the last of them. -/
theorem endsAsDirectory_intercalate {ns : List String} (h : ∀ s ∈ ns, IsName s) (hne : ns ≠ []) :
    "/".intercalate ns ≠ "" ∧ endsAsDirectory ("/".intercalate ns) = false := by
  induction ns with
  | nil => exact absurd rfl hne
  | cons s rest ih =>
    obtain ⟨hs, hrest⟩ := List.forall_mem_cons.mp h
    cases rest with
    | nil =>
      rw [String.intercalate_singleton]
      exact ⟨hs.ne_empty, endsAsDirectory_of_isName hs⟩
    | cons next rest =>
      obtain ⟨hnonempty, hend⟩ := ih hrest (by simp)
      rw [String.intercalate_cons_cons]
      exact ⟨by simp, by rw [endsAsDirectory_append hnonempty, hend]⟩

/-! ## Names -/

theorem names_join {relative : String} (h : isAbsolute relative = false) (base : String) :
    names (join base relative) = names base ++ names relative := by
  rw [names, segments_join h, List.filter_append]
  rfl

/-- Only valid names are left if a path does not go up. -/
theorem isName_of_mem_names {path s : String} (h : s ∈ names path) (hparent : s ≠ "..") :
    IsName s := by
  obtain ⟨hs, hcurrent⟩ := List.mem_filter.mp h
  obtain ⟨piece, hpiece, rfl⟩ := List.mem_map.mp hs
  obtain ⟨hcut, hne⟩ := List.mem_filter.mp hpiece
  refine ⟨?_, ?_, of_decide_eq_true hcurrent, hparent⟩
  · intro hempty
    have hnil : piece = [] := by
      rw [← String.toList_ofList (l := piece), hempty]
      rfl
    exact of_decide_eq_true hne hnil
  · rw [String.toList_ofList]
    exact Text.not_mem_of_mem_cut hcut

theorem filter_current_of_isName {p : Place} (h : ∀ s ∈ p, IsName s) :
    p.filter (· ≠ ".") = p :=
  List.filter_eq_self.mpr fun s hs => decide_eq_true (h s hs).ne_current

/-- A name that starts with no dot stays one when text without a slash is added. -/
theorem IsName.append {a b : String} (ha : IsName a) (hdot : a.toList.head? ≠ some '.')
    (hb : '/' ∉ b.toList) : IsName (a ++ b) := by
  have hne : a.toList ≠ [] := fun hnil => ha.ne_empty (String.toList_injective hnil)
  obtain ⟨c, cs, hc⟩ := List.exists_cons_of_ne_nil hne
  have hfirst : (a ++ b).toList.head? = some c := by simp [hc]
  have hcdot : c ≠ '.' := fun h => hdot (by rw [hc, h]; rfl)
  -- the first character tells it from the strings that are no names
  have hother : ∀ t : String, t.toList.head? ≠ some c → a ++ b ≠ t := by
    rintro t ht rfl
    exact ht hfirst
  refine ⟨hother _ nofun, ?_, hother _ ?_, hother _ ?_⟩
  · rw [String.toList_append, List.mem_append]
    exact not_or.mpr ⟨ha.noSlash, hb⟩
  all_goals simpa using hcdot.symm

/-! ## Straight paths -/

variable {path relative : String} {p q : Place}

namespace Literal

theorem pathOf (h : ∀ s ∈ p, IsName s) : Literal (pathOf p) p :=
  ⟨isAbsolute_slash_append _, segments_pathOf h, h⟩

theorem straight (h : Literal path p) : Straight path p where
  absolute := h.absolute
  noParent := by
    rw [h.segments_eq]
    exact fun hp => (h.isName _ hp).ne_parent rfl
  names_eq := by rw [names, h.segments_eq, filter_current_of_isName h.isName]

theorem join (h : Literal path p) (hq : ∀ s ∈ q, IsName s) :
    Literal (Disk.join path ("/".intercalate q)) (p ++ q) where
  absolute := isAbsolute_join h.absolute _
  segments_eq := by
    rw [segments_join (isAbsolute_intercalate hq), h.segments_eq, segments_intercalate hq]
  isName s hs := (List.mem_append.mp hs).elim (h.isName s) (hq s)

theorem withoutFinalSlashes (h : Literal path p) (hp : p ≠ []) :
    Literal (withoutFinalSlashes path) p where
  absolute := by
    have hne : (Disk.withoutFinalSlashes path).toList ≠ [] := by
      intro hnil
      refine hp ?_
      rw [← h.segments_eq, ← segments_withoutFinalSlashes, segments, hnil]
      rfl
    obtain ⟨k, hk⟩ := exists_withoutFinalSlashes path
    obtain ⟨c, cs, hc⟩ := List.exists_cons_of_ne_nil hne
    have habsolute : path.toList.head? = some '/' := beq_iff_eq.mp h.absolute
    rw [hk, hc] at habsolute
    rw [isAbsolute, hc]
    exact beq_iff_eq.mpr habsolute
  segments_eq := by rw [segments_withoutFinalSlashes, h.segments_eq]
  isName := h.isName

end Literal

namespace Straight

/-- A relative path that does not go up keeps a path straight. -/
theorem join (h : Straight path p) (hrelative : isAbsolute relative = false)
    (hparent : ".." ∉ segments relative) :
    Straight (join path relative) (p ++ names relative) where
  absolute := isAbsolute_join h.absolute relative
  noParent := by
    rw [segments_join hrelative, List.mem_append]
    exact not_or.mpr ⟨h.noParent, hparent⟩
  names_eq := by rw [names_join hrelative, h.names_eq]

theorem isName (h : Straight path p) : ∀ s ∈ p, IsName s := by
  intro s hs
  rw [← h.names_eq] at hs
  refine isName_of_mem_names hs ?_
  rintro rfl
  exact h.noParent (List.mem_filter.mp hs).1

theorem components (h : Straight path p) :
    components path = .root :: p.map .name := by
  have hnames : (segments path).filter (· ≠ ".") = p := h.names_eq
  have hstep : ∀ s ∈ p, (if s = ".." then Component.parent else .name s) = .name s :=
    fun s hs => if_neg (h.isName s hs).ne_parent
  rw [Disk.components, hnames, List.map_congr_left hstep]
  simp [h.absolute]

/-- The parent of a straight path is that of its place. -/
theorem parent (h : Straight path p) {up : String} (hup : parent? path = some up) :
    up = Disk.pathOf p.dropLast := by
  rw [parent?, h.components] at hup
  rcases List.eq_nil_or_concat p with rfl | ⟨init, s, rfl⟩
  · cases hup
  · have hinit : (init.map Component.name).map Component.text = init := by
      rw [List.map_map]
      exact List.map_id init
    have hreverse : (Component.root :: (init.concat s).map Component.name).reverse =
        .name s :: (.root :: init.map Component.name).reverse := by simp
    rw [hreverse] at hup
    dsimp only at hup
    rw [List.reverse_reverse] at hup
    dsimp only at hup
    rw [hinit, Option.some.injEq] at hup
    rw [← hup, List.concat_eq_append, List.dropLast_concat, Disk.pathOf]

/-- The parent of a straight path leads to the directory of its place. -/
theorem literal_parent (h : Straight path p) {up : String} (hup : parent? path = some up) :
    Literal up p.dropLast := by
  rw [h.parent hup]
  exact .pathOf fun s hs => h.isName s ((List.dropLast_subset p) hs)

end Straight

end ProgramRepair.Disk
