import ProgramRepair.Proofs.Disk.Reaching
import ProgramRepair.Proofs.Project.Copying

/-!
# What a copy leaves when it breaks off

A copy goes over the places of a project one after the other, in some order that has each directory
before what is in it. It can break off at every one of them, because the disk refuses an access or
for a cause of its own, and in the middle of a file. Main statements:

* `isWalk_descendants`, `exists_walk`: the order in which a project is copied is such an order;
* `copyTreeIn_leaves`: whatever is refused, only remnants of the project are left, also after
  several copies;
* `BreaksOff.remains`: so it is for whatever cause a copy breaks off.
-/

namespace ProgramRepair

namespace Project

open Disk DiskWork

variable {d d' d₀ : Disk} {cwd root V place : Place} {source copyPath path : String} {r : Place}
  {l : List Place}

/-! ## Orders of the walk -/

/-- Copies a directory with the places of a list in it, in the order of the list. -/
def copyTreeIn (l : List Place) (cwd : Place) (source copyPath : String) : DiskWork Unit := do
  let root ← ask fun d => d.canonical cwd source
  let (place, e) ← ask fun d => d.findEntry cwd source
  copyEntry cwd root place copyPath (join copyPath "") e
  l.forM (copyBelow cwd root copyPath)

/-- The list has all that is below a directory, each directory before what is in it. -/
structure IsWalk (d : Disk) (root : Place) (l : List Place) : Prop where
  nodup : l.Nodup
  mem_iff : ∀ q, q ∈ l ↔ ∃ r, r ≠ [] ∧ q = root ++ r ∧ (d.lookup q).isSome
  parentsFirst : ParentsFirst root l

/-- The places below a directory are listed in such an order. -/
theorem isWalk_descendants (hnodup : d.PlacesNodup)
    (hup : ∀ r, (d.lookup (root ++ r)).isSome → ∀ r', r' <+: r → r' ≠ r →
      d.IsDirectory (root ++ r')) : IsWalk d root (d.descendants root) where
  nodup := hnodup.below _ root
  mem_iff q := by
    constructor
    · intro hq
      obtain ⟨r, hr, rfl, -⟩ := exists_of_mem_descendants hq
      exact ⟨r, hr, rfl, isSome_of_mem_below hq⟩
    · rintro ⟨r, hr, rfl, hsome⟩
      exact mem_descendants hr hsome fun r' hr' _ hne => hup r hsome r' hr' hne
  parentsFirst := parentsFirst_below d _ root

/-- What is not in the project does not matter. -/
theorem IsWalk.congr (h : IsWalk d root l)
    (hproject : ∀ r, d'.lookup (root ++ r) = d.lookup (root ++ r)) : IsWalk d' root l where
  nodup := h.nodup
  mem_iff q := by
    rw [h.mem_iff]
    refine exists_congr fun r => and_congr_right fun _ => and_congr_right fun hq => ?_
    rw [hq, hproject]
  parentsFirst := h.parentsFirst

/-- All directories above a place of a walk come before it. -/
theorem IsWalk.above (h : IsWalk d root l) {before after : List Place}
    (hsplit : l = before ++ (root ++ r) :: after) {r' : Place} (hr' : r' <+: r) (hne : r' ≠ r) :
    root ++ r' ∈ root :: before := by
  obtain ⟨s, rfl⟩ := hr'
  -- upwards from the place, one directory at a time
  induction s using List.reverseRecOn generalizing before after with
  | nil => exact absurd (List.append_nil r').symm hne
  | append_singleton s name ih =>
    have hparent := h.parentsFirst before _ after hsplit
    rw [← List.append_assoc, ← List.append_assoc, List.dropLast_concat] at hparent
    by_cases hs : s = []
    · rw [hs, List.append_nil] at hparent
      exact List.mem_cons.mpr hparent
    · rcases hparent with hroot | hmem
      · simp [hs] at hroot
      · obtain ⟨before', after', rfl⟩ := List.append_of_mem hmem
        have hup := @ih before' (after' ++ (root ++ (r' ++ (s ++ [name]))) :: after)
          (by simp [hsplit]) (by simpa using hs)
        exact List.cons_subset_cons root (List.subset_append_left _ _) hup

/-! ## Sites of a copy -/

/-- The disk has a project at `root`, and the copy is going to be at `V`, where nothing is, in an
existing directory that is not in the project. The path of the copy leaves room for a slash. -/
structure Site (d : Disk) (cwd : Place) (source copyPath : String) (root V : Place) : Prop where
  wellFormed : d.WellFormed
  canonical : d.canonical cwd source = .ok root
  isDirectory : d.IsDirectory root
  literal : Literal copyPath V
  room : (join copyPath "").utf8ByteSize < pathLengthLimit
  ne_nil : V ≠ []
  above : d.IsDirectory V.dropLast
  apart : ∀ r, ¬ V <+: root ++ r
  empty : ∀ r, d.lookup (V ++ r) = none

/-- What a broken-off copy may leave where the project has an entry. -/
inductive IsRemnant : (original left : Entry) → Prop
  | directory {a : Attributes} {changed : Int} :
      IsRemnant (.directory a) (.directory ⟨directoryMode, true, changed, none⟩)
  | link {target target' : String} : IsRemnant (.link target) (.link target')
  | file {contents contents' : Bytes} {a : Attributes} {mode : Nat} {changed : Int} :
      IsRemnant (.file contents a) (.file contents' ⟨mode, true, changed, none⟩)

/-- The disk `d` is `d₀` but for the remnants of copies at `V`. -/
structure Remains (d₀ : Disk) (root V : Place) (d : Disk) : Prop where
  outside : ∀ q, ¬ V <+: q → d.lookup q = d₀.lookup q
  inside : ∀ r left, d.lookup (V ++ r) = some left →
    ∃ original, d₀.lookup (root ++ r) = some original ∧ IsRemnant original left

/-- What is above a place in the copy is above the copy, or in it. -/
theorem prefix_append_cases {q : Place} (hq : q <+: V ++ r) :
    q <+: V ∧ q ≠ V ∨ ∃ r', r' <+: r ∧ q = V ++ r' := by
  rcases List.prefix_or_prefix_of_prefix hq (List.prefix_append V r) with habove | ⟨r', rfl⟩
  · by_cases hne : q = V
    · exact .inr ⟨[], List.nil_prefix, by rw [hne, List.append_nil]⟩
    · exact .inl ⟨habove, hne⟩
  · exact .inr ⟨r', (List.prefix_append_right_inj V).mp hq, rfl⟩

theorem dropLast_ne {q : Place} (hq : q ≠ []) : q.dropLast ≠ q := by
  intro heq
  have hlength := congrArg List.length heq
  have hpos := List.length_pos_iff.mpr hq
  rw [List.length_dropLast] at hlength
  omega

theorem not_prefix_above {q : Place} (hq : q <+: V) (hne : q ≠ V) : ¬ V <+: q := fun hV =>
  hne (hq.eq_of_length_le hV.length_le)

/-- What is above a copy stays as it is. -/
theorem Site.isDirectory_above (h : Site d₀ cwd source copyPath root V)
    (houtside : ∀ q, ¬ V <+: q → d.lookup q = d₀.lookup q) {q : Place} (hq : q <+: V)
    (hne : q ≠ V) : d.IsDirectory q := by
  obtain ⟨a, ha⟩ : d₀.IsDirectory q := by
    obtain ⟨s, rfl⟩ := hq
    have hs : s ≠ [] := by
      rintro rfl
      exact hne (List.append_nil q).symm
    have habove := h.above
    rw [List.dropLast_append_of_ne_nil hs] at habove
    by_cases hinit : s.dropLast = []
    · rwa [hinit, List.append_nil] at habove
    · exact h.wellFormed.isDirectory_of_prefix habove.isSome_lookup (List.prefix_append _ _)
        (by simpa using hinit)
  exact ⟨a, (houtside q (not_prefix_above hq hne)).trans ha⟩

theorem Site.remains (h : Site d₀ cwd source copyPath root V) : Remains d₀ root V d₀ where
  outside _ _ := rfl
  inside r left hleft := by
    rw [h.empty] at hleft
    cases hleft

namespace Remains

theorem project (h : Remains d₀ root V d) (hsite : Site d₀ cwd source copyPath root V) (r : Place) :
    d.lookup (root ++ r) = d₀.lookup (root ++ r) :=
  h.outside _ (hsite.apart r)

/-- A remnant of another entry of the project changes nothing else. -/
theorem isPut {e original : Entry} (h : Remains d₀ root V d)
    (hput : d.IsPut (V ++ r) e d') (horiginal : d₀.lookup (root ++ r) = some original)
    (he : IsRemnant original e) : Remains d₀ root V d' where
  outside q hq := by
    rw [hput.other, h.outside q hq]
    rintro rfl
    exact hq (List.prefix_append V r)
  inside r' left hleft := by
    by_cases hr : r' = r
    · subst hr
      obtain rfl := Option.some.inj (hput.self.symm.trans hleft)
      exact ⟨original, horiginal, he⟩
    · rw [hput.other (by simpa using hr)] at hleft
      exact h.inside r' left hleft

/-- Where there is no link on the way through the project, there is none on the way to its copy. -/
theorem not_isLink (h : Remains d₀ root V d) (hsite : Site d₀ cwd source copyPath root V)
    {q : Place} (hq : q <+: V ++ r)
    (hr : ∀ r', r' <+: r → q = V ++ r' → ¬ d₀.IsLink (root ++ r')) : ¬ d.IsLink q := by
  rcases prefix_append_cases hq with ⟨habove, hne⟩ | ⟨r', hr', rfl⟩
  · exact fun hlink => hlink.not_isDirectory (hsite.isDirectory_above h.outside habove hne)
  · rintro ⟨target, htarget⟩
    obtain ⟨original, horiginal, hremnant⟩ := h.inside r' _ htarget
    cases hremnant
    exact hr r' hr' rfl ⟨_, horiginal⟩

end Remains

/-! ## What a copy leaves -/

namespace Site

theorem isName (h : Site d₀ cwd source copyPath root V) {e : Entry}
    (he : d₀.lookup (root ++ r) = some e) : ∀ s ∈ r, IsName s := fun s hs =>
  h.wellFormed.isName (root ++ r) (by rw [he]; rfl) s (List.mem_append_right _ hs)

theorem isDirectory_of_prefix (h : Site d₀ cwd source copyPath root V) {e : Entry}
    (he : d₀.lookup (root ++ r) = some e) {r' : Place} (hr' : r' <+: r) (hne : r' ≠ r) :
    d₀.IsDirectory (root ++ r') :=
  h.wellFormed.isDirectory_of_prefix (by rw [he]; rfl) ((List.prefix_append_right_inj root).mpr hr')
    (by simpa using hne)

theorem ne_nil_append (h : Site d₀ cwd source copyPath root V) (r : Place) : V ++ r ≠ [] := by
  simp [h.ne_nil]

/-- Only the last step to a copy can be a link. -/
theorem not_isLink_above (h : Site d₀ cwd source copyPath root V) (hd : Remains d₀ root V d)
    {e : Entry} (he : d₀.lookup (root ++ r) = some e) {q : Place} (hq : q <+: V ++ r)
    (hne : q ≠ V ++ r) : ¬ d.IsLink q := by
  refine hd.not_isLink h hq fun r' hr' hqr hlink => ?_
  exact hlink.not_isDirectory (h.isDirectory_of_prefix he hr' fun heq => hne (by rw [hqr, heq]))

theorem not_isLink (h : Site d₀ cwd source copyPath root V) (hd : Remains d₀ root V d)
    {e : Entry} (he : d₀.lookup (root ++ r) = some e) (hlink : e.isLink = false) {q : Place}
    (hq : q <+: V ++ r) : ¬ d.IsLink q := by
  refine hd.not_isLink h hq fun r' hr' _ => ?_
  by_cases hne : r' = r
  · rintro ⟨target, htarget⟩
    rw [hne, he] at htarget
    cases htarget
    cases hlink
  · exact fun hlink => hlink.not_isDirectory (h.isDirectory_of_prefix he hr' hne)

end Site

/-- The directories on the way to a place are made where they are directories in the project. -/
theorem makeDirectories_remains (hsite : Site d₀ cwd source copyPath root V)
    (h : Remains d₀ root V d) {a : Attributes}
    (he : d₀.lookup (root ++ r) = some (.directory a)) (hliteral : Literal path (V ++ r))
    (hmake : d.makeDirectories cwd path = .ok d') : Remains d₀ root V d' := by
  refine (makeDirectories_keeps (P := Remains d₀ root V)
    (fun d hd q hq => hsite.not_isLink hd he rfl hq) ?_ hliteral h hmake).1
  intro d₁ d₂ q hd₁ hq hnone hplaces
  rcases prefix_append_cases hq with ⟨habove, hne⟩ | ⟨r', hr', rfl⟩
  · -- what is above the copy is there already
    obtain ⟨b, hb⟩ := hsite.isDirectory_above hd₁.outside habove hne
    cases hnone.symm.trans hb
  · obtain ⟨b, hb⟩ : d₀.IsDirectory (root ++ r') := by
      by_cases hne : r' = r
      · exact hne ▸ ⟨a, he⟩
      · exact hsite.isDirectory_of_prefix he hr' hne
    exact hd₁.isPut hplaces.isPut hb .directory

/-- A file that is written among remnants is one of them. -/
theorem Remains.writeAt {contents bytes : Bytes} {a : Attributes} {mode : Nat}
    (h : Remains d₀ root V d) (he : d₀.lookup (root ++ r) = some (.file contents a))
    (hwrite : d.writeAt (V ++ r) mode bytes = .ok d') :
    ∃ mode' changed, d' = d.put (V ++ r) (.file bytes ⟨mode', true, changed, none⟩) := by
  cases hthere : d.lookup (V ++ r) with
  | none =>
    have hnames : d.mayChangeNames (V ++ r) = true := by
      rw [Disk.writeAt, hthere] at hwrite
      obtain ⟨⟨⟩, hdemand, -⟩ := bind_eq_ok.mp hwrite
      exact mayChangeNames_of_demandNames hdemand
    rw [writeAt_new _ _ hthere hnames] at hwrite
    exact ⟨_, _, (Except.ok.inj hwrite).symm⟩
  | some left =>
    obtain ⟨original, horiginal, hremnant⟩ := h.inside r left hthere
    obtain rfl := Option.some.inj (he.symm.trans horiginal)
    cases hremnant
    rw [writeAt_there _ _ hthere rfl] at hwrite
    split at hwrite
    · exact ⟨_, _, (Except.ok.inj hwrite).symm⟩
    · cases hwrite

/-- The copy of one entry leaves remnants, whether it succeeds or not. -/
theorem copyEntry_remains (place : Place) {e : Entry} (hsite : Site d₀ cwd source copyPath root V)
    (h : Remains d₀ root V d) (he : d₀.lookup (root ++ r) = some e)
    (hliteral : Literal path (V ++ r))
    (hend : e.isDirectory = false → endsAsDirectory path = false) :
    Leaves (copyEntry cwd root place copyPath path e) d (fun _ => Remains d₀ root V)
      (Remains d₀ root V) := by
  cases e with
  | directory a =>
    exact leaves_change (fun d' hmake => makeDirectories_remains hsite h he hliteral hmake) h
  | link target =>
    refine leaves_change (fun d' hlink => ?_) h
    obtain ⟨q, hq, -, hplaces⟩ := makeLink_ok hlink
    obtain rfl := resolveEntry_literal hq hliteral (hend rfl) fun q =>
      hsite.not_isLink_above h he
    exact h.isPut hplaces.isPut he .link
  | file contents a =>
    refine leaves_ask_bind (fun bytes hbytes => ?_) h
    refine leaves_ask_bind (fun q hq => ?_) h
    obtain rfl := placeForWriting_straight hq hliteral.straight fun q =>
      hsite.not_isLink h he rfl
    refine leaves_change_bind (fun d' hwrite => leaves_modify ?_) h
    obtain ⟨mode, changed, rfl⟩ := h.writeAt he hwrite
    exact h.isPut (isPut_setMode_put (hsite.ne_nil_append r) rfl a.mode) he .file
  | null => exact leaves_throw h
  | pipe a => exact leaves_throw h

/-- The path of a copy does not end with a slash. -/
theorem endsAsDirectory_copy (hr : r ≠ []) (hname : ∀ s ∈ r, IsName s) (copyPath : String) :
    endsAsDirectory (join copyPath ("/".intercalate r)) = false := by
  obtain ⟨hne, hend⟩ := endsAsDirectory_intercalate hname hr
  rw [endsAsDirectory_join (isAbsolute_intercalate hname) hne, hend]

theorem copyBelow_remains (hsite : Site d₀ cwd source copyPath root V)
    (h : Remains d₀ root V d) (hr : r ≠ []) :
    Leaves (copyBelow cwd root copyPath (root ++ r)) d (fun _ => Remains d₀ root V)
      (Remains d₀ root V) := by
  refine leaves_bind (leaves_get ?_)
  split
  · next e he =>
    rw [h.project hsite] at he
    rw [List.drop_left]
    exact copyEntry_remains (root ++ r) hsite h he (hsite.literal.join (hsite.isName he)) fun _ =>
      endsAsDirectory_copy hr (hsite.isName he) copyPath
  · exact leaves_pure h

/-- What is on the disk before a copy is not at its place. -/
theorem Site.shape_eq (hsite : Site d₀ cwd source copyPath root V)
    (houtside : ∀ q, ¬ V <+: q → d.lookup q = d₀.lookup q) {q : Place}
    (hq : (d₀.lookup q).isSome) : d.shape q = d₀.shape q := by
  rw [shape, shape, houtside]
  rintro ⟨r, rfl⟩
  rw [hsite.empty] at hq
  cases hq

theorem Remains.canonical (h : Remains d₀ root V d) (hsite : Site d₀ cwd source copyPath root V) :
    d.canonical cwd source = .ok root :=
  canonical_of_agree hsite.canonical fun _ => hsite.shape_eq h.outside

/-- A copy begins with the directory of the project, or it does not get anywhere. -/
theorem start_cases {e : Entry} (hsite : Site d₀ cwd source copyPath root V)
    (h : Remains d₀ root V d) (hentry : d.findEntry cwd source = .ok (place, e)) :
    (∃ target, e = .link target) ∨ place = root ∧ ∃ a, e = .directory a := by
  refine (findEntry_cases hentry (h.canonical hsite)).imp_right fun ⟨hplace, he⟩ => ⟨hplace, ?_⟩
  have hroot := h.project hsite []
  rw [List.append_nil, he] at hroot
  obtain ⟨a, ha⟩ := hsite.isDirectory
  exact ⟨a, Option.some.inj (hroot.trans ha)⟩

theorem makeDirectories_copy_remains (hsite : Site d₀ cwd source copyPath root V)
    (h : Remains d₀ root V d) (hmake : d.makeDirectories cwd (join copyPath "") = .ok d') :
    Remains d₀ root V d' := by
  obtain ⟨a, ha⟩ := hsite.isDirectory
  exact makeDirectories_remains hsite h (r := []) (by rwa [List.append_nil])
    (hsite.literal.join (q := []) nofun) hmake

theorem makeLink_copy_ne_ok {target : String} (hsite : Site d₀ cwd source copyPath root V) :
    d.makeLink cwd target (join copyPath "") ≠ .ok d' :=
  makeLink_ne_ok (endsAsDirectory_join_empty hsite.literal.absolute)

/-- Whatever is refused in a copy, only remnants of the project are left, and nothing else has
changed. There may have been remnants of earlier copies. -/
theorem copyTreeIn_leaves (hsite : Site d₀ cwd source copyPath root V)
    (hbelow : ∀ q ∈ l, ∃ r, r ≠ [] ∧ q = root ++ r) (h : Remains d₀ root V d) :
    Leaves (copyTreeIn l cwd source copyPath) d (fun _ => Remains d₀ root V)
      (Remains d₀ root V) := by
  refine leaves_ask_bind (fun root' hroot' => ?_) h
  obtain rfl := Except.ok.inj ((h.canonical hsite).symm.trans hroot')
  refine leaves_ask_bind (fun entry hentry => ?_) h
  obtain ⟨place, e⟩ := entry
  have hrest : ∀ d, Remains d₀ root V d →
      Leaves (l.forM (copyBelow cwd root copyPath)) d (fun _ => Remains d₀ root V)
        (Remains d₀ root V) := fun d hd =>
    leaves_forM (I := fun _ => Remains d₀ root V) (fun done q rest d hsplit hd => by
      obtain ⟨r, hr, rfl⟩ := hbelow q (by simp [hsplit])
      exact copyBelow_remains hsite hd hr) hd
  dsimp only
  refine leaves_bind ?_
  rcases start_cases hsite h hentry with ⟨target, rfl⟩ | ⟨rfl, a, rfl⟩
  · exact leaves_change (fun d' hlink => absurd hlink (makeLink_copy_ne_ok hsite)) h
  · exact leaves_change (fun d' hmake => hrest d' (makeDirectories_copy_remains hsite h hmake)) h

/-- The order is that in which the disk lists the project after the directory of the copy was
made. -/
theorem copyTree_run (hsite : Site d₀ cwd source copyPath root V) (h : Remains d₀ root V d)
    (hl : ∀ d', d.makeDirectories cwd (join copyPath "") = .ok d' → l = d'.descendants root) :
    (copyTree cwd source copyPath).run.run d = (copyTreeIn l cwd source copyPath).run.run d := by
  simp only [copyTree, copyTreeIn, run_bind, run_ask, h.canonical hsite]
  cases hentry : d.findEntry cwd source with
  | error e => rfl
  | ok entry =>
    obtain ⟨place, e⟩ := entry
    rcases start_cases hsite h hentry with ⟨target, rfl⟩ | ⟨rfl, a, rfl⟩
    · cases hlink : d.makeLink cwd (copiedLink d root place copyPath target) (join copyPath "") with
      | ok d' => exact absurd hlink (makeLink_copy_ne_ok hsite)
      | error e => simp only [copyEntry, run_change, hlink]
    · cases hmake : d.makeDirectories cwd (join copyPath "") with
      | ok d' =>
        rw [hl d' hmake]
        simp only [copyEntry, run_change, hmake]
        rfl
      | error e => simp only [copyEntry, run_change, hmake]

/-- So a project is copied in such an order. -/
theorem exists_walk (hsite : Site d₀ cwd source copyPath root V) (h : Remains d₀ root V d)
    (hnodup : d.PlacesNodup) : ∃ l, IsWalk d₀ root l ∧
      (copyTree cwd source copyPath).run.run d = (copyTreeIn l cwd source copyPath).run.run d := by
  have hwalk : ∀ d, Remains d₀ root V d → d.PlacesNodup → IsWalk d₀ root (d.descendants root) := by
    intro d h hnodup
    refine (isWalk_descendants hnodup fun r hr r' hr' hne => ?_).congr fun r =>
      (h.project hsite r).symm
    rw [h.project hsite] at hr
    obtain ⟨e, he⟩ := Option.isSome_iff_exists.mp hr
    obtain ⟨a, ha⟩ := hsite.isDirectory_of_prefix he hr' hne
    exact ⟨a, (h.project hsite r').trans ha⟩
  cases hmake : d.makeDirectories cwd (join copyPath "") with
  | ok d' =>
    have hd' : Remains d₀ root V d' := makeDirectories_copy_remains hsite h hmake
    refine ⟨_, hwalk d' hd' (hnodup.makeDirectories hmake), copyTree_run hsite h fun d'' hd'' => ?_⟩
    rw [Except.ok.inj (hmake.symm.trans hd'')]
  | error e =>
    refine ⟨_, hwalk d h hnodup, copyTree_run hsite h fun d'' hd'' => ?_⟩
    cases hmake.symm.trans hd''

/-! ## Copies that break off -/

/-- What is left when the copy of an entry to a path breaks off: nothing new, or a file with a part
of the contents. -/
inductive Interrupts (d : Disk) (cwd : Place) (path : String) (e : Entry) : Disk → Prop
  | before : Interrupts d cwd path e d
  | within {contents part : Bytes} {a : Attributes} {q : Place} {d' : Disk}
      (he : e = .file contents a) (hpart : part <+: contents)
      (hplace : d.placeForWriting cwd path = .ok q) (hwrite : d.writeAt q a.mode part = .ok d') :
      Interrupts d cwd path e d'

/-- A copy in the order of a list breaks off and leaves a disk. -/
inductive BreaksOff (l : List Place) (d : Disk) (cwd : Place) (source copyPath : String)
    (root : Place) (cause : Disk.Error) : Disk → Prop
  /-- The disk refuses an access. -/
  | refused {broken : Disk}
      (hrun : (copyTreeIn l cwd source copyPath).run.run d = (.error cause, broken)) :
      BreaksOff l d cwd source copyPath root cause broken
  /-- For a cause of its own it does not even begin. -/
  | outset : BreaksOff l d cwd source copyPath root cause d
  /-- For a cause of its own it breaks off at one of the entries. -/
  | interrupted {done rest : List Place} {q : Place} {e : Entry} {d₁ broken : Disk}
      (hsplit : l = done ++ q :: rest)
      (hrun : (copyTreeIn done cwd source copyPath).run.run d = (.ok (), d₁))
      (he : d₁.lookup q = some e)
      (hinterrupts : Interrupts d₁ cwd (join copyPath ("/".intercalate (q.drop root.length))) e
        broken) : BreaksOff l d cwd source copyPath root cause broken

theorem Interrupts.remains {e : Entry} (hinterrupts : Interrupts d cwd path e d')
    (hsite : Site d₀ cwd source copyPath root V) (h : Remains d₀ root V d)
    (he : d₀.lookup (root ++ r) = some e) (hliteral : Literal path (V ++ r)) :
    Remains d₀ root V d' := by
  cases hinterrupts with
  | before => exact h
  | within hfile _ hplace hwrite =>
    subst hfile
    obtain rfl := placeForWriting_straight hplace hliteral.straight fun q =>
      hsite.not_isLink h he rfl
    obtain ⟨mode, changed, rfl⟩ := h.writeAt he hwrite
    exact h.isPut (isPut_put_of_ne_nil (hsite.ne_nil_append r) _) he .file

/-- Whatever the cause, only remnants of the project are left. -/
theorem BreaksOff.remains {cause : Disk.Error} {broken : Disk}
    (hbreaks : BreaksOff l d₀ cwd source copyPath root cause broken)
    (hsite : Site d₀ cwd source copyPath root V) (hwalk : IsWalk d₀ root l) :
    Remains d₀ root V broken := by
  have hbelow : ∀ q ∈ l, ∃ r, r ≠ [] ∧ q = root ++ r := fun q hq =>
    ((hwalk.mem_iff q).mp hq).imp fun r hr => ⟨hr.1, hr.2.1⟩
  cases hbreaks with
  | refused hrun => exact (copyTreeIn_leaves hsite hbelow hsite.remains).error cause _ hrun
  | outset => exact hsite.remains
  | @interrupted done rest q e d₁ _ hsplit hrun he hinterrupts =>
    have hd₁ : Remains d₀ root V d₁ := by
      refine (copyTreeIn_leaves hsite (fun q hq => hbelow q ?_) hsite.remains).ok () d₁ hrun
      exact hsplit ▸ List.mem_append_left _ hq
    obtain ⟨r, -, rfl⟩ := hbelow q (by simp [hsplit])
    rw [hd₁.project hsite] at he
    rw [List.drop_left] at hinterrupts
    exact hinterrupts.remains hsite hd₁ he (hsite.literal.join (hsite.isName he))

end Project

end ProgramRepair
