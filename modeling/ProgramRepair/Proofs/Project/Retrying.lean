import ProgramRepair.Proofs.Project.Failures
import ProgramRepair.Proofs.Project.Remnants

/-!
# Copies that are tried again

A slot whose copy broke off is not ready, so the next evaluation in it copies once more. A directory
that is there already does not matter to the second copy, and a file is written anew if it may be;
but a link is never made where one is already. Main statements:

* `Progress.exists_next`, `Progress.yields`: what a second copy does about one remnant;
* `exists_retry`, `of_retry`: so it succeeds exactly if all remnants yield;
* `Progress.untimed_eq`: then nothing is left of the failure;
* `broken_copy_is_retried_iff`: when the cause of the failure is gone, the next attempt succeeds
  exactly if there is no link and no protected file among the remnants, and then the variant is as
  if nothing had failed;
* `copied_link_is_in_the_way`: a project whose copy cannot be tried again.
-/

namespace ProgramRepair

/-! ## Entries -/

namespace Entry

/-- The entry without the time of its last change. -/
def untimed (e : Entry) : Entry :=
  match e.attributes? with
  | some a => e.withAttributes { a with changed := 0 }
  | none => e

/-- Whether an entry can be copied. -/
def canBeCopied : Entry → Bool
  | .directory _ | .link _ => true
  | .file _ a => a.allows .read
  | .null | .pipe _ => false

/-- Whether a copy can be made where the entry is left. -/
def yields : Entry → Bool
  | .directory _ => true
  | .file _ a => a.allows .write
  | .link _ | .null | .pipe _ => false

end Entry

namespace Project

open Disk DiskWork

variable {d d' d₀ : Disk} {cwd root V place : Place} {source copyPath path : String} {r : Place}
  {l : List Place}

/-! ## One entry of a second copy -/

/-- The copy of an entry. -/
inductive IsCopy (textOf : String → String) : (original copy : Entry) → Prop
  | directory {a : Attributes} {changed : Int} :
      IsCopy textOf (.directory a) (.directory ⟨directoryMode, true, changed, none⟩)
  | link {target : String} : IsCopy textOf (.link target) (.link (textOf target))
  | file {contents : Bytes} {a : Attributes} {changed : Int} :
      IsCopy textOf (.file contents a) (.file contents ⟨a.mode, true, changed, none⟩)

section IsCopy

variable {textOf : String → String} {original copy copy' : Entry}

theorem IsCopy.isRemnant (h : IsCopy textOf original copy) : IsRemnant original copy := by
  cases h with
  | directory => exact .directory
  | link => exact .link
  | file => exact .file

/-- Two copies of an entry differ in nothing but their times. -/
theorem IsCopy.untimed_eq (h : IsCopy textOf original copy) (h' : IsCopy textOf original copy') :
    copy.untimed = copy'.untimed := by
  cases h <;> cases h' <;> rfl

end IsCopy

/-- The copy of the entry at `r` in the project, made when no more than the copy at `V` had been
added to the disk `d₀`. -/
def IsCopyAt (d₀ : Disk) (root V : Place) (copyPath : String) (r : Place)
    (original copy : Entry) : Prop :=
  ∃ d : Disk, (∀ q, ¬ V <+: q → d.lookup q = d₀.lookup q) ∧
    IsCopy (copiedLink d root (root ++ r) copyPath) original copy

/-- How far a copy has come that found the disk `start`. -/
structure Progress (d₀ start : Disk) (root V : Place) (copyPath : String) (done : List Place)
    (d : Disk) : Prop where
  outside : ∀ q, ¬ V <+: q → d.lookup q = d₀.lookup q
  copied : ∀ r, root ++ r ∈ done → ∃ original copy, d₀.lookup (root ++ r) = some original ∧
    d.lookup (V ++ r) = some copy ∧ IsCopyAt d₀ root V copyPath r original copy
  rest : ∀ r, root ++ r ∉ done → d.lookup (V ++ r) = start.lookup (V ++ r)

/-- A directory can be made at `V`. -/
structure Admits (d₀ : Disk) (copyPath : String) (V : Place) : Prop where
  reach : d₀.InReach V
  text : textProblem? (join copyPath "") = none
  names : d₀.mayChangeNames V = true

/-- The entry at `r` can be copied if the directories above are there. -/
structure Copyable (d₀ : Disk) (root : Place) (copyPath : String) (r : Place) : Prop where
  text : textProblem? (join copyPath ("/".intercalate r)) = none
  step : ∀ s ∈ r, IsStep s
  canBeCopied : ∀ e, d₀.lookup (root ++ r) = some e → e.canBeCopied = true

/-- A link of the project that leads nowhere does not lead to the place of the copy. -/
def LinksKeepOut (d₀ : Disk) (root V : Place) : Prop :=
  ∀ r target e, d₀.lookup (root ++ r) = some (.link target) →
    d₀.canonical [] (pathOf (root ++ r)) = .error e →
    ∀ d : Disk, (∀ q, ¬ V <+: q → d.lookup q = d₀.lookup q) →
      ∃ e', d.canonical [] (pathOf (root ++ r)) = .error e'

/-- So it is if all links lead somewhere. -/
theorem linksKeepOut_of_entries (h : ∀ entry ∈ d₀.entries, entry.2.isLink = true →
    (d₀.canonical [] (pathOf entry.1)).toOption.isSome) : LinksKeepOut d₀ root V := by
  intro r target e he hcanonical
  have hne : root ++ r ≠ [] := by
    intro hnil
    rw [hnil] at he
    cases he
  have hsome := h _ (mem_entries_of_lookup hne he) rfl
  rw [hcanonical] at hsome
  cases hsome

/-- What is copied for a link that leads somewhere does not depend on what is at the place of the
copy. -/
theorem copiedLink_resolved (hsite : Site d₀ cwd source copyPath root V)
    (houtside : ∀ q, ¬ V <+: q → d.lookup q = d₀.lookup q) {resolved : Place}
    (hresolved : d₀.canonical [] (pathOf place) = .ok resolved) (target : String) :
    copiedLink d root place copyPath target = copiedLink d₀ root place copyPath target := by
  rw [copiedLink, copiedLink, hresolved,
    canonical_of_agree hresolved fun q => hsite.shape_eq houtside]

/-- Nor does it for other links if they keep out. -/
theorem copiedLink_eq (hsite : Site d₀ cwd source copyPath root V) (hlinks : LinksKeepOut d₀ root V)
    (houtside : ∀ q, ¬ V <+: q → d.lookup q = d₀.lookup q) {target : String}
    (he : d₀.lookup (root ++ r) = some (.link target)) :
    copiedLink d root (root ++ r) copyPath target =
      copiedLink d₀ root (root ++ r) copyPath target := by
  cases hresolved : d₀.canonical [] (pathOf (root ++ r)) with
  | ok resolved => exact copiedLink_resolved hsite houtside hresolved target
  | error e =>
    obtain ⟨e', he'⟩ := hlinks r target e he hresolved d houtside
    rw [copiedLink, copiedLink, hresolved, he']

/-- Then it does not matter when the copy was made. -/
theorem IsCopyAt.isCopy {e copy : Entry} (h : IsCopyAt d₀ root V copyPath r e copy)
    (hsame : ∀ d : Disk, (∀ q, ¬ V <+: q → d.lookup q = d₀.lookup q) → ∀ target, e = .link target →
      copiedLink d root (root ++ r) copyPath target =
        copiedLink d₀ root (root ++ r) copyPath target) :
    IsCopy (copiedLink d₀ root (root ++ r) copyPath) e copy := by
  obtain ⟨d, houtside, hcopy⟩ := h
  cases hcopy with
  | directory => exact .directory
  | file => exact .file
  | link =>
    rw [hsame d houtside _ rfl]
    exact .link

/-- In a walk it is the turn of an entry: what is above it was copied, and it was not. -/
structure Turn (d₀ : Disk) (root : Place) (done : List Place) (r : Place) (e : Entry) : Prop where
  lookup : d₀.lookup (root ++ r) = some e
  ne_nil : r ≠ []
  new : root ++ r ∉ done
  above : ∀ r', r' <+: r → r' ≠ r → root ++ r' ∈ done

/-- Each place of a walk gets its turn, once the directory of the project was copied. -/
theorem IsWalk.turn (h : IsWalk d₀ root l) {before after : List Place} {q : Place}
    (hsplit : l = before ++ q :: after) :
    ∃ r e, q = root ++ r ∧ Turn d₀ root (root :: before) r e := by
  obtain ⟨r, hr, rfl, hsome⟩ := (h.mem_iff q).mp (by simp [hsplit])
  obtain ⟨e, he⟩ := Option.isSome_iff_exists.mp hsome
  refine ⟨r, e, rfl, he, hr, ?_, fun r' => h.above hsplit⟩
  have hnodup := h.nodup
  rw [hsplit, List.nodup_append] at hnodup
  rw [List.mem_cons, not_or]
  exact ⟨by simpa using hr, fun hmem => hnodup.2.2 _ hmem _ List.mem_cons_self rfl⟩

/-! Each kind of entry is copied by its own access. -/

section Accesses

variable {a : Attributes} {contents : Bytes} {target : String} {q : Place}

theorem copyEntry_directory (hmake : d.makeDirectories cwd path = .ok d') :
    (copyEntry cwd root place copyPath path (.directory a)).run.run d = (.ok (), d') := by
  rw [copyEntry, run_change, hmake]

theorem copyEntry_link
    (hlink : d.makeLink cwd (copiedLink d root place copyPath target) path = .ok d') :
    (copyEntry cwd root place copyPath path (.link target)).run.run d = (.ok (), d') := by
  rw [copyEntry, run_change, hlink]

theorem copyEntry_file (hread : a.allows .read = true)
    (hplace : d.placeForWriting cwd path = .ok q)
    (hwrite : d.writeAt q a.mode contents = .ok d') :
    (copyEntry cwd root place copyPath path (.file contents a)).run.run d =
      (.ok (), d'.setMode q a.mode) := by
  have hcontents : contentsOf (.file contents a) = .ok contents :=
    contentsOf_file.mpr ⟨hread, rfl⟩
  simp only [copyEntry, run_bind, run_ask, run_change, hcontents, hplace, hwrite]
  rfl

theorem of_copyEntry_file
    (h : (copyEntry cwd root place copyPath path (.file contents a)).run.run d = (.ok (), d')) :
    a.allows .read = true ∧ ∃ q d₁, d.placeForWriting cwd path = .ok q ∧
      d.writeAt q a.mode contents = .ok d₁ := by
  obtain ⟨bytes, d₁, hbytes, hrest⟩ := bind_ok h
  obtain ⟨hcontents, rfl⟩ := ask_ok hbytes
  obtain ⟨hread, rfl⟩ := contentsOf_file.mp hcontents
  obtain ⟨q, d₂, hq, hwriting⟩ := bind_ok hrest
  obtain ⟨hplace, rfl⟩ := ask_ok hq
  obtain ⟨⟨⟩, d₃, hwrite, -⟩ := bind_ok hwriting
  exact ⟨hread, q, d₃, hplace, change_ok hwrite⟩

end Accesses

namespace Progress

variable {start : Disk} {done : List Place} {e copy : Entry}

theorem remains (h : Progress d₀ start root V copyPath done d) (hstart : Remains d₀ root V start) :
    Remains d₀ root V d where
  outside := h.outside
  inside r left hleft := by
    by_cases hdone : root ++ r ∈ done
    · obtain ⟨original, copy, horiginal, hcopy, _, _, hiscopy⟩ := h.copied r hdone
      obtain rfl := Option.some.inj (hcopy.symm.trans hleft)
      exact ⟨original, horiginal, hiscopy.isRemnant⟩
    · rw [h.rest r hdone] at hleft
      exact hstart.inside r left hleft

/-- One more entry was copied. -/
theorem isPut (h : Progress d₀ start root V copyPath done d) (hput : d.IsPut (V ++ r) copy d')
    (he : d₀.lookup (root ++ r) = some e)
    (hcopy : IsCopy (copiedLink d root (root ++ r) copyPath) e copy) :
    Progress d₀ start root V copyPath (done ++ [root ++ r]) d' where
  outside q hq := by
    rw [hput.other, h.outside q hq]
    rintro rfl
    exact hq (List.prefix_append V r)
  copied r' hr' := by
    by_cases hne : r' = r
    · subst hne
      exact ⟨e, copy, he, hput.self, d, h.outside, hcopy⟩
    · obtain ⟨original, copy', horiginal, hcopy', hiscopy⟩ :=
        h.copied r' (by simpa [hne] using hr')
      exact ⟨original, copy', horiginal, (hput.other (by simpa using hne)).trans hcopy', hiscopy⟩
  rest r' hr' := by
    rw [List.mem_append, not_or, List.mem_singleton] at hr'
    rw [hput.other (fun heq => hr'.2 (by rw [List.append_cancel_left heq])), h.rest r' hr'.1]

/-- The entry was there already. -/
theorem kept (h : Progress d₀ start root V copyPath done d) (hthere : d.lookup (V ++ r) = some copy)
    (he : d₀.lookup (root ++ r) = some e)
    (hcopy : IsCopy (copiedLink d root (root ++ r) copyPath) e copy) :
    Progress d₀ start root V copyPath (done ++ [root ++ r]) d := by
  refine h.isPut (fun q => ?_) he hcopy
  split
  · next hq => rw [hq, hthere]
  · rfl

/-- The directories above an entry were copied before it. -/
theorem exists_directory (h : Progress d₀ start root V copyPath done d)
    (hsite : Site d₀ cwd source copyPath root V) (he : d₀.lookup (root ++ r) = some e)
    {r' : Place} (hr' : r' <+: r) (hne : r' ≠ r) (hdone : root ++ r' ∈ done) :
    ∃ changed, d.lookup (V ++ r') = some (.directory ⟨directoryMode, true, changed, none⟩) := by
  obtain ⟨original, copy, horiginal, hcopy, _, _, hiscopy⟩ := h.copied r' hdone
  obtain ⟨a, ha⟩ := hsite.isDirectory_of_prefix he hr' hne
  obtain rfl := Option.some.inj (horiginal.symm.trans ha)
  cases hiscopy
  exact ⟨_, hcopy⟩

/-- All that is above the copy of an entry are directories. -/
theorem isDirectory_above (h : Progress d₀ start root V copyPath done d)
    (hsite : Site d₀ cwd source copyPath root V) (he : d₀.lookup (root ++ r) = some e)
    (habove : ∀ r', r' <+: r → r' ≠ r → root ++ r' ∈ done) {q : Place} (hq : q <+: V ++ r)
    (hne : q ≠ V ++ r) : d.IsDirectory q := by
  rcases prefix_append_cases hq with ⟨hV, hqV⟩ | ⟨r', hr', rfl⟩
  · exact hsite.isDirectory_above h.outside hV hqV
  · have hne' : r' ≠ r := by simpa using hne
    obtain ⟨changed, hdirectory⟩ := h.exists_directory hsite he hr' hne' (habove r' hr' hne')
    exact ⟨_, hdirectory⟩

theorem passable_of_directoryMode {changed : Int} {q : Place}
    (h : d.lookup q = some (.directory ⟨directoryMode, true, changed, none⟩)) : d.Passable q :=
  ⟨_, h, by simp [Attributes.allows, directoryMode, Right.bit]⟩

/-- So its copy is in reach. -/
theorem inReach (h : Progress d₀ start root V copyPath done d)
    (hsite : Site d₀ cwd source copyPath root V) (hadmits : Admits d₀ copyPath V)
    (he : d₀.lookup (root ++ r) = some e) (hstep : ∀ s ∈ r, IsStep s)
    (habove : ∀ r', r' <+: r → r' ≠ r → root ++ r' ∈ done) : d.InReach (V ++ r) where
  above q hq hne := by
    rcases prefix_append_cases hq with ⟨hV, hqV⟩ | ⟨r', hr', rfl⟩
    · obtain ⟨a, ha, hexecute⟩ := hadmits.reach.above q hV hqV
      exact ⟨a, (h.outside q (not_prefix_above hV hqV)).trans ha, hexecute⟩
    · have hne' : r' ≠ r := by simpa using hne
      obtain ⟨changed, hdirectory⟩ := h.exists_directory hsite he hr' hne' (habove r' hr' hne')
      exact passable_of_directoryMode hdirectory
  step s hs := (List.mem_append.mp hs).elim (hadmits.reach.step s) (hstep s)

/-- Names may be changed in the directory that an entry is copied to. -/
theorem mayChangeNames (h : Progress d₀ start root V copyPath done d)
    (hsite : Site d₀ cwd source copyPath root V) (he : d₀.lookup (root ++ r) = some e) (hr : r ≠ [])
    (habove : ∀ r', r' <+: r → r' ≠ r → root ++ r' ∈ done) :
    d.mayChangeNames (V ++ r) = true := by
  have hpre := List.dropLast_prefix r
  have hne := dropLast_ne hr
  obtain ⟨changed, hdirectory⟩ := h.exists_directory hsite he hpre hne (habove _ hpre hne)
  rw [Disk.mayChangeNames, List.dropLast_append_of_ne_nil hr, hdirectory]
  simp [Attributes.allows, directoryMode, Right.bit]

theorem copyBelow_run (cwd root : Place) (copyPath : String)
    (he : d.lookup (root ++ r) = some e) : (copyBelow cwd root copyPath (root ++ r)).run.run d =
      (copyEntry cwd root (root ++ r) copyPath
        (join copyPath ("/".intercalate r)) e).run.run d := by
  have hget : (get : DiskWork Disk).run.run d = (.ok d, d) := rfl
  simp only [copyBelow, run_bind, hget, he, List.drop_left]

/-- The way to the copy of the entry at `r` is open. -/
structure Open (d : Disk) (copyPath : String) (V r : Place) : Prop where
  literal : Literal (join copyPath ("/".intercalate r)) (V ++ r)
  ends : endsAsDirectory (join copyPath ("/".intercalate r)) = false
  text : textProblem? (join copyPath ("/".intercalate r)) = none
  reach : d.InReach (V ++ r)
  names : d.mayChangeNames (V ++ r) = true

theorem isOpen (h : Progress d₀ start root V copyPath done d)
    (hsite : Site d₀ cwd source copyPath root V) (hadmits : Admits d₀ copyPath V)
    (hturn : Turn d₀ root done r e) (hcopyable : Copyable d₀ root copyPath r) :
    Open d copyPath V r where
  literal := hsite.literal.join (hsite.isName hturn.lookup)
  ends := endsAsDirectory_copy hturn.ne_nil (hsite.isName hturn.lookup) copyPath
  text := hcopyable.text
  reach := h.inReach hsite hadmits hturn.lookup hcopyable.step hturn.above
  names := h.mayChangeNames hsite hturn.lookup hturn.ne_nil hturn.above

section Next

variable {a : Attributes} {contents : Bytes} {target : String}
  (h : Progress d₀ start root V copyPath done d) (hsite : Site d₀ cwd source copyPath root V)
  (hstart : Remains d₀ root V start) (hopen : Open d copyPath V r)

include h hsite hstart hopen

/-- It makes no difference whether a directory is there already. -/
theorem next_directory (hturn : Turn d₀ root done r (.directory a)) :
    ∃ d', (copyEntry cwd root place copyPath (join copyPath ("/".intercalate r))
        (.directory a)).run.run d = (.ok (), d') ∧
      Progress d₀ start root V copyPath (done ++ [root ++ r]) d' := by
  have hne := hsite.ne_nil_append r
  -- what is left of an entry is still as the copy found it
  have hleft := h.rest r hturn.new
  cases hthere : start.lookup (V ++ r) with
  | none =>
    have hmake := makeDirectories_new cwd hopen.reach hopen.literal hne hopen.text
      (hleft.trans hthere) hopen.names
    exact ⟨_, copyEntry_directory hmake,
      h.isPut (isPut_put_of_ne_nil hne _) hturn.lookup .directory⟩
  | some left =>
    obtain ⟨original, horiginal, hremnant⟩ := hstart.inside r left hthere
    obtain rfl := Option.some.inj (hturn.lookup.symm.trans horiginal)
    cases hremnant
    have hmake := makeDirectories_there cwd hopen.reach hopen.literal hne hopen.text
      (passable_of_directoryMode (hleft.trans hthere))
    exact ⟨d, copyEntry_directory hmake, h.kept (hleft.trans hthere) hturn.lookup .directory⟩

/-- A link is made where nothing is. -/
theorem next_link (hturn : Turn d₀ root done r (.link target))
    (hyields : ∀ left, start.lookup (V ++ r) = some left → left.yields = true) :
    ∃ d', (copyEntry cwd root (root ++ r) copyPath (join copyPath ("/".intercalate r))
        (.link target)).run.run d = (.ok (), d') ∧
      Progress d₀ start root V copyPath (done ++ [root ++ r]) d' := by
  have hleft := h.rest r hturn.new
  cases hthere : start.lookup (V ++ r) with
  | none =>
    have hlink := makeLink_new cwd (copiedLink d root (root ++ r) copyPath target) hopen.reach
      hopen.literal hopen.text hopen.ends (hleft.trans hthere) hopen.names
    exact ⟨_, copyEntry_link hlink,
      h.isPut (isPut_put_of_ne_nil (hsite.ne_nil_append r) _) hturn.lookup .link⟩
  | some left =>
    -- only a link can be left of a link, and that does not yield
    obtain ⟨original, horiginal, hremnant⟩ := hstart.inside r left hthere
    obtain rfl := Option.some.inj (hturn.lookup.symm.trans horiginal)
    cases hremnant
    cases hyields _ hthere

/-- A file that is left is truncated if it may be written, and has the mode of the original in the
end. -/
theorem next_file (hturn : Turn d₀ root done r (.file contents a)) (hread : a.allows .read = true)
    (hyields : ∀ left, start.lookup (V ++ r) = some left → left.yields = true) :
    ∃ d', (copyEntry cwd root place copyPath (join copyPath ("/".intercalate r))
        (.file contents a)).run.run d = (.ok (), d') ∧
      Progress d₀ start root V copyPath (done ++ [root ++ r]) d' := by
  have hne := hsite.ne_nil_append r
  have hleft := h.rest r hturn.new
  have hnolink := hsite.not_isLink (h.remains hstart) hturn.lookup rfl List.prefix_rfl
  have hplace : d.placeForWriting cwd (join copyPath ("/".intercalate r)) = .ok (V ++ r) := by
    rw [placeForWriting_eq hopen.ends]
    exact resolve_inReach hopen.reach hopen.literal hopen.text hopen.ends hnolink
  cases hthere : start.lookup (V ++ r) with
  | none =>
    have hwrite := writeAt_new a.mode contents (hleft.trans hthere) hopen.names
    exact ⟨_, copyEntry_file hread hplace hwrite,
      h.isPut (isPut_setMode_put hne rfl a.mode) hturn.lookup .file⟩
  | some left =>
    obtain ⟨original, horiginal, hremnant⟩ := hstart.inside r left hthere
    obtain rfl := Option.some.inj (hturn.lookup.symm.trans horiginal)
    cases hremnant
    have hwrite := writeAt_there a.mode contents (hleft.trans hthere) rfl
    have hallows : Attributes.allows _ .write = true := hyields _ hthere
    rw [if_pos hallows] at hwrite
    exact ⟨_, copyEntry_file hread hplace hwrite,
      h.isPut (isPut_setMode_put hne rfl a.mode) hturn.lookup .file⟩

end Next

/-- The next entry is copied if what is left of it yields. -/
theorem exists_next (h : Progress d₀ start root V copyPath done d)
    (hsite : Site d₀ cwd source copyPath root V) (hadmits : Admits d₀ copyPath V)
    (hstart : Remains d₀ root V start) (hturn : Turn d₀ root done r e) (hcopyable : Copyable d₀ root copyPath r)
    (hyields : ∀ left, start.lookup (V ++ r) = some left → left.yields = true) :
    ∃ d', (copyBelow cwd root copyPath (root ++ r)).run.run d = (.ok (), d') ∧
      Progress d₀ start root V copyPath (done ++ [root ++ r]) d' := by
  have hopen := h.isOpen hsite hadmits hturn hcopyable
  have hcopied := hcopyable.canBeCopied _ hturn.lookup
  rw [copyBelow_run cwd root copyPath ((h.outside _ (hsite.apart r)).trans hturn.lookup)]
  cases e with
  | directory a => exact h.next_directory hsite hstart hopen hturn
  | link target => exact h.next_link hsite hstart hopen hturn hyields
  | file contents a => exact h.next_file hsite hstart hopen hturn hcopied hyields
  | null => cases hcopied
  | pipe a => cases hcopied

/-- If an entry is copied, what was left of it yields. -/
theorem yields (h : Progress d₀ start root V copyPath done d)
    (hsite : Site d₀ cwd source copyPath root V) (hstart : Remains d₀ root V start)
    (hturn : Turn d₀ root done r e)
    (hrun : (copyBelow cwd root copyPath (root ++ r)).run.run d = (.ok (), d')) {left : Entry}
    (hthere : start.lookup (V ++ r) = some left) : left.yields = true := by
  obtain ⟨he, hr, hnew, -⟩ := hturn
  have hname := hsite.isName he
  have hliteral := hsite.literal.join hname
  have hend := endsAsDirectory_copy hr hname copyPath
  have hremains := h.remains hstart
  rw [copyBelow_run cwd root copyPath ((h.outside _ (hsite.apart r)).trans he)] at hrun
  have hleft := (h.rest r hnew).trans hthere
  obtain ⟨original, horiginal, hremnant⟩ := hstart.inside r left hthere
  obtain rfl := Option.some.inj (he.symm.trans horiginal)
  cases hremnant with
  | directory => rfl
  | link =>
    -- a link is only made where nothing is
    obtain ⟨-, -, hnone⟩ := inReach_of_makeLink (change_ok hrun) hliteral hend fun q =>
      hsite.not_isLink_above hremains he
    cases hnone.symm.trans hleft
  | file =>
    obtain ⟨-, q, d₁, hplace, hwrite⟩ := of_copyEntry_file hrun
    obtain rfl := placeForWriting_straight hplace hliteral.straight fun q =>
      hsite.not_isLink hremains he rfl
    rw [writeAt_there _ _ hleft rfl] at hwrite
    split at hwrite
    · next hallows => exact hallows
    · cases hwrite

/-- If an entry is copied where nothing is left of it, it can be copied. -/
theorem copyable (h : Progress d₀ d₀ root V copyPath done d)
    (hsite : Site d₀ cwd source copyPath root V) (hturn : Turn d₀ root done r e)
    (hrun : (copyBelow cwd root copyPath (root ++ r)).run.run d = (.ok (), d')) :
    Copyable d₀ root copyPath r := by
  obtain ⟨he, hr, hnew, habove⟩ := hturn
  have hname := hsite.isName he
  have hliteral := hsite.literal.join hname
  have hend := endsAsDirectory_copy hr hname copyPath
  have hremains := h.remains hsite.remains
  have hlinks := fun q => hsite.not_isLink_above (q := q) hremains he
  have hnone : d.lookup (V ++ r) = none := (h.rest r hnew).trans (hsite.empty r)
  rw [copyBelow_run cwd root copyPath ((h.outside _ (hsite.apart r)).trans he)] at hrun
  suffices hfound : textProblem? (join copyPath ("/".intercalate r)) = none ∧
      d.InReach (V ++ r) ∧ e.canBeCopied = true by
    obtain ⟨htext, hreach, hcopied⟩ := hfound
    refine ⟨htext, fun s hs => hreach.step s (List.mem_append_right V hs), fun e' he' => ?_⟩
    rwa [← Option.some.inj (he.symm.trans he')]
  cases e with
  | directory a =>
    have hmake := makeDirectory_of_makeDirectories (change_ok hrun) hliteral
      (fun q => h.isDirectory_above hsite he habove) hnone
    obtain ⟨htext, hreach, -⟩ :=
      inReach_of_makeDirectory hmake hliteral (hsite.ne_nil_append r) hlinks
    rw [withoutFinalSlashes_eq hend] at htext
    exact ⟨htext, hreach, rfl⟩
  | link target =>
    obtain ⟨htext, hreach, -⟩ := inReach_of_makeLink (change_ok hrun) hliteral hend hlinks
    exact ⟨htext, hreach, rfl⟩
  | file contents a =>
    obtain ⟨hread, q, d₁, hplace, -⟩ := of_copyEntry_file hrun
    rw [placeForWriting_eq hend] at hplace
    obtain ⟨htext, hreach⟩ := inReach_of_resolveWith hplace hliteral hlinks
    exact ⟨htext, hreach, hread⟩
  | null => cases hrun
  | pipe a => cases hrun

end Progress

/-! ## A whole second copy -/

section Copies

variable {start : Disk} {l' : List Place} {a : Attributes} {d₁ : Disk}

theorem Progress.init (h : Remains d₀ root V start) :
    Progress d₀ start root V copyPath [] start where
  outside := h.outside
  copied _ hr := absurd hr List.not_mem_nil
  rest _ _ := rfl

theorem Site.literal_slash (h : Site d₀ cwd source copyPath root V) :
    Literal (join copyPath "") V := by
  simpa using h.literal.join (q := []) nofun

/-- If the directory of a copy was made, it can be made. -/
theorem admits_of_makeDirectories (hsite : Site d₀ cwd source copyPath root V)
    (hmake : d₀.makeDirectories cwd (join copyPath "") = .ok d₁) : Admits d₀ copyPath V := by
  have hnone : d₀.lookup V = none := by simpa using hsite.empty []
  have habove : ∀ q, q <+: V → q ≠ V → d₀.IsDirectory q := fun q =>
    hsite.isDirectory_above (fun _ _ => rfl)
  have hmade := makeDirectory_of_makeDirectories hmake hsite.literal_slash habove hnone
  obtain ⟨htext, hreach, -, hnames⟩ := inReach_of_makeDirectory hmade hsite.literal_slash
    hsite.ne_nil fun q hq hne hlink => hlink.not_isDirectory (habove q hq hne)
  have hne := ne_empty_of_literal hsite.literal_slash
  refine ⟨hreach, textProblem?_eq_none.mpr ⟨?_, hne, hsite.room⟩, hnames⟩
  obtain ⟨k, hk⟩ := exists_withoutFinalSlashes (join copyPath "")
  rw [hk, List.mem_append, not_or]
  exact ⟨(textProblem?_eq_none.mp htext).1, fun hmem => by cases List.eq_of_mem_replicate hmem⟩

/-- The directory of a copy is made, or is there already. -/
theorem Progress.exists_start (hsite : Site d₀ cwd source copyPath root V)
    (hadmits : Admits d₀ copyPath V) (hstart : Remains d₀ root V start) :
    ∃ d₁, start.makeDirectories cwd (join copyPath "") = .ok d₁ ∧
      Progress d₀ start root V copyPath [root] d₁ := by
  obtain ⟨a, ha⟩ := hsite.isDirectory
  have hroot : d₀.lookup (root ++ []) = some (.directory a) := by rwa [List.append_nil]
  have hinit : Progress d₀ start root V copyPath [] start := .init hstart
  have hreach : start.InReach V := by
    refine ⟨fun q hq hne => ?_, hadmits.reach.step⟩
    obtain ⟨b, hb, hexecute⟩ := hadmits.reach.above q hq hne
    exact ⟨b, (hstart.outside q (not_prefix_above hq hne)).trans hb, hexecute⟩
  cases hthere : start.lookup V with
  | none =>
    have hup : ¬ V <+: V.dropLast :=
      not_prefix_above (List.dropLast_prefix V) (dropLast_ne hsite.ne_nil)
    have hnames : start.mayChangeNames V = true := by
      rw [Disk.mayChangeNames, hstart.outside _ hup]
      exact hadmits.names
    have hput := isPut_put_of_ne_nil (d := start) hsite.ne_nil
      (.directory (start.newAttributes directoryMode))
    refine ⟨_, makeDirectories_new cwd hreach hsite.literal_slash hsite.ne_nil hadmits.text hthere
      hnames, ?_⟩
    simpa using hinit.isPut (r := []) (by rwa [List.append_nil]) hroot .directory
  | some left =>
    have hthere' : start.lookup (V ++ []) = some left := by rwa [List.append_nil]
    obtain ⟨original, horiginal, hremnant⟩ := hstart.inside [] left hthere'
    obtain rfl := Option.some.inj (hroot.symm.trans horiginal)
    cases hremnant
    refine ⟨start, makeDirectories_there cwd hreach hsite.literal_slash hsite.ne_nil hadmits.text
      (Progress.passable_of_directoryMode hthere), ?_⟩
    simpa using hinit.kept (r := []) hthere' hroot .directory

/-- A copy begins with the directory of the project. -/
theorem copyTreeIn_run (hcanonical : d.canonical cwd source = .ok root)
    (hfind : d.findEntry cwd source = .ok (root, .directory a))
    (hmake : d.makeDirectories cwd (join copyPath "") = .ok d₁) :
    (copyTreeIn l cwd source copyPath).run.run d =
      (l.forM (copyBelow cwd root copyPath)).run.run d₁ := by
  simp only [copyTreeIn, run_bind, run_ask, hcanonical, hfind, copyEntry_directory hmake]

/-- A copy that succeeds has begun so. -/
theorem of_copyTreeIn (hsite : Site d₀ cwd source copyPath root V) (hremains : Remains d₀ root V d)
    (h : (copyTreeIn l cwd source copyPath).run.run d = (.ok (), d')) :
    ∃ a d₁, d.findEntry cwd source = .ok (root, .directory a) ∧
      d.makeDirectories cwd (join copyPath "") = .ok d₁ ∧
      (l.forM (copyBelow cwd root copyPath)).run.run d₁ = (.ok (), d') := by
  obtain ⟨root', d₂, hroot', hfinding⟩ := bind_ok h
  obtain ⟨hroot', rfl⟩ := ask_ok hroot'
  obtain rfl := Except.ok.inj ((hremains.canonical hsite).symm.trans hroot')
  obtain ⟨⟨place, e⟩, d₃, hentry, hcopying⟩ := bind_ok hfinding
  obtain ⟨hentry, rfl⟩ := ask_ok hentry
  obtain ⟨⟨⟩, d₁, hfirst, hrest⟩ := bind_ok hcopying
  rcases start_cases hsite hremains hentry with ⟨target, rfl⟩ | ⟨rfl, a, rfl⟩
  · exact absurd (change_ok hfirst) (makeLink_copy_ne_ok hsite)
  · exact ⟨a, d₁, hentry, change_ok hfirst, hrest⟩

/-- All of a project was walked. -/
theorem IsWalk.mem_cons_iff (h : IsWalk d₀ root l) (hroot : d₀.IsDirectory root) :
    root ++ r ∈ root :: l ↔ (d₀.lookup (root ++ r)).isSome := by
  rw [List.mem_cons, h.mem_iff]
  by_cases hr : r = []
  · subst hr
    simp [hroot.isSome_lookup]
  · simp [hr]

/-- What each step of a copy shows about its entry is known of all entries in the end. -/
theorem Progress.of_run {Q : Place → Prop} (hwalk : IsWalk d₀ root l)
    (hnext : ∀ done r e d d', root ++ r ∈ l → Turn d₀ root done r e →
      Progress d₀ start root V copyPath done d →
      (copyBelow cwd root copyPath (root ++ r)).run.run d = (.ok (), d') →
      Q r ∧ Progress d₀ start root V copyPath (done ++ [root ++ r]) d')
    (hfirst : Progress d₀ start root V copyPath [root] d)
    (hrun : (l.forM (copyBelow cwd root copyPath)).run.run d = (.ok (), d')) :
    (∀ r, root ++ r ∈ l → Q r) ∧ Progress d₀ start root V copyPath (root :: l) d' := by
  refine forM_ok (I := fun done d => (∀ r, root ++ r ∈ done → Q r) ∧
    Progress d₀ start root V copyPath (root :: done) d)
    (fun done q rest d d' hsplit hd hq => ?_) ⟨fun _ hr => absurd hr List.not_mem_nil, hfirst⟩ hrun
  obtain ⟨r, e, rfl, hturn⟩ := hwalk.turn hsplit
  obtain ⟨hr, hprogress⟩ := hnext _ r e d d' (by simp [hsplit]) hturn hd.2 hq
  refine ⟨fun r' hr' => ?_, hprogress⟩
  rcases List.mem_append.mp hr' with hdone | hlast
  · exact hd.1 r' hdone
  · obtain rfl : r' = r := by simpa using hlast
    exact hr

/-- A copy that succeeds where nothing was shows what can be copied. -/
theorem of_fresh {whole : Disk} (hsite : Site d₀ cwd source copyPath root V)
    (hwalk : IsWalk d₀ root l)
    (hrun : (copyTreeIn l cwd source copyPath).run.run d₀ = (.ok (), whole)) :
    Admits d₀ copyPath V ∧ (∀ r, root ++ r ∈ l → Copyable d₀ root copyPath r) ∧
      Progress d₀ d₀ root V copyPath (root :: l) whole := by
  obtain ⟨a, d₁, -, hmake, hcopy⟩ := of_copyTreeIn hsite hsite.remains hrun
  have hadmits := admits_of_makeDirectories hsite hmake
  obtain ⟨d₁', hmake', hfirst⟩ := Progress.exists_start hsite hadmits hsite.remains
  obtain rfl := Except.ok.inj (hmake.symm.trans hmake')
  refine ⟨hadmits, Progress.of_run hwalk (fun done r e d d' _ hturn hd hq => ?_) hfirst hcopy⟩
  have hcopyable := hd.copyable hsite hturn hq
  obtain ⟨d'', hq', hprogress⟩ := hd.exists_next hsite hadmits hsite.remains hturn hcopyable
    fun left hleft => by
      rw [hsite.empty] at hleft
      cases hleft
  cases hq.symm.trans hq'
  exact ⟨hcopyable, hprogress⟩

variable (hsite : Site d₀ cwd source copyPath root V) (hadmits : Admits d₀ copyPath V)
  (hstart : Remains d₀ root V start) (hwalk : IsWalk d₀ root l)
  (hcopyable : ∀ r, root ++ r ∈ l → Copyable d₀ root copyPath r)

include hsite hadmits hstart hwalk hcopyable

/-- A second copy succeeds if all remnants yield. -/
theorem exists_retry (hfind : d₀.findEntry cwd source = .ok (root, .directory a))
    (hyields : ∀ r left, start.lookup (V ++ r) = some left → left.yields = true) :
    ∃ d', (copyTreeIn l cwd source copyPath).run.run start = (.ok (), d') ∧
      Progress d₀ start root V copyPath (root :: l) d' := by
  have hfind' : start.findEntry cwd source = .ok (root, .directory a) :=
    findEntry_of_agree hfind (fun q => hsite.shape_eq hstart.outside)
      (by simpa using hstart.project hsite [])
  obtain ⟨d₁, hmake, hfirst⟩ := Progress.exists_start hsite hadmits hstart
  rw [copyTreeIn_run (hstart.canonical hsite) hfind' hmake]
  refine exists_forM (I := fun done d => Progress d₀ start root V copyPath (root :: done) d)
    (fun done q rest d hsplit hd => ?_) hfirst
  obtain ⟨r, e, rfl, hturn⟩ := hwalk.turn hsplit
  exact hd.exists_next hsite hadmits hstart hturn (hcopyable r (by simp [hsplit]))
    (hyields r)

/-- And only then. -/
theorem of_retry (hrun : (copyTreeIn l cwd source copyPath).run.run start = (.ok (), d')) :
    (∀ r left, start.lookup (V ++ r) = some left → left.yields = true) ∧
      Progress d₀ start root V copyPath (root :: l) d' := by
  obtain ⟨a, d₁, -, hmake, hcopy⟩ := of_copyTreeIn hsite hstart hrun
  obtain ⟨d₁', hmake', hfirst⟩ := Progress.exists_start hsite hadmits hstart
  obtain rfl := Except.ok.inj (hmake.symm.trans hmake')
  obtain ⟨hbelow, hprogress⟩ := Progress.of_run
    (Q := fun r => ∀ left, start.lookup (V ++ r) = some left → left.yields = true) hwalk
    (fun done r e d d' hr hturn hd hq => by
      have hyields : ∀ left, start.lookup (V ++ r) = some left → left.yields = true := fun _ =>
        hd.yields hsite hstart hturn hq
      obtain ⟨d'', hq', hprogress⟩ := hd.exists_next hsite hadmits hstart hturn
        (hcopyable r hr) hyields
      cases hq.symm.trans hq'
      exact ⟨hyields, hprogress⟩) hfirst hcopy
  refine ⟨fun r left hleft => ?_, hprogress⟩
  -- whatever is left was in the project
  obtain ⟨original, horiginal, hremnant⟩ := hstart.inside r left hleft
  by_cases hr : r = []
  · obtain ⟨b, hb⟩ := hsite.isDirectory
    rw [hr, List.append_nil, hb] at horiginal
    cases horiginal
    cases hremnant
    rfl
  · exact hbelow r ((hwalk.mem_iff _).mpr ⟨r, hr, rfl, by rw [horiginal]; rfl⟩) left hleft

omit hadmits hcopyable

/-- A copy that found remnants and one that found nothing differ in no more than times. -/
theorem Progress.untimed_eq {whole : Disk} (hlinks : LinksKeepOut d₀ root V)
    (hwalk' : IsWalk d₀ root l')
    (hwhole : Progress d₀ d₀ root V copyPath (root :: l') whole)
    (h : Progress d₀ start root V copyPath (root :: l) d') (r : Place) :
    (d'.lookup (V ++ r)).map Entry.untimed = (whole.lookup (V ++ r)).map Entry.untimed := by
  have hmem := hwalk.mem_cons_iff (r := r) hsite.isDirectory
  have hmem' := hwalk'.mem_cons_iff (r := r) hsite.isDirectory
  by_cases hsome : (d₀.lookup (root ++ r)).isSome
  · obtain ⟨original, copy, horiginal, hcopy, hiscopy⟩ := h.copied r (hmem.mpr hsome)
    obtain ⟨original', copy', horiginal', hcopy', hiscopy'⟩ := hwhole.copied r (hmem'.mpr hsome)
    obtain rfl := Option.some.inj (horiginal.symm.trans horiginal')
    have hsame : ∀ d : Disk, (∀ q, ¬ V <+: q → d.lookup q = d₀.lookup q) → ∀ target,
        original = .link target → copiedLink d root (root ++ r) copyPath target =
          copiedLink d₀ root (root ++ r) copyPath target := by
      rintro d houtside target rfl
      exact copiedLink_eq hsite hlinks houtside horiginal
    rw [hcopy, hcopy', Option.map_some, Option.map_some,
      (hiscopy.isCopy hsame).untimed_eq (hiscopy'.isCopy hsame)]
  · -- where the project has nothing, there is nothing
    have hnone : start.lookup (V ++ r) = none := by
      refine Option.eq_none_iff_forall_ne_some.mpr fun left hleft => hsome ?_
      obtain ⟨original, horiginal, -⟩ := hstart.inside r left hleft
      rw [horiginal]
      rfl
    rw [h.rest r (mt hmem.mp hsome), hwhole.rest r (mt hmem'.mp hsome), hnone, hsite.empty]

end Copies

/-! ## Attempts -/

/-- The facilities of a disk, where a copy goes over the places of a list. -/
def Facilities.walking (l : List Place) (execute : Executor) : Facilities :=
  ⟨copyTreeIn l, writeFile, execute⟩

section Attempts

variable {p : Project} {F : Facilities} {slot : Nat} {w v : Workspace} {scratch : Place}
  {dir : String} {cause : Disk.Error}

theorem prepareWith_onDisk (execute : Executor) (p : Project) :
    p.prepareWith (.onDisk execute) = p.prepare := rfl

/-- Of the facilities, a preparation only needs the copy. -/
theorem prepareWith_congr {G : Facilities} (hscratch : w.scratch = some scratch)
    (h : (F.copy w.cwd p.root (variantPath scratch slot)).run.run w.disk =
      (G.copy w.cwd p.root (variantPath scratch slot)).run.run w.disk) :
    p.prepareWith F slot w = p.prepareWith G slot w := by
  rw [prepareWith, prepareWith, hscratch]
  dsimp only
  rw [h]

theorem prepareWith_ok_iff (hscratch : w.scratch = some scratch) (hready : slot ∉ w.ready) :
    p.prepareWith F slot w = (.ok dir, v) ↔ dir = variantPath scratch slot ∧
      ∃ disk, (F.copy w.cwd p.root (variantPath scratch slot)).run.run w.disk = (.ok (), disk) ∧
        v = { w with disk, ready := slot :: w.ready } := by
  rw [prepareWith, hscratch]
  dsimp only
  rw [if_neg hready]
  split
  · next disk hcopy =>
    rw [hcopy]
    constructor
    · intro h
      cases h
      exact ⟨rfl, disk, rfl, rfl⟩
    · rintro ⟨rfl, disk', hdisk', rfl⟩
      cases hdisk'
      rfl
  · next e disk hcopy =>
    rw [hcopy]
    constructor
    · intro h
      cases h
    · rintro ⟨-, disk', hdisk', -⟩
      cases hdisk'

/-- A slot whose copy broke off was not ready and is not. -/
theorem of_prepareWith_error (hscratch : w.scratch = some scratch)
    (h : p.prepareWith F slot w = (.error cause, v)) : slot ∉ w.ready ∧ ∃ broken,
      (F.copy w.cwd p.root (variantPath scratch slot)).run.run w.disk = (.error cause, broken) ∧
      v = { w with disk := broken } := by
  rw [prepareWith, hscratch] at h
  dsimp only at h
  split at h
  · cases h
  · next hready =>
    split at h
    · cases h
    · next e disk hcopy =>
      cases h
      exact ⟨hready, disk, hcopy, by rw [hscratch]⟩

end Attempts

/-- Two entries are of the same kind. -/
structure SameKind (e e' : Entry) : Prop where
  isDirectory : e'.isDirectory = e.isDirectory
  isFile : e'.isFile = e.isFile
  isLink : e'.isLink = e.isLink

theorem SameKind.refl (e : Entry) : SameKind e e := ⟨rfl, rfl, rfl⟩

theorem IsRemnant.of_sameKind {e e' left : Entry} (h : IsRemnant e left) (hkind : SameKind e e') :
    IsRemnant e' left := by
  cases h with
  | directory =>
    cases e' with
    | directory a => exact .directory
    | _ => cases hkind.isDirectory
  | link =>
    cases e' with
    | link target => exact .link
    | _ => cases hkind.isLink
  | file =>
    cases e' with
    | file contents a => exact .file
    | _ => cases hkind.isFile

/-- What may change between a copy that broke off and the next attempt, so that its cause is gone.
What was copied stays as it is, and of its originals none goes away or becomes something else. The
disk `again` is the one that the next attempt finds, and `clean` is what it would be if there had
been no copy. -/
structure Mended (d₀ broken : Disk) (root V : Place) (clean again : Disk) : Prop where
  outside : ∀ q, ¬ V <+: q → again.lookup q = clean.lookup q
  inside : ∀ r, again.lookup (V ++ r) = broken.lookup (V ++ r)
  originals : ∀ r e, (broken.lookup (V ++ r)).isSome → d₀.lookup (root ++ r) = some e →
    ∃ e', clean.lookup (root ++ r) = some e' ∧ SameKind e e'

section Mended

variable {broken clean again : Disk}

theorem Mended.remains (h : Mended d₀ broken root V clean again)
    (hbroken : Remains d₀ root V broken) : Remains clean root V again where
  outside := h.outside
  inside r left hleft := by
    rw [h.inside] at hleft
    obtain ⟨e, he, hremnant⟩ := hbroken.inside r left hleft
    obtain ⟨e', he', hkind⟩ := h.originals r e (by rw [hleft]; rfl) he
    exact ⟨e', he', hremnant.of_sameKind hkind⟩

/-- Other rights for a file are such a change. -/
theorem mended_setMode {q : Place} {contents : Bytes} {a : Attributes}
    (hbroken : Remains d₀ root V broken) (hapart : ¬ V <+: q)
    (hfile : d₀.lookup q = some (.file contents a)) (hnumber : a.number = none) (mode : Nat) :
    Mended d₀ broken root V (d₀.setMode q mode) (broken.setMode q mode) := by
  have hput : ∀ d : Disk, d.lookup q = some (.file contents a) →
      d.IsPut q (.file contents { a with mode }) (d.setMode q mode) := fun d hd =>
    isPut_setMode hd (fun q' n hn => by
      rw [numberAt, hd] at hn
      cases hnumber.symm.trans hn) mode
  have hclean := hput d₀ hfile
  have hagain := hput broken ((hbroken.outside q hapart).trans hfile)
  refine ⟨fun q' hq' => ?_, fun r => hagain.other ?_, fun r e _ he => ?_⟩
  · rw [hagain q', hclean q', hbroken.outside q' hq']
  · rintro rfl
    exact hapart (List.prefix_append V r)
  · by_cases hq : root ++ r = q
    · rw [hq] at he ⊢
      obtain rfl := Option.some.inj (hfile.symm.trans he)
      exact ⟨_, hclean.self, rfl, rfl, rfl⟩
    · exact ⟨e, (hclean.other hq).trans he, .refl e⟩

end Mended

/-- A copy of the project broke off in an attempt to prepare a slot: the disk refused an access or
there was another cause, before or at any entry, in any order of the walk. Then the slot is not
ready. Suppose that the cause is gone: if there had been no copy, one would succeed now. The next
attempt, in any order of the walk again, succeeds exactly if what the first one left yields to it,
which links and protected files do not. If it succeeds, the variant is the one that would be there
if nothing had failed, but for the times of changes, and nothing else on the disk has changed. The
orders of the walk include the one in which the project is copied. -/
theorem broken_copy_is_retried_iff {p : Project} {w v : Workspace} {slot : Nat}
    {scratch root : Place} {F : Facilities} {cause : Disk.Error} {l l₁ l₂ : List Place}
    {clean again whole : Disk} (hscratch : w.scratch = some scratch)
    (hsite : Site w.disk w.cwd p.root (variantPath scratch slot) root (variantPlace scratch slot))
    (hwalk : IsWalk w.disk root l) (hfailed : p.prepareWith F slot w = (.error cause, v))
    (hbreaks : BreaksOff l w.disk w.cwd p.root (variantPath scratch slot) root cause v.disk)
    (hmended : Mended w.disk v.disk root (variantPlace scratch slot) clean again)
    (hsite' : Site clean w.cwd p.root (variantPath scratch slot) root (variantPlace scratch slot))
    (hlinks : LinksKeepOut clean root (variantPlace scratch slot)) (hwalk₁ : IsWalk clean root l₁)
    (hwhole : (copyTreeIn l₁ w.cwd p.root (variantPath scratch slot)).run.run clean =
      (.ok (), whole))
    (hwalk₂ : IsWalk clean root l₂) (execute : Executor) :
    slot ∉ v.ready ∧
    ((∃ dir u, p.prepareWith (.walking l₂ execute) slot { v with disk := again } = (.ok dir, u)) ↔
      ∀ r left, v.disk.lookup (variantPlace scratch slot ++ r) = some left →
        left.yields = true) ∧
    (∀ dir u, p.prepareWith (.walking l₂ execute) slot { v with disk := again } = (.ok dir, u) →
      dir = variantPath scratch slot ∧ slot ∈ u.ready ∧
      (∀ r, (u.disk.lookup (variantPlace scratch slot ++ r)).map Entry.untimed =
        (whole.lookup (variantPlace scratch slot ++ r)).map Entry.untimed) ∧
      ∀ q, ¬ variantPlace scratch slot <+: q → u.disk.lookup q = clean.lookup q) ∧
    (again.PlacesNodup → ∃ l, IsWalk clean root l ∧
      p.prepare slot { v with disk := again } =
        p.prepareWith (.walking l execute) slot { v with disk := again }) := by
  obtain ⟨hready, broken, -, rfl⟩ := of_prepareWith_error hscratch hfailed
  have hstart := hmended.remains (hbreaks.remains hsite hwalk)
  obtain ⟨hadmits, hcopyable, hprogress⟩ := of_fresh hsite' hwalk₁ hwhole
  obtain ⟨a, -, hfind, -⟩ := of_copyTreeIn hsite' hsite'.remains hwhole
  have hcopyable₂ : ∀ r, root ++ r ∈ l₂ → Copyable clean root (variantPath scratch slot) r :=
    fun r hr => hcopyable r ((hwalk₁.mem_iff _).mpr ((hwalk₂.mem_iff _).mp hr))
  have hok : ∀ dir u,
      p.prepareWith (.walking l₂ execute) slot { w with disk := again } = (.ok dir, u) ↔
      dir = variantPath scratch slot ∧
        ∃ disk, (copyTreeIn l₂ w.cwd p.root (variantPath scratch slot)).run.run again =
          (.ok (), disk) ∧ u = { w with disk, ready := slot :: w.ready } := fun dir u =>
    prepareWith_ok_iff (w := { w with disk := again }) hscratch hready
  refine ⟨hready, ⟨?_, fun hyields => ?_⟩, fun dir u hrun => ?_, fun hnodup => ?_⟩
  · rintro ⟨dir, u, hrun⟩ r left hleft
    obtain ⟨-, disk, hcopy, -⟩ := (hok dir u).mp hrun
    refine (of_retry hsite' hadmits hstart hwalk₂ hcopyable₂ hcopy).1 r left ?_
    rw [hmended.inside, hleft]
  · obtain ⟨disk, hcopy, -⟩ := exists_retry hsite' hadmits hstart hwalk₂ hcopyable₂ hfind
      fun r left hleft => hyields r left (hmended.inside r ▸ hleft)
    exact ⟨_, _, (hok _ _).mpr ⟨rfl, disk, hcopy, rfl⟩⟩
  · obtain ⟨rfl, disk, hcopy, rfl⟩ := (hok dir u).mp hrun
    have hretry := (of_retry hsite' hadmits hstart hwalk₂ hcopyable₂ hcopy).2
    exact ⟨rfl, List.mem_cons_self,
      Progress.untimed_eq hsite' hstart hwalk₂ hlinks hwalk₁ hprogress hretry, hretry.outside⟩
  · obtain ⟨l, hl, hcopy⟩ := exists_walk hsite' hstart hnodup
    refine ⟨l, hl, ?_⟩
    rw [← prepareWith_onDisk execute]
    exact prepareWith_congr (w := { w with disk := again }) hscratch hcopy

/-! ### A project with a file that could not be read at first -/

/-- A project with a directory, a file in it, a file that nobody may read and a link, in the order
in which they are copied. -/
def lockedWorkspace : Workspace :=
  (workspaceWith [(["project", "lib"], .directory ⟨directoryMode, true, 0, none⟩),
    (["project", "lib", "a"], fileOf "a\n"),
    (["project", "b"], .file (Text.bytesOf "b\n") ⟨0, true, 0, none⟩),
    (["project", "link"], .link "lib/a")]).openScratch

def lockedScratch : Place := ["tmp", "tabu-repair-000000"]

/-- The disk on which the file may be read. -/
def unlock (d : Disk) : Disk := d.setMode ["project", "b"] fileMode

/-- What is left when it could not be read. -/
def lockedAttempt : Workspace :=
  (smallProject.prepareWith (.onDisk passing) 0 lockedWorkspace).2

theorem scratch_lockedWorkspace : lockedWorkspace.scratch = some lockedScratch := by decide +kernel

theorem site_lockedWorkspace (h : d = lockedWorkspace.disk ∨ d = unlock lockedWorkspace.disk) :
    Site d lockedWorkspace.cwd smallProject.root (variantPath lockedScratch 0) ["project"]
      (variantPlace lockedScratch 0) where
  wellFormed := by rcases h with rfl | rfl <;> exact .of_entries (by decide +kernel)
  canonical := by rcases h with rfl | rfl <;> exact ok_of_toOption (by decide +kernel)
  isDirectory := by rcases h with rfl | rfl <;> exact contentAt_eq_directory.mp (by decide +kernel)
  literal := literal_variantPath (by decide) 0
  room := by decide +kernel
  ne_nil := by simp [variantPlace]
  above := by rcases h with rfl | rfl <;> exact contentAt_eq_directory.mp (by decide +kernel)
  apart r := by simp [variantPlace, lockedScratch]
  empty := by
    rcases h with rfl | rfl <;>
      exact lookup_eq_none_of_entries (by simp [variantPlace]) (by decide +kernel)

/-- The first copy breaks off after the directory, the second one succeeds. -/
theorem unlocked_project_is_copied_again : ∃ u whole,
    smallProject.prepareWith (.onDisk passing) 0 lockedWorkspace =
      (.error .permissionDenied, lockedAttempt) ∧
    (lockedAttempt.disk.lookup (variantPlace lockedScratch 0 ++ ["lib", "a"])).isSome ∧
    smallProject.prepare 0 { lockedAttempt with disk := unlock lockedAttempt.disk } =
      (.ok (variantPath lockedScratch 0), u) ∧
    smallProject.prepare 0 { lockedWorkspace with disk := unlock lockedWorkspace.disk } =
      (.ok (variantPath lockedScratch 0), whole) ∧
    ∀ r, (u.disk.lookup (variantPlace lockedScratch 0 ++ r)).map Entry.untimed =
      (whole.disk.lookup (variantPlace lockedScratch 0 ++ r)).map Entry.untimed := by
  have hsite := site_lockedWorkspace (.inl rfl)
  have hsite' := site_lockedWorkspace (.inr rfl)
  have hcause : (smallProject.prepareWith (.onDisk passing) 0 lockedWorkspace).1 =
      .error .permissionDenied := by decide +kernel
  have hfailed : smallProject.prepareWith (.onDisk passing) 0 lockedWorkspace =
      (.error .permissionDenied, lockedAttempt) := by rw [lockedAttempt, ← hcause]
  -- the copy that broke off
  obtain ⟨l, hwalk, hcopy⟩ := exists_walk hsite hsite.remains (by decide +kernel)
  obtain ⟨hready, broken, hbroken, hv⟩ := of_prepareWith_error scratch_lockedWorkspace hfailed
  have hbreaks : BreaksOff l lockedWorkspace.disk lockedWorkspace.cwd smallProject.root
      (variantPath lockedScratch 0) ["project"] .permissionDenied lockedAttempt.disk := by
    rw [hv]
    exact .refused (hcopy.symm.trans hbroken)
  have hlocked : lockedWorkspace.disk.lookup ["project", "b"] =
      some (.file (Text.bytesOf "b\n") ⟨0, true, 0, none⟩) := by decide +kernel
  have hmended : Mended lockedWorkspace.disk lockedAttempt.disk ["project"]
      (variantPlace lockedScratch 0) (unlock lockedWorkspace.disk) (unlock lockedAttempt.disk) :=
    mended_setMode (hbreaks.remains hsite hwalk) (by simp [variantPlace, lockedScratch]) hlocked rfl
      fileMode
  -- the copy that would have been made otherwise
  obtain ⟨l₁, hwalk₁, hcopy₁⟩ := exists_walk hsite' hsite'.remains (by decide +kernel)
  have hclean : (smallProject.prepareWith (.onDisk passing) 0
      { lockedWorkspace with disk := unlock lockedWorkspace.disk }).1.toOption =
        some (variantPath lockedScratch 0) := by decide +kernel
  obtain ⟨-, whole, hwhole, hprepared⟩ :=
    (prepareWith_ok_iff (w := { lockedWorkspace with disk := unlock lockedWorkspace.disk })
      scratch_lockedWorkspace hready).mp (eq_of_fst hclean)
  have hretry := fun (l₂ : List Place) (hwalk₂ : IsWalk _ _ l₂) =>
    broken_copy_is_retried_iff scratch_lockedWorkspace hsite hwalk hfailed hbreaks hmended hsite'
      (linksKeepOut_of_entries (by decide +kernel)) hwalk₁ (hcopy₁.symm.trans hwhole) hwalk₂ passing
  -- the second copy, in the order in which the disk lists the project
  obtain ⟨-, -, -, hmodel⟩ := hretry l₁ hwalk₁
  obtain ⟨l₂, hwalk₂, hprepare⟩ := hmodel (by decide +kernel)
  obtain ⟨-, hyields, hsame, -⟩ := hretry l₂ hwalk₂
  have hentries : ∀ entry ∈ lockedAttempt.disk.entries, variantPlace lockedScratch 0 <+: entry.1 →
      entry.2.yields = true := by decide +kernel
  obtain ⟨dir, u, hagain⟩ := hyields.mpr fun r left hleft =>
    hentries _ (mem_entries_of_lookup (hsite.ne_nil_append r) hleft) (List.prefix_append _ r)
  obtain ⟨rfl, -, hsame, -⟩ := hsame dir u hagain
  have hfound : (lockedAttempt.disk.lookup (variantPlace lockedScratch 0 ++ ["lib", "a"])).isSome :=
    by decide +kernel
  rw [prepareWith_onDisk] at hclean hprepared
  refine ⟨u, _, hfailed, hfound, hprepare.trans hagain, eq_of_fst hclean, fun r => ?_⟩
  rw [hprepared]
  exact hsame r

/-- Where a link comes before the file that cannot be read, it is copied, and then it is in the way
of every other attempt, although the project could be copied now if nothing had failed. -/
theorem copied_link_is_in_the_way :
    let w := (workspaceWith [(["project", "link"], .link "b"),
      (["project", "b"], .file (Text.bytesOf "b\n") ⟨0, true, 0, none⟩)]).openScratch
    let v := (smallProject.prepare 0 w).2
    (smallProject.prepare 0 w).1 = .error .permissionDenied ∧
    (smallProject.prepare 0 { v with disk := unlock v.disk }).1 = .error .alreadyExists ∧
    (smallProject.prepare 0 { w with disk := unlock w.disk }).1 =
      .ok "/tmp/tabu-repair-000000/variant-0" := by
  decide +kernel

end Project

end ProgramRepair
