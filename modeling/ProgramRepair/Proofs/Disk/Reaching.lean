import ProgramRepair.Proofs.Disk.Tree
import ProgramRepair.Proofs.Disk.Writing

/-!
# When an access succeeds

A literal path leads to its place if the directories above may be gone through, no name is too long
and nothing is wrong with the text. Whether a directory, a link or a file can be made there depends
on what is there already. Main statements:

* `resolveEntry_inReach`, `resolve_inReach`: a place in reach is found by its path;
* `inReach_of_resolveWith`: a place that is found is in reach;
* `makeDirectories_there`, `makeDirectories_new`: a directory may be there already;
* `inReach_of_makeLink`: a link may not.
-/

namespace ProgramRepair.Disk

variable {d d' : Disk} {p q here cwd : Place} {text : String} {followLast : Bool} {links : Nat}
  {path : List String}

/-- The directories above a place may be gone through, and its names can be steps of a path. -/
structure InReach (d : Disk) (p : Place) : Prop where
  above : ∀ q, q <+: p → q ≠ p → d.Passable q
  step : ∀ s ∈ p, IsStep s

theorem Passable.isDirectory (h : d.Passable p) : d.IsDirectory p := h.imp fun _ ha => ha.1

theorem Passable.not_isLink (h : d.Passable p) : ¬ d.IsLink p := fun hlink =>
  hlink.not_isDirectory h.isDirectory

/-! ## Ways -/

/-- The steps to a directory are followed by those that start there. -/
theorem way_append {rest tail : List String}
    (hpassable : ∀ r, r <+: rest → d.Passable (here ++ r)) (hstep : ∀ s ∈ rest, IsStep s)
    (h : Way d followLast links (here ++ rest) tail p) :
    Way d followLast links here (rest ++ tail) p := by
  induction rest generalizing here with
  | nil => simpa using h
  | cons s rest ih =>
    have hhere : d.Passable here := by simpa using hpassable [] List.nil_prefix
    have hnext : d.Passable (here ++ [s]) :=
      hpassable [s] (List.prefix_append [s] rest)
    obtain ⟨a, ha⟩ := hnext.isDirectory
    refine .down hhere (hstep s List.mem_cons_self) ha hnext.not_isLink
      (ih (fun r hr => ?_) (fun t ht => hstep t (List.mem_cons_of_mem s ht)) ?_)
    · simpa using hpassable (s :: r) (List.cons_prefix_cons.mpr ⟨rfl, hr⟩)
    · simpa using h

/-- The last step may lead to anything, unless it is a link that is followed. -/
theorem way_singleton {s : String} (hhere : d.Passable here) (hs : IsStep s)
    (hlast : followLast = true → ¬ d.IsLink (here ++ [s])) :
    Way d followLast links here [s] (here ++ [s]) := by
  by_cases hlink : d.IsLink (here ++ [s])
  · exact .atLink hhere hs hlink (Bool.eq_false_iff.mpr fun hfollow => hlast hfollow hlink)
  · cases he : d.lookup (here ++ [s]) with
    | none => exact .missing hhere hs he
    | some e => exact .down hhere hs he hlink (.here links _)

theorem InReach.way (h : d.InReach p) (hlast : followLast = true → ¬ d.IsLink p) :
    Way d followLast links [] p p := by
  rcases List.eq_nil_or_concat p with rfl | ⟨up, s, rfl⟩
  · exact .here links []
  · rw [List.concat_eq_append] at h hlast ⊢
    have habove : ∀ r, r <+: up → d.Passable ([] ++ r) := fun r hr => by
      refine h.above r (hr.trans (List.prefix_append up [s])) ?_
      rintro rfl
      have hlength := hr.length_le
      rw [List.length_append, List.length_singleton] at hlength
      omega
    have hup : d.Passable up := by simpa using habove up List.prefix_rfl
    refine way_append habove (fun t ht => h.step t (List.mem_append_left _ ht)) ?_
    exact way_singleton hup (h.step s (by simp)) hlast

/-- A way by names without links on it goes through directories. -/
theorem Way.passable {rest tail : List String}
    (h : Way d followLast links here (rest ++ tail) p) (hname : ∀ s ∈ rest, IsName s)
    (hlinks : ∀ r, r <+: rest → r ≠ rest → ¬ d.IsLink (here ++ r)) :
    (∀ r, r <+: rest → r ≠ rest → d.Passable (here ++ r)) ∧ ∀ s ∈ rest, IsStep s := by
  induction rest generalizing here with
  | nil => exact ⟨fun r hr hne => absurd (List.prefix_nil.mp hr) hne, nofun⟩
  | cons s rest ih =>
    obtain ⟨hs, hrest⟩ := List.forall_mem_cons.mp hname
    -- the first step goes through `here`, and the others start at `here ++ [s]`
    suffices hfirst : d.Passable here ∧ IsStep s ∧
        (rest ≠ [] → Way d followLast links (here ++ [s]) (rest ++ tail) p) by
      obtain ⟨hhere, hstep, hway⟩ := hfirst
      by_cases hnil : rest = []
      · subst hnil
        refine ⟨fun r hr hne => ?_, by simpa using hstep⟩
        rcases List.prefix_cons_iff.mp hr with rfl | ⟨t, rfl, ht⟩
        · simpa using hhere
        · exact absurd (by rw [List.prefix_nil.mp ht]) hne
      · obtain ⟨hpassable, hsteps⟩ := ih (hway hnil) hrest fun r hr hne => by
          simpa using hlinks (s :: r) (List.cons_prefix_cons.mpr ⟨rfl, hr⟩) (by simpa using hne)
        refine ⟨fun r hr hne => ?_, List.forall_mem_cons.mpr ⟨hstep, hsteps⟩⟩
        rcases List.prefix_cons_iff.mp hr with rfl | ⟨t, rfl, ht⟩
        · simpa using hhere
        · simpa using hpassable t ht (by simpa using hne)
    rw [List.cons_append] at h
    generalize hpath : rest ++ tail = path at h ⊢
    cases h with
    | stay hhere hway => exact absurd rfl hs.ne_current
    | up hhere hway => exact absurd rfl hs.ne_parent
    | down hhere hstep he hlink hway => exact ⟨hhere, hstep, fun _ => hway⟩
    | missing hhere hstep hnone =>
      exact ⟨hhere, hstep, fun hne => absurd (List.append_eq_nil_iff.mp hpath).1 hne⟩
    | atLink hhere hstep hlink hfollow =>
      exact ⟨hhere, hstep, fun hne => absurd (List.append_eq_nil_iff.mp hpath).1 hne⟩
    | through hhere hstep htarget hfollow hway =>
      refine ⟨hhere, hstep, fun hne => ?_⟩
      exact absurd ⟨_, htarget⟩
        (hlinks [s] (List.prefix_append [s] rest) (by simpa using Ne.symm hne))

/-! ## Ways in parts -/

/-- A way through few links is one through more. -/
theorem Way.mono (h : Way d followLast links here path p) {more : Nat} (hmore : links ≤ more) :
    Way d followLast more here path p := by
  induction h generalizing more with
  | here links p => exact .here more p
  | stay hhere hrest ih => exact .stay hhere (ih hmore)
  | up hhere hrest ih => exact .up hhere (ih hmore)
  | down hhere hs he hlink hrest ih => exact .down hhere hs he hlink (ih hmore)
  | missing hhere hs hnone => exact .missing hhere hs hnone
  | atLink hhere hs hlink hfollow => exact .atLink hhere hs hlink hfollow
  | through hhere hs htarget hfollow hrest ih =>
    cases more with
    | zero => cases hmore
    | succ more => exact .through hhere hs htarget hfollow (ih (Nat.le_of_succ_le_succ hmore))

/-- A path leads to one place only. -/
theorem Way.unique {links' : Nat} (h : Way d followLast links here path p)
    (h' : Way d followLast links' here path q) : p = q :=
  Except.ok.inj ((h.mono (Nat.le_max_left links links')).walk_ok.symm.trans
    (h'.mono (Nat.le_max_right links links')).walk_ok)

/-- A way goes by the first steps of its path and then by the others. -/
theorem Way.split {first rest : List String} (h : Way d true links here (first ++ rest) p) :
    ∃ mid, Way d true links here first mid ∧ ∃ fewer ≤ links, Way d true fewer mid rest p := by
  generalize hpath : first ++ rest = path at h
  induction h generalizing first with
  | here links p =>
    obtain ⟨rfl, rfl⟩ := List.append_eq_nil_iff.mp hpath
    exact ⟨p, .here links p, links, le_rfl, .here links p⟩
  | @stay links here p tail hhere hrest ih =>
    rcases List.append_eq_cons_iff.mp hpath with ⟨rfl, rfl⟩ | ⟨first, rfl, rfl⟩
    · exact ⟨here, .here links here, links, le_rfl, .stay hhere hrest⟩
    · obtain ⟨mid, hfirst, hlater⟩ := ih rfl
      exact ⟨mid, .stay hhere hfirst, hlater⟩
  | @up links here p tail hhere hrest ih =>
    rcases List.append_eq_cons_iff.mp hpath with ⟨rfl, rfl⟩ | ⟨first, rfl, rfl⟩
    · exact ⟨here, .here links here, links, le_rfl, .up hhere hrest⟩
    · obtain ⟨mid, hfirst, hlater⟩ := ih rfl
      exact ⟨mid, .up hhere hfirst, hlater⟩
  | @down links here p s tail e hhere hs he hlink hrest ih =>
    rcases List.append_eq_cons_iff.mp hpath with ⟨rfl, rfl⟩ | ⟨first, rfl, rfl⟩
    · exact ⟨here, .here links here, links, le_rfl, .down hhere hs he hlink hrest⟩
    · obtain ⟨mid, hfirst, hlater⟩ := ih rfl
      exact ⟨mid, .down hhere hs he hlink hfirst, hlater⟩
  | @missing links here s hhere hs hnone =>
    rcases List.append_eq_cons_iff.mp hpath with ⟨rfl, rfl⟩ | ⟨first, rfl, hnil⟩
    · exact ⟨here, .here links here, links, le_rfl, .missing hhere hs hnone⟩
    · obtain ⟨rfl, rfl⟩ := List.append_eq_nil_iff.mp hnil.symm
      exact ⟨here ++ [s], .missing hhere hs hnone, links, le_rfl, .here links _⟩
  | atLink hhere hs hlink hfollow => cases hfollow
  | @through links here p s target tail hhere hs htarget hfollow hrest ih =>
    rcases List.append_eq_cons_iff.mp hpath with ⟨rfl, rfl⟩ | ⟨first, rfl, rfl⟩
    · exact ⟨here, .here _ here, links + 1, le_rfl, .through hhere hs htarget hfollow hrest⟩
    · -- the steps of the target are among the first ones
      obtain ⟨mid, hfirst, fewer, hfewer, hlater⟩ := ih (List.append_assoc ..)
      exact ⟨mid, .through hhere hs htarget (fun _ => rfl) hfirst, fewer,
        Nat.le_succ_of_le hfewer, hlater⟩

/-! The first step of a way decides how it goes on. -/

section FirstStep

variable {s : String} {rest : List String}

/-- Steps start in a directory. -/
theorem Way.passable_of_cons (h : Way d followLast links here (s :: rest) p) : d.Passable here := by
  cases h with
  | stay hhere | up hhere | down hhere | missing hhere | atLink hhere | through hhere => exact hhere

theorem Way.of_current (h : Way d followLast links here ("." :: rest) p) :
    Way d followLast links here rest p := by
  generalize hstep : "." = s at h
  cases h with
  | stay hhere hrest => exact hrest
  | up => exact absurd hstep (by decide)
  | down hhere hs | missing hhere hs | atLink hhere hs | through hhere hs =>
    exact absurd hstep.symm hs.ne_current

theorem Way.of_parent (h : Way d followLast links here (".." :: rest) p) :
    Way d followLast links here.dropLast rest p := by
  generalize hstep : ".." = s at h
  cases h with
  | stay => exact absurd hstep (by decide)
  | up hhere hrest => exact hrest
  | down hhere hs | missing hhere hs | atLink hhere hs | through hhere hs =>
    exact absurd hstep.symm hs.ne_parent

theorem Way.of_down {e : Entry} (h : Way d followLast links here (s :: rest) p) (hname : IsName s)
    (he : d.lookup (here ++ [s]) = some e) (hlink : ¬ d.IsLink (here ++ [s])) :
    IsStep s ∧ Way d followLast links (here ++ [s]) rest p := by
  cases h with
  | stay => exact absurd rfl hname.ne_current
  | up => exact absurd rfl hname.ne_parent
  | down hhere hs _ _ hrest => exact ⟨hs, hrest⟩
  | missing hhere hs hnone => cases hnone.symm.trans he
  | atLink hhere hs hlink' => exact absurd hlink' hlink
  | through hhere hs htarget => exact absurd ⟨_, htarget⟩ hlink

theorem Way.of_through {target : String} (h : Way d true links here (s :: rest) p)
    (hname : IsName s) (htarget : d.lookup (here ++ [s]) = some (.link target)) :
    IsStep s ∧ ∃ fewer, links = fewer + 1 ∧
      Way d true fewer (startOf here target) (steps target ++ rest) p := by
  cases h with
  | stay => exact absurd rfl hname.ne_current
  | up => exact absurd rfl hname.ne_parent
  | down hhere hs _ hlink => exact absurd ⟨_, htarget⟩ hlink
  | missing hhere hs hnone => cases hnone.symm.trans htarget
  | atLink hhere hs hlink hfollow => cases hfollow
  | through hhere hs htarget' _ hrest =>
    cases htarget.symm.trans htarget'
    exact ⟨hs, _, rfl, hrest⟩

end FirstStep

/-! ## Places in reach -/

theorem inReach_root : d.InReach [] where
  above _ hq hne := absurd (List.prefix_nil.mp hq) hne
  step _ hs := absurd hs List.not_mem_nil

theorem InReach.of_prefix (h : d.InReach p) (hq : q <+: p) : d.InReach q where
  above r hr hne := h.above r (hr.trans hq) fun heq =>
    hne (hr.eq_of_length_le (heq ▸ hq.length_le))
  step s hs := h.step s (hq.subset hs)

theorem InReach.concat {s : String} (h : d.InReach here) (hhere : d.Passable here) (hs : IsStep s) :
    d.InReach (here ++ [s]) where
  above q hq hne := by
    rcases List.prefix_concat_iff.mp hq with heq | hq
    · exact absurd heq hne
    · by_cases heq : q = here
      · exact heq ▸ hhere
      · exact h.above q hq heq
  step t ht := by
    rcases List.mem_append.mp ht with ht | ht
    · exact h.step t ht
    · exact List.mem_singleton.mp ht ▸ hs

/-- A way from a place in reach ends at one, and not at a link if links are followed. -/
theorem Way.inReach (h : Way d true links here path p) (hhere : d.InReach here)
    (hlink : ¬ d.IsLink here) : d.InReach p ∧ ¬ d.IsLink p := by
  induction h with
  | here => exact ⟨hhere, hlink⟩
  | stay hpass hrest ih => exact ih hhere hlink
  | @up links here p rest hpass hrest ih =>
    refine ih (hhere.of_prefix (List.dropLast_prefix here)) ?_
    by_cases hnil : here.dropLast = here
    · rwa [hnil]
    · exact (hhere.above _ (List.dropLast_prefix here) hnil).not_isLink
  | down hpass hs he hlink' hrest ih => exact ih (hhere.concat hpass hs) hlink'
  | missing hpass hs hnone =>
    refine ⟨hhere.concat hpass hs, ?_⟩
    rintro ⟨target, htarget⟩
    cases hnone.symm.trans htarget
  | atLink hpass hs hlink' hfollow => cases hfollow
  | @through links here p s target rest hpass hs htarget hfollow hrest ih =>
    rw [startOf] at ih
    split at ih
    · refine ih inReach_root ?_
      rintro ⟨target, htarget⟩
      cases htarget
    · exact ih hhere hlink

/-- The steps to a place in reach are followed by those that start there. -/
theorem InReach.way_steps {rest : List String} (h : d.InReach p) (hlink : ¬ d.IsLink p)
    (hrest : Way d true links p rest q) : Way d true links [] (p ++ rest) q := by
  cases rest with
  | nil =>
    cases hrest
    rw [List.append_nil]
    exact h.way fun _ => hlink
  | cons s rest =>
    refine way_append (fun r hr => ?_) h.step hrest
    by_cases hne : r = p
    · exact hne ▸ hrest.passable_of_cons
    · exact h.above r hr hne

/-- And a way by the steps to a place in reach goes on from there. -/
theorem InReach.of_way_steps {rest : List String} (h : d.InReach p) (hlink : ¬ d.IsLink p)
    (hway : Way d true links [] (p ++ rest) q) : Way d true links p rest q := by
  obtain ⟨mid, hfirst, fewer, hfewer, hlater⟩ := hway.split
  have hthere : Way d true links [] p p := h.way fun _ => hlink
  obtain rfl := hthere.unique hfirst
  exact hlater.mono hfewer

theorem InReach.agree (h : d.InReach p) (hagree : ∀ q, (d.lookup q).isSome → d'.shape q = d.shape q) :
    d'.InReach p where
  above q hq hne := (h.above q hq hne).agree hagree
  step := h.step

/-! ## Paths -/

theorem textProblem?_eq_none : textProblem? text = none ↔
    '\x00' ∉ text.toList ∧ text ≠ "" ∧ text.utf8ByteSize < pathLengthLimit := by
  unfold textProblem?
  split
  · next h => simp [h]
  · next h =>
    split
    · next hempty => simp [hempty]
    · next hne =>
      split
      · next hlong => simp [Nat.not_lt.mpr hlong]
      · next hshort => simp [h, hne, Nat.not_le.mp hshort]

theorem steps_literal (h : Literal text p) :
    steps text = p ++ if endsAsDirectory text then ["."] else [] := by
  rw [steps, h.segments_eq]

theorem startOf_literal (h : Literal text p) : startOf cwd text = [] := if_pos h.absolute

/-- What a path leads to is found as well when other things are added to the disk. -/
theorem findEntry_of_agree {e : Entry} (h : d.findEntry cwd text = .ok (p, e))
    (hagree : ∀ q, (d.lookup q).isSome → d'.shape q = d.shape q) (hp : d'.lookup p = d.lookup p) :
    d'.findEntry cwd text = .ok (p, e) := by
  obtain ⟨q, hq, hentry⟩ := bind_eq_ok.mp h
  obtain ⟨rfl, he⟩ := entryAt_ok.mp hentry
  obtain ⟨htext, hway⟩ := resolveWith_ok_iff.mp hq
  exact bind_eq_ok.mpr ⟨q, resolveWith_ok_iff.mpr ⟨htext, hway.agree hagree (by simp [he])⟩,
    entryAt_ok.mpr ⟨rfl, hp.trans he⟩⟩

/-- A place in reach is found, also if it is a link itself. -/
theorem resolveEntry_inReach (h : d.InReach p) (hliteral : Literal text p)
    (htext : textProblem? text = none) (hend : endsAsDirectory text = false) :
    d.resolveEntry cwd text = .ok p := by
  refine resolveWith_ok_iff.mpr ⟨htext, ?_⟩
  rw [startOf_literal hliteral, steps_literal hliteral, hend, if_neg Bool.false_ne_true,
    List.append_nil]
  exact h.way nofun

theorem resolve_inReach (h : d.InReach p) (hliteral : Literal text p)
    (htext : textProblem? text = none) (hend : endsAsDirectory text = false)
    (hlink : ¬ d.IsLink p) : d.resolve cwd text = .ok p := by
  refine resolveWith_ok_iff.mpr ⟨htext, ?_⟩
  rw [startOf_literal hliteral, steps_literal hliteral, hend, if_neg Bool.false_ne_true,
    List.append_nil]
  exact h.way fun _ => hlink

/-- The steps of a literal path to a place in reach are followed by those that start there. -/
theorem InReach.way_literal {rest : List String} (h : d.InReach p) (hlink : ¬ d.IsLink p)
    (hliteral : Literal text p) (hend : endsAsDirectory text = true → d.Passable p)
    (hrest : Way d true links p rest q) : Way d true links [] (steps text ++ rest) q := by
  rw [steps_literal hliteral, List.append_assoc]
  refine h.way_steps hlink ?_
  split
  · next hslash => exact .stay (hend hslash) hrest
  · exact hrest

/-- And a way by those steps goes on from there. -/
theorem InReach.of_way_literal {rest : List String} (h : d.InReach p) (hlink : ¬ d.IsLink p)
    (hliteral : Literal text p) (hway : Way d true links [] (steps text ++ rest) q) :
    Way d true links p rest q := by
  rw [steps_literal hliteral, List.append_assoc] at hway
  have hlater := h.of_way_steps hlink hway
  split at hlater
  · exact hlater.of_current
  · exact hlater

/-- A path to a directory may end with a slash. -/
theorem resolve_passable (h : d.InReach p) (hp : d.Passable p) (hliteral : Literal text p)
    (htext : textProblem? text = none) : d.resolve cwd text = .ok p := by
  refine resolveWith_ok_iff.mpr ⟨htext, ?_⟩
  rw [startOf_literal hliteral]
  simpa using h.way_literal hp.not_isLink hliteral (fun _ => hp) (.here maxLinks p)

/-- What is found by a literal path without links on its way is in reach. -/
theorem inReach_of_resolveWith (h : d.resolveWith followLast cwd text = .ok q)
    (hliteral : Literal text p) (hlinks : ∀ q, q <+: p → q ≠ p → ¬ d.IsLink q) :
    textProblem? text = none ∧ d.InReach p := by
  obtain ⟨htext, hway⟩ := resolveWith_ok_iff.mp h
  rw [startOf_literal hliteral, steps_literal hliteral] at hway
  obtain ⟨habove, hstep⟩ := hway.passable hliteral.isName hlinks
  exact ⟨htext, habove, hstep⟩

/-! ## Directories -/

theorem segments_of_all {text : String} (h : text.toList.all (· = '/') = true) :
    segments text = [] := by
  have hcut : ∀ s : List Char, s.all (· = '/') = true →
      (Text.cut '/' s).filter (· ≠ []) = [] := by
    intro s hs
    induction s with
    | nil => rfl
    | cons c s ih =>
      rw [List.all_cons, Bool.and_eq_true] at hs
      obtain rfl := of_decide_eq_true hs.1
      simpa [Text.cut] using ih hs.2
  rw [segments, hcut text.toList h, List.map_nil]

/-- The path that a directory is made by. -/
theorem resolveEntry_directoryName (h : d.InReach p) (hliteral : Literal text p) (hp : p ≠ [])
    (htext : textProblem? text = none) :
    d.resolveEntry cwd (if text.toList.all (· = '/') then text else withoutFinalSlashes text) =
      .ok p := by
  have hall : ¬ text.toList.all (· = '/') = true := fun hall =>
    hp (hliteral.segments_eq.symm.trans (segments_of_all hall))
  have hname := hliteral.withoutFinalSlashes hp
  have hname' : textProblem? (withoutFinalSlashes text) = none := by
    obtain ⟨hnul, -, hsize⟩ := textProblem?_eq_none.mp htext
    obtain ⟨k, hk⟩ := exists_withoutFinalSlashes text
    refine textProblem?_eq_none.mpr ⟨fun hmem => hnul ?_, ?_, ?_⟩
    · rw [hk]
      exact List.mem_append_left _ hmem
    · intro hempty
      have habsolute := hname.absolute
      rw [hempty] at habsolute
      cases habsolute
    · have hsplit : text = withoutFinalSlashes text ++ String.ofList (List.replicate k '/') :=
        String.toList_injective (by rw [String.toList_append, String.toList_ofList, hk])
      rw [hsplit, String.utf8ByteSize_append] at hsize
      omega
  rw [if_neg hall]
  exact resolveEntry_inReach h hname hname' (endsAsDirectory_withoutFinalSlashes text)

theorem makeDirectory_new (h : d.InReach p) (hliteral : Literal text p) (hp : p ≠ [])
    (htext : textProblem? text = none) (hnone : d.lookup p = none)
    (hnames : d.mayChangeNames p = true) :
    d.makeDirectory cwd text = .ok (d.put p (.directory (d.newAttributes directoryMode))) := by
  rw [makeDirectory, makeDirectoryWith, resolveEntry_directoryName h hliteral hp htext]
  simp only [bind, Except.bind, hnone, demandNames, hnames, if_true]
  rfl

theorem makeDirectory_there (h : d.InReach p) (hliteral : Literal text p) (hp : p ≠ [])
    (htext : textProblem? text = none) (hsome : (d.lookup p).isSome) :
    d.makeDirectory cwd text = .error .alreadyExists := by
  obtain ⟨e, he⟩ := Option.isSome_iff_exists.mp hsome
  rw [makeDirectory, makeDirectoryWith, resolveEntry_directoryName h hliteral hp htext]
  simp only [bind, Except.bind, he]
  rfl

theorem ne_empty_of_literal (h : Literal text p) : text ≠ "" := by
  rintro rfl
  cases h.absolute

/-- A directory is made where nothing is. -/
theorem makeDirectories_new (cwd : Place) (h : d.InReach p) (hliteral : Literal text p)
    (hp : p ≠ []) (htext : textProblem? text = none) (hnone : d.lookup p = none)
    (hnames : d.mayChangeNames p = true) :
    d.makeDirectories cwd text = .ok (d.put p (.directory (d.newAttributes directoryMode))) := by
  rw [makeDirectories, makeDirectoriesWithin, if_neg (ne_empty_of_literal hliteral),
    makeDirectory_new h hliteral hp htext hnone hnames]

/-- A directory that is there already is as good. -/
theorem makeDirectories_there (cwd : Place) (h : d.InReach p) (hliteral : Literal text p)
    (hp : p ≠ []) (htext : textProblem? text = none) (hthere : d.Passable p) :
    d.makeDirectories cwd text = .ok d := by
  obtain ⟨a, ha, hexecute⟩ := hthere
  have hdirectory : d.isDirectoryAt cwd text = true := by
    rw [isDirectoryAt, find, resolve_passable h ⟨a, ha, hexecute⟩ hliteral htext]
    simp only [bind, Except.bind, entryAt, ha]
    rfl
  rw [makeDirectories, makeDirectoriesWithin, if_neg (ne_empty_of_literal hliteral),
    makeDirectory_there h hliteral hp htext (by simp [ha])]
  simp only [hdirectory, if_true]

theorem PlacesNodup.makeDirectory (h : d.PlacesNodup)
    (hmake : d.makeDirectory cwd text = .ok d') : d'.PlacesNodup := by
  obtain ⟨q, -, hmake⟩ := bind_eq_ok.mp hmake
  split at hmake
  · obtain ⟨_, -, hmake⟩ := bind_eq_ok.mp hmake
    obtain rfl := Except.ok.inj hmake
    exact h.put _ _
  · cases hmake

/-- To make directories is to put entries, whatever the path, so no place is listed twice then. -/
theorem PlacesNodup.makeDirectoriesWithin {depth : Nat} (h : d.PlacesNodup)
    (hmake : d.makeDirectoriesWithin cwd depth text = .ok d') : d'.PlacesNodup := by
  induction depth generalizing d d' text with
  | zero => cases hmake
  | succ depth ih =>
    rw [Disk.makeDirectoriesWithin] at hmake
    split at hmake
    · exact Except.ok.inj hmake ▸ h
    · split at hmake
      · next d₁ hd₁ => exact Except.ok.inj hmake ▸ h.makeDirectory hd₁
      · -- the directory that it is in is made first
        split at hmake
        · cases hmake
        · obtain ⟨d₁, hup, hmake⟩ := bind_eq_ok.mp hmake
          have hd₁ := ih h hup
          split at hmake
          · next d₂ hd₂ => exact Except.ok.inj hmake ▸ hd₁.makeDirectory hd₂
          · split at hmake
            · exact Except.ok.inj hmake ▸ hd₁
            · cases hmake
      · split at hmake
        · exact Except.ok.inj hmake ▸ h
        · cases hmake

theorem PlacesNodup.makeDirectories (h : d.PlacesNodup)
    (hmake : d.makeDirectories cwd text = .ok d') : d'.PlacesNodup :=
  h.makeDirectoriesWithin hmake

theorem withoutFinalSlashes_eq (h : endsAsDirectory text = false) :
    withoutFinalSlashes text = text := by
  obtain ⟨k, hk⟩ := exists_withoutFinalSlashes text
  cases k with
  | zero =>
    rw [List.replicate_zero, List.append_nil] at hk
    exact String.toList_injective hk.symm
  | succ k =>
    rw [endsAsDirectory, hk, List.replicate_succ', ← List.append_assoc, List.getLast?_concat] at h
    cases h

/-- What is made by a change of names has a directory in which they may be changed. -/
theorem mayChangeNames_of_demandNames {u : Unit} (h : d.demandNames p = .ok u) :
    d.mayChangeNames p = true := by
  rw [demandNames] at h
  split at h
  · next hnames => exact hnames
  · cases h

/-- A directory that was made is in reach. -/
theorem inReach_of_makeDirectory (h : d.makeDirectory cwd text = .ok d') (hliteral : Literal text p)
    (hp : p ≠ []) (hlinks : ∀ q, q <+: p → q ≠ p → ¬ d.IsLink q) :
    textProblem? (withoutFinalSlashes text) = none ∧ d.InReach p ∧ d.lookup p = none ∧
      d.mayChangeNames p = true := by
  have hall : ¬ text.toList.all (· = '/') = true := fun hall =>
    hp (hliteral.segments_eq.symm.trans (segments_of_all hall))
  have hname := hliteral.withoutFinalSlashes hp
  obtain ⟨q, hq, h⟩ := bind_eq_ok.mp h
  rw [if_neg hall] at hq
  obtain ⟨htext, hreach⟩ := inReach_of_resolveWith hq hname hlinks
  obtain rfl := resolveEntry_literal hq hname (endsAsDirectory_withoutFinalSlashes text) hlinks
  split at h
  · next hnone =>
    obtain ⟨⟨⟩, hdemand, -⟩ := bind_eq_ok.mp h
    exact ⟨htext, hreach, hnone, mayChangeNames_of_demandNames hdemand⟩
  · cases h

/-- Where all directories of a path are there, making them changes nothing. -/
theorem eq_of_makeDirectoriesWithin {depth : Nat}
    (h : d.makeDirectoriesWithin cwd depth text = .ok d') (hliteral : Literal text p)
    (hthere : ∀ q, q <+: p → d.IsDirectory q) : d' = d := by
  refine (makeDirectoriesWithin_keeps (P := fun d₁ => d₁ = d) (fun d₁ hd₁ q hq hlink => ?_)
    (fun d₁ d₂ q hd₁ hq hnone _ => ?_) hliteral rfl h).1
  · exact hlink.not_isDirectory (hd₁ ▸ hthere q hq)
  · obtain ⟨a, ha⟩ := hthere q hq
    rw [hd₁, ha] at hnone
    cases hnone

/-- If only the last directory of a path is missing, no other one is made. -/
theorem makeDirectory_of_makeDirectories (h : d.makeDirectories cwd text = .ok d')
    (hliteral : Literal text p) (habove : ∀ q, q <+: p → q ≠ p → d.IsDirectory q)
    (hnone : d.lookup p = none) : d.makeDirectory cwd text = .ok d' := by
  have hlinks : ∀ q, q <+: p → ¬ d.IsLink q := by
    rintro q hq ⟨target, htarget⟩
    by_cases hne : q = p
    · rw [hne, hnone] at htarget
      cases htarget
    · exact IsLink.not_isDirectory ⟨target, htarget⟩ (habove q hq hne)
  have hmissing : ¬ d.isDirectoryAt cwd text = true := by
    intro hthere
    obtain ⟨a, ha⟩ := isDirectory_of_isDirectoryAt hthere hliteral.straight hlinks
    cases hnone.symm.trans ha
  have hup : ∀ q, q <+: p.dropLast → d.IsDirectory q := by
    intro q hq
    refine habove q (hq.trans (List.dropLast_prefix p)) ?_
    rintro rfl
    have hlength := hq.length_le
    have hpos := List.length_pos_iff.mpr (ne_nil_of_lookup_eq_none hnone)
    rw [List.length_dropLast] at hlength
    omega
  rw [makeDirectories, makeDirectoriesWithin, if_neg (ne_empty_of_literal hliteral)] at h
  split at h
  · next d₁ hmake => exact hmake.trans (congrArg Except.ok (Except.ok.inj h))
  · next hmake =>
    split at h
    · cases h
    · next up hparent =>
      -- all that is above is there, so the second try fails like the first one
      obtain ⟨d₁, hd₁, hrest⟩ := bind_eq_ok.mp h
      obtain rfl :=
        eq_of_makeDirectoriesWithin hd₁ (hliteral.straight.literal_parent hparent) hup
      rw [hmake] at hrest
      dsimp only at hrest
      rw [if_neg hmissing] at hrest
      cases hrest
  · rw [if_neg hmissing] at h
    cases h

/-! ## Links -/

theorem makeLink_new (cwd : Place) (target : String) (h : d.InReach p)
    (hliteral : Literal text p) (htext : textProblem? text = none)
    (hend : endsAsDirectory text = false)
    (hnone : d.lookup p = none) (hnames : d.mayChangeNames p = true) :
    d.makeLink cwd target text = .ok (d.put p (.link target)) := by
  rw [makeLink, resolveEntry_inReach h hliteral htext hend]
  simp only [bind, Except.bind, hnone, demandNames, hnames, if_true]
  rfl

/-- Nothing may be where a link is made. -/
theorem inReach_of_makeLink {target : String} (h : d.makeLink cwd target text = .ok d')
    (hliteral : Literal text p) (hend : endsAsDirectory text = false)
    (hlinks : ∀ q, q <+: p → q ≠ p → ¬ d.IsLink q) :
    textProblem? text = none ∧ d.InReach p ∧ d.lookup p = none := by
  obtain ⟨q, hq, hnone, -⟩ := makeLink_ok h
  obtain ⟨htext, hreach⟩ := inReach_of_resolveWith hq hliteral hlinks
  obtain rfl := resolveEntry_literal hq hliteral hend hlinks
  exact ⟨htext, hreach, hnone⟩

/-! ## Files -/

theorem placeForWriting_eq (hend : endsAsDirectory text = false) :
    d.placeForWriting cwd text = d.resolve cwd text := by
  rw [placeForWriting, if_neg (by simp [hend])]

theorem writeAt_new (mode : Nat) (contents : Bytes) (hnone : d.lookup p = none)
    (hnames : d.mayChangeNames p = true) :
    d.writeAt p mode contents = .ok (d.put p (.file contents (d.newAttributes mode))) := by
  rw [writeAt, hnone]
  simp only [bind, Except.bind, demandNames, hnames, if_true]
  rfl

/-- A file without other names is written if it may be. -/
theorem writeAt_there (mode : Nat) (contents : Bytes) {old : Bytes} {a : Attributes}
    (hfile : d.lookup p = some (.file old a)) (hnumber : a.number = none) :
    d.writeAt p mode contents =
      if a.allows .write then .ok (d.put p (.file contents { a with changed := d.stamp }))
      else .error .permissionDenied := by
  rw [writeAt, hfile]
  dsimp only
  rw [setFile]
  dsimp only
  rw [hnumber]
  rfl

theorem isPut_put_of_ne_nil (hp : p ≠ []) (e : Entry) : d.IsPut p e (d.put p e) := fun q =>
  lookup_put d hp q e

/-- A file that was written at a place gets other rights there. -/
theorem isPut_setMode_put {contents : Bytes} {a : Attributes} (hp : p ≠ [])
    (hnumber : a.number = none) (mode : Nat) :
    d.IsPut p (.file contents { a with mode }) ((d.put p (.file contents a)).setMode p mode) := by
  have hput := isPut_put_of_ne_nil (d := d) hp (.file contents a)
  intro q
  rw [setMode, setAttributes, hput.self]
  dsimp only
  rw [setFile]
  dsimp only
  rw [hnumber]
  dsimp only
  rw [lookup_put _ hp]
  split
  · rfl
  · next hq => rw [hput.other hq]

end ProgramRepair.Disk
