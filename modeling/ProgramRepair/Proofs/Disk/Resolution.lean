import ProgramRepair.Proofs.Disk.Path

/-!
# Where paths lead

A `Way` is how a path leads from one place to another. Main statements:

* `walk_ok_iff`: a path leads somewhere exactly if there is a way;
* `Way.straight`: without links and without `..` a way goes through the names of
  the path;
* `Way.agree`: a way to something that is there is still one after other things
  were added to the disk.
-/

namespace ProgramRepair

/-- An entry without the number that its names have in common. -/
def Entry.unnumbered : Entry → Entry
  | .file contents a => .file contents { a with number := none }
  | .pipe a => .pipe { a with number := none }
  | e => e

theorem Entry.unnumbered_eq_directory {e : Entry} {a : Attributes} :
    e.unnumbered = .directory a ↔ e = .directory a := by
  cases e <;> simp [unnumbered]

theorem Entry.unnumbered_eq_link {e : Entry} {target : String} :
    e.unnumbered = .link target ↔ e = .link target := by
  cases e <;> simp [unnumbered]

namespace Disk

/-- A computation in two parts succeeds if both parts do. -/
theorem bind_eq_ok {α β ε : Type} {x : Except ε α} {f : α → Except ε β} {b : β} :
    (x >>= f) = .ok b ↔ ∃ a, x = .ok a ∧ f a = .ok b := by
  cases x with
  | error e => simp [bind, Except.bind]
  | ok a => simp [bind, Except.bind]

theorem ok_of_toOption {α ε : Type} {x : Except ε α} {a : α} (h : x.toOption = some a) :
    x = .ok a := by
  cases x with
  | error e => cases h
  | ok b => rw [Option.some.inj h]

/-- What is at a place, but for the number. -/
def shape (d : Disk) (p : Place) : Option Entry := (d.lookup p).map Entry.unnumbered

def IsDirectory (d : Disk) (p : Place) : Prop := ∃ a, d.lookup p = some (.directory a)

def IsLink (d : Disk) (p : Place) : Prop := ∃ target, d.lookup p = some (.link target)

theorem shape_eq_directory {d : Disk} {p : Place} {a : Attributes} :
    d.shape p = some (.directory a) ↔ d.lookup p = some (.directory a) := by
  simp [shape, Entry.unnumbered_eq_directory]

theorem shape_eq_link {d : Disk} {p : Place} {target : String} :
    d.shape p = some (.link target) ↔ d.lookup p = some (.link target) := by
  simp [shape, Entry.unnumbered_eq_link]

theorem isSome_lookup_of_shape_eq {d d' : Disk} {p : Place} (h : d'.shape p = d.shape p) :
    (d'.lookup p).isSome = (d.lookup p).isSome := by
  simpa [shape] using congrArg Option.isSome h

theorem isDirectory_of_shape_eq {d d' : Disk} {p : Place} (h : d'.shape p = d.shape p) :
    d'.IsDirectory p ↔ d.IsDirectory p := by
  simp only [IsDirectory, ← shape_eq_directory, h]

theorem isLink_of_shape_eq {d d' : Disk} {p : Place} (h : d'.shape p = d.shape p) :
    d'.IsLink p ↔ d.IsLink p := by
  simp only [IsLink, ← shape_eq_link, h]

theorem IsLink.not_isDirectory {d : Disk} {p : Place} (h : d.IsLink p) : ¬ d.IsDirectory p := by
  rintro ⟨a, ha⟩
  obtain ⟨target, htarget⟩ := h
  cases htarget.symm.trans ha

theorem isDirectory_root (d : Disk) : d.IsDirectory [] := ⟨systemAttributes, rfl⟩

/-! ## Ways -/

/-- A directory that names may be looked up in. -/
def Passable (d : Disk) (p : Place) : Prop :=
  ∃ a, d.lookup p = some (.directory a) ∧ a.allows .execute = true

/-- A step that is a name for an entry in a directory. -/
structure IsStep (s : String) : Prop where
  ne_current : s ≠ "."
  ne_parent : s ≠ ".."
  size : s.utf8ByteSize ≤ maxNameLength

/-- The steps of a path lead from one place to another through at most `links` links. -/
inductive Way (d : Disk) (followLast : Bool) : (links : Nat) → Place → List String → Place → Prop
  | here (links : Nat) (p : Place) : Way d followLast links p [] p
  | stay {links : Nat} {here p : Place} {rest : List String} (hhere : d.Passable here)
      (hrest : Way d followLast links here rest p) : Way d followLast links here ("." :: rest) p
  | up {links : Nat} {here p : Place} {rest : List String} (hhere : d.Passable here)
      (hrest : Way d followLast links here.dropLast rest p) :
      Way d followLast links here (".." :: rest) p
  | down {links : Nat} {here p : Place} {s : String} {rest : List String} {e : Entry}
      (hhere : d.Passable here) (hs : IsStep s) (he : d.lookup (here ++ [s]) = some e)
      (hlink : ¬ d.IsLink (here ++ [s])) (hrest : Way d followLast links (here ++ [s]) rest p) :
      Way d followLast links here (s :: rest) p
  /-- The last step may lead to where nothing is. -/
  | missing {links : Nat} {here : Place} {s : String} (hhere : d.Passable here) (hs : IsStep s)
      (hnone : d.lookup (here ++ [s]) = none) : Way d followLast links here [s] (here ++ [s])
  /-- The last step is a link itself. -/
  | atLink {links : Nat} {here : Place} {s : String} (hhere : d.Passable here) (hs : IsStep s)
      (hlink : d.IsLink (here ++ [s])) (hfollow : followLast = false) :
      Way d followLast links here [s] (here ++ [s])
  | through {links : Nat} {here p : Place} {s target : String} {rest : List String}
      (hhere : d.Passable here) (hs : IsStep s)
      (htarget : d.lookup (here ++ [s]) = some (.link target))
      (hfollow : rest = [] → followLast = true)
      (hrest : Way d followLast links (startOf here target) (steps target ++ rest) p) :
      Way d followLast (links + 1) here (s :: rest) p

variable {d : Disk} {followLast : Bool} {links : Nat} {here p : Place} {path : List String}

/-- A path that leads somewhere goes some way. -/
theorem way_of_walkWith {follow : Place → List String → Except Error Place}
    (hfollow : ∀ here' path' p', follow here' path' = .ok p' →
      ∃ fewer, links = fewer + 1 ∧ Way d followLast fewer here' path' p')
    (h : d.walkWith followLast follow here path = .ok p) : Way d followLast links here path p := by
  induction path generalizing here with
  | nil =>
    obtain rfl := Except.ok.inj h
    exact .here links here
  | cons s rest ih =>
    rw [walkWith] at h
    split at h
    · cases h
    · next a hhere =>
      have hexecute : a.allows .execute = true := by
        cases hallows : a.allows .execute with
        | true => rfl
        | false =>
          rw [hallows] at h
          cases h
      rw [if_neg (by simp [hexecute])] at h
      have hpassable : d.Passable here := ⟨a, hhere, hexecute⟩
      by_cases hcurrent : s = "."
      · subst hcurrent
        exact .stay hpassable (ih h)
      rw [if_neg hcurrent] at h
      by_cases hparent : s = ".."
      · subst hparent
        exact .up hpassable (ih h)
      rw [if_neg hparent] at h
      have hsize : s.utf8ByteSize ≤ maxNameLength := by
        refine Nat.le_of_not_lt fun hlong => ?_
        rw [if_pos hlong] at h
        cases h
      rw [if_neg (Nat.not_lt.mpr hsize)] at h
      have hs : IsStep s := ⟨hcurrent, hparent, hsize⟩
      -- what is done with a name depends on what it stands for
      split at h
      · next target htarget =>
        by_cases hlast : rest = [] ∧ !followLast
        · rw [if_pos hlast] at h
          obtain ⟨rfl, hfollowLast⟩ := hlast
          obtain rfl := Except.ok.inj h
          exact .atLink hpassable hs ⟨target, htarget⟩ (by simpa using hfollowLast)
        · rw [if_neg hlast] at h
          obtain ⟨fewer, rfl, hway⟩ := hfollow _ _ _ h
          refine .through hpassable hs htarget (fun hrest => ?_) hway
          simpa [hrest] using hlast
      · next e hlink he =>
        refine .down hpassable hs he ?_ (ih h)
        rintro ⟨target, htarget⟩
        exact hlink target (Option.some.inj (he.symm.trans htarget))
      · next hnone =>
        have hlast : rest = [] := by
          refine Decidable.byContradiction fun hmore => ?_
          rw [if_neg hmore] at h
          cases h
        subst hlast
        rw [if_pos rfl] at h
        obtain rfl := Except.ok.inj h
        exact .missing hpassable hs hnone
    · cases h

theorem way_of_walk (h : d.walk followLast links here path = .ok p) :
    Way d followLast links here path p := by
  induction links generalizing here path p with
  | zero => exact way_of_walkWith (fun _ _ _ hfollow => by cases hfollow) h
  | succ links ih => exact way_of_walkWith (fun _ _ _ hfollow => ⟨links, rfl, ih hfollow⟩) h

theorem Way.walk_ok (h : Way d followLast links here path p) :
    d.walk followLast links here path = .ok p := by
  -- the walk looks at the links that are left before it looks at the path
  induction h with
  | here links p => cases links <;> rfl
  | @stay links here p rest hhere hrest ih =>
    obtain ⟨a, ha, hexecute⟩ := hhere
    cases links <;> simpa [walk, walkWith, ha, hexecute] using ih
  | @up links here p rest hhere hrest ih =>
    obtain ⟨a, ha, hexecute⟩ := hhere
    cases links <;> simpa [walk, walkWith, ha, hexecute] using ih
  | @down links here p s rest e hhere hs he hlink hrest ih =>
    obtain ⟨a, ha, hexecute⟩ := hhere
    have hsize : ¬ maxNameLength < s.utf8ByteSize := Nat.not_lt.mpr hs.size
    cases e with
    | link target => exact absurd ⟨target, he⟩ hlink
    | _ =>
      cases links <;> simpa [walk, walkWith, ha, hexecute, hs.ne_current, hs.ne_parent, hsize, he]
        using ih
  | @missing links here s hhere hs hnone =>
    obtain ⟨a, ha, hexecute⟩ := hhere
    have hsize : ¬ maxNameLength < s.utf8ByteSize := Nat.not_lt.mpr hs.size
    cases links <;> simp [walk, walkWith, ha, hexecute, hs.ne_current, hs.ne_parent, hsize, hnone]
  | @atLink links here s hhere hs hlink hfollow =>
    obtain ⟨a, ha, hexecute⟩ := hhere
    obtain ⟨target, htarget⟩ := hlink
    have hsize : ¬ maxNameLength < s.utf8ByteSize := Nat.not_lt.mpr hs.size
    cases links <;>
      simp [walk, walkWith, ha, hexecute, hs.ne_current, hs.ne_parent, hsize, htarget, hfollow]
  | @through links here p s target rest hhere hs htarget hfollow hrest ih =>
    obtain ⟨a, ha, hexecute⟩ := hhere
    have hsize : ¬ maxNameLength < s.utf8ByteSize := Nat.not_lt.mpr hs.size
    have hlast : ¬ (rest = [] ∧ followLast = false) := by
      rintro ⟨hrest, hfalse⟩
      cases (hfollow hrest).symm.trans hfalse
    simpa [walk, walkWith, ha, hexecute, hs.ne_current, hs.ne_parent, hsize, htarget, hlast]
      using ih

/-- A path leads somewhere exactly if there is a way. -/
theorem walk_ok_iff :
    d.walk followLast links here path = .ok p ↔ Way d followLast links here path p :=
  ⟨way_of_walk, Way.walk_ok⟩

/-! ## Ways without detours -/

/-- A way that goes neither up nor through links goes through the names of its path. The last step
may be a link if it is not followed. -/
theorem Way.straight (h : Way d followLast links here path p) (hparent : ".." ∉ path)
    (hlinks : ∀ before s rest, path = before ++ s :: rest → s ≠ "." →
      (rest = [] → followLast = true) → ¬ d.IsLink (here ++ before.filter (· ≠ ".") ++ [s])) :
    p = here ++ path.filter (· ≠ ".") := by
  induction h with
  | here links p => simp
  | @stay links here p rest hhere hrest ih =>
    have hp := ih (fun hmem => hparent (List.mem_cons_of_mem _ hmem))
      fun before s after hsplit => by
        subst hsplit
        exact hlinks ("." :: before) s after rfl
    simpa using hp
  | up => exact absurd List.mem_cons_self hparent
  | @down links here p s rest e hhere hs he hlink hrest ih =>
    have hp := ih (fun hmem => hparent (List.mem_cons_of_mem _ hmem))
      fun before t after hsplit => by
        subst hsplit
        simpa [hs.ne_current] using hlinks (s :: before) t after rfl
    simpa [hs.ne_current] using hp
  | missing hhere hs => simp [hs.ne_current]
  | atLink hhere hs => simp [hs.ne_current]
  | @through links here p s target rest hhere hs htarget hfollow =>
    have hlink := hlinks [] s rest rfl hs.ne_current hfollow
    -- there are no links that are followed
    exact absurd ⟨target, by simpa using htarget⟩ hlink

/-- A way to a place that is no link is also one if links are followed at its end. -/
theorem Way.following (h : Way d false links here path p) (hp : ¬ d.IsLink p) :
    Way d true links here path p := by
  induction h with
  | here links p => exact .here links p
  | stay hhere hrest ih => exact .stay hhere (ih hp)
  | up hhere hrest ih => exact .up hhere (ih hp)
  | down hhere hs he hlink hrest ih => exact .down hhere hs he hlink (ih hp)
  | missing hhere hs hnone => exact .missing hhere hs hnone
  | atLink hhere hs hlink => exact absurd hlink hp
  | through hhere hs htarget hfollow hrest ih =>
    exact .through hhere hs htarget (fun _ => rfl) (ih hp)

/-- The last step of a path is its first or the last of the others. -/
theorem getLast?_cons_cases {s t : String} {rest : List String}
    (h : (s :: rest).getLast? = some t) : rest = [] ∧ s = t ∨ rest.getLast? = some t := by
  cases rest with
  | nil => exact .inl ⟨rfl, Option.some.inj h⟩
  | cons next rest => exact .inr (by rwa [List.getLast?_cons_cons] at h)

/-- A path that stays where it is in the end leads to a directory. -/
theorem Way.isDirectory (h : Way d followLast links here path p)
    (hlast : path.getLast? = some ".") : d.IsDirectory p := by
  induction h with
  | here => cases hlast
  | stay hhere hrest ih =>
    rcases getLast?_cons_cases hlast with ⟨rfl, -⟩ | hlater
    · cases hrest
      exact hhere.imp fun a ha => ha.1
    · exact ih hlater
  | up hhere hrest ih =>
    rcases getLast?_cons_cases hlast with ⟨-, hparent⟩ | hlater
    · exact absurd hparent (by decide)
    · exact ih hlater
  | down hhere hs he hlink hrest ih =>
    rcases getLast?_cons_cases hlast with ⟨-, hcurrent⟩ | hlater
    · exact absurd hcurrent hs.ne_current
    · exact ih hlater
  | missing hhere hs | atLink hhere hs => exact absurd (Option.some.inj hlast) hs.ne_current
  | through hhere hs htarget hfollow hrest ih =>
    rcases getLast?_cons_cases hlast with ⟨-, hcurrent⟩ | hlater
    · exact absurd hcurrent hs.ne_current
    · -- the steps of the target come before those that are left
      refine ih ?_
      rw [List.getLast?_append, hlater]
      rfl

/-! ## Ways on a larger disk -/

/-- The rights of a directory are part of its shape. -/
theorem Passable.agree {d' : Disk} (h : d.Passable p)
    (hagree : ∀ q, (d.lookup q).isSome → d'.shape q = d.shape q) : d'.Passable p := by
  obtain ⟨a, ha, hexecute⟩ := h
  refine ⟨a, shape_eq_directory.mp ?_, hexecute⟩
  rw [hagree p (by simp [ha])]
  exact shape_eq_directory.mpr ha

/-- A way to something that is there is still one after other things were added. -/
theorem Way.agree (h : Way d followLast links here path p) {d' : Disk}
    (hagree : ∀ q, (d.lookup q).isSome → d'.shape q = d.shape q) (hp : (d.lookup p).isSome) :
    Way d' followLast links here path p := by
  have hpassable : ∀ q, d.Passable q → d'.Passable q := fun q hq => hq.agree hagree
  induction h with
  | here links p => exact .here links p
  | stay hhere hrest ih => exact .stay (hpassable _ hhere) (ih hp)
  | up hhere hrest ih => exact .up (hpassable _ hhere) (ih hp)
  | @down links here p s rest e hhere hs he hlink hrest ih =>
    have hshape := hagree (here ++ [s]) (by simp [he])
    obtain ⟨e', he'⟩ : ∃ e', d'.lookup (here ++ [s]) = some e' := by
      rw [← Option.isSome_iff_exists, isSome_lookup_of_shape_eq hshape, he]
      rfl
    exact .down (hpassable _ hhere) hs he' (by rwa [isLink_of_shape_eq hshape]) (ih hp)
  | missing hhere hs hnone =>
    rw [hnone] at hp
    cases hp
  | @atLink links here s hhere hs hlink hfollow =>
    have hshape := hagree (here ++ [s]) hp
    exact .atLink (hpassable _ hhere) hs (by rwa [isLink_of_shape_eq hshape]) hfollow
  | @through links here p s target rest hhere hs htarget hfollow hrest ih =>
    have hshape := hagree (here ++ [s]) (by simp [htarget])
    refine .through (hpassable _ hhere) hs (shape_eq_link.mp ?_) hfollow (ih hp)
    rw [hshape]
    exact shape_eq_link.mpr htarget

/-! ## Paths -/

variable {cwd : Place} {text : String}

/-- A path leads to a place if there is nothing wrong with its text and there is a way. -/
theorem resolveWith_ok_iff : d.resolveWith followLast cwd text = .ok p ↔
    textProblem? text = none ∧ Way d followLast maxLinks (startOf cwd text) (steps text) p := by
  unfold resolveWith
  split
  · next e he => simp [he]
  · next hnone => simp [hnone, walk_ok_iff]

theorem resolveWith_ok (h : d.resolveWith followLast cwd text = .ok p) :
    Way d followLast maxLinks (startOf cwd text) (steps text) p :=
  (resolveWith_ok_iff.mp h).2

/-- A straight path leads to its place if there are no links on its way. -/
theorem resolve_straight {q : Place} (h : d.resolve cwd text = .ok q) (hstraight : Straight text p)
    (hlinks : ∀ q, q <+: p → ¬ d.IsLink q) : q = p := by
  have hway := resolveWith_ok h
  have hsteps : (steps text).filter (· ≠ ".") = p := by
    rw [steps, List.filter_append, ← hstraight.names_eq]
    split <;> simp [names]
  have hstart : startOf cwd text = [] := if_pos hstraight.absolute
  rw [hstart] at hway
  refine hsteps ▸ hway.straight ?_ ?_
  · have hparent := hstraight.noParent
    rw [steps]
    split <;> simp [hparent]
  · intro before s rest hsplit hs _
    refine hlinks _ ?_
    rw [← hsteps, hsplit, List.filter_append, List.filter_cons_of_pos (by simpa using hs)]
    exact ⟨rest.filter (· ≠ "."), by simp⟩

/-- A literal path leads to its place, which may be a link, if there are no links on its way. -/
theorem resolveEntry_literal {q : Place} (h : d.resolveEntry cwd text = .ok q)
    (hliteral : Literal text p) (hend : endsAsDirectory text = false)
    (hlinks : ∀ q, q <+: p → q ≠ p → ¬ d.IsLink q) : q = p := by
  have hway := resolveWith_ok h
  have hsteps : steps text = p := by rw [steps, hend, hliteral.segments_eq]; simp
  have hstart : startOf cwd text = [] := if_pos hliteral.absolute
  rw [hstart, hsteps] at hway
  have hfilter := filter_current_of_isName hliteral.isName
  refine (hway.straight ?_ ?_).trans hfilter
  · exact fun hmem => (hliteral.isName _ hmem).ne_parent rfl
  · intro before s rest hsplit hs hfollow
    have hbefore : before.filter (· ≠ ".") = before :=
      filter_current_of_isName fun t ht => hliteral.isName t (hsplit ▸ List.mem_append_left _ ht)
    rw [List.nil_append, hbefore]
    refine hlinks _ ⟨rest, by simp [hsplit]⟩ fun heq => ?_
    have hrest : rest = [] := by simpa [hsplit] using heq
    cases hfollow hrest

/-- A path that ends with a slash leads to a directory. -/
theorem isDirectory_of_endsAsDirectory (h : d.resolveWith followLast cwd text = .ok p)
    (hend : endsAsDirectory text = true) : d.IsDirectory p := by
  refine (resolveWith_ok h).isDirectory ?_
  rw [steps, hend]
  simp

theorem entryAt_ok {e : Entry} {q : Place} :
    d.entryAt q = .ok (p, e) ↔ q = p ∧ d.lookup p = some e := by
  unfold entryAt
  cases hlookup : d.lookup q with
  | none =>
    constructor
    · intro h
      cases h
    · rintro ⟨rfl, he⟩
      cases hlookup.symm.trans he
  | some e' =>
    rw [Except.ok.injEq, Prod.mk.injEq]
    constructor
    · rintro ⟨rfl, rfl⟩
      exact ⟨rfl, hlookup⟩
    · rintro ⟨rfl, he⟩
      exact ⟨rfl, Option.some.inj (hlookup.symm.trans he)⟩

theorem canonical_ok : d.canonical cwd text = .ok p ↔
    d.resolve cwd text = .ok p ∧ (d.lookup p).isSome := by
  constructor
  · intro h
    obtain ⟨⟨q, e⟩, hfind, hq⟩ := bind_eq_ok.mp h
    obtain rfl := Except.ok.inj hq
    obtain ⟨r, hr, hentry⟩ := bind_eq_ok.mp hfind
    obtain ⟨rfl, he⟩ := entryAt_ok.mp hentry
    exact ⟨hr, by rw [he]; rfl⟩
  · rintro ⟨hp, hsome⟩
    obtain ⟨e, he⟩ := Option.isSome_iff_exists.mp hsome
    exact bind_eq_ok.mpr ⟨(p, e), bind_eq_ok.mpr ⟨p, hp, entryAt_ok.mpr ⟨rfl, he⟩⟩, rfl⟩

/-- The place of an existing entry stays the same when other things are added to the disk. -/
theorem canonical_of_agree (h : d.canonical cwd text = .ok p) {d' : Disk}
    (hagree : ∀ q, (d.lookup q).isSome → d'.shape q = d.shape q) :
    d'.canonical cwd text = .ok p := by
  obtain ⟨hresolve, hsome⟩ := canonical_ok.mp h
  obtain ⟨htext, hway⟩ := resolveWith_ok_iff.mp hresolve
  refine canonical_ok.mpr ⟨resolveWith_ok_iff.mpr ⟨htext, hway.agree hagree hsome⟩, ?_⟩
  rwa [isSome_lookup_of_shape_eq (hagree p hsome)]

/-- Unless a path leads to a link, it does not matter whether its last step is followed. -/
theorem findEntry_cases {e : Entry} {q : Place} (h : d.findEntry cwd text = .ok (q, e))
    (hp : d.canonical cwd text = .ok p) :
    (∃ target, e = .link target) ∨ q = p ∧ d.lookup p = some e := by
  obtain ⟨r, hr, hentry⟩ := bind_eq_ok.mp h
  obtain ⟨rfl, he⟩ := entryAt_ok.mp hentry
  by_cases hlink : d.IsLink r
  · obtain ⟨target, htarget⟩ := hlink
    exact .inl ⟨target, Option.some.inj (he.symm.trans htarget)⟩
  · -- the way is the same when its last step is followed
    obtain ⟨htext, hway⟩ := resolveWith_ok_iff.mp hr
    have hresolve : d.resolve cwd text = .ok r :=
      resolveWith_ok_iff.mpr ⟨htext, hway.following hlink⟩
    obtain rfl := Except.ok.inj (hresolve.symm.trans (canonical_ok.mp hp).1)
    exact .inr ⟨rfl, he⟩

end Disk

end ProgramRepair
