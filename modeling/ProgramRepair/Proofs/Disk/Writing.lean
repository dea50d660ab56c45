import ProgramRepair.Proofs.Disk.Resolution

/-!
# What an access changes

Every change of a disk by path puts an entry at one place. Main statements:

* `isPut_setFile`: new contents for a file that has no other name change that
  file alone;
* `Places`: a change by path, which makes no directory or link anything else;
* `writeAt_ok`, `makeDirectory_ok`, `makeLink_ok`: all that a change can do;
* `makeDirectories_keeps`: what every new directory keeps is kept by making all
  the directories of a path;
* `find_of_write`: a path that was written to leads to what was written.
-/

namespace ProgramRepair.Disk

/-- The number of the file at a place. -/
def numberAt (d : Disk) (p : Place) : Option Nat := (d.lookup p).bind Entry.number?

theorem sameFile_iff {d : Disk} {p q : Place} :
    d.sameFile p q ↔ p = q ∨ ∃ n, d.numberAt p = some n ∧ d.numberAt q = some n := by
  have hiff : d.sameFile p q ↔ p = q ∨ (d.numberAt p).isSome ∧ d.numberAt p = d.numberAt q := by
    simp [sameFile, numberAt]
  rw [hiff, Option.isSome_iff_exists]
  refine or_congr_right ⟨?_, ?_⟩
  · rintro ⟨⟨n, hn⟩, heq⟩
    exact ⟨n, hn, heq ▸ hn⟩
  · rintro ⟨n, hp, hq⟩
    exact ⟨⟨n, hp⟩, hp.trans hq.symm⟩

/-- What is at a place is at no other place as well. -/
def Alone (d : Disk) (p : Place) : Prop :=
  ∀ q n, d.numberAt p = some n → d.numberAt q = some n → q = p

/-- The disk `d'` is `d` with an entry at a place. -/
def IsPut (d : Disk) (p : Place) (e : Entry) (d' : Disk) : Prop :=
  ∀ q, d'.lookup q = if q = p then some e else d.lookup q

variable {d d' : Disk} {p : Place} {e : Entry}

theorem IsPut.self (h : d.IsPut p e d') : d'.lookup p = some e := by rw [h p, if_pos rfl]

theorem IsPut.other (h : d.IsPut p e d') {q : Place} (hq : q ≠ p) : d'.lookup q = d.lookup q := by
  rw [h q, if_neg hq]

theorem ne_nil_of_lookup_eq_none (h : d.lookup p = none) : p ≠ [] := by
  rintro rfl
  cases h

theorem isPut_put (h : d.lookup p = none) (e : Entry) : d.IsPut p e (d.put p e) :=
  fun q => lookup_put d (ne_nil_of_lookup_eq_none h) q e

/-! ## Files -/

theorem lookup_map_entries (f : Entry → Entry) (entries : List (Place × Entry)) (q : Place) :
    (entries.map fun (p, e) => (p, f e)).lookup q = (entries.lookup q).map f := by
  induction entries with
  | nil => rfl
  | cons entry rest ih =>
    obtain ⟨r, e⟩ := entry
    rw [List.map_cons, List.lookup_cons, List.lookup_cons, ih]
    cases q == r <;> rfl

/-- What is at a place other than the root is on the list of entries. -/
theorem mem_entries_of_lookup (hp : p ≠ []) (h : d.lookup p = some e) : (p, e) ∈ d.entries := by
  rw [lookup, if_neg hp] at h
  obtain ⟨before, after, hsplit, -⟩ := List.lookup_eq_some_iff.mp h
  rw [hsplit]
  exact List.mem_append_right _ List.mem_cons_self

/-- All names of the file with a number are those of the new contents. -/
theorem lookup_setNumbered {n : Nat} {contents : Bytes} {a : Attributes} {q : Place}
    (hany : (d.entries.any fun (_, e) => e.number? = some n) = true) (hq : q ≠ []) :
    (d.setNumbered n contents a).lookup q =
      (d.lookup q).map fun e => if e.number? = some n then .file contents a else e := by
  have hentries : (d.entries.map fun (p, e) =>
        if e.number? = some n then (p, Entry.file contents a) else (p, e)) =
      d.entries.map fun (p, e) => (p, if e.number? = some n then Entry.file contents a else e) :=
    List.map_congr_left fun entry _ => by
      dsimp only
      split <;> rfl
  rw [setNumbered, if_pos hany, lookup, if_neg hq, hentries, lookup, if_neg hq]
  exact lookup_map_entries (fun e => if e.number? = some n then .file contents a else e) d.entries q

/-- A file with a number has it on the list of entries. -/
theorem any_number_of_numberAt {n : Nat} (h : d.numberAt p = some n) :
    (d.entries.any fun (_, e) => e.number? = some n) = true := by
  obtain ⟨e, he, hn⟩ := Option.bind_eq_some_iff.mp h
  have hp : p ≠ [] := by
    rintro rfl
    cases he
    cases hn
  exact List.any_eq_true.mpr ⟨(p, e), mem_entries_of_lookup hp he, decide_eq_true hn⟩

/-- New contents for a file that has no other name change that file alone. -/
theorem isPut_setFile {old contents : Bytes} {a a' : Attributes}
    (hp : d.lookup p = some (.file old a)) (halone : d.Alone p) (ha' : a'.number = a.number) :
    d.IsPut p (.file contents a') (d.setFile p contents a') := by
  have hne : p ≠ [] := by
    rintro rfl
    cases hp
  unfold setFile
  rw [ha']
  cases hn : a.number with
  | none =>
    -- a file without a number has no other name
    exact fun q => lookup_put d hne q _
  | some n =>
    have hnumber : d.numberAt p = some n := by rw [numberAt, hp]; exact hn
    intro q
    by_cases hq : q = []
    · -- the root is not on the list of entries
      subst hq
      rw [if_neg hne.symm]
      rfl
    · dsimp only
      rw [lookup_setNumbered (any_number_of_numberAt hnumber) hq]
      by_cases hqp : q = p
      · subst hqp
        rw [if_pos rfl, hp, Option.map_some,
          if_pos (show (Entry.file old a).number? = some n from hn)]
      · -- what is elsewhere has another number
        rw [if_neg hqp]
        cases he : d.lookup q with
        | none => rfl
        | some e =>
          rw [Option.map_some, if_neg]
          intro hen
          refine hqp (halone q n hnumber ?_)
          rw [numberAt, he]
          exact hen

/-- A file that has no other name gets other rights and nothing else changes. -/
theorem isPut_setMode {contents : Bytes} {a : Attributes}
    (hp : d.lookup p = some (.file contents a)) (halone : d.Alone p) (mode : Nat) :
    d.IsPut p (.file contents { a with mode }) (d.setMode p mode) := by
  unfold setMode setAttributes
  rw [hp]
  exact isPut_setFile hp halone rfl

/-- A change by path: an entry is put where there was nothing, or a file gets other contents. -/
structure Places (d : Disk) (p : Place) (e : Entry) (d' : Disk) : Prop where
  isPut : d.IsPut p e d'
  before : d.lookup p = none ∧ e.number? = none ∨
    ∃ old a contents a', d.lookup p = some (.file old a) ∧ e = .file contents a' ∧
      a'.number = a.number

namespace Places

theorem isDirectory_mono (h : d.Places p e d') {q : Place} (hq : d.IsDirectory q) :
    d'.IsDirectory q := by
  obtain ⟨a, ha⟩ := hq
  by_cases hqp : q = p
  · subst hqp
    rcases h.before with ⟨hnone, -⟩ | ⟨old, b, contents, b', hfile, -⟩
    · cases hnone.symm.trans ha
    · cases hfile.symm.trans ha
  · exact ⟨a, (h.isPut.other hqp).trans ha⟩

theorem isLink_mono (h : d.Places p e d') {q : Place} (hq : d.IsLink q) : d'.IsLink q := by
  obtain ⟨target, htarget⟩ := hq
  by_cases hqp : q = p
  · subst hqp
    rcases h.before with ⟨hnone, -⟩ | ⟨old, a, contents, a', hfile, -⟩
    · cases hnone.symm.trans htarget
    · cases hfile.symm.trans htarget
  · exact ⟨target, (h.isPut.other hqp).trans htarget⟩

/-- A change gives no file another number, and what is new has none. -/
theorem numberAt (h : d.Places p e d') (q : Place) : d'.numberAt q = d.numberAt q := by
  by_cases hqp : q = p
  · subst hqp
    rw [Disk.numberAt, Disk.numberAt, h.isPut.self]
    rcases h.before with ⟨hnone, he⟩ | ⟨old, a, contents, a', hfile, rfl, ha'⟩
    · rw [hnone]
      exact he
    · rw [hfile]
      exact ha'
  · rw [Disk.numberAt, Disk.numberAt, h.isPut.other hqp]

theorem alone (h : d.Places p e d') {q : Place} (hq : d.Alone q) : d'.Alone q := by
  intro r n hqn hrn
  rw [h.numberAt] at hqn hrn
  exact hq r n hqn hrn

/-- A file that was just placed gets other rights. -/
theorem setMode {contents : Bytes} {a : Attributes} (h : d.Places p (.file contents a) d')
    (halone : d.Alone p) (mode : Nat) :
    d.Places p (.file contents { a with mode }) (d'.setMode p mode) where
  isPut q := by
    rw [isPut_setMode h.isPut.self (h.alone halone) mode q]
    split
    · rfl
    · next hq => rw [h.isPut.other hq]
  before := by
    rcases h.before with ⟨hnone, ha⟩ | ⟨old, b, contents', a', hfile, he, hnumber⟩
    · exact .inl ⟨hnone, ha⟩
    · cases he
      exact .inr ⟨old, b, contents, _, hfile, rfl, hnumber⟩

end Places

/-- Writing puts a file there, or does nothing if it is sent to a device. -/
theorem writeAt_ok {mode : Nat} {contents : Bytes} (h : d.writeAt p mode contents = .ok d')
    (halone : d.Alone p) :
    (∃ a, d.Places p (.file contents a) d') ∨
      d' = d ∧ (d.lookup p = some .null ∨ ∃ a, d.lookup p = some (.pipe a)) := by
  unfold writeAt at h
  split at h
  · next hnone =>
    obtain ⟨_, -, h⟩ := bind_eq_ok.mp h
    obtain rfl := Except.ok.inj h
    exact .inl ⟨d.newAttributes mode, isPut_put hnone _, .inl ⟨hnone, rfl⟩⟩
  · next old a hfile =>
    split at h
    · obtain rfl := Except.ok.inj h
      exact .inl ⟨_, isPut_setFile hfile halone rfl,
        .inr ⟨old, a, contents, _, hfile, rfl, rfl⟩⟩
    · cases h
  · next hnull =>
    obtain rfl := Except.ok.inj h
    exact .inr ⟨rfl, .inl hnull⟩
  · next a hpipe =>
    split at h
    · obtain rfl := Except.ok.inj h
      exact .inr ⟨rfl, .inr ⟨a, hpipe⟩⟩
    · cases h
  · cases h
  · cases h

/-- A file that may be read gives what is in it. -/
theorem contentsOf_file {contents bytes : Bytes} {a : Attributes} :
    contentsOf (.file contents a) = .ok bytes ↔ a.allows .read = true ∧ contents = bytes := by
  rw [contentsOf]
  split <;> simp_all

/-- A straight path to a file leads to its place if there are no links on its way. -/
theorem placeForWriting_straight {cwd q : Place} {text : String}
    (h : d.placeForWriting cwd text = .ok q) (hstraight : Straight text p)
    (hlinks : ∀ q, q <+: p → ¬ d.IsLink q) : q = p := by
  rw [placeForWriting] at h
  split at h
  · -- a name that ends with a slash is never written to
    split at h
    · cases h
    · obtain ⟨_, -, h⟩ := bind_eq_ok.mp h
      cases h
  · exact resolve_straight h hstraight hlinks

/-! ## Directories and links -/

/-- A path of slashes ends with one. -/
theorem endsAsDirectory_of_all {text : String} (habsolute : isAbsolute text = true)
    (hall : text.toList.all (· = '/') = true) : endsAsDirectory text = true := by
  have hne : text.toList ≠ [] := by
    intro hnil
    rw [isAbsolute, hnil] at habsolute
    cases habsolute
  have hlast := List.all_eq_true.mp hall _ (List.getLast_mem hne)
  rw [endsAsDirectory, List.getLast?_eq_some_getLast hne, of_decide_eq_true hlast]
  rfl

/-- A path that is not all slashes goes through a name. -/
theorem segments_ne_nil {text : String} (h : ¬ text.toList.all (· = '/') = true) :
    segments text ≠ [] := by
  have hcut : ∀ s : List Char, (Text.cut '/' s).filter (· ≠ []) = [] → s.all (· = '/') = true := by
    intro s hs
    induction s with
    | nil => rfl
    | cons c s ih =>
      by_cases hc : c = '/'
      · subst hc
        simpa using ih (by simpa [Text.cut] using hs)
      · cases hcut : Text.cut '/' s <;> simp [Text.cut, hc, hcut] at hs
  intro hnil
  exact h (hcut _ (List.map_eq_nil_iff.mp hnil))

/-- Making a directory by a literal path puts it at a place where nothing was. -/
theorem makeDirectory_ok {cwd : Place} {text : String} (h : d.makeDirectory cwd text = .ok d')
    (hliteral : Literal text p) (hlinks : ∀ q, q <+: p → ¬ d.IsLink q) :
    d.lookup p = none ∧ d.Places p (.directory (d.newAttributes directoryMode)) d' := by
  obtain ⟨q, hq, h⟩ := bind_eq_ok.mp h
  split at h
  · next hnone =>
    obtain ⟨_, -, h⟩ := bind_eq_ok.mp h
    obtain rfl := Except.ok.inj h
    have hqp : q = p := by
      by_cases hall : text.toList.all (· = '/') = true
      · -- the root is there already
        rw [if_pos hall] at hq
        obtain ⟨a, ha⟩ := isDirectory_of_endsAsDirectory hq
          (endsAsDirectory_of_all hliteral.absolute hall)
        cases hnone.symm.trans ha
      · rw [if_neg hall] at hq
        have hp : p ≠ [] := hliteral.segments_eq ▸ segments_ne_nil hall
        exact resolveEntry_literal hq (hliteral.withoutFinalSlashes hp)
          (endsAsDirectory_withoutFinalSlashes text) fun q hq _ => hlinks q hq
    subst hqp
    exact ⟨hnone, isPut_put hnone _, .inl ⟨hnone, rfl⟩⟩
  · cases h

theorem isDirectory_of_isDirectoryAt {cwd : Place} {text : String}
    (h : d.isDirectoryAt cwd text = true) (hstraight : Straight text p)
    (hlinks : ∀ q, q <+: p → ¬ d.IsLink q) : d.IsDirectory p := by
  unfold isDirectoryAt at h
  split at h
  · next q e hfind =>
    obtain ⟨r, hr, hentry⟩ := bind_eq_ok.mp hfind
    obtain ⟨rfl, he⟩ := entryAt_ok.mp hentry
    obtain rfl := resolve_straight hr hstraight hlinks
    cases e with
    | directory a => exact ⟨a, he⟩
    | _ => cases h
  · cases h

/-- What every new directory on the way keeps is kept by making all of them, and then the path
leads to a directory. -/
theorem makeDirectoriesWithin_keeps {P : Disk → Prop} {cwd : Place} {depth : Nat} {text : String}
    (hlinks : ∀ d, P d → ∀ q, q <+: p → ¬ d.IsLink q)
    (hmake : ∀ d d' q, P d → q <+: p → d.lookup q = none →
      d.Places q (.directory (d.newAttributes directoryMode)) d' → P d')
    (hliteral : Literal text p) (hd : P d)
    (h : d.makeDirectoriesWithin cwd depth text = .ok d') : P d' ∧ d'.IsDirectory p := by
  -- a deeper call makes the directory that this one is in, by a path to the place above
  induction depth generalizing d d' p text with
  | zero => cases h
  | succ depth ih =>
    have hmade : ∀ {d d'}, P d → d.makeDirectory cwd text = .ok d' → P d' ∧ d'.IsDirectory p := by
      intro d d' hd h
      obtain ⟨hnone, hplaces⟩ := makeDirectory_ok h hliteral (hlinks d hd)
      exact ⟨hmake d d' p hd List.prefix_rfl hnone hplaces, _, hplaces.isPut.self⟩
    have hthere : ∀ {d}, P d → d.isDirectoryAt cwd text = true → d.IsDirectory p :=
      fun hd h => isDirectory_of_isDirectoryAt h hliteral.straight (hlinks _ hd)
    rw [makeDirectoriesWithin] at h
    split at h
    · next hempty =>
      subst hempty
      cases hliteral.absolute
    · split at h
      · next d₁ hmake₁ =>
        obtain rfl := Except.ok.inj h
        exact hmade hd hmake₁
      · -- the directory that it is in is made first
        split at h
        · cases h
        · next up hup =>
          obtain ⟨d₁, hup₁, h⟩ := bind_eq_ok.mp h
          have hpre : p.dropLast <+: p := List.dropLast_prefix p
          obtain ⟨hd₁, -⟩ := ih (fun d hd q hq => hlinks d hd q (hq.trans hpre))
            (fun d d' q hd hq => hmake d d' q hd (hq.trans hpre))
            (hliteral.straight.literal_parent hup) hd hup₁
          split at h
          · next d₂ hmake₂ =>
            obtain rfl := Except.ok.inj h
            exact hmade hd₁ hmake₂
          · split at h
            · next hdirectory =>
              obtain rfl := Except.ok.inj h
              exact ⟨hd₁, hthere hd₁ hdirectory⟩
            · cases h
      · split at h
        · next hdirectory =>
          obtain rfl := Except.ok.inj h
          exact ⟨hd, hthere hd hdirectory⟩
        · cases h

theorem makeDirectories_keeps {P : Disk → Prop} {cwd : Place} {text : String}
    (hlinks : ∀ d, P d → ∀ q, q <+: p → ¬ d.IsLink q)
    (hmake : ∀ d d' q, P d → q <+: p → d.lookup q = none →
      d.Places q (.directory (d.newAttributes directoryMode)) d' → P d')
    (hliteral : Literal text p) (hd : P d) (h : d.makeDirectories cwd text = .ok d') :
    P d' ∧ d'.IsDirectory p :=
  makeDirectoriesWithin_keeps hlinks hmake hliteral hd h

/-- Making a link puts it at a place where nothing was. -/
theorem makeLink_ok {cwd : Place} {target text : String} (h : d.makeLink cwd target text = .ok d') :
    ∃ q, d.resolveEntry cwd text = .ok q ∧ d.lookup q = none ∧ d.Places q (.link target) d' := by
  obtain ⟨q, hq, h⟩ := bind_eq_ok.mp h
  split at h
  · next hnone =>
    obtain ⟨_, -, h⟩ := bind_eq_ok.mp h
    obtain rfl := Except.ok.inj h
    exact ⟨q, hq, hnone, isPut_put hnone _, .inl ⟨hnone, rfl⟩⟩
  · cases h

/-- No link can be made at a path that ends with a slash. -/
theorem makeLink_ne_ok {cwd : Place} {target text : String} (hend : endsAsDirectory text = true) :
    d.makeLink cwd target text ≠ .ok d' := by
  intro h
  obtain ⟨q, hq, hnone, -⟩ := makeLink_ok h
  obtain ⟨a, ha⟩ := isDirectory_of_endsAsDirectory hq hend
  cases hnone.symm.trans ha

/-! ## What was written -/

/-- Directories and links stay what they are, and whatever else there is does not become a link. -/
structure KeepsWays (d d' : Disk) : Prop where
  directory : ∀ q a, d.lookup q = some (.directory a) → d'.lookup q = some (.directory a)
  link : ∀ q target, d.lookup q = some (.link target) → d'.lookup q = some (.link target)
  other : ∀ q, (d.lookup q).isSome → ¬ d.IsLink q → (d'.lookup q).isSome ∧ ¬ d'.IsLink q

/-- A way stays one if there is something at its end, also if nothing was there before. -/
theorem Way.keep {followLast : Bool} {links : Nat} {here : Place} {path : List String}
    (h : Way d followLast links here path p) (hkeeps : KeepsWays d d')
    (hp : (d'.lookup p).isSome) (hlink : ¬ d'.IsLink p) :
    Way d' followLast links here path p := by
  have hpassable : ∀ q, d.Passable q → d'.Passable q :=
    fun q hq => hq.imp fun a ha => ⟨hkeeps.directory q a ha.1, ha.2⟩
  induction h with
  | here links p => exact .here links p
  | stay hhere hrest ih => exact .stay (hpassable _ hhere) (ih hp hlink)
  | up hhere hrest ih => exact .up (hpassable _ hhere) (ih hp hlink)
  | @down links here p s rest e hhere hs he hnolink hrest ih =>
    obtain ⟨hsome, hnolink'⟩ := hkeeps.other (here ++ [s]) (by rw [he]; rfl) hnolink
    obtain ⟨e', he'⟩ := Option.isSome_iff_exists.mp hsome
    exact .down (hpassable _ hhere) hs he' hnolink' (ih hp hlink)
  | @missing links here s hhere hs hnone =>
    -- what was missing is there now
    obtain ⟨e', he'⟩ := Option.isSome_iff_exists.mp hp
    exact .down (hpassable _ hhere) hs he' hlink (.here links _)
  | atLink hhere hs hlast hfollow =>
    obtain ⟨target, htarget⟩ := hlast
    exact .atLink (hpassable _ hhere) hs ⟨target, hkeeps.link _ _ htarget⟩ hfollow
  | through hhere hs htarget hfollow hrest ih =>
    exact .through (hpassable _ hhere) hs (hkeeps.link _ _ htarget) hfollow (ih hp hlink)

theorem IsPut.keepsWays {contents : Bytes} {a : Attributes} (h : d.IsPut p (.file contents a) d')
    (hdirectory : ¬ d.IsDirectory p) (hlink : ¬ d.IsLink p) : KeepsWays d d' where
  directory q b hb := by
    rw [h.other (fun hq => hdirectory ⟨b, hq ▸ hb⟩)]
    exact hb
  link q target htarget := by
    rw [h.other (fun hq => hlink ⟨target, hq ▸ htarget⟩)]
    exact htarget
  other q hsome hnolink := by
    by_cases hq : q = p
    · subst hq
      refine ⟨by rw [h.self]; rfl, ?_⟩
      rintro ⟨target, htarget⟩
      cases h.self.symm.trans htarget
    · refine ⟨by rwa [h.other hq], ?_⟩
      rintro ⟨target, htarget⟩
      rw [h.other hq] at htarget
      exact hnolink ⟨target, htarget⟩

/-- New contents of a file are those of all its names. -/
theorem setFile_keepsWays {old contents : Bytes} {a a' : Attributes}
    (hp : d.lookup p = some (.file old a)) (ha' : a'.number = a.number) :
    KeepsWays d (d.setFile p contents a') ∧
      (d.setFile p contents a').lookup p = some (.file contents a') := by
  have hne : p ≠ [] := by
    rintro rfl
    cases hp
  have hdirectory : ¬ d.IsDirectory p := by
    rintro ⟨b, hb⟩
    cases hp.symm.trans hb
  have hlink : ¬ d.IsLink p := by
    rintro ⟨target, htarget⟩
    cases hp.symm.trans htarget
  unfold setFile
  rw [ha']
  cases hn : a.number with
  | none =>
    have hput : d.IsPut p (.file contents a') (d.put p (.file contents a')) :=
      fun q => lookup_put d hne q _
    exact ⟨hput.keepsWays hdirectory hlink, hput.self⟩
  | some n =>
    have hnumber : d.numberAt p = some n := by
      rw [numberAt, hp]
      exact hn
    have hlookup : ∀ q, q ≠ [] → (d.setNumbered n contents a').lookup q =
        (d.lookup q).map fun e => if e.number? = some n then .file contents a' else e :=
      fun q hq => lookup_setNumbered (any_number_of_numberAt hnumber) hq
    dsimp only
    refine ⟨⟨?_, ?_, ?_⟩, ?_⟩
    · intro q b hb
      by_cases hq : q = []
      · subst hq
        exact hb
      · rw [hlookup q hq, hb]
        rfl
    · intro q target htarget
      have hq : q ≠ [] := by
        rintro rfl
        cases htarget
      rw [hlookup q hq, htarget]
      rfl
    · intro q hsome hnolink
      by_cases hq : q = []
      · subst hq
        refine ⟨rfl, ?_⟩
        rintro ⟨target, htarget⟩
        cases htarget
      · obtain ⟨e, he⟩ := Option.isSome_iff_exists.mp hsome
        rw [IsLink, hlookup q hq, he, Option.map_some]
        refine ⟨rfl, ?_⟩
        rintro ⟨target, htarget⟩
        split at htarget
        · cases htarget
        · exact hnolink ⟨target, he.trans htarget⟩
    · rw [hlookup p hne, hp, Option.map_some, if_pos (show (Entry.file old a).number? = _ from hn)]

/-- A path that was written to leads to a file with what was written, unless it leads to something
that keeps nothing. -/
theorem find_of_write {cwd : Place} {text : String} {contents : Bytes}
    (h : d.write cwd text contents = .ok d') :
    ∃ p, d.resolve cwd text = .ok p ∧
      ((∃ a, d'.find cwd text = .ok (p, .file contents a)) ∨
        d' = d ∧ (d.lookup p = some .null ∨ ∃ a, d.lookup p = some (.pipe a))) := by
  obtain ⟨p, hplace, hwrite⟩ := bind_eq_ok.mp h
  have hp : d.resolve cwd text = .ok p := by
    rw [placeForWriting] at hplace
    split at hplace
    · split at hplace
      · cases hplace
      · obtain ⟨_, -, hplace⟩ := bind_eq_ok.mp hplace
        cases hplace
    · exact hplace
  have hfind : ∀ a, KeepsWays d d' → d'.lookup p = some (.file contents a) →
      d'.find cwd text = .ok (p, .file contents a) := by
    intro a hkeeps hfile
    obtain ⟨htext, hway⟩ := resolveWith_ok_iff.mp hp
    have hlink : ¬ d'.IsLink p := by
      rintro ⟨target, htarget⟩
      cases hfile.symm.trans htarget
    have hway' := hway.keep hkeeps (by rw [hfile]; rfl) hlink
    exact bind_eq_ok.mpr ⟨p, resolveWith_ok_iff.mpr ⟨htext, hway'⟩, entryAt_ok.mpr ⟨rfl, hfile⟩⟩
  refine ⟨p, hp, ?_⟩
  unfold writeAt at hwrite
  split at hwrite
  · next hnone =>
    obtain ⟨_, -, hwrite⟩ := bind_eq_ok.mp hwrite
    obtain rfl := Except.ok.inj hwrite
    have hput := isPut_put hnone (.file contents (d.newAttributes fileMode))
    refine .inl ⟨_, hfind _ (hput.keepsWays ?_ ?_) hput.self⟩
    · rintro ⟨b, hb⟩
      cases hnone.symm.trans hb
    · rintro ⟨target, htarget⟩
      cases hnone.symm.trans htarget
  · next old a hfile =>
    split at hwrite
    · obtain rfl := Except.ok.inj hwrite
      obtain ⟨hkeeps, hnew⟩ :
          KeepsWays d (d.setFile p contents { a with changed := d.stamp }) ∧ _ :=
        setFile_keepsWays hfile rfl
      exact .inl ⟨_, hfind _ hkeeps hnew⟩
    · cases hwrite
  · next hnull =>
    obtain rfl := Except.ok.inj hwrite
    exact .inr ⟨rfl, .inl hnull⟩
  · next a hpipe =>
    split at hwrite
    · obtain rfl := Except.ok.inj hwrite
      exact .inr ⟨rfl, .inr ⟨a, hpipe⟩⟩
    · cases hwrite
  · cases hwrite
  · cases hwrite

end ProgramRepair.Disk
