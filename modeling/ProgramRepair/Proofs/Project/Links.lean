import Mathlib.Logic.Relation
import ProgramRepair.Proofs.Project.Retrying

/-!
# Links in a copy

A link of a project is copied as a link, and its text is rewritten or kept by looking at the text
and at the place that the link leads to. Its way in the copy is followed side by side with its way
in the project, one step at a time. Main statements:

* `Replica.move_forward`, `Replica.move_backward`: one step inside the project is one in the copy;
* `Replica.stays`, `Replica.exits`, `Replica.goesAbove`: where the way in the copy leads when the
  way in the project stays inside, when it leaves by a link, and when it goes up and out;
* `exists_ending`: there is nothing else that it can do;
* `copied_links_lead_on`: so all files are copied, and of the links that lead somewhere all keep
  their meaning but relative ones that lead into the project on a way that leaves it;
* `links_that_come_back_are_lost`: two links that do not keep theirs.
-/

namespace ProgramRepair

open Relation

namespace Disk

theorem passable_root (d : Disk) : d.Passable [] := ⟨systemAttributes, rfl, by decide⟩

theorem endsAsDirectory_pathOf {p : Place} (h : ∀ s ∈ p, IsName s) (hp : p ≠ []) :
    endsAsDirectory (pathOf p) = false := by
  obtain ⟨hne, hend⟩ := endsAsDirectory_intercalate h hp
  rw [pathOf, endsAsDirectory_append hne, hend]

end Disk

namespace Project

open Disk DiskWork

variable {d d₀ whole : Disk} {cwd root V place resolved x y p q : Place}
  {source copyPath target s : String} {r : Place} {l : List Place} {rest path : List String}
  {links : Nat}

/-! ## Texts of links -/

/-- A relative link that leads out of the project is replaced by the path of what it leads to. -/
theorem copiedLink_outside (h : d.canonical [] (pathOf place) = .ok resolved)
    (hrelative : isAbsolute target = false) (hout : ¬ root <+: resolved) :
    copiedLink d root place copyPath target = pathOf resolved := by
  rw [← List.isPrefixOf_iff_prefix, Bool.not_eq_true] at hout
  simp [copiedLink, h, hrelative, hout]

/-- An absolute link into the project is replaced by the path of the copy of what it leads to. -/
theorem copiedLink_inside (h : d.canonical [] (pathOf place) = .ok (root ++ y))
    (habsolute : isAbsolute target = true) :
    copiedLink d root place copyPath target = join copyPath ("/".intercalate y) := by
  have hin : root.isPrefixOf (root ++ y) = true :=
    List.isPrefixOf_iff_prefix.mpr (List.prefix_append root y)
  simp [copiedLink, h, habsolute, hin]

/-- Other links that lead somewhere keep their text. -/
theorem copiedLink_kept (h : d.canonical [] (pathOf place) = .ok resolved)
    (hkept : isAbsolute target = true ↔ ¬ root <+: resolved) :
    copiedLink d root place copyPath target = target := by
  rw [← List.isPrefixOf_iff_prefix] at hkept
  cases habsolute : isAbsolute target with
  | true =>
    have hout : root.isPrefixOf resolved = false := Bool.eq_false_iff.mpr (hkept.mp habsolute)
    simp [copiedLink, h, habsolute, hout]
  | false =>
    have hin : root.isPrefixOf resolved = true := by
      refine Decidable.byContradiction fun hout => ?_
      rw [hkept.mpr hout] at habsolute
      cases habsolute
    simp [copiedLink, h, habsolute, hin]

/-! ## Replicas -/

/-- There is a whole copy of the project at `V`, and nothing else has changed. -/
structure Replica (d₀ : Disk) (root V : Place) (copyPath : String) (whole : Disk) : Prop where
  outside : ∀ q, ¬ V <+: q → whole.lookup q = d₀.lookup q
  copied : ∀ r e, d₀.lookup (root ++ r) = some e →
    ∃ copy, whole.lookup (V ++ r) = some copy ∧ IsCopyAt d₀ root V copyPath r e copy
  missing : ∀ r, d₀.lookup (root ++ r) = none → whole.lookup (V ++ r) = none
  reach : whole.InReach V
  text : ∀ r, r ≠ [] → (d₀.lookup (root ++ r)).isSome →
    textProblem? (join copyPath ("/".intercalate r)) = none

/-- A copy that succeeds leaves one, whatever the order of its walk. -/
theorem replica_of_copyTreeIn (hsite : Site d₀ cwd source copyPath root V) (hwalk : IsWalk d₀ root l)
    (hrun : (copyTreeIn l cwd source copyPath).run.run d₀ = (.ok (), whole)) :
    Replica d₀ root V copyPath whole := by
  obtain ⟨hadmits, hcopyable, hprogress⟩ := of_fresh hsite hwalk hrun
  have hmem : ∀ r, root ++ r ∈ root :: l ↔ (d₀.lookup (root ++ r)).isSome := fun r =>
    hwalk.mem_cons_iff hsite.isDirectory
  refine ⟨hprogress.outside, fun r e he => ?_, fun r hnone => ?_, ?_, fun r hr hsome => ?_⟩
  · obtain ⟨original, copy, horiginal, hcopy, hiscopy⟩ :=
      hprogress.copied r ((hmem r).mpr (by rw [he]; rfl))
    obtain rfl := Option.some.inj (he.symm.trans horiginal)
    exact ⟨copy, hcopy, hiscopy⟩
  · have hnot : root ++ r ∉ root :: l := by simp [hmem, hnone]
    rw [hprogress.rest r hnot, hsite.empty]
  · exact hadmits.reach.agree fun q => hsite.shape_eq hprogress.outside
  · exact (hcopyable r ((hwalk.mem_iff _).mpr ⟨r, hr, rfl, hsome⟩)).text

theorem IsCopyAt.content_eq {e copy : Entry} (h : IsCopyAt d₀ root V copyPath r e copy) :
    copy.content = e.content := by
  rcases h with ⟨d, -, hcopy⟩
  cases hcopy <;> rfl

namespace Replica

theorem contentAt_eq (h : Replica d₀ root V copyPath whole) (r : Place) :
    whole.contentAt (V ++ r) = d₀.contentAt (root ++ r) := by
  rw [contentAt, contentAt]
  cases he : d₀.lookup (root ++ r) with
  | none => rw [h.missing r he]
  | some e =>
    obtain ⟨copy, hcopy, hiscopy⟩ := h.copied r e he
    rw [hcopy, Option.map_some, Option.map_some, hiscopy.content_eq]

/-- The directories of a copy may be gone through. -/
theorem passable (h : Replica d₀ root V copyPath whole) (hr : d₀.IsDirectory (root ++ r)) :
    whole.Passable (V ++ r) := by
  rcases hr with ⟨a, ha⟩
  obtain ⟨copy, hcopy, d, -, hiscopy⟩ := h.copied r _ ha
  cases hiscopy
  exact Progress.passable_of_directoryMode hcopy

/-- What is no link is no link in the copy. -/
theorem not_isLink (h : Replica d₀ root V copyPath whole) (hr : ¬ d₀.IsLink (root ++ r)) :
    ¬ whole.IsLink (V ++ r) := by
  rwa [← contentAt_eq_link, h.contentAt_eq, contentAt_eq_link]

/-- A link that leads somewhere has the text that it should have. -/
theorem link (h : Replica d₀ root V copyPath whole) (hsite : Site d₀ cwd source copyPath root V)
    (htarget : d₀.lookup (root ++ r) = some (.link target))
    (hresolved : d₀.canonical [] (pathOf (root ++ r)) = .ok resolved) :
    whole.lookup (V ++ r) =
      some (.link (copiedLink d₀ root (root ++ r) copyPath target)) := by
  obtain ⟨copy, hcopy, d, houtside, hiscopy⟩ := h.copied r _ htarget
  cases hiscopy
  rw [hcopy, copiedLink_resolved hsite houtside hresolved]

theorem shape_eq (h : Replica d₀ root V copyPath whole) (hsite : Site d₀ cwd source copyPath root V)
    (q : Place) (hq : (d₀.lookup q).isSome) : whole.shape q = d₀.shape q :=
  hsite.shape_eq h.outside hq

/-- What is in reach in the project is in reach in the copy. -/
theorem inReach (h : Replica d₀ root V copyPath whole) (hreach : d₀.InReach (root ++ r)) :
    whole.InReach (V ++ r) where
  above q hq hne := by
    rcases prefix_append_cases hq with ⟨habove, hne'⟩ | ⟨r', hr', rfl⟩
    · exact h.reach.above q habove hne'
    · refine h.passable (hreach.above _ ((List.prefix_append_right_inj root).mpr hr') ?_).isDirectory
      simpa using hne
  step t ht := by
    rcases List.mem_append.mp ht with ht | ht
    · exact h.reach.step t ht
    · exact hreach.step t (List.mem_append_right root ht)

end Replica

/-! ## Links of the project -/

namespace Site

theorem root_ne_nil (h : Site d₀ cwd source copyPath root V) : root ≠ [] := by
  rintro rfl
  exact h.apart V List.prefix_rfl

/-- How a link of the project leads where it leads. -/
theorem way_of_canonical (hsite : Site d₀ cwd source copyPath root V)
    (htarget : d₀.lookup (root ++ (x ++ [s])) = some (.link target))
    (h : d₀.canonical [] (pathOf (root ++ (x ++ [s]))) = .ok p) :
    d₀.InReach (root ++ x) ∧ d₀.Passable (root ++ x) ∧ Way d₀ true maxLinks (root ++ x) [s] p ∧
      (d₀.lookup p).isSome := by
  have hsome : (d₀.lookup (root ++ (x ++ [s]))).isSome := by rw [htarget]; rfl
  have hname := hsite.wellFormed.isName _ hsome
  have hliteral : Literal (pathOf (root ++ (x ++ [s]))) (root ++ (x ++ [s])) := .pathOf hname
  obtain ⟨hresolve, hp⟩ := canonical_ok.mp h
  -- no link is above the link
  have hdirectory : ∀ q, q <+: root ++ (x ++ [s]) → q ≠ root ++ (x ++ [s]) → d₀.IsDirectory q :=
    fun q => hsite.wellFormed.isDirectory_of_prefix hsome
  obtain ⟨-, hreach⟩ := inReach_of_resolveWith hresolve hliteral fun q hq hne hlink =>
    hlink.not_isDirectory (hdirectory q hq hne)
  have hup : root ++ x <+: root ++ (x ++ [s]) := ⟨[s], by rw [List.append_assoc]⟩
  have hpass : d₀.Passable (root ++ x) := hreach.above _ hup (by simp)
  have hway := resolveWith_ok hresolve
  rw [startOf_literal hliteral, steps_literal hliteral,
    endsAsDirectory_pathOf hname (by simp), if_neg Bool.false_ne_true, List.append_nil,
    ← List.append_assoc] at hway
  have hreach := hreach.of_prefix hup
  exact ⟨hreach, hpass, hreach.of_way_steps hpass.not_isLink hway, hp⟩

/-- A link that leads somewhere in the end has a place that it leads to. -/
theorem canonical_of_way (hsite : Site d₀ cwd source copyPath root V)
    (htarget : d₀.lookup (root ++ (x ++ [s])) = some (.link target))
    (htext : textProblem? (pathOf (root ++ (x ++ [s]))) = none) (hreach : d₀.InReach (root ++ x))
    (hway : Way d₀ true links (root ++ x) [s] p) (hlinks : links ≤ maxLinks)
    (hp : (d₀.lookup p).isSome) : d₀.canonical [] (pathOf (root ++ (x ++ [s]))) = .ok p := by
  have hname := hsite.wellFormed.isName (root ++ (x ++ [s])) (by rw [htarget]; rfl)
  have hliteral : Literal (pathOf (root ++ (x ++ [s]))) (root ++ (x ++ [s])) := .pathOf hname
  refine canonical_ok.mpr ⟨resolveWith_ok_iff.mpr ⟨htext, ?_⟩, hp⟩
  rw [startOf_literal hliteral, steps_literal hliteral,
    endsAsDirectory_pathOf hname (by simp), if_neg Bool.false_ne_true, List.append_nil,
    ← List.append_assoc]
  exact hreach.way_steps hway.passable_of_cons.not_isLink (hway.mono hlinks)

/-- Where a link of the project leads to is in reach and is no link. -/
theorem inReach_of_canonical (hsite : Site d₀ cwd source copyPath root V)
    (htarget : d₀.lookup (root ++ (x ++ [s])) = some (.link target))
    (h : d₀.canonical [] (pathOf (root ++ (x ++ [s]))) = .ok p) :
    d₀.InReach p ∧ ¬ d₀.IsLink p := by
  obtain ⟨hreach, hpass, hway, -⟩ := hsite.way_of_canonical htarget h
  exact hway.inReach hreach hpass.not_isLink

theorem isName_step (hsite : Site d₀ cwd source copyPath root V) {e : Entry}
    (he : d₀.lookup (root ++ (x ++ [s])) = some e) : IsName s :=
  hsite.isName he s (by simp)

/-- A way through a link first leads to where the link leads. -/
theorem way_through (hsite : Site d₀ cwd source copyPath root V)
    (htarget : d₀.lookup (root ++ (x ++ [s])) = some (.link target))
    (hresolved : d₀.canonical [] (pathOf (root ++ (x ++ [s]))) = .ok q)
    (hway : Way d₀ true links (root ++ x) (s :: rest) p) :
    ∃ fewer, links = fewer + 1 ∧ Way d₀ true fewer q rest p := by
  have hname := hsite.isName_step htarget
  obtain ⟨-, -, hlink, -⟩ := hsite.way_of_canonical htarget hresolved
  rw [← List.append_assoc] at htarget
  obtain ⟨-, fewer, rfl, hthrough⟩ := hway.of_through hname htarget
  obtain ⟨-, least, -, hlink⟩ := hlink.of_through hname htarget
  -- both begin with the steps of its text, which lead to one place only
  obtain ⟨mid, hfirst, fewest, hfewest, hlater⟩ := hthrough.split
  rw [List.append_nil] at hlink
  obtain rfl := hlink.unique hfirst
  exact ⟨fewer, rfl, hlater.mono hfewest⟩

end Site

/-! ## Steps inside a project -/

/-- A place in a project, as seen from its directory, and the steps of a path that are left. -/
structure Position where
  place : Place
  rest : List String

/-- One step inside a project. A relative link into the project is followed by its text, and from an
absolute one it goes on at the place that it leads to. -/
inductive Move (d : Disk) (root : Place) : Position → Position → Prop
  | stay {x : Place} {rest : List String} : Move d root ⟨x, "." :: rest⟩ ⟨x, rest⟩
  | up {x : Place} {rest : List String} (hx : x ≠ []) :
      Move d root ⟨x, ".." :: rest⟩ ⟨x.dropLast, rest⟩
  | down {x : Place} {s : String} {rest : List String} {e : Entry}
      (he : d.lookup (root ++ (x ++ [s])) = some e) (hlink : ¬ d.IsLink (root ++ (x ++ [s]))) :
      Move d root ⟨x, s :: rest⟩ ⟨x ++ [s], rest⟩
  | follow {x y : Place} {s target : String} {rest : List String}
      (htarget : d.lookup (root ++ (x ++ [s])) = some (.link target))
      (hresolved : d.canonical [] (pathOf (root ++ (x ++ [s]))) = .ok (root ++ y))
      (hrelative : isAbsolute target = false) :
      Move d root ⟨x, s :: rest⟩ ⟨x, steps target ++ rest⟩
  | jump {x y : Place} {s target : String} {rest : List String}
      (htarget : d.lookup (root ++ (x ++ [s])) = some (.link target))
      (hresolved : d.canonical [] (pathOf (root ++ (x ++ [s]))) = .ok (root ++ y))
      (habsolute : isAbsolute target = true) : Move d root ⟨x, s :: rest⟩ ⟨y, rest⟩

/-- All steps are made inside the project. -/
def StaysInside (d : Disk) (root : Place) (a : Position) : Prop :=
  ∃ y, ReflTransGen (Move d root) a ⟨y, []⟩

/-- After some steps inside the project there is a link that leads out of it. -/
def LeavesByLink (d : Disk) (root : Place) (a : Position) : Prop :=
  ∃ x s rest target q, ReflTransGen (Move d root) a ⟨x, s :: rest⟩ ∧
    d.lookup (root ++ (x ++ [s])) = some (.link target) ∧
    d.canonical [] (pathOf (root ++ (x ++ [s]))) = .ok q ∧ ¬ root <+: q

/-- After some steps inside the project, one goes up from its directory, and others are left. -/
def GoesAbove (d : Disk) (root : Place) (a : Position) (rest : List String) : Prop :=
  ReflTransGen (Move d root) a ⟨[], ".." :: rest⟩

/-! ## Steps inside a copy -/

namespace Replica

variable {a b : Position} (h : Replica d₀ root V copyPath whole)
  (hsite : Site d₀ cwd source copyPath root V)

include h hsite

/-- The copy of an absolute link into the project leads to the copy of what the link leads to. -/
theorem way_jump (htarget : d₀.lookup (root ++ (x ++ [s])) = some (.link target))
    (hresolved : d₀.canonical [] (pathOf (root ++ (x ++ [s]))) = .ok (root ++ y)) :
    Way whole true links [] (steps (join copyPath ("/".intercalate y)) ++ rest) q ↔
      Way whole true links (V ++ y) rest q := by
  obtain ⟨hreach, hnolink⟩ := hsite.inReach_of_canonical htarget hresolved
  obtain ⟨-, -, -, hsome⟩ := hsite.way_of_canonical htarget hresolved
  obtain ⟨e, he⟩ := Option.isSome_iff_exists.mp hsome
  have hliteral := hsite.literal.join (hsite.isName he)
  refine ⟨(h.inReach hreach).of_way_literal (h.not_isLink hnolink) hliteral,
    (h.inReach hreach).way_literal (h.not_isLink hnolink) hliteral fun hend => ?_⟩
  -- only the path of the directory of the copy may end with a slash
  by_cases hy : y = []
  · subst hy
    exact h.passable (by simpa using hsite.isDirectory)
  · rw [endsAsDirectory_copy hy (hsite.isName he)] at hend
    cases hend

/-- What a step inside the project does to a way, its copy does to the way in the copy. -/
theorem move_forward (hmove : Move d₀ root a b)
    (hway : Way d₀ true links (root ++ a.place) a.rest p) :
    ∃ fewer, Way d₀ true fewer (root ++ b.place) b.rest p ∧
      ∀ q, Way whole true fewer (V ++ b.place) b.rest q →
        Way whole true links (V ++ a.place) a.rest q := by
  cases hmove with
  | stay =>
    have hpass := h.passable hway.passable_of_cons.isDirectory
    exact ⟨links, hway.of_current, fun q => .stay hpass⟩
  | @up x rest hx =>
    have hpass := h.passable hway.passable_of_cons.isDirectory
    refine ⟨links, ?_, fun q hq => .up hpass ?_⟩
    · rw [← List.dropLast_append_of_ne_nil hx]
      exact hway.of_parent
    · rwa [List.dropLast_append_of_ne_nil hx]
  | @down x s rest e he hlink =>
    have hpass := h.passable hway.passable_of_cons.isDirectory
    have hname := hsite.isName_step he
    obtain ⟨copy, hcopy, -⟩ := h.copied _ _ he
    have hnolink := h.not_isLink hlink
    rw [← List.append_assoc] at he hlink hcopy hnolink
    obtain ⟨hs, hrest⟩ := hway.of_down hname he hlink
    rw [List.append_assoc] at hrest
    refine ⟨links, hrest, fun q hq => .down hpass hs hcopy hnolink ?_⟩
    rwa [List.append_assoc]
  | @follow x y s target rest htarget hresolved hrelative =>
    -- the copy has the same text, and it starts from the copy of the directory
    have hpass := h.passable hway.passable_of_cons.isDirectory
    have hname := hsite.isName_step htarget
    have hcopy := h.link hsite htarget hresolved
    rw [copiedLink_kept hresolved (by simp [hrelative])] at hcopy
    rw [← List.append_assoc] at htarget hcopy
    obtain ⟨hs, fewer, rfl, hrest⟩ := hway.of_through hname htarget
    rw [startOf, if_neg (by simp [hrelative])] at hrest
    refine ⟨fewer, hrest, fun q hq => .through hpass hs hcopy (fun _ => rfl) ?_⟩
    rwa [startOf, if_neg (by simp [hrelative])]
  | @jump x y s target rest htarget hresolved habsolute =>
    -- the original may go through many links here, its copy goes through one
    have hpass := h.passable hway.passable_of_cons.isDirectory
    have hname := hsite.isName_step htarget
    have hcopy := h.link hsite htarget hresolved
    obtain ⟨fewer, rfl, hrest⟩ := hsite.way_through htarget hresolved hway
    rw [copiedLink_inside hresolved habsolute] at hcopy
    have hjump : ∀ q, Way whole true fewer (V ++ y) rest q →
        Way whole true fewer [] (steps (join copyPath ("/".intercalate y)) ++ rest) q := fun q =>
      (h.way_jump hsite htarget hresolved).mpr
    rw [← List.append_assoc] at htarget hcopy
    obtain ⟨hs, -⟩ := hway.of_through hname htarget
    refine ⟨fewer, hrest, fun q hq => .through hpass hs hcopy (fun _ => rfl) ?_⟩
    rw [startOf, if_pos (isAbsolute_join hsite.literal.absolute _)]
    exact hjump q hq

/-- A way in the copy takes the same step. -/
theorem move_backward (hmove : Move d₀ root a b)
    (hway : Way whole true links (V ++ a.place) a.rest q) :
    Way whole true links (V ++ b.place) b.rest q := by
  cases hmove with
  | stay => exact hway.of_current
  | @up x rest hx =>
    rw [← List.dropLast_append_of_ne_nil hx]
    exact hway.of_parent
  | @down x s rest e he hlink =>
    obtain ⟨copy, hcopy, -⟩ := h.copied _ _ he
    have hnolink := h.not_isLink hlink
    rw [← List.append_assoc] at hcopy hnolink
    obtain ⟨-, hrest⟩ := hway.of_down (hsite.isName_step he) hcopy hnolink
    rwa [List.append_assoc] at hrest
  | @follow x y s target rest htarget hresolved hrelative =>
    have hcopy := h.link hsite htarget hresolved
    rw [copiedLink_kept hresolved (by simp [hrelative]), ← List.append_assoc] at hcopy
    obtain ⟨-, fewer, rfl, hrest⟩ := hway.of_through (hsite.isName_step htarget) hcopy
    rw [startOf, if_neg (by simp [hrelative])] at hrest
    exact hrest.mono (Nat.le_succ fewer)
  | @jump x y s target rest htarget hresolved habsolute =>
    have hcopy := h.link hsite htarget hresolved
    rw [copiedLink_inside hresolved habsolute, ← List.append_assoc] at hcopy
    obtain ⟨-, fewer, rfl, hrest⟩ := hway.of_through (hsite.isName_step htarget) hcopy
    rw [startOf, if_pos (isAbsolute_join hsite.literal.absolute _)] at hrest
    exact ((h.way_jump hsite htarget hresolved).mp hrest).mono (Nat.le_succ fewer)

/-! ## Ways inside a copy -/

/-- So it is for any number of steps. -/
theorem moves_forward (hmoves : ReflTransGen (Move d₀ root) a b)
    (hway : Way d₀ true links (root ++ a.place) a.rest p) :
    ∃ fewer, Way d₀ true fewer (root ++ b.place) b.rest p ∧
      ∀ q, Way whole true fewer (V ++ b.place) b.rest q →
        Way whole true links (V ++ a.place) a.rest q := by
  induction hmoves using ReflTransGen.head_induction_on generalizing links with
  | refl => exact ⟨links, hway, fun _ hq => hq⟩
  | head hmove hmoves ih =>
    obtain ⟨fewer, hnext, hback⟩ := h.move_forward hsite hmove hway
    obtain ⟨fewest, hlast, hback'⟩ := ih hnext
    exact ⟨fewest, hlast, fun q hq => hback q (hback' q hq)⟩

theorem moves_backward (hmoves : ReflTransGen (Move d₀ root) a b)
    (hway : Way whole true links (V ++ a.place) a.rest q) :
    Way whole true links (V ++ b.place) b.rest q := by
  induction hmoves with
  | refl => exact hway
  | tail hmoves hmove ih => exact h.move_backward hsite hmove ih

/-- A way that stays inside leads to the copy of what it leads to in the project. -/
theorem stays (hstays : StaysInside d₀ root a)
    (hway : Way d₀ true links (root ++ a.place) a.rest p) :
    ∃ y, p = root ++ y ∧ Way whole true links (V ++ a.place) a.rest (V ++ y) := by
  rcases hstays with ⟨y, hmoves⟩
  obtain ⟨fewer, hend, hback⟩ := h.moves_forward hsite hmoves hway
  cases hend
  exact ⟨y, rfl, hback _ (.here fewer _)⟩

/-- From a place outside of the project, which a link leads to, a way goes on as it did. -/
theorem way_outside (htarget : d₀.lookup (root ++ (x ++ [s])) = some (.link target))
    (hresolved : d₀.canonical [] (pathOf (root ++ (x ++ [s]))) = .ok q)
    (hrest : Way d₀ true links q rest p) (hp : (d₀.lookup p).isSome) :
    Way whole true links [] (steps (pathOf q) ++ rest) p := by
  have hagree := h.shape_eq hsite
  obtain ⟨hreach, hnolink⟩ := hsite.inReach_of_canonical htarget hresolved
  obtain ⟨-, -, -, hsome⟩ := hsite.way_of_canonical htarget hresolved
  have hnames := hsite.wellFormed.isName q hsome
  rw [← isLink_of_shape_eq (hagree q hsome)] at hnolink
  refine (hreach.agree hagree).way_literal hnolink (.pathOf hnames) (fun hend => ?_)
    (hrest.agree hagree hp)
  -- only the path of the root ends with a slash
  by_cases hq : q = []
  · exact hq ▸ passable_root whole
  · rw [endsAsDirectory_pathOf hnames hq] at hend
    cases hend

/-- The copy of a link that leads out of the project leads on like the link. -/
theorem exit_forward (htarget : d₀.lookup (root ++ (x ++ [s])) = some (.link target))
    (hresolved : d₀.canonical [] (pathOf (root ++ (x ++ [s]))) = .ok q) (hout : ¬ root <+: q)
    (hway : Way d₀ true links (root ++ x) (s :: rest) p) (hp : (d₀.lookup p).isSome) :
    Way whole true links (V ++ x) (s :: rest) p := by
  have hpass := h.passable hway.passable_of_cons.isDirectory
  have hname := hsite.isName_step htarget
  have hcopy := h.link hsite htarget hresolved
  obtain ⟨fewer, rfl, hlater⟩ := hsite.way_through htarget hresolved hway
  have houtside := h.way_outside hsite htarget hresolved hlater hp
  rw [← List.append_assoc] at htarget
  obtain ⟨hs, fewer', hfewer, hrest⟩ := hway.of_through hname htarget
  obtain rfl := Nat.succ.inj hfewer
  cases habsolute : isAbsolute target with
  | true =>
    -- the text is kept, and the way by it is that of the original
    have hstart : ∀ here, startOf here target = [] := fun here => if_pos habsolute
    rw [copiedLink_kept hresolved (by simp [habsolute, hout]), ← List.append_assoc] at hcopy
    rw [hstart] at hrest
    refine .through hpass hs hcopy (fun _ => rfl) ?_
    rw [hstart]
    exact hrest.agree (h.shape_eq hsite) hp
  | false =>
    -- the text is the path of the place outside
    rw [copiedLink_outside hresolved habsolute hout, ← List.append_assoc] at hcopy
    have hstart : startOf (V ++ x) (pathOf q) = [] := if_pos (isAbsolute_slash_append _)
    refine .through hpass hs hcopy (fun _ => rfl) ?_
    rw [hstart]
    exact houtside

/-- A way that leaves by a link leads to where it leads in the project, be that inside or not. -/
theorem exits (hexits : LeavesByLink d₀ root a)
    (hway : Way d₀ true links (root ++ a.place) a.rest p) (hp : (d₀.lookup p).isSome) :
    Way whole true links (V ++ a.place) a.rest p := by
  rcases hexits with ⟨x, s, rest, target, q, hmoves, htarget, hresolved, hout⟩
  obtain ⟨fewer, hlast, hback⟩ := h.moves_forward hsite hmoves hway
  exact hback p (h.exit_forward hsite htarget hresolved hout hlast hp)

/-- A way that goes up and out goes on from the directory that the copy is in. -/
theorem goesAbove (habove : GoesAbove d₀ root a rest)
    (hway : Way whole true links (V ++ a.place) a.rest q) :
    Way whole true links V.dropLast rest q := by
  have hlast := h.moves_backward hsite habove hway
  rw [List.append_nil] at hlast
  exact hlast.of_parent

/-- The path of the copy of a link leads where the way from its directory leads. -/
theorem canonical_copy_iff (htarget : d₀.lookup (root ++ (x ++ [s])) = some (.link target))
    (hresolved : d₀.canonical [] (pathOf (root ++ (x ++ [s]))) = .ok p) :
    whole.canonical cwd (join copyPath ("/".intercalate (x ++ [s]))) = .ok q ↔
      Way whole true maxLinks (V ++ x) [s] q ∧ (whole.lookup q).isSome := by
  have hsome : (d₀.lookup (root ++ (x ++ [s]))).isSome := by rw [htarget]; rfl
  have hne : x ++ [s] ≠ [] := by simp
  have hname := hsite.isName htarget
  have hliteral := hsite.literal.join hname
  have htext := h.text _ hne hsome
  obtain ⟨hreach, hpass, -⟩ := hsite.way_of_canonical htarget hresolved
  have hreach := h.inReach hreach
  have hnolink := (h.passable hpass.isDirectory).not_isLink
  have hsteps : steps (join copyPath ("/".intercalate (x ++ [s]))) = V ++ x ++ [s] := by
    rw [steps_literal hliteral, endsAsDirectory_copy hne hname, if_neg Bool.false_ne_true,
      List.append_nil, List.append_assoc]
  rw [canonical_ok, resolve, resolveWith_ok_iff, startOf_literal hliteral, hsteps]
  refine and_congr_left fun _ => ⟨fun hway => ?_, fun hway => ⟨htext, ?_⟩⟩
  · exact hreach.of_way_steps hnolink hway.2
  · exact hreach.way_steps hnolink hway

end Replica

/-! ## How ways end -/

/-- A way in a project stays inside, leaves by a link or goes up and out. -/
def Ends (d : Disk) (root : Place) (a : Position) : Prop :=
  StaysInside d root a ∨ LeavesByLink d root a ∨ ∃ rest, GoesAbove d root a rest

theorem Ends.of_move {a b : Position} (hmove : Move d root a b) (h : Ends d root b) :
    Ends d root a := by
  rcases h with ⟨y, hmoves⟩ | ⟨x, s, rest, target, q, hmoves, hlink⟩ | ⟨rest, hmoves⟩
  · exact .inl ⟨y, hmoves.head hmove⟩
  · exact .inr (.inl ⟨x, s, rest, target, q, hmoves.head hmove, hlink⟩)
  · exact .inr (.inr ⟨rest, hmoves.head hmove⟩)

/-- There is nothing else that a way to something can do, if all links have paths. -/
theorem exists_ending (hsite : Site d₀ cwd source copyPath root V)
    (htexts : ∀ r, (d₀.lookup (root ++ r)).isSome → textProblem? (pathOf (root ++ r)) = none)
    (hway : Way d₀ true links (root ++ x) path p) (hlinks : links ≤ maxLinks)
    (hreach : d₀.InReach (root ++ x)) (hp : (d₀.lookup p).isSome) : Ends d₀ root ⟨x, path⟩ := by
  -- a link on the way costs one of the links that are left, and any other step shortens the path
  induction links using Nat.strong_induction_on generalizing x path with
  | _ links ihlinks =>
  induction path generalizing x with
  | nil => exact .inl ⟨x, .refl⟩
  | cons s rest ih =>
    have hpass := hway.passable_of_cons
    cases hway with
    | stay hhere hrest => exact .of_move .stay (ih hrest hreach)
    | up hhere hrest =>
      by_cases hx : x = []
      · subst hx
        exact .inr (.inr ⟨rest, .refl⟩)
      · rw [List.dropLast_append_of_ne_nil hx] at hrest
        refine .of_move (.up hx) (ih hrest (hreach.of_prefix ?_))
        exact (List.prefix_append_right_inj root).mpr (List.dropLast_prefix x)
    | down hhere hs he hlink hrest =>
      have hnext := hreach.concat hpass hs
      rw [List.append_assoc] at he hlink hrest hnext
      exact .of_move (.down he hlink) (ih hrest hnext)
    | missing hhere hs hnone =>
      rw [hnone] at hp
      cases hp
    | atLink hhere hs hlink hfollow => cases hfollow
    | @through fewer _ _ _ target _ hhere hs htarget _ hrest =>
      obtain ⟨mid, hfirst, fewest, hfewest, hlater⟩ := hrest.split
      have hsome : (d₀.lookup mid).isSome := by
        cases rest with
        | nil =>
          cases hlater
          exact hp
        | cons t rest => exact hlater.passable_of_cons.isDirectory.isSome_lookup
      have hlink : Way d₀ true (fewer + 1) (root ++ x) [s] mid := by
        refine .through hhere hs htarget (fun _ => rfl) ?_
        rwa [List.append_nil]
      rw [List.append_assoc] at htarget
      have hresolved : d₀.canonical [] (pathOf (root ++ (x ++ [s]))) = .ok mid :=
        hsite.canonical_of_way htarget (htexts _ (by rw [htarget]; rfl)) hreach hlink hlinks hsome
      by_cases hin : root <+: mid
      · rcases hin with ⟨y, rfl⟩
        cases habsolute : isAbsolute target with
        | true =>
          refine .of_move (.jump htarget hresolved habsolute) ?_
          exact ihlinks fewest (by omega) hlater (by omega)
            (hlink.inReach hreach hpass.not_isLink).1
        | false =>
          rw [startOf, if_neg (by simp [habsolute])] at hrest
          refine .of_move (.follow htarget hresolved habsolute) ?_
          exact ihlinks fewer (by omega) hrest (by omega) hreach
      · exact .inr (.inl ⟨x, s, rest, target, mid, .refl, htarget, hresolved, hin⟩)

/-! ## What becomes of links -/

section Copied

variable {a : Position} (h : Replica d₀ root V copyPath whole)
  (hsite : Site d₀ cwd source copyPath root V)
  (htarget : d₀.lookup (root ++ (x ++ [s])) = some (.link target))
  (hresolved : d₀.canonical [] (pathOf (root ++ (x ++ [s]))) = .ok p)

include h hsite htarget hresolved

theorem Replica.copied_of_stays (hmoves : ReflTransGen (Move d₀ root) ⟨x, [s]⟩ a)
    (hstays : StaysInside d₀ root a) (hp : p = root ++ y) :
    whole.canonical cwd (join copyPath ("/".intercalate (x ++ [s]))) = .ok (V ++ y) := by
  obtain ⟨-, -, hway, hsome⟩ := hsite.way_of_canonical htarget hresolved
  obtain ⟨e, he⟩ := Option.isSome_iff_exists.mp hsome
  rcases hstays with ⟨z, hend⟩
  obtain ⟨y', heq, hcopy⟩ := h.stays hsite ⟨z, hmoves.trans hend⟩ hway
  subst heq
  obtain rfl := List.append_cancel_left hp
  refine (h.canonical_copy_iff hsite htarget hresolved).mpr ⟨hcopy, ?_⟩
  -- what is in the project has a copy
  obtain ⟨copy, hthere, -⟩ := h.copied y' e he
  rw [hthere]
  rfl

theorem Replica.copied_of_exits (hmoves : ReflTransGen (Move d₀ root) ⟨x, [s]⟩ a)
    (hexits : LeavesByLink d₀ root a) :
    whole.canonical cwd (join copyPath ("/".intercalate (x ++ [s]))) = .ok p := by
  obtain ⟨-, -, hway, hsome⟩ := hsite.way_of_canonical htarget hresolved
  rcases hexits with ⟨x', s', rest, target', q, hmore, hlink⟩
  have hstart : LeavesByLink d₀ root ⟨x, [s]⟩ :=
    ⟨x', s', rest, target', q, hmoves.trans hmore, hlink⟩
  refine (h.canonical_copy_iff hsite htarget hresolved).mpr
    ⟨h.exits hsite hstart hway hsome, ?_⟩
  rwa [isSome_lookup_of_shape_eq (h.shape_eq hsite p hsome)]

omit h in
/-- A relative link that leads into the project is its text from then on. -/
theorem ends_of_relative (hrelative : isAbsolute target = false)
    (htexts : ∀ r, (d₀.lookup (root ++ r)).isSome → textProblem? (pathOf (root ++ r)) = none) :
    Ends d₀ root ⟨x, steps target⟩ := by
  obtain ⟨hreach, -, hway, hsome⟩ := hsite.way_of_canonical htarget hresolved
  have hname := hsite.isName_step htarget
  rw [← List.append_assoc] at htarget
  obtain ⟨-, fewer, hfewer, hrest⟩ := hway.of_through hname htarget
  rw [startOf, if_neg (by simp [hrelative]), List.append_nil] at hrest
  exact exists_ending hsite htexts hrest (by omega) hreach hsome

end Copied

/-- After a copy that succeeds, in the place of the copy there are the same directories and files
as in the project, with links for its links, and nothing else has changed. Of the links that lead
somewhere, one that leads out of the project still leads to the same place, and an absolute one that
leads into the project leads to the copy of what it leads to. A relative one that leads into the
project does so as well if its way stays inside. But its text is kept in any case: if the way leaves
by another link and comes back, the copy leads to the original, and if it goes up and out, the copy
leads to wherever the steps after that lead from the directory that the copy is in. There is nothing
else that the way can do. -/
theorem copied_links_lead_on (hsite : Site d₀ cwd source copyPath root V) (hnodup : d₀.PlacesNodup)
    (hrun : (copyTree cwd source copyPath).run.run d₀ = (.ok (), whole)) :
    (∀ q, ¬ V <+: q → whole.lookup q = d₀.lookup q) ∧
    (∀ r, whole.contentAt (V ++ r) = d₀.contentAt (root ++ r)) ∧
    ∀ x s target p, d₀.lookup (root ++ (x ++ [s])) = some (.link target) →
      d₀.canonical [] (pathOf (root ++ (x ++ [s]))) = .ok p →
      let copied := whole.canonical cwd (join copyPath ("/".intercalate (x ++ [s])))
      (¬ root <+: p → copied = .ok p) ∧
      ∀ y, p = root ++ y →
        (isAbsolute target = true → copied = .ok (V ++ y)) ∧
        (isAbsolute target = false →
          (StaysInside d₀ root ⟨x, steps target⟩ → copied = .ok (V ++ y)) ∧
          (LeavesByLink d₀ root ⟨x, steps target⟩ → copied = .ok p) ∧
          (∀ rest q, GoesAbove d₀ root ⟨x, steps target⟩ rest → copied = .ok q →
            Way whole true maxLinks V.dropLast rest q) ∧
          ((∀ r, (d₀.lookup (root ++ r)).isSome → textProblem? (pathOf (root ++ r)) = none) →
            Ends d₀ root ⟨x, steps target⟩)) := by
  obtain ⟨l, hwalk, hwalked⟩ := exists_walk hsite hsite.remains hnodup
  have h := replica_of_copyTreeIn hsite hwalk (hwalked.symm.trans hrun)
  refine ⟨h.outside, h.contentAt_eq, fun x s target p htarget hresolved => ⟨fun hout => ?_, ?_⟩⟩
  · exact h.copied_of_exits hsite htarget hresolved .refl
      ⟨x, s, [], target, p, .refl, htarget, hresolved, hout⟩
  rintro y rfl
  refine ⟨fun habsolute => ?_, fun hrelative => ?_⟩
  · have hjump : Move d₀ root ⟨x, [s]⟩ ⟨y, []⟩ := .jump htarget hresolved habsolute
    exact h.copied_of_stays hsite htarget hresolved (.single hjump) ⟨y, .refl⟩ rfl
  have hfollow : Move d₀ root ⟨x, [s]⟩ ⟨x, steps target ++ []⟩ :=
    .follow htarget hresolved hrelative
  rw [List.append_nil] at hfollow
  refine ⟨fun hstays => ?_, fun hexits => ?_, fun rest q habove hcopied => ?_, fun htexts => ?_⟩
  · exact h.copied_of_stays hsite htarget hresolved (.single hfollow) hstays rfl
  · exact h.copied_of_exits hsite htarget hresolved (.single hfollow) hexits
  · have hway := ((h.canonical_copy_iff hsite htarget hresolved).mp hcopied).1
    exact h.goesAbove hsite (habove.head hfollow) hway
  · exact ends_of_relative hsite htarget hresolved hrelative htexts

/-! ### A project with all kinds of links -/

/-- Links that stay inside a project, lead out of it, and come back to it. -/
def linkedWorkspace : Workspace :=
  workspaceWith [(["project", "lib"], .directory ⟨directoryMode, true, 0, none⟩),
    (["project", "lib", "a"], fileOf "a\n"),
    (["project", "near"], .link "lib/a"),
    (["project", "whole"], .link "/project/lib"),
    (["project", "out"], .link "../other"),
    (["project", "round"], .link "../project/lib/a"),
    (["project", "through"], .link "out/back/a"),
    (["other"], .directory ⟨directoryMode, true, 0, none⟩),
    (["other", "back"], .link "../project/lib")]

theorem site_linkedWorkspace :
    Site linkedWorkspace.disk [] "project" "/tmp/copy" ["project"] ["tmp", "copy"] where
  wellFormed := .of_entries (by decide +kernel)
  canonical := ok_of_toOption (by decide +kernel)
  isDirectory := contentAt_eq_directory.mp (by decide +kernel)
  literal := ⟨by decide, by decide +kernel, by decide⟩
  room := by decide +kernel
  ne_nil := by decide
  above := contentAt_eq_directory.mp (by decide +kernel)
  apart r := by simp
  empty := lookup_eq_none_of_entries (by decide) (by decide +kernel)

/-- Three of them keep their meaning. -/
theorem links_that_lead_on : ∃ whole,
    (copyTree [] "project" "/tmp/copy").run.run linkedWorkspace.disk = (.ok (), whole) ∧
    whole.contentAt ["tmp", "copy", "lib", "a"] = some (.file (Text.bytesOf "a\n") fileMode) ∧
    whole.canonical [] "/tmp/copy/near" = .ok ["tmp", "copy", "lib", "a"] ∧
    whole.canonical [] "/tmp/copy/whole" = .ok ["tmp", "copy", "lib"] ∧
    whole.canonical [] "/tmp/copy/out" = .ok ["other"] := by
  have hrun : ((copyTree [] "project" "/tmp/copy").run.run linkedWorkspace.disk).1.toOption =
      some () := by decide +kernel
  obtain ⟨-, hcontent, hlinks⟩ :=
    copied_links_lead_on site_linkedWorkspace (by decide +kernel) (eq_of_fst hrun)
  obtain ⟨-, hnear⟩ := hlinks [] "near" "lib/a" ["project", "lib", "a"] (by decide +kernel)
    (ok_of_toOption (by decide +kernel))
  obtain ⟨-, hwhole⟩ := hlinks [] "whole" "/project/lib" ["project", "lib"] (by decide +kernel)
    (ok_of_toOption (by decide +kernel))
  obtain ⟨hout, -⟩ := hlinks [] "out" "../other" ["other"] (by decide +kernel)
    (ok_of_toOption (by decide +kernel))
  -- the first one goes down twice
  have hlib : Move linkedWorkspace.disk ["project"] ⟨[], ["lib", "a"]⟩ ⟨["lib"], ["a"]⟩ :=
    .down (e := .directory ⟨directoryMode, true, 0, none⟩) (by decide +kernel)
      (contentAt_eq_link.not.mp (by decide +kernel))
  have ha : Move linkedWorkspace.disk ["project"] ⟨["lib"], ["a"]⟩ ⟨["lib", "a"], []⟩ :=
    .down (e := fileOf "a\n") (by decide +kernel) (contentAt_eq_link.not.mp (by decide +kernel))
  have hstays : StaysInside linkedWorkspace.disk ["project"] ⟨[], steps "lib/a"⟩ := by
    rw [show steps "lib/a" = ["lib", "a"] by decide +kernel]
    exact ⟨["lib", "a"], .head hlib (.single ha)⟩
  refine ⟨_, eq_of_fst hrun, (hcontent ["lib", "a"]).trans (by decide +kernel), ?_, ?_, ?_⟩
  · exact ((hnear ["lib", "a"] rfl).2 (by decide)).1 hstays
  · exact (hwhole ["lib"] rfl).1 (by decide)
  · exact hout (by decide)

/-- The other two lead to a file of the project by a way that leaves it. In the copy, one leads
nowhere and the other one to the original. -/
theorem links_that_come_back_are_lost :
    let d := linkedWorkspace.disk
    let copying := (copyTree [] "project" "/tmp/copy").run.run d
    d.canonical [] "/project/round" = .ok ["project", "lib", "a"] ∧
    d.canonical [] "/project/through" = .ok ["project", "lib", "a"] ∧
    copying.1 = .ok () ∧
    copying.2.canonical [] "/tmp/copy/round" = .error .notFound ∧
    copying.2.canonical [] "/tmp/copy/through" = .ok ["project", "lib", "a"] := by
  decide +kernel

end Project

end ProgramRepair
