import Mathlib.Data.List.Forall2
import ProgramRepair.Proofs.Source.Reparsing

/-!
# Statements at another place

A statement that is moved takes over the indentation of its new place. `LiesAt` says line by line
what it looks like there, whatever its lines are: code, the rest of a bracket or the contents of a
string literal. Main statement:

* `transplant_keeps_shape`: a moved statement lies at the indentation of its new place, and under
  every patch so does everything at the place of a unit.
-/

namespace ProgramRepair.Source

open Text

/-! ## Indentations -/

/-- The blanks that the first line of a text begins with. -/
def leadingBlanks (text : List Char) : List Char :=
  (text.takeWhile (· ≠ '\n')).takeWhile isBlank

/-- A line at the indentation `was`, and the same line at the indentation `now`. -/
inductive Reindented (was now : List Char) : List Char → List Char → Prop
  | moved (rest : List Char) : Reindented was now (was ++ rest) (now ++ rest)
  /-- A line that does not begin with the indentation stays as it is. -/
  | kept {line : List Char} : ¬ was <+: line → Reindented was now line line

/-- Moving from the indentation `was` to `now` changes nothing on a line. -/
def Stays (was now line : List Char) : Prop := was = now ∨ ¬ was <+: line

instance (was now line : List Char) : Decidable (Stays was now line) :=
  inferInstanceAs (Decidable (_ ∨ _))

/-- The text `moved` is `unit` with the indentation `now`: behind its blanks the first line is the
same one, and every line is reindented. -/
structure LiesAt (now unit moved : List Char) : Prop where
  first : ∃ c rest, isBlank c = false ∧
    (cut '\n' unit).head? = some (leadingBlanks unit ++ c :: rest) ∧
    (cut '\n' moved).head? = some (now ++ c :: rest)
  lines : List.Forall₂ (Reindented (leadingBlanks unit) now) (cut '\n' unit) (cut '\n' moved)

section Blanks

variable {blanks rest text : List Char} {c : Char}

theorem isBlank_of_mem_leadingBlanks (h : c ∈ leadingBlanks text) : isBlank c = true :=
  List.mem_takeWhile_imp h

theorem takeWhile_isBlank (hblanks : ∀ a ∈ blanks, isBlank a = true) (hc : isBlank c = false) :
    (blanks ++ c :: rest).takeWhile isBlank = blanks := by
  rw [List.takeWhile_append_of_pos hblanks, List.takeWhile_cons_of_neg (by simp [hc]),
    List.append_nil]

/-- A text whose first line is not blank begins with the blanks of this line. -/
theorem leadingBlanks_eq (hblanks : ∀ a ∈ blanks, isBlank a = true) (hc : isBlank c = false)
    (hfirst : (cut '\n' text).head? = some (blanks ++ c :: rest)) :
    leadingBlanks text = blanks := by
  rw [head?_cut, Option.some.injEq] at hfirst
  rw [leadingBlanks, hfirst, takeWhile_isBlank hblanks hc]

/-- A line that is neither blank nor a comment has something behind its blanks. -/
theorem exists_of_isFixedLine_eq_false {line : List Char} (h : isFixedLine line = false) :
    ∃ c rest, isBlank c = false ∧ line = line.takeWhile isBlank ++ c :: rest := by
  have hsplit : line.takeWhile isBlank ++ trimStart line = line := List.takeWhile_append_dropWhile
  cases htrim : trimStart line with
  | nil =>
    rw [isFixedLine, htrim] at h
    cases h
  | cons c rest =>
    refine ⟨c, rest, ?_, by rw [← htrim, hsplit]⟩
    have hhead := List.head?_dropWhile_not isBlank line
    rw [show line.dropWhile isBlank = c :: rest from htrim] at hhead
    simpa using hhead

/-- How the first line ends does not matter if it is not blank. -/
theorem indentation_eq_leadingBlanks (hblanks : ∀ a ∈ blanks, isBlank a = true)
    (hc : isBlank c = false) (hfirst : text.takeWhile (· ≠ '\n') = blanks ++ c :: rest) :
    indentation text = blanks := by
  unfold indentation firstLine
  simp only [hfirst]
  split
  · next hreturn =>
    -- the line break is no part of the line, and what is cut off with it is blank
    have hrest : rest ≠ [] := by
      rintro rfl
      have hlast : c = '\r' := by simpa using (Bool.and_eq_true_iff.mp hreturn).2
      subst hlast
      cases hc
    have hcut : (blanks ++ c :: rest).dropLast = blanks ++ c :: rest.dropLast := by
      rw [List.dropLast_append_of_ne_nil (List.cons_ne_nil c rest),
        List.dropLast_cons_of_ne_nil hrest]
    rw [hcut, takeWhile_isBlank hblanks hc]
  · exact takeWhile_isBlank hblanks hc

end Blanks

theorem dropLead?_append (lead rest : List Char) : dropLead? lead (lead ++ rest) = some rest := by
  induction lead with
  | nil => rfl
  | cons a lead ih => exact (if_pos rfl).trans ih

section Reindent

variable {was now line : List Char}

@[simp] theorem reindentLine_append (was now rest : List Char) :
    reindentLine was now (was ++ rest) = now ++ rest := by
  rw [reindentLine, dropLead?_append]

theorem reindentLine_of_not_indented (h : ¬ was <+: line) : reindentLine was now line = line := by
  rcases reindentLine_cases was now line with ⟨rest, hline, -⟩ | hsame
  · exact absurd ⟨rest, hline.symm⟩ h
  · exact hsame

/-- A line is moved if it begins with the indentation, unless it is at home already. -/
theorem reindentLine_eq_self_iff : reindentLine was now line = line ↔ Stays was now line := by
  unfold Stays
  by_cases hprefix : was <+: line
  · obtain ⟨rest, rfl⟩ := hprefix
    rw [reindentLine_append, List.append_left_inj]
    simp [eq_comm]
  · simp [reindentLine_of_not_indented hprefix, hprefix]

theorem reindented_reindentLine (was now line : List Char) :
    Reindented was now line (reindentLine was now line) := by
  by_cases hprefix : was <+: line
  · obtain ⟨rest, rfl⟩ := hprefix
    rw [reindentLine_append]
    exact .moved rest
  · rw [reindentLine_of_not_indented hprefix]
    exact .kept hprefix

theorem reindent_self (was text : List Char) : reindent was was text = text := by
  have hlines : (cut '\n' text).map (reindentLine was was) = cut '\n' text :=
    List.map_id'' (fun line => reindentLine_eq_self_iff.mpr (.inl rfl)) _
  rw [reindent_eq, hlines, glue_cut]

end Reindent

/-! ## Moved statements -/

/-- Whether an edit says what the text of a unit is; an insertion only adds to it. -/
def Edit.sets (e : Edit) (s : Site) : Bool := e.target = s && !e.isInsertion

namespace File

section Statements

variable {path : String} {text unit there : List Char} {i t : Nat}

/-- A statement has something behind the blanks that it begins with. -/
theorem exists_first_line (h : (parse path .statement text).unit? i = some unit) :
    ∃ c rest, isBlank c = false ∧
      (cut '\n' unit).head? = some (leadingBlanks unit ++ c :: rest) := by
  obtain ⟨ps, hsplit, -, hform⟩ := exists_parts_parse path .statement text
  have hunit : unit ∈ (parse path .statement text).split.units := List.mem_of_getElem? h
  rw [hsplit, Split.mem_units_ofParts] at hunit
  obtain ⟨c, rest, hc, hline⟩ :=
    exists_of_isFixedLine_eq_false (isFixedLine_takeWhile_of_isStatement (hform _ hunit))
  exact ⟨c, rest, hc, by rw [head?_cut, leadingBlanks, ← hline]⟩

theorem indentation_unit (h : (parse path .statement text).unit? i = some unit) :
    indentation unit = leadingBlanks unit := by
  obtain ⟨c, rest, hc, hfirst⟩ := exists_first_line h
  rw [head?_cut, Option.some.injEq] at hfirst
  exact indentation_eq_leadingBlanks (fun _ => isBlank_of_mem_leadingBlanks) hc hfirst

/-- The lines of a moved statement. -/
theorem cut_transplanted (hi : (parse path .statement text).unit? i = some unit)
    (ht : (parse path .statement text).unit? t = some there) :
    cut '\n' ((parse path .statement text).transplanted i t) =
      (cut '\n' unit).map (reindentLine (leadingBlanks unit) (leadingBlanks there)) := by
  have hmoved : (parse path .statement text).transplanted i t =
      reindent (indentation unit) (indentation there) unit := transplanted_eq_fitted hi ht
  rw [hmoved, cut_reindent (not_mem_indentation there), indentation_unit hi, indentation_unit ht]

theorem liesAt_transplanted (hi : (parse path .statement text).unit? i = some unit)
    (ht : (parse path .statement text).unit? t = some there) :
    LiesAt (leadingBlanks there) unit ((parse path .statement text).transplanted i t) where
  first := by
    obtain ⟨c, rest, hc, hfirst⟩ := exists_first_line hi
    refine ⟨c, rest, hc, hfirst, ?_⟩
    rw [cut_transplanted hi ht, List.head?_map, hfirst, Option.map_some, reindentLine_append]
  lines := by
    rw [cut_transplanted hi ht, List.forall₂_map_right_iff, List.forall₂_same]
    exact fun line _ => reindented_reindentLine _ _ line

/-! ## Places under edits -/

/-- The `pass` that a deleted statement leaves behind stands at the statement's indentation. -/
theorem leadingBlanks_remnant (h : (parse path .statement text).unit? i = some unit) :
    (parse path .statement text).remnant unit = leadingBlanks unit ++ "pass".toList ∧
      leadingBlanks ((parse path .statement text).remnant unit) = leadingBlanks unit := by
  have htext : (parse path .statement text).remnant unit = leadingBlanks unit ++ "pass".toList := by
    rw [← indentation_unit h]
    rfl
  have hbreak : '\n' ∉ leadingBlanks unit ++ "pass".toList := by
    intro hmem
    rcases List.mem_append.mp hmem with hlead | hpass
    · rw [← indentation_unit h] at hlead
      exact not_mem_indentation unit hlead
    · revert hpass
      decide
  have hfirst : (cut '\n' ((parse path .statement text).remnant unit)).head? =
      some (leadingBlanks unit ++ 'p' :: "ass".toList) := by
    rw [htext, cut_of_not_mem hbreak]
    rfl
  exact ⟨htext, leadingBlanks_eq (fun _ => isBlank_of_mem_leadingBlanks) (by decide) hfirst⟩

theorem leadingBlanks_transplanted (hi : (parse path .statement text).unit? i = some unit)
    (ht : (parse path .statement text).unit? t = some there) :
    leadingBlanks ((parse path .statement text).transplanted i t) = leadingBlanks there := by
  obtain ⟨c, rest, hc, -, hfirst⟩ := (liesAt_transplanted hi ht).first
  exact leadingBlanks_eq (fun _ => isBlank_of_mem_leadingBlanks) hc hfirst

/-- What an edit brings to its target stands at the target's indentation. -/
theorem leadingBlanks_broughtText {fileIndex : Nat} {e : Edit}
    (he : (parse path .statement text).Effective fileIndex e)
    (ht : (parse path .statement text).unit? e.target.unit = some there) :
    leadingBlanks ((parse path .statement text).broughtText e) = leadingBlanks there := by
  cases e with
  | replacement target ingredient | insertion target ingredient =>
    exact leadingBlanks_transplanted (unit?_eq_some he.2.2) ht
  | deletion target =>
    rw [broughtText_deletion, unitText_eq (u := target.unit) ht]
    exact (leadingBlanks_remnant ht).2

/-- Under every patch, all texts at the place of a unit stand at its indentation. -/
theorem leadingBlanks_of_mem_textsAt {fileIndex : Nat} {edits : List Edit} {moved : List Char}
    (ht : (parse path .statement text).unit? t = some there)
    (hmoved : moved ∈ (parse path .statement text).textsAt fileIndex edits (.unit t)) :
    leadingBlanks moved = leadingBlanks there := by
  -- the texts are those of the insertions in front of the unit, and its own one
  rcases List.mem_append.mp hmoved with hins | hbody
  · obtain ⟨e, he, rfl⟩ := List.mem_map.mp hins
    obtain ⟨heff, rfl, -⟩ : (parse path .statement text).Effective fileIndex e ∧
        e.target.unit = t ∧ e.isInsertion := by
      simpa [insertionsAt] using (List.mem_filter.mp he).2
    exact leadingBlanks_broughtText heff ht
  · rw [List.mem_singleton.mp hbody]
    unfold bodyAt
    cases hlast : ((parse path .statement text).changesAt fileIndex edits t).getLast? with
    | none => rw [unitText_eq ht]
    | some e =>
      obtain ⟨heff, rfl, -⟩ : (parse path .statement text).Effective fileIndex e ∧
          e.target.unit = t ∧ ¬ e.isInsertion := by
        simpa [changesAt] using (List.mem_filter.mp (List.mem_of_getLast? hlast)).2
      exact leadingBlanks_broughtText heff ht

end Statements

/-! ## A unit in its own place -/

theorem transplanted_self (f : File) (u : Nat) : f.transplanted u u = f.unitText u := by
  unfold transplanted
  cases f.granularity with
  | line => rfl
  | statement => exact reindent_self _ _

section Self

variable {f : File} {fileIndex : Nat}

theorem insertionsAt_unset (edits : List Edit) (s : Site) (u : Nat) :
    f.insertionsAt fileIndex (edits.filter (!·.sets s)) u = f.insertionsAt fileIndex edits u := by
  rw [insertionsAt, List.filter_filter]
  refine List.filter_congr fun e _ => ?_
  cases hins : e.isInsertion <;> simp [Edit.sets, hins]

/-- The other changes are those of other units. -/
theorem changesAt_unset (edits : List Edit) (s : Site) (u : Nat) :
    f.changesAt fileIndex (edits.filter (!·.sets s)) u =
      if s = ⟨fileIndex, u⟩ then [] else f.changesAt fileIndex edits u := by
  rw [changesAt, List.filter_filter]
  split
  · next hs =>
    subst hs
    rw [List.filter_eq_nil_iff]
    intro e _ hkept
    obtain ⟨hchange, hset⟩ := Bool.and_eq_true_iff.mp hkept
    obtain ⟨heff, hunit, hins⟩ := of_decide_eq_true hchange
    have htarget : e.target = ⟨fileIndex, u⟩ := by
      rw [← hunit, ← file_eq_of_effective heff]
    simp [Edit.sets, htarget, hins] at hset
  · next hs =>
    refine List.filter_congr fun e _ => ?_
    by_cases heff : f.Effective fileIndex e ∧ e.target.unit = u
    · have htarget : e.target = ⟨fileIndex, u⟩ := by
        rw [← heff.2, ← file_eq_of_effective heff.1]
      have hother : e.target ≠ s := by
        rw [htarget]
        exact Ne.symm hs
      simp [Edit.sets, hother]
    · have hnot : ¬ (f.Effective fileIndex e ∧ e.target.unit = u ∧ ¬ e.isInsertion) :=
        fun h => heff ⟨h.1, h.2.1⟩
      rw [decide_eq_false hnot, Bool.false_and]

/-- A unit that takes its own place undoes what the edits before have set. -/
theorem slots_replacement_self (edits : List Edit) (s : Site) :
    f.slots fileIndex (edits ++ [.replacement s s]) =
      f.slots fileIndex (edits.filter (!·.sets s)) := by
  rw [slots_eq_map_slotAt, slots_eq_map_slotAt]
  refine List.map_congr_left fun u hu => ?_
  rw [slotAt_append]
  by_cases hs : s = ⟨fileIndex, u⟩
  · -- the unit has no change left on the right, and its own text as the last one on the left
    subst hs
    have hunit : u < f.unitCount := List.mem_range.mp hu
    have heff : f.Effective fileIndex (.replacement ⟨fileIndex, u⟩ ⟨fileIndex, u⟩) :=
      ⟨rfl, hunit, hunit⟩
    rw [if_pos ⟨heff, rfl⟩, slotAt, slotAt, insertionsAt_unset, bodyAt, bodyAt, changesAt_unset,
      if_pos rfl]
    exact congrArg (Slot.mk _) (f.transplanted_self u)
  · have hother : ¬ (f.Effective fileIndex (.replacement s s) ∧
        (Edit.replacement s s).target.unit = u) := by
      rintro ⟨heff, rfl⟩
      exact hs (congrArg (Site.mk · s.unit) (file_eq_of_effective heff))
    rw [if_neg hother, slotAt, slotAt, insertionsAt_unset, bodyAt, bodyAt, changesAt_unset,
      if_neg hs]

end Self

/-- Statements keep their shape wherever they are put. In a file that was split by statements, a
unit at the place of another one lies at that one's indentation, line by line, and is verbatim the
unit if both have the same. A unit that is put in its own place undoes all that was set there before.
A rendering is the texts at the places of the pieces, and whatever the edits are, all texts at the
place of a unit stand at its indentation, also the `pass` that is left of it. -/
theorem transplant_keeps_shape (path : String) (text : List Char) :
    let f := parse path .statement text
    (∀ i t unit there, f.unit? i = some unit → f.unit? t = some there →
      ∃ moved, f.transplant? i t = some moved ∧ LiesAt (leadingBlanks there) unit moved ∧
        (leadingBlanks unit = leadingBlanks there → moved = unit)) ∧
    (∀ fileIndex edits s, f.render fileIndex (edits ++ [.replacement s s]) =
      f.render fileIndex (edits.filter (!·.sets s))) ∧
    ∀ fileIndex edits,
      f.render fileIndex edits = glue '\n' (f.split.pieces.flatMap (f.textsAt fileIndex edits)) ++
        (if text.getLast? = some '\n' then ['\n'] else []) ∧
      ∀ u unit, f.unit? u = some unit →
        f.remnant unit = leadingBlanks unit ++ "pass".toList ∧
        ∀ brought ∈ f.textsAt fileIndex edits (.unit u),
          leadingBlanks brought = leadingBlanks unit := by
  intro f
  refine ⟨?_, ?_, ?_⟩
  · intro i t unit there hi ht
    refine ⟨_, transplant?_eq_some (lt_unitCount hi) (lt_unitCount ht),
      liesAt_transplanted hi ht, fun hsame => ?_⟩
    have hmoved : f.transplanted i t = reindent (indentation unit) (indentation there) unit :=
      transplanted_eq_fitted hi ht
    rw [hmoved, indentation_unit hi, indentation_unit ht, hsame, reindent_self]
  · intro fileIndex edits s
    rw [render, slots_replacement_self, render]
  · intro fileIndex edits
    refine ⟨render_parse path .statement text fileIndex edits, fun u unit hu => ?_⟩
    exact ⟨(leadingBlanks_remnant hu).1, fun _ => leadingBlanks_of_mem_textsAt hu⟩

/-- A call with a deeper line and a line at the margin is moved from a tab to two blanks. -/
theorem transplant_keeps_shape_of_call :
    let f := parse "m.py" .statement "if a:\n\tf(1,\n\t\t2,\n3)\n  # c\n  g()\n".toList
    let call := "\tf(1,\n\t\t2,\n3)".toList
    f.transplant? 1 2 = some "  f(1,\n  \t2,\n3)".toList ∧
    LiesAt "  ".toList call "  f(1,\n  \t2,\n3)".toList ∧
    f.transplant? 1 1 = some call ∧
    f.render 0 [.deletion ⟨0, 1⟩, .replacement ⟨0, 1⟩ ⟨0, 1⟩] = f.render 0 [] ∧
    ∀ text ∈ f.textsAt 0 [.insertion ⟨0, 1⟩ ⟨0, 2⟩, .deletion ⟨0, 1⟩] (.unit 1),
      leadingBlanks text = "\t".toList := by
  intro f call
  obtain ⟨hmoves, hself, hplaces⟩ :=
    transplant_keeps_shape "m.py" "if a:\n\tf(1,\n\t\t2,\n3)\n  # c\n  g()\n".toList
  have hcall : f.unit? 1 = some call := by decide
  have hdone : f.transplant? 1 2 = some "  f(1,\n  \t2,\n3)".toList := by decide
  obtain ⟨moved, hmoved, hlies, -⟩ := hmoves 1 2 call "  g()".toList hcall (by decide)
  obtain rfl := Option.some.inj (hmoved.symm.trans hdone)
  obtain ⟨home, hhome, -, hverbatim⟩ := hmoves 1 1 call call hcall hcall
  obtain rfl := hverbatim rfl
  exact ⟨hdone, hlies, hhome, hself 0 [.deletion ⟨0, 1⟩] ⟨0, 1⟩,
    ((hplaces 0 _).2 1 call hcall).2⟩

end File

end ProgramRepair.Source
