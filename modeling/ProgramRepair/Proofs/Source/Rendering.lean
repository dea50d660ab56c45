import Mathlib.Data.List.Basic
import Mathlib.Data.List.Induction
import ProgramRepair.Project.Basic
import ProgramRepair.Proofs.Source.Splitting

/-!
# What a rendering means

The renderer applies edits one after the other to slots. Here the text at a
unit's place is said without slots: the insertions in front of it in their
order, and then what the last edit of the unit's own text says. Only edits that
are `Effective` count.

* `slots_eq_map_slotAt`: the slots after any edits are the ones said here;
* `render_parse`: a rendering is the text at all places, glued;
* `render_eq_reference`: this, and that two patches which agree on their
  effective insertions and on the last effective change of each unit give the
  same texts.
-/

namespace ProgramRepair.Source

open Text

namespace Edit

/-- Insertions add text; all other edits set the text of their target. -/
def isInsertion : Edit → Bool
  | insertion _ _ => true
  | replacement _ _ | deletion _ => false

end Edit

/-- A text made to fit the place of another one in a file that is split in this way. -/
def fitted (g : Granularity) (there text : List Char) : List Char :=
  match g with
  | .line => text
  | .statement => reindent (indentation text) (indentation there) text

namespace File

variable (f : File) (fileIndex : Nat)

/-! ## Reference -/

/-- An edit takes effect on a file if it is aimed at it and all units that it needs are there. -/
def Effective : Edit → Prop
  | .replacement target ingredient | .insertion target ingredient =>
    target.file = fileIndex ∧ target.unit < f.unitCount ∧ ingredient.unit < f.unitCount
  | .deletion target => target.file = fileIndex ∧ target.unit < f.unitCount

instance : DecidablePred (f.Effective fileIndex)
  | .replacement _ _ | .insertion _ _ => inferInstanceAs (Decidable (_ ∧ _ ∧ _))
  | .deletion _ => inferInstanceAs (Decidable (_ ∧ _))

/-- The effective insertions in front of a unit. -/
def insertionsAt (edits : List Edit) (u : Nat) : List Edit :=
  edits.filter fun e => f.Effective fileIndex e ∧ e.target.unit = u ∧ e.isInsertion

/-- The effective replacements and deletions of a unit. -/
def changesAt (edits : List Edit) (u : Nat) : List Edit :=
  edits.filter fun e => f.Effective fileIndex e ∧ e.target.unit = u ∧ ¬ e.isInsertion

/-- The text of a unit. -/
def unitText (u : Nat) : List Char := (f.unit? u).getD []

/-- The text of a unit at the place of another one. -/
def transplanted (ingredient target : Nat) : List Char :=
  match f.granularity with
  | .line => f.unitText ingredient
  | .statement =>
    reindent (indentation (f.unitText ingredient)) (indentation (f.unitText target))
      (f.unitText ingredient)

/-- The text that an edit brings to its target. -/
def broughtText : Edit → List Char
  | .replacement target ingredient | .insertion target ingredient =>
    f.transplanted ingredient.unit target.unit
  | .deletion target =>
    match f.granularity with
    | .line => []
    | .statement => indentation (f.unitText target.unit) ++ "pass".toList

/-- The text of a unit under some edits: what the last change says, if there is one. -/
def bodyAt (edits : List Edit) (u : Nat) : List Char :=
  match (f.changesAt fileIndex edits u).getLast? with
  | some e => f.broughtText e
  | none => f.unitText u

/-- The texts at the place of a piece under some edits. -/
def textsAt (edits : List Edit) : Piece → List (List Char)
  | .fixed line => [line]
  | .unit u => (f.insertionsAt fileIndex edits u).map f.broughtText ++ [f.bodyAt fileIndex edits u]

/-! ## Slots -/

/-- The slot of a unit after an effective edit of it. -/
def place (e : Edit) (slot : Slot) : Slot :=
  if e.isInsertion then { slot with before := slot.before ++ [f.broughtText e] }
  else { slot with body := f.broughtText e }

/-- The slot of a unit under some edits. -/
def slotAt (edits : List Edit) (u : Nat) : Slot :=
  ⟨(f.insertionsAt fileIndex edits u).map f.broughtText, f.bodyAt fileIndex edits u⟩

variable {f fileIndex}

theorem unit?_eq_some {u : Nat} (h : u < f.unitCount) : f.unit? u = some (f.unitText u) := by
  have hget : f.unit? u = some f.split.units[u] := List.getElem?_eq_getElem h
  rw [unitText, hget]
  rfl

theorem unit?_eq_none {u : Nat} (h : ¬ u < f.unitCount) : f.unit? u = none :=
  List.getElem?_eq_none (Nat.le_of_not_lt h)

theorem unitText_eq {u : Nat} {text : List Char} (h : f.unit? u = some text) :
    f.unitText u = text := by
  rw [unitText, h, Option.getD_some]

theorem lt_unitCount {u : Nat} {text : List Char} (h : f.unit? u = some text) : u < f.unitCount :=
  (List.getElem?_eq_some_iff.mp h).1

theorem transplanted_eq_fitted {i t : Nat} {text there : List Char} (hi : f.unit? i = some text)
    (ht : f.unit? t = some there) : f.transplanted i t = fitted f.granularity there text := by
  rw [transplanted, unitText_eq hi, unitText_eq ht]
  rfl

theorem transplant?_eq_some {ingredient target : Nat} (hi : ingredient < f.unitCount)
    (ht : target < f.unitCount) :
    f.transplant? ingredient target = some (f.transplanted ingredient target) := by
  unfold transplant? transplanted
  rw [unit?_eq_some hi, unit?_eq_some ht]
  cases f.granularity <;> rfl

theorem transplant?_eq_none {ingredient target : Nat} (hi : ¬ ingredient < f.unitCount) :
    f.transplant? ingredient target = none := by
  simp [transplant?, unit?_eq_none hi]

theorem broughtText_deletion (target : Site) :
    f.broughtText (.deletion target) = f.remnant (f.unitText target.unit) := rfl

/-- A change by the text of another unit, where `change` puts the text into a slot. -/
theorem modify_transplant {slots : List Slot} (hlen : slots.length = f.unitCount)
    (change : List Char → Slot → Slot) {target ingredient : Site}
    (hfile : target.file = fileIndex) :
    (match f.transplant? ingredient.unit target.unit with
      | some text => slots.modify target.unit (change text)
      | none => slots) =
      if target.file = fileIndex ∧ target.unit < f.unitCount ∧ ingredient.unit < f.unitCount then
        slots.modify target.unit (change (f.transplanted ingredient.unit target.unit))
      else slots := by
  by_cases hi : ingredient.unit < f.unitCount
  · by_cases ht : target.unit < f.unitCount
    · rw [if_pos ⟨hfile, ht, hi⟩, transplant?_eq_some hi ht]
    · -- by lines the text is there even if its place is not
      rw [if_neg fun h => ht h.2.1]
      split
      · exact List.modify_eq_self (by omega)
      · rfl
  · rw [if_neg fun h => hi h.2.2, transplant?_eq_none hi]

/-- One edit of the file: an effective one changes the slot of its target, any other one none. -/
theorem applyEdit_eq {slots : List Slot} (hlen : slots.length = f.unitCount) {e : Edit}
    (hfile : e.target.file = fileIndex) :
    f.applyEdit slots e =
      if f.Effective fileIndex e then slots.modify e.target.unit (f.place e) else slots := by
  cases e with
  | replacement target ingredient =>
    exact modify_transplant hlen (fun text slot => { slot with body := text }) hfile
  | insertion target ingredient =>
    exact modify_transplant hlen
      (fun text slot => { slot with before := slot.before ++ [text] }) hfile
  | deletion target =>
    by_cases ht : target.unit < f.unitCount
    · rw [if_pos ⟨hfile, ht⟩, applyEdit, unit?_eq_some ht]
      simp only [← broughtText_deletion]
      rfl
    · rw [if_neg fun h => ht h.2, applyEdit, unit?_eq_none ht]

/-- An edit does not take effect on a file that it is not aimed at. -/
theorem file_eq_of_effective {e : Edit} (h : f.Effective fileIndex e) :
    e.target.file = fileIndex := by
  cases e <;> exact h.1

theorem insertionsAt_append (edits : List Edit) (e : Edit) (u : Nat) :
    f.insertionsAt fileIndex (edits ++ [e]) u =
      f.insertionsAt fileIndex edits u ++
        if f.Effective fileIndex e ∧ e.target.unit = u ∧ e.isInsertion then [e] else [] := by
  simp only [insertionsAt, List.filter_append, List.filter_cons, List.filter_nil,
    decide_eq_true_eq]

theorem changesAt_append (edits : List Edit) (e : Edit) (u : Nat) :
    f.changesAt fileIndex (edits ++ [e]) u =
      f.changesAt fileIndex edits u ++
        if f.Effective fileIndex e ∧ e.target.unit = u ∧ ¬ e.isInsertion then [e] else [] := by
  simp only [changesAt, List.filter_append, List.filter_cons, List.filter_nil, decide_eq_true_eq]

/-- One more edit. -/
theorem slotAt_append (edits : List Edit) (e : Edit) (u : Nat) :
    f.slotAt fileIndex (edits ++ [e]) u =
      if f.Effective fileIndex e ∧ e.target.unit = u then f.place e (f.slotAt fileIndex edits u)
      else f.slotAt fileIndex edits u := by
  simp only [slotAt, bodyAt, insertionsAt_append, changesAt_append, place]
  by_cases heff : f.Effective fileIndex e ∧ e.target.unit = u
  · cases hins : e.isInsertion <;> simp [heff.1, heff.2]
  · have hins : ¬ (f.Effective fileIndex e ∧ e.target.unit = u ∧ e.isInsertion) :=
      fun h => heff ⟨h.1, h.2.1⟩
    have hchg : ¬ (f.Effective fileIndex e ∧ e.target.unit = u ∧ ¬ e.isInsertion) :=
      fun h => heff ⟨h.1, h.2.1⟩
    rw [if_neg heff, if_neg hins, if_neg hchg]
    simp

/-- One more edit changes the slot of its target, if it is effective, and no other one. -/
theorem slots_concat {edits : List Edit} (hlen : (f.slots fileIndex edits).length = f.unitCount)
    (e : Edit) :
    f.slots fileIndex (edits ++ [e]) =
      if f.Effective fileIndex e then (f.slots fileIndex edits).modify e.target.unit (f.place e)
      else f.slots fileIndex edits := by
  by_cases hfile : e.target.file = fileIndex
  · rw [← applyEdit_eq hlen hfile]
    simp [slots, List.filter_append, hfile]
  · rw [if_neg fun h => hfile (file_eq_of_effective h)]
    simp [slots, List.filter_append, hfile]

/-- The slots after some edits are the ones of the reference, one for each unit. -/
theorem slots_eq_map_slotAt (f : File) (fileIndex : Nat) (edits : List Edit) :
    f.slots fileIndex edits = (List.range f.unitCount).map (f.slotAt fileIndex edits) := by
  induction edits using List.reverseRecOn with
  | nil =>
    apply List.ext_getElem?
    intro u
    by_cases hu : u < f.unitCount
    · have hunit : f.split.units[u]? = some (f.unitText u) := unit?_eq_some hu
      simp [slots, freshSlots, slotAt, insertionsAt, bodyAt, changesAt, hu, hunit]
    · have hunit : f.split.units[u]? = none := unit?_eq_none hu
      simp [slots, freshSlots, hu, hunit]
  | append_singleton edits e ih =>
    have hlen : (f.slots fileIndex edits).length = f.unitCount := by simp [ih]
    rw [slots_concat hlen, ih]
    apply List.ext_getElem?
    intro u
    by_cases heff : f.Effective fileIndex e
    · by_cases hu : u < f.unitCount
      · by_cases ht : e.target.unit = u <;> simp [heff, hu, ht, slotAt_append]
      · simp [heff, hu]
    · have hsame : f.slotAt fileIndex (edits ++ [e]) = f.slotAt fileIndex edits := by
        funext u
        rw [slotAt_append, if_neg fun h => heff h.1]
      rw [if_neg heff, hsame]

theorem length_slots (f : File) (fileIndex : Nat) (edits : List Edit) :
    (f.slots fileIndex edits).length = f.unitCount := by
  rw [slots_eq_map_slotAt, List.length_map, List.length_range]

/-! ## Rendered texts -/

/-- Only the effective insertions of a unit and its last effective change matter. -/
theorem slots_congr {edits edits' : List Edit}
    (h : ∀ u, f.insertionsAt fileIndex edits u = f.insertionsAt fileIndex edits' u ∧
      (f.changesAt fileIndex edits u).getLast? = (f.changesAt fileIndex edits' u).getLast?) :
    f.slots fileIndex edits = f.slots fileIndex edits' := by
  rw [slots_eq_map_slotAt, slots_eq_map_slotAt]
  apply List.map_congr_left
  intro u _
  obtain ⟨hins, hchg⟩ := h u
  rw [slotAt, slotAt, bodyAt, bodyAt, hins, hchg]

/-- An edit that is not effective changes nothing, wherever it stands. -/
theorem slots_of_not_effective {e : Edit} (h : ¬ f.Effective fileIndex e)
    (before after : List Edit) :
    f.slots fileIndex (before ++ e :: after) = f.slots fileIndex (before ++ after) := by
  apply slots_congr
  intro u
  constructor
  · simp [insertionsAt, List.filter_append, h]
  · simp [changesAt, List.filter_append, h]

/-- The pieces of a file number its units. -/
theorem lt_unitCount_of_mem_pieces {path : String} {g : Granularity} {text : List Char} {u : Nat}
    (h : Piece.unit u ∈ (parse path g text).split.pieces) : u < (parse path g text).unitCount := by
  obtain ⟨ps, hsplit, -, -⟩ := exists_parts_parse path g text
  have hindex : u ∈ (parse path g text).split.pieces.filterMap Piece.index? :=
    List.mem_filterMap.mpr ⟨.unit u, h, rfl⟩
  rw [hsplit, Split.indices_ofParts, List.mem_range'_1] at hindex
  rw [unitCount, hsplit]
  omega

theorem linesOfSlots_slots (path : String) (g : Granularity) (text : List Char) (fileIndex : Nat)
    (edits : List Edit) :
    (parse path g text).linesOfSlots ((parse path g text).slots fileIndex edits) =
      (parse path g text).split.pieces.flatMap
        ((parse path g text).textsAt fileIndex edits) := by
  apply List.flatMap_congr
  intro piece hpiece
  cases piece with
  | fixed line => rfl
  | unit u =>
    have hu := lt_unitCount_of_mem_pieces hpiece
    have hslot : ((parse path g text).slots fileIndex edits)[u]? =
        some ((parse path g text).slotAt fileIndex edits u) := by
      rw [slots_eq_map_slotAt, List.getElem?_map, List.getElem?_range hu]
      rfl
    simp only [hslot]
    rfl

/-- Every piece of a file that is not empty leaves at least one text. -/
theorem flatMap_textsAt_ne_nil (path : String) (g : Granularity) {text : List Char}
    (h : text ≠ []) (fileIndex : Nat) (edits : List Edit) :
    (parse path g text).split.pieces.flatMap
      ((parse path g text).textsAt fileIndex edits) ≠ [] := by
  intro hnil
  have hpieces : (parse path g text).split.pieces = [] := by
    rw [List.eq_nil_iff_forall_not_mem]
    intro piece hpiece
    have htexts := List.flatMap_eq_nil_iff.mp hnil piece hpiece
    cases piece <;> simp [textsAt] at htexts
  exact texts_parse_ne_nil path g h (by rw [Split.texts, hpieces]; rfl)

/-- A rendering is the texts at all places, one under the other. -/
theorem render_parse (path : String) (g : Granularity) (text : List Char) (fileIndex : Nat)
    (edits : List Edit) :
    (parse path g text).render fileIndex edits =
      glue '\n' ((parse path g text).split.pieces.flatMap
        ((parse path g text).textsAt fileIndex edits)) ++
      (if text.getLast? = some '\n' then ['\n'] else []) := by
  rw [render, linesOfSlots_slots, textOfLines, finalBreak_parse]
  by_cases hbreak : text.getLast? = some '\n'
  · have hne : text ≠ [] := by
      rintro rfl
      simp at hbreak
    simp [hbreak, flatMap_textsAt_ne_nil path g hne]
  · simp [hbreak]

/-- Rendering equals its reference. The text of a file under any edits is, in the order of the
pieces, every fixed line as it is and at the place of every unit the texts of its effective
insertions and then its body, joined by line breaks, with one more at the end if the text has one
there; an edit that is not effective changes nothing; and two patches give the same texts of all
files of a project if they have, for every unit, the same effective insertions and the same last
effective change. -/
theorem render_eq_reference :
    (∀ (path : String) (g : Granularity) (text : List Char) (fileIndex : Nat) (edits : List Edit),
      (parse path g text).render fileIndex edits =
        ['\n'].intercalate ((parse path g text).split.pieces.flatMap
          ((parse path g text).textsAt fileIndex edits)) ++
        (if text.getLast? = some '\n' then ['\n'] else [])) ∧
    (∀ (f : File) (fileIndex : Nat) (before after : List Edit) (e : Edit),
      ¬ f.Effective fileIndex e →
      f.render fileIndex (before ++ e :: after) = f.render fileIndex (before ++ after)) ∧
    (∀ (p : Project) (a b : Patch Edit),
      (∀ (fileIndex : Nat) (f : File), p.files[fileIndex]? = some f → ∀ u,
        f.insertionsAt fileIndex a.edits u = f.insertionsAt fileIndex b.edits u ∧
        (f.changesAt fileIndex a.edits u).getLast? =
          (f.changesAt fileIndex b.edits u).getLast?) →
      p.render a = p.render b) := by
  refine ⟨?_, ?_, ?_⟩
  · intro path g text fileIndex edits
    rw [render_parse, glue_eq_intercalate]
  · intro f fileIndex before after e heff
    rw [render, slots_of_not_effective heff, render]
  · intro p a b hagree
    apply List.ext_getElem?
    intro i
    rw [Project.render, Project.render, List.getElem?_mapIdx, List.getElem?_mapIdx]
    cases hfile : p.files[i]? with
    | none => rfl
    | some f =>
      have hslots : f.slots i a.edits = f.slots i b.edits := slots_congr (hagree i f hfile)
      simp [render, hslots]

/-- A file of three lines. -/
def threeLines : File := parse "m.py" .line "a\nb\nc\n".toList

/-- A change that a later one overrides and one of a unit that is not there leave no trace. -/
theorem render_threeLines :
    let p : Project := ⟨"", "true", .exitCode, [threeLines]⟩
    p.render ⟨[.deletion ⟨0, 0⟩, .replacement ⟨0, 0⟩ ⟨0, 2⟩, .deletion ⟨0, 3⟩]⟩ =
      p.render ⟨[.replacement ⟨0, 0⟩ ⟨0, 2⟩]⟩ ∧
    threeLines.render 0 [.deletion ⟨0, 0⟩, .deletion ⟨0, 3⟩] =
      threeLines.render 0 [.deletion ⟨0, 0⟩] := by
  obtain ⟨-, hineffective, hagree⟩ := render_eq_reference
  constructor
  · apply hagree
    intro fileIndex f hfile u
    cases fileIndex with
    | succ i => cases hfile
    | zero =>
      obtain rfl : threeLines = f := Option.some.inj hfile
      have hcount : threeLines.unitCount = 3 := by decide
      by_cases hu : u = 0
      · subst hu
        constructor <;> decide
      · simp [insertionsAt, changesAt, Effective, Edit.target, hcount, Ne.symm hu]
  · exact hineffective threeLines 0 [.deletion ⟨0, 0⟩] [] (.deletion ⟨0, 3⟩) (by decide)

end File

end ProgramRepair.Source
