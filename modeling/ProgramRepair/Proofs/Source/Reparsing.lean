import ProgramRepair.Proofs.Source.Rendering
import ProgramRepair.Proofs.Source.Scanning

/-!
# Rendering and splitting agree

A file that was rendered under some edits splits into the parts that the edits
say: `partsUnder` predicts them, and `split_parse_render` says that the splitter
finds them. No unit is merged with its neighbours, divided, or taken for a
comment.

The splitter is taken back to parts by `splitLines_flatMap_lines`, which needs
every part to be well formed and every unit to be closed; edits keep both.
-/

namespace ProgramRepair.Source

open Text

/-! ## Splitting the lines of parts -/

/-- A statement is one unit, whatever stands after it. The induction is on the lines after which
the statement goes on. -/
theorem splitStatementsFrom_statement (init : List (List Char)) (last : List Char)
    (rest : List (List Char)) (index : Nat) (pending : List (List Char)) (state : ScanState)
    (hstarts : pending = [] → ∀ first ∈ (init ++ [last]).head?, isFixedLine first = false)
    (hgoes : state.GoesOn init)
    (hclosed : ((state.feedAll init).feed last).continues last = false) :
    splitStatementsFrom index pending state (init ++ last :: rest) =
      (splitStatementsFrom (index + 1) [] {} rest).consUnit index
        (glue '\n' (pending ++ init ++ [last])) := by
  induction init generalizing pending state with
  | nil =>
    have hfirst : ¬ (pending = [] ∧ isFixedLine last = true) := by
      rintro ⟨hnil, hfixed⟩
      rw [hstarts hnil last rfl] at hfixed
      cases hfixed
    simp only [List.nil_append, splitStatementsFrom, if_neg hfirst]
    simp only [ScanState.feedAll, List.foldl_nil] at hclosed
    simp [hclosed]
  | cons line init ih =>
    have hfirst : ¬ (pending = [] ∧ isFixedLine line = true) := by
      rintro ⟨hnil, hfixed⟩
      rw [hstarts hnil line rfl] at hfixed
      cases hfixed
    have hrest := ih (pending ++ [line]) (state.feed line) (by simp) hgoes.2 hclosed
    simp only [List.cons_append, splitStatementsFrom, if_neg hfirst, hgoes.1, if_true, hrest]
    simp

/-- The lines of a closed statement. -/
theorem splitStatementsFrom_unit {text : List Char} (hform : IsStatement (cut '\n' text))
    (hclosed : IsClosed text) (rest : List (List Char)) (index : Nat) :
    splitStatementsFrom index [] {} (cut '\n' text ++ rest) =
      (splitStatementsFrom (index + 1) [] {} rest).consUnit index text := by
  obtain ⟨init, last, hlines, hstarts, hgoes⟩ := hform
  have hlast : (({} : ScanState).feedAll (cut '\n' text)).continues last = false :=
    hclosed last (by rw [hlines]; simp)
  have hend : ((({} : ScanState).feedAll init).feed last).continues last = false := by
    rw [hlines] at hlast
    simpa [ScanState.feedAll] using hlast
  have htext : glue '\n' (init ++ [last]) = text := by rw [← hlines, glue_cut]
  rw [hlines] at hstarts
  rw [hlines, List.append_assoc, List.singleton_append,
    splitStatementsFrom_statement init last rest index [] {} (fun _ => hstarts) hgoes hend,
    List.nil_append, htext]

theorem splitLinesFrom_flatMap_lines (index : Nat) (ps : List Part)
    (hform : ∀ p ∈ ps, p.WellFormed .line) :
    splitLinesFrom index (ps.flatMap Part.lines) = Split.ofParts index ps := by
  induction ps generalizing index with
  | nil => rfl
  | cons p rest ih =>
    have hrest := ih (index + 1) fun q hq => hform q (List.mem_cons_of_mem p hq)
    have hp := hform p List.mem_cons_self
    cases p with
    | fixed line => exact hp.elim
    | unit text =>
      have hlines : (Part.unit text).lines = [text] := cut_of_not_mem hp
      rw [List.flatMap_cons, hlines, List.singleton_append, splitLinesFrom, hrest]
      rfl

theorem splitStatementsFrom_flatMap_lines (index : Nat) (ps : List Part)
    (hform : ∀ p ∈ ps, p.WellFormed .statement)
    (hclosed : ∀ text, .unit text ∈ ps → IsClosed text) :
    splitStatementsFrom index [] {} (ps.flatMap Part.lines) = Split.ofParts index ps := by
  induction ps generalizing index with
  | nil => simp [splitStatementsFrom, Split.ofParts]
  | cons p rest ih =>
    have hrest := fun i => ih i (fun q hq => hform q (List.mem_cons_of_mem p hq))
      fun text htext => hclosed text (List.mem_cons_of_mem p htext)
    have hp := hform p List.mem_cons_self
    cases p with
    | fixed line =>
      obtain ⟨hbreak, hfixed⟩ := hp
      have hlines : (Part.fixed line).lines = [line] := cut_of_not_mem hbreak
      rw [List.flatMap_cons, hlines, List.singleton_append, splitStatementsFrom,
        if_pos ⟨rfl, hfixed⟩, hrest index]
      rfl
    | unit text =>
      -- a closed unit leaves the scanner as it is at the start of a file
      rw [List.flatMap_cons]
      show splitStatementsFrom index [] {} (cut '\n' text ++ rest.flatMap Part.lines) = _
      rw [splitStatementsFrom_unit hp (hclosed text List.mem_cons_self), hrest (index + 1)]
      rfl

/-- The lines of well-formed parts with closed units split into these parts again. -/
theorem splitLines_flatMap_lines (g : Granularity) (ps : List Part)
    (hform : ∀ p ∈ ps, p.WellFormed g)
    (hclosed : g = .statement → ∀ text, .unit text ∈ ps → IsClosed text) :
    splitLines g (ps.flatMap Part.lines) = Split.ofParts 0 ps := by
  cases g with
  | line => exact splitLinesFrom_flatMap_lines 0 ps hform
  | statement => exact splitStatementsFrom_flatMap_lines 0 ps hform (hclosed rfl)

/-! ## What edits leave behind -/

namespace File

/-- The parts at the place of a piece under some edits. -/
def partsAt (f : File) (fileIndex : Nat) (edits : List Edit) : Piece → List Part
  | .fixed line => [.fixed line]
  | .unit u =>
    ((f.insertionsAt fileIndex edits u).map fun e => .unit (f.broughtText e)) ++
      [.unit (f.bodyAt fileIndex edits u)]

/-- The parts of a file under some edits: the fixed lines where they were, and at the place of each
unit one unit for each effective insertion and one for the body. -/
def partsUnder (f : File) (fileIndex : Nat) (edits : List Edit) : List Part :=
  f.split.pieces.flatMap (f.partsAt fileIndex edits)

theorem map_text_partsAt (f : File) (fileIndex : Nat) (edits : List Edit) (piece : Piece) :
    (f.partsAt fileIndex edits piece).map Part.text = f.textsAt fileIndex edits piece := by
  cases piece with
  | fixed line => rfl
  | unit u =>
    simp only [partsAt, textsAt, List.map_append, List.map_map]
    rfl

theorem map_text_partsUnder (f : File) (fileIndex : Nat) (edits : List Edit) :
    (f.partsUnder fileIndex edits).map Part.text =
      f.split.pieces.flatMap (f.textsAt fileIndex edits) := by
  rw [partsUnder, List.map_flatMap]
  exact List.flatMap_congr fun piece _ => f.map_text_partsAt fileIndex edits piece

/-- The lines of a rendering are the lines of its parts. -/
theorem linesOf_render (path : String) (g : Granularity) {text : List Char}
    (hbreak : text.getLast? = some '\n') (fileIndex : Nat) (edits : List Edit) :
    linesOf ((parse path g text).render fileIndex edits) =
      ((parse path g text).partsUnder fileIndex edits).flatMap Part.lines := by
  have hne : text ≠ [] := by
    rintro rfl
    simp at hbreak
  have htexts := flatMap_textsAt_ne_nil path g hne fileIndex edits
  rw [render_parse, if_pos hbreak, linesOf, if_neg (by simp), dropFinalBreak_append,
    cut_glue_flatMap htexts, ← map_text_partsUnder, List.flatMap_map]
  rfl

/-! ## Units under edits -/

/-- What a unit has to be so that the splitter finds it again. -/
def Stands (g : Granularity) (text : List Char) : Prop :=
  (Part.unit text).WellFormed g ∧ (g = .statement → IsClosed text)

variable {f : File} {fileIndex : Nat}

theorem unitText_mem {u : Nat} (h : u < f.unitCount) : f.unitText u ∈ f.split.units :=
  List.mem_of_getElem? (unit?_eq_some h)

/-- A line that scanning finds closed is a closed statement of its own. -/
theorem isClosed_of_not_mem {line : List Char} (hbreak : '\n' ∉ line)
    (h : (({} : ScanState).feed line).continues line = false) : IsClosed line := by
  intro last hlast
  rw [cut_of_not_mem hbreak] at hlast ⊢
  have heq : line = last := by simpa using hlast
  rw [← heq]
  exact h

theorem isStatement_of_not_mem {line : List Char} (hbreak : '\n' ∉ line)
    (h : isFixedLine line = false) : IsStatement (cut '\n' line) := by
  rw [cut_of_not_mem hbreak]
  refine ⟨[], line, rfl, ?_, trivial⟩
  intro first hfirst
  have heq : line = first := by simpa using hfirst
  exact heq ▸ h

/-- The `pass` that a deleted statement leaves behind is a closed statement. -/
theorem stands_remnant (text : List Char) : Stands f.granularity (f.remnant text) := by
  unfold remnant
  cases f.granularity with
  | line => exact ⟨List.not_mem_nil, by simp⟩
  | statement =>
    have hblanks : ∀ c ∈ indentation text, isBlank c = true := fun _ => isBlank_of_mem_indentation
    have hbreak : '\n' ∉ indentation text ++ "pass".toList := by
      intro h
      rcases List.mem_append.mp h with hmem | hmem
      · exact not_mem_indentation text hmem
      · revert hmem
        decide
    refine ⟨isStatement_of_not_mem hbreak ?_, fun _ => isClosed_of_not_mem hbreak ?_⟩
    · rw [isFixedLine_append_blanks hblanks]
      decide
    · rw [ScanState.feed_append_blanks hblanks, ScanState.continues_append_blanks hblanks]
      decide

/-- A unit stands at the place of every other one. -/
theorem stands_transplanted {ingredient target : Nat}
    (h : Stands f.granularity (f.unitText ingredient)) :
    Stands f.granularity (f.transplanted ingredient target) := by
  unfold transplanted
  cases hg : f.granularity with
  | line =>
    rw [hg] at h
    exact h
  | statement =>
    rw [hg] at h
    have hwas : ∀ c ∈ indentation (f.unitText ingredient), isBlank c = true :=
      fun _ => isBlank_of_mem_indentation
    have hnow : ∀ c ∈ indentation (f.unitText target), isBlank c = true :=
      fun _ => isBlank_of_mem_indentation
    have hbreak := not_mem_indentation (f.unitText target)
    exact ⟨isStatement_reindent hwas hnow hbreak h.1,
      fun _ => isClosed_reindent hwas hnow hbreak (h.2 rfl)⟩

section Units

variable (hunits : ∀ unit ∈ f.split.units, Stands f.granularity unit)

include hunits

theorem stands_broughtText {e : Edit} (h : f.Effective fileIndex e) :
    Stands f.granularity (f.broughtText e) := by
  cases e with
  | replacement target ingredient =>
    exact stands_transplanted (hunits _ (unitText_mem h.2.2))
  | insertion target ingredient =>
    exact stands_transplanted (hunits _ (unitText_mem h.2.2))
  | deletion target =>
    rw [broughtText_deletion]
    exact stands_remnant (f.unitText target.unit)

theorem stands_bodyAt (edits : List Edit) {u : Nat} (hu : u < f.unitCount) :
    Stands f.granularity (f.bodyAt fileIndex edits u) := by
  unfold bodyAt
  cases hlast : (f.changesAt fileIndex edits u).getLast? with
  | none => exact hunits _ (unitText_mem hu)
  | some e =>
    have hmem : e ∈ f.changesAt fileIndex edits u := List.mem_of_getLast? hlast
    have heff : f.Effective fileIndex e ∧ e.target.unit = u ∧ ¬ e.isInsertion := by
      simpa [changesAt] using (List.mem_filter.mp hmem).2
    exact stands_broughtText hunits heff.1

/-- Every unit at a place stands. -/
theorem stands_of_mem_partsAt {edits : List Edit} {u : Nat} (hu : u < f.unitCount) {p : Part}
    (h : p ∈ f.partsAt fileIndex edits (.unit u)) :
    ∃ text, p = .unit text ∧ Stands f.granularity text := by
  rcases List.mem_append.mp h with hins | hbody
  · obtain ⟨e, he, rfl⟩ := List.mem_map.mp hins
    have heff : f.Effective fileIndex e ∧ e.target.unit = u ∧ e.isInsertion := by
      simpa [insertionsAt] using (List.mem_filter.mp he).2
    exact ⟨_, rfl, stands_broughtText hunits heff.1⟩
  · rw [List.mem_singleton.mp hbody]
    exact ⟨_, rfl, stands_bodyAt hunits edits hu⟩

end Units

/-- Rendering and splitting agree. A file whose text ends with a line break, and by statements
whose units are all closed, is rendered under some edits and split again: the parts are the ones
that the edits say. -/
theorem split_parse_render (path path' : String) (g : Granularity) (text : List Char)
    (fileIndex : Nat) (edits : List Edit) (hbreak : text.getLast? = some '\n')
    (hclosed : g = .statement → ∀ unit ∈ (parse path g text).split.units, IsClosed unit) :
    (parse path' g ((parse path g text).render fileIndex edits)).split =
      Split.ofParts 0 ((parse path g text).partsUnder fileIndex edits) := by
  obtain ⟨ps, hsplit, -, hform⟩ := exists_parts_parse path g text
  -- every unit stands before the edits, and so every part does after them
  have hunits : ∀ unit ∈ (parse path g text).split.units,
      Stands (parse path g text).granularity unit := by
    intro unit hunit
    refine ⟨?_, fun hg => hclosed hg unit hunit⟩
    rw [hsplit, Split.mem_units_ofParts] at hunit
    exact hform _ hunit
  have hparts : ∀ p ∈ (parse path g text).partsUnder fileIndex edits,
      p.WellFormed g ∧ ∀ text, p = .unit text → g = .statement → IsClosed text := by
    intro p hp
    obtain ⟨piece, hpiece, hat⟩ := List.mem_flatMap.mp hp
    cases piece with
    | fixed line =>
      rw [List.mem_singleton.mp hat]
      rw [hsplit, Split.fixed_mem_ofParts] at hpiece
      exact ⟨hform _ hpiece, fun _ h => by cases h⟩
    | unit u =>
      obtain ⟨text', rfl, hstands⟩ :=
        stands_of_mem_partsAt hunits (lt_unitCount_of_mem_pieces hpiece) hat
      refine ⟨hstands.1, ?_⟩
      intro text'' heq
      cases heq
      exact hstands.2
  show splitLines g (linesOf ((parse path g text).render fileIndex edits)) = _
  rw [linesOf_render path g hbreak]
  exact splitLines_flatMap_lines g _ (fun p hp => (hparts p hp).1)
    fun hg text' hmem => (hparts _ hmem).2 text' rfl hg

/-- A call of two lines is moved out of a block, which a `pass` keeps from being empty. -/
theorem split_parse_render_moved_call :
    let f := parse "m.py" .statement "if a:\n    f(1,\n  2)\n# c\nx = 1\n".toList
    (parse "m.py" .statement (f.render 0 [.insertion ⟨0, 2⟩ ⟨0, 1⟩, .deletion ⟨0, 1⟩])).split =
      Split.ofParts 0 [.unit "if a:".toList, .unit "    pass".toList, .fixed "# c".toList,
        .unit "f(1,\n  2)".toList, .unit "x = 1".toList] :=
  split_parse_render "m.py" "m.py" .statement _ 0 _ (by decide) (by decide)

end File

end ProgramRepair.Source
