import Mathlib.Data.List.TakeWhile
import ProgramRepair.Proofs.Text.Lines
import ProgramRepair.Source.File
import ProgramRepair.Source.Split

/-!
# Splitting loses nothing

What a split is made of. A split keeps the texts of its units apart from its
pieces. A `Part` is a piece together with its text, and `Split.ofParts` numbers
the units of a list of parts. `IsStatement` says of some lines that they are one
statement: it starts outside blank lines and comments, and goes on after every
line but the last one.

* `indices_ofParts`: the units of numbered parts are numbered in order, without
  gaps;
* `texts_ofParts`: a unit's number finds the unit's text;
* `exists_parts_splitLines`: every split consists of well-formed parts whose
  lines are the lines of the file, numbered from zero;
* `original_parse`: the text of a file comes back from its split;
* `parse_lossless`: this, the numbering, and which lines are fixed.

The lines of a statement that is still open are the invariant of the splitter,
`OpenLines`.
-/

namespace ProgramRepair.Source

open Text

/-! ## Parts of a file -/

/-- A piece of a file with its text. -/
inductive Part where
  | fixed (line : List Char)
  | unit (text : List Char)
deriving DecidableEq, Repr

namespace Part

def text : Part → List Char
  | fixed line => line
  | unit text => text

/-- The physical lines of a part. -/
def lines (p : Part) : List (List Char) := cut '\n' p.text

/-- The text of a part that is a unit. -/
def unitText? : Part → Option (List Char)
  | fixed _ => none
  | unit text => some text

end Part

namespace Piece

/-- The number of a piece that is a unit. -/
def index? : Piece → Option Nat
  | fixed _ => none
  | unit index => some index

/-- The text of a piece, where `units` are the texts of the units. -/
def texts (units : List (List Char)) : Piece → List (List Char)
  | fixed line => [line]
  | unit index => units[index]?.toList

end Piece

namespace Split

/-- The split with the given parts, its units numbered from `index` on. -/
def ofParts (index : Nat) : List Part → Split
  | [] => .nil
  | .fixed line :: rest => (ofParts index rest).consFixed line
  | .unit text :: rest => (ofParts (index + 1) rest).consUnit index text

theorem units_ofParts (index : Nat) (ps : List Part) :
    (ofParts index ps).units = ps.filterMap Part.unitText? := by
  induction ps generalizing index with
  | nil => rfl
  | cons p rest ih =>
    cases p with
    | fixed line =>
      rw [List.filterMap_cons_none (f := Part.unitText?) rfl]
      exact ih index
    | unit text =>
      rw [List.filterMap_cons_some (f := Part.unitText?) rfl, ← ih (index + 1)]
      rfl

theorem mem_units_ofParts {index : Nat} {ps : List Part} {text : List Char} :
    text ∈ (ofParts index ps).units ↔ Part.unit text ∈ ps := by
  rw [units_ofParts, List.mem_filterMap]
  constructor
  · rintro ⟨p, hp, htext⟩
    cases p with
    | fixed line => simp [Part.unitText?] at htext
    | unit text' =>
      have heq : text' = text := by simpa [Part.unitText?] using htext
      exact heq ▸ hp
  · intro h
    exact ⟨.unit text, h, rfl⟩

theorem fixed_mem_ofParts {index : Nat} {ps : List Part} {line : List Char} :
    Piece.fixed line ∈ (ofParts index ps).pieces ↔ Part.fixed line ∈ ps := by
  induction ps generalizing index with
  | nil => simp [ofParts, Split.nil]
  | cons p rest ih =>
    cases p with
    | fixed line' => simp [ofParts, consFixed, ih]
    | unit text => simp [ofParts, consUnit, ih]

/-- The units are numbered in order, each with its own number. -/
theorem indices_ofParts (index : Nat) (ps : List Part) :
    (ofParts index ps).pieces.filterMap Piece.index? =
      List.range' index (ofParts index ps).units.length := by
  induction ps generalizing index with
  | nil => rfl
  | cons p rest ih =>
    cases p with
    | fixed line =>
      simp only [ofParts, consFixed]
      rw [List.filterMap_cons_none (f := Piece.index?) rfl]
      exact ih index
    | unit text =>
      simp only [ofParts, consUnit, List.length_cons, List.range'_succ]
      rw [List.filterMap_cons_some (f := Piece.index?) rfl, ih (index + 1)]

/-- The texts at the places of the pieces. -/
def texts (s : Split) : List (List Char) := s.pieces.flatMap (Piece.texts s.units)

/-- The texts of numbered parts, where `before` are the units with smaller numbers. -/
theorem texts_ofParts_after (before : List (List Char)) (ps : List Part) :
    (ofParts before.length ps).pieces.flatMap
        (Piece.texts (before ++ (ofParts before.length ps).units)) = ps.map Part.text := by
  induction ps generalizing before with
  | nil => rfl
  | cons p rest ih =>
    cases p with
    | fixed line => simpa [ofParts, consFixed, Piece.texts, Part.text] using ih before
    | unit text =>
      have hrest := ih (before ++ [text])
      rw [List.length_append, List.length_singleton] at hrest
      simpa [ofParts, consUnit, Piece.texts, Part.text] using hrest

/-- A unit's number finds the unit's text. -/
theorem texts_ofParts (ps : List Part) : (ofParts 0 ps).texts = ps.map Part.text :=
  texts_ofParts_after [] ps

end Split

/-! ## Blank lines and comments -/

/-- A line of blanks, or of nothing. -/
def IsBlankLine (line : List Char) : Prop := ∀ c ∈ line, isBlank c = true

/-- A line that starts with `#`, after some blanks perhaps. -/
def IsComment (line : List Char) : Prop :=
  ∃ blanks rest, line = blanks ++ '#' :: rest ∧ ∀ c ∈ blanks, isBlank c = true

/-- A fixed line is blank or a comment, and nothing else is. -/
theorem isFixedLine_iff (line : List Char) :
    isFixedLine line = true ↔ IsBlankLine line ∨ IsComment line := by
  have hsplit : line.takeWhile isBlank ++ trimStart line = line := List.takeWhile_append_dropWhile
  have hlead : ∀ c ∈ line.takeWhile isBlank, isBlank c = true :=
    fun _ => List.mem_takeWhile_imp
  constructor
  · intro h
    cases htrim : trimStart line with
    | nil =>
      left
      rw [htrim, List.append_nil] at hsplit
      rw [IsBlankLine, ← hsplit]
      exact hlead
    | cons c rest =>
      right
      have hc : c = '#' := by simpa [isFixedLine, htrim] using h
      rw [htrim, hc] at hsplit
      exact ⟨_, rest, hsplit.symm, hlead⟩
  · rintro (hblank | ⟨blanks, rest, rfl, hblanks⟩)
    · have htrim : trimStart line = [] := List.dropWhile_eq_nil_iff.mpr hblank
      simp [isFixedLine, htrim]
    · have htrim : trimStart (blanks ++ '#' :: rest) = '#' :: rest := by
        rw [trimStart, List.dropWhile_append_of_pos hblanks]
        rfl
      simp [isFixedLine, htrim]

/-! ## Statements -/

namespace ScanState

/-- What is open after some lines. -/
def feedAll (s : ScanState) (lines : List (List Char)) : ScanState := lines.foldl feed s

/-- The statement goes on after each of the lines. -/
def GoesOn (s : ScanState) : List (List Char) → Prop
  | [] => True
  | line :: rest => (s.feed line).continues line = true ∧ (s.feed line).GoesOn rest

theorem goesOn_append {s : ScanState} {before after : List (List Char)} :
    s.GoesOn (before ++ after) ↔ s.GoesOn before ∧ (s.feedAll before).GoesOn after := by
  induction before generalizing s with
  | nil => simp [GoesOn, feedAll]
  | cons line rest ih =>
    simp only [List.cons_append, GoesOn, ih, feedAll, List.foldl_cons, and_assoc]

end ScanState

/-- The lines of one statement. Whether the last line ends it is left open, because the end of the
file ends a statement too. -/
def IsStatement (lines : List (List Char)) : Prop :=
  ∃ init last, lines = init ++ [last] ∧ (∀ first ∈ lines.head?, isFixedLine first = false) ∧
    ({} : ScanState).GoesOn init

/-- The parts of a file, by its granularity: by lines every line is a unit, by statements the fixed
lines are the blank lines and comments between statements. -/
def Part.WellFormed : Granularity → Part → Prop
  | .line, .fixed _ => False
  | .line, .unit text => '\n' ∉ text
  | .statement, .fixed line => '\n' ∉ line ∧ isFixedLine line = true
  | .statement, .unit text => IsStatement (cut '\n' text)

/-- The lines of a statement that goes on, and what they leave open. There are none between
statements. -/
structure OpenLines (pending : List (List Char)) (state : ScanState) : Prop where
  noBreak : ∀ line ∈ pending, '\n' ∉ line
  starts : ∀ first ∈ pending.head?, isFixedLine first = false
  goesOn : ({} : ScanState).GoesOn pending
  state_eq : state = ({} : ScanState).feedAll pending

namespace OpenLines

variable {pending : List (List Char)} {state : ScanState} {line : List Char}

theorem nil : OpenLines [] {} := ⟨by simp, by simp, trivial, rfl⟩

/-- The first line of a statement stays the first one. -/
theorem starts_append (h : OpenLines pending state)
    (hline : pending = [] → isFixedLine line = false) :
    ∀ first ∈ (pending ++ [line]).head?, isFixedLine first = false := by
  intro first hfirst
  cases pending with
  | nil =>
    have heq : line = first := by simpa using hfirst
    exact heq ▸ hline rfl
  | cons head rest => exact h.starts first (by simpa using hfirst)

theorem noBreak_append (h : OpenLines pending state) (hbreak : '\n' ∉ line) :
    ∀ l ∈ pending ++ [line], '\n' ∉ l := by
  intro l hl
  rcases List.mem_append.mp hl with hmem | hmem
  · exact h.noBreak l hmem
  · rw [List.mem_singleton.mp hmem]
    exact hbreak

/-- One more line after which the statement goes on. -/
theorem push (h : OpenLines pending state) (hbreak : '\n' ∉ line)
    (hline : pending = [] → isFixedLine line = false)
    (hcont : (state.feed line).continues line = true) :
    OpenLines (pending ++ [line]) (state.feed line) where
  noBreak := h.noBreak_append hbreak
  starts := h.starts_append hline
  goesOn := by
    rw [ScanState.goesOn_append]
    refine ⟨h.goesOn, ?_⟩
    rw [← h.state_eq]
    exact ⟨hcont, trivial⟩
  state_eq := by
    rw [h.state_eq]
    simp [ScanState.feedAll]

/-- One more line makes a statement, whether or not it goes on after it. -/
theorem isStatement_append (h : OpenLines pending state)
    (hline : pending = [] → isFixedLine line = false) : IsStatement (pending ++ [line]) :=
  ⟨pending, line, rfl, h.starts_append hline, h.goesOn⟩

/-- What is open at the end of a file is a statement. -/
theorem isStatement (h : OpenLines pending state) (hne : pending ≠ []) : IsStatement pending := by
  have hlast : pending.dropLast ++ [pending.getLast hne] = pending :=
    List.dropLast_concat_getLast hne
  refine ⟨pending.dropLast, pending.getLast hne, hlast.symm, h.starts, ?_⟩
  have hgoes := h.goesOn
  rw [← hlast, ScanState.goesOn_append] at hgoes
  exact hgoes.1

end OpenLines

/-! ## The parts of a split -/

/-- The lines of a unit that was glued from lines. -/
theorem lines_unit_glue {lines : List (List Char)} (hne : lines ≠ [])
    (h : ∀ line ∈ lines, '\n' ∉ line) : (Part.unit (glue '\n' lines)).lines = lines :=
  cut_glue hne h

theorem exists_parts_splitLinesFrom (index : Nat) (lines : List (List Char))
    (h : ∀ line ∈ lines, '\n' ∉ line) :
    ∃ ps, splitLinesFrom index lines = Split.ofParts index ps ∧ ps.flatMap Part.lines = lines ∧
      ∀ p ∈ ps, p.WellFormed .line := by
  induction lines generalizing index with
  | nil => exact ⟨[], rfl, rfl, by simp⟩
  | cons line rest ih =>
    have hline : '\n' ∉ line := h line List.mem_cons_self
    obtain ⟨ps, hsplit, hlines, hform⟩ :=
      ih (index + 1) fun l hl => h l (List.mem_cons_of_mem line hl)
    refine ⟨.unit line :: ps, ?_, ?_, ?_⟩
    · rw [splitLinesFrom, hsplit]
      rfl
    · rw [List.flatMap_cons, hlines]
      simp [Part.lines, Part.text, cut_of_not_mem hline]
    · rintro p (_ | ⟨_, hp⟩)
      · exact hline
      · exact hform p hp

/-- The induction is on the lines that are left, with the open lines of a statement as invariant. -/
theorem exists_parts_splitStatementsFrom (lines : List (List Char)) (index : Nat)
    (pending : List (List Char)) (state : ScanState) (h : ∀ line ∈ lines, '\n' ∉ line)
    (hopen : OpenLines pending state) :
    ∃ ps, splitStatementsFrom index pending state lines = Split.ofParts index ps ∧
      ps.flatMap Part.lines = pending ++ lines ∧ ∀ p ∈ ps, p.WellFormed .statement := by
  induction lines generalizing index pending state with
  | nil =>
    -- what is still open at the end of the file is a unit too
    by_cases hne : pending = []
    · exact ⟨[], by simp [splitStatementsFrom, hne, Split.ofParts], by simp [hne], by simp⟩
    · have hlines := lines_unit_glue hne hopen.noBreak
      refine ⟨[.unit (glue '\n' pending)], ?_, ?_, ?_⟩
      · simp [splitStatementsFrom, hne, Split.ofParts]
      · simpa using hlines
      · intro p hp
        rw [List.mem_singleton.mp hp]
        show IsStatement (cut '\n' (glue '\n' pending))
        rw [cut_glue hne hopen.noBreak]
        exact hopen.isStatement hne
  | cons line rest ih =>
    have hbreak : '\n' ∉ line := h line List.mem_cons_self
    have hrest : ∀ l ∈ rest, '\n' ∉ l := fun l hl => h l (List.mem_cons_of_mem line hl)
    by_cases hfixed : pending = [] ∧ isFixedLine line = true
    · -- between statements a blank line or comment is a part of its own
      obtain ⟨hnil, hline⟩ := hfixed
      subst hnil
      obtain ⟨ps, hsplit, hlines, hform⟩ := ih index [] state hrest hopen
      refine ⟨.fixed line :: ps, ?_, ?_, ?_⟩
      · simp [splitStatementsFrom, hline, hsplit, Split.ofParts]
      · rw [List.flatMap_cons, hlines]
        simp [Part.lines, Part.text, cut_of_not_mem hbreak]
      · rintro p (_ | ⟨_, hp⟩)
        · exact ⟨hbreak, hline⟩
        · exact hform p hp
    · have hline : pending = [] → isFixedLine line = false := fun hnil => by
        simpa using fun ht => hfixed ⟨hnil, ht⟩
      -- the line is the next one of a statement, or its last one
      by_cases hcont : (state.feed line).continues line = true
      · obtain ⟨ps, hsplit, hlines, hform⟩ :=
          ih index (pending ++ [line]) (state.feed line) hrest (hopen.push hbreak hline hcont)
        refine ⟨ps, ?_, ?_, hform⟩
        · rw [splitStatementsFrom, if_neg hfixed]
          simpa [hcont] using hsplit
        · simpa using hlines
      · obtain ⟨ps, hsplit, hlines, hform⟩ := ih (index + 1) [] {} hrest .nil
        have hnoBreak := hopen.noBreak_append hbreak
        refine ⟨.unit (glue '\n' (pending ++ [line])) :: ps, ?_, ?_, ?_⟩
        · rw [splitStatementsFrom, if_neg hfixed]
          simp [hcont, hsplit, Split.ofParts]
        · rw [List.flatMap_cons, hlines, lines_unit_glue (by simp) hnoBreak]
          simp
        · rintro p (_ | ⟨_, hp⟩)
          · show IsStatement (cut '\n' (glue '\n' (pending ++ [line])))
            rw [cut_glue (by simp) hnoBreak]
            exact hopen.isStatement_append hline
          · exact hform p hp

/-- A split numbers well-formed parts, and their lines are the lines that were split. -/
theorem exists_parts_splitLines (g : Granularity) (lines : List (List Char))
    (h : ∀ line ∈ lines, '\n' ∉ line) :
    ∃ ps, splitLines g lines = Split.ofParts 0 ps ∧ ps.flatMap Part.lines = lines ∧
      ∀ p ∈ ps, p.WellFormed g := by
  cases g with
  | line => exact exists_parts_splitLinesFrom 0 lines h
  | statement => exact exists_parts_splitStatementsFrom lines 0 [] {} h .nil

/-! ## Files -/

theorem not_mem_of_mem_linesOf {text line : List Char} (h : line ∈ linesOf text) :
    '\n' ∉ line := by
  unfold linesOf at h
  split at h
  · simp at h
  · exact not_mem_of_mem_cut h

/-- The lines of a text with its final line break put back are the text. -/
theorem glue_linesOf (text : List Char) :
    glue '\n' (linesOf text) ++ (if text.getLast? = some '\n' then ['\n'] else []) = text := by
  unfold linesOf
  by_cases hnil : text = []
  · simp [hnil, glue]
  · rw [if_neg hnil, glue_cut]
    exact dropFinalBreak_append_break text

theorem linesOf_ne_nil {text : List Char} (h : text ≠ []) : linesOf text ≠ [] := by
  rw [linesOf, if_neg h]
  exact cut_ne_nil '\n' (dropFinalBreak text)

namespace File

/-- The parts of a file are well formed, and their lines are the lines of its text. -/
theorem exists_parts_parse (path : String) (g : Granularity) (text : List Char) :
    ∃ ps, (parse path g text).split = Split.ofParts 0 ps ∧
      ps.flatMap Part.lines = linesOf text ∧ ∀ p ∈ ps, p.WellFormed g :=
  exists_parts_splitLines g (linesOf text) fun _ => not_mem_of_mem_linesOf

theorem finalBreak_parse (path : String) (g : Granularity) (text : List Char) :
    (parse path g text).finalBreak = decide (text.getLast? = some '\n') := rfl

/-- Without edits the lines are the texts of the pieces. -/
theorem linesOfSlots_freshSlots (f : File) : f.linesOfSlots f.freshSlots = f.split.texts := by
  unfold linesOfSlots Split.texts
  congr 1
  funext piece
  cases piece with
  | fixed line => rfl
  | unit index => cases h : f.split.units[index]? <;> simp [freshSlots, Piece.texts, h]

/-- The texts of the pieces have the lines of the text. -/
theorem glue_texts_parse (path : String) (g : Granularity) (text : List Char) :
    glue '\n' (parse path g text).split.texts = glue '\n' (linesOf text) := by
  obtain ⟨ps, hsplit, hlines, -⟩ := exists_parts_parse path g text
  rw [hsplit, Split.texts_ofParts, ← hlines, ← glue_flatMap_cut, List.flatMap_map]
  rfl

/-- A text that is not empty has a piece. -/
theorem texts_parse_ne_nil (path : String) (g : Granularity) {text : List Char} (h : text ≠ []) :
    (parse path g text).split.texts ≠ [] := by
  obtain ⟨ps, hsplit, hlines, -⟩ := exists_parts_parse path g text
  rw [hsplit, Split.texts_ofParts]
  intro hnil
  have hps : ps = [] := List.map_eq_nil_iff.mp hnil
  exact linesOf_ne_nil h (by rw [← hlines, hps]; rfl)

theorem original_parse (path : String) (g : Granularity) (text : List Char) :
    (parse path g text).original = text := by
  rw [original, linesOfSlots_freshSlots, textOfLines, glue_texts_parse]
  by_cases hnil : text = []
  · simp [hnil, parse, linesOf, glue]
  · have hne := texts_parse_ne_nil path g hnil
    simpa [finalBreak_parse, hne] using glue_linesOf text

/-- Edits of other files change nothing. -/
theorem slots_of_other_files {f : File} {fileIndex : Nat} {edits : List Edit}
    (h : ∀ e ∈ edits, e.target.file ≠ fileIndex) : f.slots fileIndex edits = f.freshSlots := by
  have hnone : edits.filter (fun e => e.target.file = fileIndex) = [] := by
    rw [List.filter_eq_nil_iff]
    intro e he
    simpa using h e he
  rw [slots, hnone]
  rfl

/-- The first line of a well-formed statement is neither blank nor a comment. -/
theorem isFixedLine_takeWhile_of_isStatement {text : List Char}
    (h : IsStatement (cut '\n' text)) : isFixedLine (text.takeWhile (· ≠ '\n')) = false := by
  obtain ⟨-, -, -, hstarts, -⟩ := h
  exact hstarts _ (head?_cut '\n' text)

/-- Splitting is lossless and well indexed. The text of a file comes back from its split, also
under edits of other files; its units are numbered from zero in order; by statements every fixed
piece is one line that is blank or a comment, and no unit starts with such a line. -/
theorem parse_lossless (path : String) (g : Granularity) (text : List Char) :
    (parse path g text).original = text ∧
    (∀ fileIndex edits, (∀ e ∈ edits, e.target.file ≠ fileIndex) →
      (parse path g text).render fileIndex edits = text) ∧
    (parse path g text).split.pieces.filterMap Piece.index? =
      List.range (parse path g text).unitCount ∧
    (g = .statement →
      (∀ line, Piece.fixed line ∈ (parse path g text).split.pieces →
        '\n' ∉ line ∧ (IsBlankLine line ∨ IsComment line)) ∧
      ∀ unit ∈ (parse path g text).split.units,
        ¬ IsBlankLine (unit.takeWhile (· ≠ '\n')) ∧ ¬ IsComment (unit.takeWhile (· ≠ '\n'))) := by
  obtain ⟨ps, hsplit, -, hform⟩ := exists_parts_parse path g text
  refine ⟨original_parse path g text, ?_, ?_, ?_⟩
  · intro fileIndex edits hother
    rw [render, slots_of_other_files hother]
    exact original_parse path g text
  · rw [unitCount, hsplit, Split.indices_ofParts, List.range_eq_range']
  · rintro rfl
    constructor
    · intro line hline
      rw [hsplit, Split.fixed_mem_ofParts] at hline
      obtain ⟨hbreak, hfixed⟩ := hform _ hline
      exact ⟨hbreak, (isFixedLine_iff line).mp hfixed⟩
    · intro unit hunit
      rw [hsplit, Split.mem_units_ofParts] at hunit
      have hfirst := isFixedLine_takeWhile_of_isStatement (hform _ hunit)
      rw [← not_or, ← isFixedLine_iff, hfirst]
      exact Bool.false_ne_true

/-- A bracket that is never closed takes the comment under it into its statement. -/
theorem parse_lossless_open_bracket :
    let f := parse "m.py" .statement "# c\r\n\nx = (1,\n # in".toList
    f.render 0 [.deletion ⟨1, 0⟩] = "# c\r\n\nx = (1,\n # in".toList ∧
    f.split.units = ["x = (1,\n # in".toList] ∧
    ∀ line, Piece.fixed line ∈ f.split.pieces →
      '\n' ∉ line ∧ (IsBlankLine line ∨ IsComment line) := by
  obtain ⟨-, hother, -, hform⟩ := parse_lossless "m.py" .statement "# c\r\n\nx = (1,\n # in".toList
  exact ⟨hother 0 [.deletion ⟨1, 0⟩] (by decide), by decide, (hform rfl).1⟩

end File

end ProgramRepair.Source
