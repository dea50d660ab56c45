import ProgramRepair.Proofs.Source.Reparsing

/-!
# Grouping lines into statements

A list of lines has one grouping: `Segments` says of parts that each unit is the shortest
run of lines that ends a statement, or what the end of the file leaves of one, and that
everything else is a blank line or a comment.

* `segments_iff`: the grouping that the splitter finds is the only one;
* `splitLines_of_isStatement`: a unit that is split on its own is one unit;
* `split_statements_compositional`: this, and that two lists of lines are split one after
  the other exactly if the first one leaves no statement open.

Between two lines the splitter knows whether a statement is open and what its lines leave
open; `advance` moves it over one line.
-/

namespace ProgramRepair.Source

open Text

/-! ## What is open between two lines -/

/-- What is open after one more line: the state of a statement that goes on, or nothing between
statements. -/
def advance (opened : Option ScanState) (line : List Char) : Option ScanState :=
  if opened = none ∧ isFixedLine line = true then none
  else
    let state := (opened.getD {}).feed line
    if state.continues line then some state else none

/-- What some lines at the start of a file leave open. -/
def openAfter (lines : List (List Char)) : Option ScanState := lines.foldl advance none

/-- Lines that a statement can start with. -/
def StartsStatement (lines : List (List Char)) : Prop :=
  ∀ first ∈ lines.head?, isFixedLine first = false

section Advance

variable {opened : Option ScanState} {line : List Char}

theorem advance_of_fixed (h : isFixedLine line = true) : advance none line = none := by
  rw [advance, if_pos ⟨rfl, h⟩]

theorem advance_of_not_fixed (h : opened = none → isFixedLine line = false) :
    advance opened line =
      if ((opened.getD {}).feed line).continues line then some ((opened.getD {}).feed line)
      else none := by
  have hnot : ¬ (opened = none ∧ isFixedLine line = true) := by
    rintro ⟨hnone, hfixed⟩
    rw [h hnone] at hfixed
    cases hfixed
  rw [advance, if_neg hnot]

/-- A statement that goes on stays open. -/
theorem foldl_advance_of_goesOn {s : ScanState} {run : List (List Char)} (h : s.GoesOn run) :
    run.foldl advance (some s) = some (s.feedAll run) := by
  induction run generalizing s with
  | nil => rfl
  | cons line rest ih =>
    have hline : advance (some s) line = some (s.feed line) := by
      rw [advance_of_not_fixed (by simp), Option.getD_some, if_pos h.1]
    rw [List.foldl_cons, hline, ih h.2]
    rfl

theorem foldl_advance_of_starts {run : List (List Char)} (hne : run ≠ [])
    (hstarts : StartsStatement run) (hgoes : ({} : ScanState).GoesOn run) :
    run.foldl advance none = some (({} : ScanState).feedAll run) := by
  obtain ⟨line, rest, rfl⟩ := List.exists_cons_of_ne_nil hne
  have hline : advance none line = some (({} : ScanState).feed line) := by
    rw [advance_of_not_fixed fun _ => hstarts line rfl, Option.getD_none, if_pos hgoes.1]
  rw [List.foldl_cons, hline, foldl_advance_of_goesOn hgoes.2]
  rfl

/-- The last line of a statement leaves nothing open. -/
theorem foldl_advance_of_closed {init : List (List Char)} {last : List Char}
    (hstarts : StartsStatement (init ++ [last])) (hgoes : ({} : ScanState).GoesOn init)
    (hclosed : ((({} : ScanState).feedAll init).feed last).continues last = false) :
    (init ++ [last]).foldl advance none = none := by
  rw [List.foldl_append, List.foldl_cons, List.foldl_nil]
  cases init with
  | nil =>
    rw [List.foldl_nil, advance_of_not_fixed fun _ => hstarts last rfl, Option.getD_none]
    exact if_neg (ne_true_of_eq_false hclosed)
  | cons line rest =>
    have hopen := foldl_advance_of_starts (List.cons_ne_nil line rest)
      (fun first hfirst => hstarts first (by simpa using hfirst)) hgoes
    rw [hopen, advance_of_not_fixed (by simp), Option.getD_some]
    exact if_neg (ne_true_of_eq_false hclosed)

end Advance

/-! ## The grouping of some lines -/

/-- The parts that lines are grouped into. A unit is the run of lines from one that is neither
blank nor a comment to the first one after which the statement does not go on, or to the end. -/
inductive Segments : List (List Char) → List Part → Prop
  | nil : Segments [] []
  | fixed {line : List Char} {rest : List (List Char)} {ps : List Part} :
    isFixedLine line = true → Segments rest ps → Segments (line :: rest) (.fixed line :: ps)
  | closed {init : List (List Char)} {last : List Char} {rest : List (List Char)}
      {ps : List Part} :
    StartsStatement (init ++ [last]) → ({} : ScanState).GoesOn init →
    ((({} : ScanState).feedAll init).feed last).continues last = false →
    Segments rest ps →
    Segments ((init ++ [last]) ++ rest) (.unit (glue '\n' (init ++ [last])) :: ps)
  | unended {run : List (List Char)} :
    run ≠ [] → StartsStatement run → ({} : ScanState).GoesOn run →
    Segments run [.unit (glue '\n' run)]

/-- The lines of a statement that is open at the end of the file. -/
theorem splitStatementsFrom_unended (run : List (List Char)) (index : Nat)
    (pending : List (List Char)) (state : ScanState) (hne : pending ++ run ≠ [])
    (hstarts : pending = [] → StartsStatement run) (hgoes : state.GoesOn run) :
    splitStatementsFrom index pending state run =
      Split.nil.consUnit index (glue '\n' (pending ++ run)) := by
  induction run generalizing pending state with
  | nil =>
    rw [List.append_nil] at hne ⊢
    rw [splitStatementsFrom, if_neg hne]
  | cons line rest ih =>
    have hfirst : ¬ (pending = [] ∧ isFixedLine line = true) := by
      rintro ⟨hnil, hfixed⟩
      rw [hstarts hnil line rfl] at hfixed
      cases hfixed
    have hrest := ih (pending ++ [line]) (state.feed line) (by simp) (by simp) hgoes.2
    rw [splitStatementsFrom, if_neg hfirst]
    simpa [hgoes.1] using hrest

/-- The splitter finds every grouping. -/
theorem Segments.split_eq {lines : List (List Char)} {ps : List Part} (h : Segments lines ps)
    (index : Nat) : splitStatementsFrom index [] {} lines = Split.ofParts index ps := by
  induction h generalizing index with
  | nil => rfl
  | fixed hfixed _ ih =>
    rw [splitStatementsFrom, if_pos ⟨rfl, hfixed⟩, ih index]
    rfl
  | @closed init last rest ps hstarts hgoes hclosed _ ih =>
    rw [List.append_assoc, List.singleton_append,
      splitStatementsFrom_statement init last rest index [] {} (fun _ => hstarts) hgoes hclosed,
      ih (index + 1), List.nil_append]
    rfl
  | @unended run hne hstarts hgoes =>
    exact splitStatementsFrom_unended run index [] {} hne (fun _ => hstarts) hgoes

theorem StartsStatement.append_singleton {pending : List (List Char)} {line : List Char}
    (h : StartsStatement pending) (hline : pending = [] → isFixedLine line = false) :
    StartsStatement (pending ++ [line]) := by
  intro first hfirst
  cases pending with
  | nil =>
    have heq : line = first := by simpa using hfirst
    exact heq ▸ hline rfl
  | cons head _ => exact h first (by simpa using hfirst)

theorem startsStatement_nil : StartsStatement [] := by simp [StartsStatement]

/-- All lines have a grouping. The induction is on the lines after `pending`, a statement that goes
on; if there is one, its unit takes in at least the next line. -/
theorem exists_segments_append (lines pending : List (List Char))
    (hstarts : StartsStatement pending) (hgoes : ({} : ScanState).GoesOn pending) :
    ∃ ps, Segments (pending ++ lines) ps ∧
      (pending ≠ [] → ∃ more rest, ps = .unit (glue '\n' (pending ++ more)) :: rest ∧
        (lines ≠ [] → more ≠ [])) := by
  induction lines generalizing pending with
  | nil =>
    rw [List.append_nil]
    by_cases hnil : pending = []
    · exact ⟨[], hnil ▸ .nil, fun hne => absurd hnil hne⟩
    · exact ⟨_, .unended hnil hstarts hgoes, fun _ => ⟨[], [], by simp, absurd rfl⟩⟩
  | cons line rest ih =>
    by_cases hfixed : pending = [] ∧ isFixedLine line = true
    · obtain ⟨rfl, hline⟩ := hfixed
      obtain ⟨ps, hps, -⟩ := ih [] startsStatement_nil trivial
      exact ⟨_, .fixed hline hps, absurd rfl⟩
    · have hstarts' : StartsStatement (pending ++ [line]) :=
        hstarts.append_singleton fun hnil => eq_false_of_ne_true fun h => hfixed ⟨hnil, h⟩
      -- the line is the next one of a statement, or its last one
      by_cases hcont :
          ((({} : ScanState).feedAll pending).feed line).continues line = true
      · have hgoes' : ({} : ScanState).GoesOn (pending ++ [line]) :=
          ScanState.goesOn_append.mpr ⟨hgoes, hcont, trivial⟩
        obtain ⟨ps, hps, hunit⟩ := ih (pending ++ [line]) hstarts' hgoes'
        obtain ⟨more, tail, htail, -⟩ := hunit (by simp)
        exact ⟨ps, by simpa using hps, fun _ => ⟨line :: more, tail, by simpa using htail, by simp⟩⟩
      · obtain ⟨ps, hps, -⟩ := ih [] startsStatement_nil trivial
        have hclosed := Segments.closed hstarts' hgoes (eq_false_of_ne_true hcont) hps
        exact ⟨_, by simpa using hclosed, fun _ => ⟨[line], ps, rfl, by simp⟩⟩

theorem exists_segments (lines : List (List Char)) : ∃ ps, Segments lines ps := by
  obtain ⟨ps, hps, -⟩ := exists_segments_append lines [] startsStatement_nil trivial
  exact ⟨ps, hps⟩

/-! ## Splits one after the other -/

/-- The piece after `count` units more. -/
def Piece.shift (count : Nat) : Piece → Piece
  | fixed line => fixed line
  | unit index => unit (index + count)

namespace Split

/-- One split after another one, the units of the second one numbered on. -/
def append (s t : Split) : Split :=
  ⟨s.pieces ++ t.pieces.map (Piece.shift s.units.length), s.units ++ t.units⟩

theorem ofParts_add (index count : Nat) (ps : List Part) :
    ofParts (index + count) ps =
      ⟨(ofParts index ps).pieces.map (Piece.shift count), (ofParts index ps).units⟩ := by
  induction ps generalizing index with
  | nil => rfl
  | cons p rest ih =>
    cases p with
    | fixed line => simp only [ofParts, ih index, consFixed, List.map_cons, Piece.shift]
    | unit text =>
      have hindex : index + count + 1 = index + 1 + count := by omega
      simp only [ofParts, hindex, ih (index + 1), consUnit, List.map_cons, Piece.shift]

theorem ofParts_append_from (index : Nat) (ps qs : List Part) :
    ofParts index (ps ++ qs) =
      ⟨(ofParts index ps).pieces ++
          (ofParts (index + (ofParts index ps).units.length) qs).pieces,
        (ofParts index ps).units ++ (ofParts index qs).units⟩ := by
  induction ps generalizing index with
  | nil => rfl
  | cons p rest ih =>
    cases p with
    | fixed line => simp only [List.cons_append, ofParts, ih index, consFixed]
    | unit text =>
      have hunits : (ofParts (index + 1) qs).units = (ofParts index qs).units := by
        rw [ofParts_add]
      have hindex : index + 1 + (ofParts (index + 1) rest).units.length =
          index + ((ofParts (index + 1) rest).units.length + 1) := by omega
      simp only [List.cons_append, ofParts, ih (index + 1), consUnit, hunits, List.length_cons,
        hindex]

/-- Parts are numbered one after the other. -/
theorem ofParts_append (ps qs : List Part) :
    ofParts 0 (ps ++ qs) = (ofParts 0 ps).append (ofParts 0 qs) := by
  rw [ofParts_append_from, ofParts_add]
  rfl

/-- A split tells its parts. -/
theorem ofParts_injective {index : Nat} {ps qs : List Part}
    (h : ofParts index ps = ofParts index qs) : ps = qs := by
  induction ps generalizing index qs with
  | nil =>
    cases qs with
    | nil => rfl
    | cons q _ => cases q <;> simp [ofParts, Split.nil, consFixed, consUnit] at h
  | cons p rest ih =>
    cases qs with
    | nil => cases p <;> simp [ofParts, Split.nil, consFixed, consUnit] at h
    | cons q rest' =>
      cases p <;> cases q <;>
        simp only [ofParts, consFixed, consUnit, Split.mk.injEq, List.cons.injEq, reduceCtorEq,
          Piece.fixed.injEq, false_and, true_and] at h
      case fixed.fixed =>
        obtain ⟨⟨rfl, hpieces⟩, hunits⟩ := h
        rw [ih (congrArg₂ Split.mk hpieces hunits)]
      case unit.unit =>
        obtain ⟨hpieces, rfl, hunits⟩ := h
        rw [ih (congrArg₂ Split.mk hpieces hunits)]

end Split

namespace Segments

variable {a b lines : List (List Char)} {ps qs : List Part}

/-- After lines that leave nothing open, others are grouped as if they stood alone. -/
theorem append (ha : Segments a ps) (hnone : openAfter a = none) (hb : Segments b qs) :
    Segments (a ++ b) (ps ++ qs) := by
  induction ha with
  | nil => exact hb
  | fixed hfixed _ ih =>
    rw [openAfter, List.foldl_cons, advance_of_fixed hfixed] at hnone
    exact .fixed hfixed (ih hnone)
  | closed hstarts hgoes hclosed _ ih =>
    rw [openAfter, List.foldl_append, foldl_advance_of_closed hstarts hgoes hclosed] at hnone
    rw [List.append_assoc]
    exact .closed hstarts hgoes hclosed (ih hnone)
  | unended hne hstarts hgoes =>
    rw [openAfter, foldl_advance_of_starts hne hstarts hgoes] at hnone
    cases hnone

/-- The lines of a statement that is left open stand at the end. -/
theorem exists_open_run (ha : Segments a ps) (hopen : openAfter a ≠ none) :
    ∃ before run qs, a = before ++ run ∧ ps = qs ++ [.unit (glue '\n' run)] ∧
      Segments before qs ∧ openAfter before = none ∧
      run ≠ [] ∧ StartsStatement run ∧ ({} : ScanState).GoesOn run := by
  induction ha with
  | nil => exact absurd rfl hopen
  | @fixed line rest ps hfixed _ ih =>
    rw [openAfter, List.foldl_cons, advance_of_fixed hfixed] at hopen
    obtain ⟨before, run, qs, rfl, rfl, hbefore, hnone, hrun⟩ := ih hopen
    refine ⟨line :: before, run, .fixed line :: qs, rfl, rfl, .fixed hfixed hbefore, ?_, hrun⟩
    rw [openAfter, List.foldl_cons, advance_of_fixed hfixed]
    exact hnone
  | @closed init last rest ps hstarts hgoes hclosed _ ih =>
    rw [openAfter, List.foldl_append, foldl_advance_of_closed hstarts hgoes hclosed] at hopen
    obtain ⟨before, run, qs, rfl, rfl, hbefore, hnone, hrun⟩ := ih hopen
    refine ⟨(init ++ [last]) ++ before, run, _, (List.append_assoc _ _ _).symm, rfl,
      .closed hstarts hgoes hclosed hbefore, ?_, hrun⟩
    rw [openAfter, List.foldl_append, foldl_advance_of_closed hstarts hgoes hclosed]
    exact hnone
  | @unended run hne hstarts hgoes =>
    exact ⟨[], run, [], rfl, rfl, .nil, rfl, hne, hstarts, hgoes⟩

end Segments

/-- The splitter finds the one grouping that there is. -/
theorem segments_iff (lines : List (List Char)) (ps : List Part) :
    Segments lines ps ↔ splitLines .statement lines = Split.ofParts 0 ps := by
  constructor
  · exact fun h => h.split_eq 0
  · intro hsplit
    obtain ⟨qs, hqs⟩ := exists_segments lines
    rw [Split.ofParts_injective (hsplit.symm.trans (hqs.split_eq 0))]
    exact hqs

/-- A statement that goes on takes in the next line, so its unit is another one. -/
theorem unit_ne_of_append {run more : List (List Char)} (hrun : run ≠ []) (hmore : more ≠ []) :
    glue '\n' (run ++ more) ≠ glue '\n' run := by
  intro heq
  have hlength := congrArg List.length heq
  rw [glue_append hrun hmore] at hlength
  simp at hlength

/-- Lines are split one after the other exactly if nothing is left open between them. -/
theorem splitLines_append_iff (a b : List (List Char)) :
    splitLines .statement (a ++ b) =
        (splitLines .statement a).append (splitLines .statement b) ↔
      openAfter a = none ∨ b = [] := by
  obtain ⟨ps, hps⟩ := exists_segments a
  obtain ⟨qs, hqs⟩ := exists_segments b
  have happend : (splitLines .statement a).append (splitLines .statement b) =
      Split.ofParts 0 (ps ++ qs) := by
    rw [(segments_iff a ps).mp hps, (segments_iff b qs).mp hqs, Split.ofParts_append]
  rw [happend, ← segments_iff]
  constructor
  · intro h
    by_contra hnot
    obtain ⟨hopen, hb⟩ := not_or.mp hnot
    obtain ⟨before, run, front, rfl, rfl, hbefore, hnone, hrun, hstarts, hgoes⟩ :=
      hps.exists_open_run hopen
    -- the run takes in lines of `b`
    obtain ⟨back, hback, hunit⟩ := exists_segments_append b run hstarts hgoes
    obtain ⟨more, rest, rfl, hmore⟩ := hunit hrun
    have hwhole := hbefore.append hnone hback
    rw [← List.append_assoc] at hwhole
    have heq := Split.ofParts_injective (((segments_iff _ _).mp hwhole).symm.trans
      ((segments_iff _ _).mp h))
    rw [List.append_assoc, List.append_cancel_left_eq, List.singleton_append,
      List.cons.injEq, Part.unit.injEq] at heq
    exact unit_ne_of_append hrun (hmore hb) heq.1
  · rintro (hnone | rfl)
    · exact hps.append hnone hqs
    · have hnil : qs = [] := Split.ofParts_injective ((hqs.split_eq 0).symm.trans rfl)
      rw [hnil, List.append_nil, List.append_nil]
      exact hps

/-- The lines of a statement are one unit. -/
theorem splitLines_of_isStatement {unit : List Char} (h : IsStatement (cut '\n' unit)) :
    splitLines .statement (cut '\n' unit) = ⟨[.unit 0], [unit]⟩ := by
  obtain ⟨init, last, hlines, hstarts, hgoes⟩ := h
  rw [hlines] at hstarts
  have htext : glue '\n' (init ++ [last]) = unit := by rw [← hlines, glue_cut]
  have hsegments : Segments (init ++ [last]) [.unit (glue '\n' (init ++ [last]))] := by
    by_cases hcont : ((({} : ScanState).feedAll init).feed last).continues last = true
    · exact .unended (by simp) hstarts (ScanState.goesOn_append.mpr ⟨hgoes, hcont, trivial⟩)
    · have hclosed := Segments.closed hstarts hgoes (eq_false_of_ne_true hcont) .nil
      rwa [List.append_nil] at hclosed
  rw [htext] at hsegments
  rw [hlines, (segments_iff _ _).mp hsegments]
  rfl

/-- Splitting into statements is compositional. Lists of lines are split one after the other
exactly if the first one leaves no statement open; a unit of a file, split on its own, is one unit;
and a grouping into shortest runs is the one that is found. -/
theorem split_statements_compositional :
    (∀ a b : List (List Char),
      splitLines .statement (a ++ b) =
          (splitLines .statement a).append (splitLines .statement b) ↔
        openAfter a = none ∨ b = []) ∧
    (∀ path text, ∀ unit ∈ (File.parse path .statement text).split.units,
      splitLines .statement (cut '\n' unit) = ⟨[.unit 0], [unit]⟩) ∧
    ∀ lines ps, Segments lines ps ↔ splitLines .statement lines = Split.ofParts 0 ps := by
  refine ⟨splitLines_append_iff, ?_, segments_iff⟩
  intro path text unit hunit
  obtain ⟨ps, hsplit, -, hform⟩ := File.exists_parts_parse path .statement text
  rw [hsplit, Split.mem_units_ofParts] at hunit
  exact splitLines_of_isStatement (hform _ hunit)

/-- A call of two lines is closed, and what follows it is split on its own. -/
theorem split_statements_after_call :
    splitLines .statement (["f(1,".toList, "  2)".toList] ++ ["# c".toList, "x = '''a".toList]) =
        ⟨[.unit 0, .fixed "# c".toList, .unit 1], ["f(1,\n  2)".toList, "x = '''a".toList]⟩ ∧
      splitLines .statement (cut '\n' "f(1,\n  2)".toList) =
        ⟨[.unit 0], ["f(1,\n  2)".toList]⟩ := by
  obtain ⟨happend, hunit, -⟩ := split_statements_compositional
  exact ⟨((happend _ _).mpr (.inl (by decide))).trans (by decide +kernel),
    hunit "m.py" "f(1,\n  2)\nx = 1\n".toList _ (by decide)⟩

/-! ## The same grouping -/

/-- Two splits that group lines in the same way: their pieces are of the same kinds and have as many
lines. -/
structure SameGrouping (s t : Split) : Prop where
  kinds : s.pieces.map Piece.index? = t.pieces.map Piece.index?
  lineCounts : (s.texts.map fun text => (cut '\n' text).length) =
    t.texts.map fun text => (cut '\n' text).length

/-- Two parts of the same kind, with as many lines. -/
inductive Part.SameExtent : Part → Part → Prop
  | fixed {line line' : List Char} :
    (cut '\n' line).length = (cut '\n' line').length → SameExtent (.fixed line) (.fixed line')
  | unit {text text' : List Char} :
    (cut '\n' text).length = (cut '\n' text').length → SameExtent (.unit text) (.unit text')

theorem index?_ofParts_congr {ps qs : List Part} (h : List.Forall₂ Part.SameExtent ps qs)
    (index : Nat) :
    (Split.ofParts index ps).pieces.map Piece.index? =
      (Split.ofParts index qs).pieces.map Piece.index? := by
  induction h generalizing index with
  | nil => rfl
  | cons hpart _ ih =>
    cases hpart with
    | fixed _ => simp [Split.ofParts, Split.consFixed, Piece.index?, ih index]
    | unit _ => simp [Split.ofParts, Split.consUnit, Piece.index?, ih (index + 1)]

theorem sameGrouping_ofParts {ps qs : List Part} (h : List.Forall₂ Part.SameExtent ps qs) :
    SameGrouping (Split.ofParts 0 ps) (Split.ofParts 0 qs) where
  kinds := index?_ofParts_congr h 0
  lineCounts := by
    rw [Split.texts_ofParts, Split.texts_ofParts]
    induction h with
    | nil => rfl
    | cons hpart _ ih =>
      cases hpart with
      | fixed hlength => simpa [Part.text, hlength] using ih
      | unit hlength => simpa [Part.text, hlength] using ih

/-- Two lists of lines that move the splitter in the same way, line by line. -/
inductive InStep : Option ScanState → List (List Char) → List (List Char) → Prop
  | nil (opened : Option ScanState) : InStep opened [] []
  | cons {opened : Option ScanState} {line line' : List Char} {rest rest' : List (List Char)} :
    (opened = none → isFixedLine line = isFixedLine line') →
    advance opened line = advance opened line' →
    InStep (advance opened line) rest rest' → InStep opened (line :: rest) (line' :: rest')

/-- One step of the splitter, which has lines pending exactly if a statement is open. -/
theorem splitStatementsFrom_cons {opened : Option ScanState} {pending : List (List Char)}
    (hopened : pending = [] ↔ opened = none) (index : Nat) (line : List Char)
    (rest : List (List Char)) :
    splitStatementsFrom index pending (opened.getD {}) (line :: rest) =
      if opened = none ∧ isFixedLine line = true then
        (splitStatementsFrom index [] {} rest).consFixed line
      else match advance opened line with
        | some state => splitStatementsFrom index (pending ++ [line]) state rest
        | none => (splitStatementsFrom (index + 1) [] {} rest).consUnit index
            (glue '\n' (pending ++ [line])) := by
  rw [splitStatementsFrom]
  by_cases hfixed : opened = none ∧ isFixedLine line = true
  · rw [if_pos hfixed, if_pos ⟨hopened.mpr hfixed.1, hfixed.2⟩, hfixed.1]
    rfl
  · rw [if_neg hfixed, if_neg fun h => hfixed ⟨hopened.mp h.1, h.2⟩, advance, if_neg hfixed]
    dsimp only
    split <;> rfl

theorem Part.sameExtent_line {line line' : List Char} (h : '\n' ∉ line) (h' : '\n' ∉ line') :
    Part.SameExtent (.fixed line) (.fixed line') := by
  refine .fixed ?_
  rw [cut_of_not_mem h, cut_of_not_mem h', List.length_singleton, List.length_singleton]

/-- Runs of as many lines are units of the same extent. -/
theorem Part.sameExtent_glue {run run' : List (List Char)} (hne : run ≠ [])
    (hlength : run.length = run'.length) (hrun : ∀ line ∈ run, '\n' ∉ line)
    (hrun' : ∀ line ∈ run', '\n' ∉ line) :
    Part.SameExtent (.unit (glue '\n' run)) (.unit (glue '\n' run')) := by
  have hne' : run' ≠ [] := by
    rw [← List.length_pos_iff, ← hlength, List.length_pos_iff]
    exact hne
  exact .unit (by rw [cut_glue hne hrun, cut_glue hne' hrun', hlength])

/-- The induction is on the steps, where as many lines are pending on both sides. -/
theorem exists_parts_of_inStep {opened : Option ScanState} {lines lines' : List (List Char)}
    (h : InStep opened lines lines') (index : Nat) (pending pending' : List (List Char))
    (hlength : pending.length = pending'.length) (hopened : pending = [] ↔ opened = none)
    (hlines : ∀ line ∈ pending ++ lines, '\n' ∉ line)
    (hlines' : ∀ line ∈ pending' ++ lines', '\n' ∉ line) :
    ∃ ps qs, splitStatementsFrom index pending (opened.getD {}) lines = Split.ofParts index ps ∧
      splitStatementsFrom index pending' (opened.getD {}) lines' = Split.ofParts index qs ∧
      List.Forall₂ Part.SameExtent ps qs := by
  have hnil : pending' = [] ↔ pending = [] := by
    rw [← List.length_eq_zero_iff, ← hlength, List.length_eq_zero_iff]
  induction h generalizing index pending pending' with
  | nil opened =>
    rw [List.append_nil] at hlines hlines'
    by_cases hpending : pending = []
    · exact ⟨[], [], by rw [splitStatementsFrom, if_pos hpending]; rfl,
        by rw [splitStatementsFrom, if_pos (hnil.mpr hpending)]; rfl, .nil⟩
    · exact ⟨[.unit (glue '\n' pending)], [.unit (glue '\n' pending')],
        by rw [splitStatementsFrom, if_neg hpending]; rfl,
        by rw [splitStatementsFrom, if_neg (mt hnil.mp hpending)]; rfl,
        .cons (Part.sameExtent_glue hpending hlength hlines hlines') .nil⟩
  | @cons opened line line' rest rest' hfixed hadvance _ ih =>
    have hrun : ∀ l ∈ pending ++ [line], '\n' ∉ l := by grind
    have hrun' : ∀ l ∈ pending' ++ [line'], '\n' ∉ l := by grind
    have hrest : ∀ l ∈ [] ++ rest, '\n' ∉ l := by grind
    have hrest' : ∀ l ∈ [] ++ rest', '\n' ∉ l := by grind
    rw [splitStatementsFrom_cons hopened, splitStatementsFrom_cons (hnil.trans hopened),
      ← hadvance]
    by_cases hline : opened = none ∧ isFixedLine line = true
    · have hline' : opened = none ∧ isFixedLine line' = true :=
        ⟨hline.1, hfixed hline.1 ▸ hline.2⟩
      have hnext : advance opened line = none := hline.1 ▸ advance_of_fixed hline.2
      rw [hnext] at ih
      obtain ⟨ps, qs, hps, hqs, hparts⟩ := ih index [] [] rfl (by simp) hrest hrest' (by simp)
      have hextent := Part.sameExtent_line (hrun line (by simp)) (hrun' line' (by simp))
      rw [if_pos hline, if_pos hline']
      exact ⟨.fixed line :: ps, .fixed line' :: qs, congrArg (Split.consFixed line) hps,
        congrArg (Split.consFixed line') hqs, .cons hextent hparts⟩
    · have hline' : ¬ (opened = none ∧ isFixedLine line' = true) := fun h =>
        hline ⟨h.1, (hfixed h.1).trans h.2⟩
      rw [if_neg hline, if_neg hline']
      cases hnext : advance opened line with
      | some state =>
        rw [hnext] at ih
        exact ih index (pending ++ [line]) (pending' ++ [line']) (by simp [hlength]) (by simp)
          (by simpa using hlines) (by simpa using hlines') (by simp)
      | none =>
        rw [hnext] at ih
        obtain ⟨ps, qs, hps, hqs, hparts⟩ :=
          ih (index + 1) [] [] rfl (by simp) hrest hrest' (by simp)
        have hextent := Part.sameExtent_glue (by simp) (by simp [hlength]) hrun hrun'
        exact ⟨.unit (glue '\n' (pending ++ [line])) :: ps,
          .unit (glue '\n' (pending' ++ [line'])) :: qs,
          congrArg (Split.consUnit index (glue '\n' (pending ++ [line]))) hps,
          congrArg (Split.consUnit index (glue '\n' (pending' ++ [line']))) hqs,
          .cons hextent hparts⟩

/-- Lines that move the splitter in the same way are grouped in the same way. -/
theorem InStep.sameGrouping {lines lines' : List (List Char)} (h : InStep none lines lines')
    (hlines : ∀ line ∈ lines, '\n' ∉ line) (hlines' : ∀ line ∈ lines', '\n' ∉ line) :
    SameGrouping (splitLines .statement lines) (splitLines .statement lines') := by
  obtain ⟨ps, qs, hps, hqs, hparts⟩ :=
    exists_parts_of_inStep h 0 [] [] rfl (by simp) hlines hlines'
  rw [show splitLines .statement lines = Split.ofParts 0 ps from hps,
    show splitLines .statement lines' = Split.ofParts 0 qs from hqs]
  exact sameGrouping_ofParts hparts

end ProgramRepair.Source
