import Mathlib.Data.List.TakeWhile
import ProgramRepair.Proofs.Source.Splitting

/-!
# Scanning and indentation

Blanks at the start of a line mean nothing to the scanner: `feed_append_blanks`
and `continues_append_blanks`. Moving a text to another indentation changes only
such blanks, so a statement stays a statement and a closed one stays closed:
`isStatement_reindent` and `isClosed_reindent`.
-/

namespace ProgramRepair.Source

open Text

/-! ## Characters without a meaning -/

/-- A character that the scanner passes over wherever it stands, unless a backslash hides it. -/
structure IsPlain (c : Char) : Prop where
  ne_backslash : c ≠ '\\'
  not_quote : Quote.ofChar? c = none
  ne_hash : c ≠ '#'
  not_open : ¬ (c = '(' ∨ c = '[' ∨ c = '\x7b')
  not_close : ¬ (c = ')' ∨ c = ']' ∨ c = '\x7d')

theorem IsPlain.ne_mark {c : Char} (h : IsPlain c) (q : Quote) : c ≠ q.mark := by
  have hquote := h.not_quote
  unfold Quote.ofChar? at hquote
  split at hquote
  · cases hquote
  · next hsingle =>
    split at hquote
    · cases hquote
    · next hdouble =>
      cases q with
      | single => exact hsingle
      | double => exact hdouble

theorem isPlain_of_isBlank {c : Char} (h : isBlank c = true) : IsPlain c where
  ne_backslash := by rintro rfl; revert h; decide
  not_quote := by
    have hsingle : c ≠ Quote.mark .single := by rintro rfl; revert h; decide
    have hdouble : c ≠ Quote.mark .double := by rintro rfl; revert h; decide
    simp [Quote.ofChar?, hsingle, hdouble]
  ne_hash := by rintro rfl; revert h; decide
  not_open := by rintro (rfl | rfl | rfl) <;> revert h <;> decide
  not_close := by rintro (rfl | rfl | rfl) <;> revert h <;> decide

theorem scan_cons_plain {c : Char} (h : IsPlain c) (mode : ScanMode) (depth : Nat)
    (cs : List Char) : scan mode depth (c :: cs) = scan mode depth cs := by
  rw [scan.eq_def]
  cases mode with
  | code => simp only [h.not_quote, h.ne_hash, h.not_open, h.not_close, if_false]
  | quoted q => simp only [h.ne_backslash, h.ne_mark q, if_false]
  | triple q =>
    simp only [h.ne_backslash, h.ne_mark q, if_false, false_and]
    split <;> rfl

theorem scan_append_blanks {blanks : List Char} (h : ∀ c ∈ blanks, isBlank c = true)
    (mode : ScanMode) (depth : Nat) (cs : List Char) :
    scan mode depth (blanks ++ cs) = scan mode depth cs := by
  induction blanks with
  | nil => rfl
  | cons c rest ih =>
    rw [List.cons_append, scan_cons_plain (isPlain_of_isBlank (h c List.mem_cons_self))]
    exact ih fun a ha => h a (List.mem_cons_of_mem c ha)

/-! ## Lines -/

/-- The last character that is no blank. -/
theorem getLast?_trimEnd (s : List Char) :
    (trimEnd s).getLast? = s.reverse.find? fun c => !isBlank c := by
  rw [trimEnd, List.getLast?_reverse, List.find?_not_eq_head?_dropWhile]

namespace ScanState

variable {blanks : List Char}

theorem feed_append_blanks (h : ∀ c ∈ blanks, isBlank c = true) (s : ScanState)
    (line : List Char) : s.feed (blanks ++ line) = s.feed line := by
  rw [feed, scan_append_blanks h, feed]

theorem continues_append_blanks (h : ∀ c ∈ blanks, isBlank c = true) (s : ScanState)
    (line : List Char) : s.continues (blanks ++ line) = s.continues line := by
  have hnone : blanks.reverse.find? (fun c => !isBlank c) = none := by
    rw [List.find?_eq_none]
    intro c hc
    simp [h c (List.mem_reverse.mp hc)]
  simp only [continues, getLast?_trimEnd, List.reverse_append, List.find?_append, hnone,
    Option.or_none]

end ScanState

theorem isFixedLine_append_blanks {blanks : List Char} (h : ∀ c ∈ blanks, isBlank c = true)
    (line : List Char) : isFixedLine (blanks ++ line) = isFixedLine line := by
  rw [isFixedLine, trimStart, List.dropWhile_append_of_pos h]
  rfl

/-! ## Indentation -/

theorem isBlank_of_mem_indentation {text : List Char} {c : Char} (h : c ∈ indentation text) :
    isBlank c = true :=
  List.mem_takeWhile_imp h

theorem not_mem_indentation (text : List Char) : '\n' ∉ indentation text := by
  intro h
  have hline : '\n' ∈ firstLine text := (List.takeWhile_prefix isBlank).subset h
  have hmem : '\n' ∈ text.takeWhile (· ≠ '\n') := by
    unfold firstLine at hline
    simp only at hline
    split at hline
    · exact List.dropLast_subset _ hline
    · exact hline
  simpa using List.mem_takeWhile_imp hmem

theorem dropLead?_eq_some {lead s rest : List Char} (h : dropLead? lead s = some rest) :
    s = lead ++ rest := by
  induction lead generalizing s with
  | nil => simpa [dropLead?] using h
  | cons a lead ih =>
    cases s with
    | nil => simp [dropLead?] at h
    | cons c s =>
      by_cases hac : a = c
      · rw [dropLead?, if_pos hac] at h
        rw [hac, ih h, List.cons_append]
      · rw [dropLead?, if_neg hac] at h
        cases h

/-- One line with the indentation `was` replaced by `now`. -/
def reindentLine (was now line : List Char) : List Char :=
  match dropLead? was line with
  | some rest => now ++ rest
  | none => line

/-- A line is moved by blanks, or it stays as it is. -/
theorem reindentLine_cases (was now line : List Char) :
    (∃ rest, line = was ++ rest ∧ reindentLine was now line = now ++ rest) ∨
      reindentLine was now line = line := by
  unfold reindentLine
  cases h : dropLead? was line with
  | some rest => exact Or.inl ⟨rest, dropLead?_eq_some h, rfl⟩
  | none => exact Or.inr rfl

section Reindent

variable {was now : List Char} (hwas : ∀ c ∈ was, isBlank c = true)
  (hnow : ∀ c ∈ now, isBlank c = true)

include hwas hnow

theorem feed_reindentLine (s : ScanState) (line : List Char) :
    s.feed (reindentLine was now line) = s.feed line := by
  rcases reindentLine_cases was now line with ⟨rest, hline, hmoved⟩ | hsame
  · rw [hmoved, hline, s.feed_append_blanks hnow, s.feed_append_blanks hwas]
  · rw [hsame]

theorem continues_reindentLine (s : ScanState) (line : List Char) :
    s.continues (reindentLine was now line) = s.continues line := by
  rcases reindentLine_cases was now line with ⟨rest, hline, hmoved⟩ | hsame
  · rw [hmoved, hline, s.continues_append_blanks hnow, s.continues_append_blanks hwas]
  · rw [hsame]

theorem isFixedLine_reindentLine (line : List Char) :
    isFixedLine (reindentLine was now line) = isFixedLine line := by
  rcases reindentLine_cases was now line with ⟨rest, hline, hmoved⟩ | hsame
  · rw [hmoved, hline, isFixedLine_append_blanks hnow, isFixedLine_append_blanks hwas]
  · rw [hsame]

theorem feedAll_map_reindentLine (s : ScanState) (lines : List (List Char)) :
    s.feedAll (lines.map (reindentLine was now)) = s.feedAll lines := by
  induction lines generalizing s with
  | nil => rfl
  | cons line rest ih =>
    simp only [ScanState.feedAll, List.map_cons, List.foldl_cons,
      feed_reindentLine hwas hnow] at ih ⊢
    exact ih (s.feed line)

theorem goesOn_map_reindentLine (s : ScanState) (lines : List (List Char)) :
    s.GoesOn (lines.map (reindentLine was now)) ↔ s.GoesOn lines := by
  induction lines generalizing s with
  | nil => rfl
  | cons line rest ih =>
    simp only [List.map_cons, ScanState.GoesOn, feed_reindentLine hwas hnow,
      continues_reindentLine hwas hnow, ih]

end Reindent

/-! ## Statements -/

/-- A unit is closed if its statement does not go on after its last line. -/
def IsClosed (text : List Char) : Prop :=
  ∀ last ∈ (cut '\n' text).getLast?,
    (({} : ScanState).feedAll (cut '\n' text)).continues last = false

instance (text : List Char) : Decidable (IsClosed text) :=
  inferInstanceAs (Decidable (∀ last ∈ (cut '\n' text).getLast?, _ = false))

theorem reindent_eq (was now text : List Char) :
    reindent was now text = glue '\n' ((cut '\n' text).map (reindentLine was now)) := rfl

/-- The physical lines of a text are moved one by one. -/
theorem cut_reindent {was now : List Char} (hnow : '\n' ∉ now) (text : List Char) :
    cut '\n' (reindent was now text) = (cut '\n' text).map (reindentLine was now) := by
  have hne : (cut '\n' text).map (reindentLine was now) ≠ [] := by
    simpa using cut_ne_nil '\n' text
  rw [reindent_eq]
  refine cut_glue hne ?_
  intro moved hmoved
  obtain ⟨line, hline, rfl⟩ := List.mem_map.mp hmoved
  have hbreak : '\n' ∉ line := not_mem_of_mem_cut hline
  rcases reindentLine_cases was now line with ⟨rest, hsplit, heq⟩ | hsame
  · rw [hsplit] at hbreak
    rw [heq]
    intro hmem
    rcases List.mem_append.mp hmem with h | h
    · exact hnow h
    · exact hbreak (List.mem_append_right was h)
  · rw [hsame]
    exact hbreak

section Reindent

variable {was now : List Char} (hwas : ∀ c ∈ was, isBlank c = true)
  (hnow : ∀ c ∈ now, isBlank c = true) (hbreak : '\n' ∉ now) {text : List Char}

include hwas hnow hbreak

/-- A statement is one at every indentation. -/
theorem isStatement_reindent (h : IsStatement (cut '\n' text)) :
    IsStatement (cut '\n' (reindent was now text)) := by
  obtain ⟨init, last, hlines, hstarts, hgoes⟩ := h
  rw [cut_reindent hbreak, hlines]
  refine ⟨init.map (reindentLine was now), reindentLine was now last, by simp, ?_, ?_⟩
  · intro first hfirst
    rw [← hlines, List.head?_map] at hfirst
    obtain ⟨line, hline, rfl⟩ := Option.map_eq_some_iff.mp hfirst
    rw [isFixedLine_reindentLine hwas hnow]
    exact hstarts line hline
  · rw [goesOn_map_reindentLine hwas hnow]
    exact hgoes

/-- A closed unit is closed at every indentation. -/
theorem isClosed_reindent (h : IsClosed text) : IsClosed (reindent was now text) := by
  intro last hlast
  rw [cut_reindent hbreak] at hlast ⊢
  rw [List.getLast?_map] at hlast
  obtain ⟨line, hline, rfl⟩ := Option.map_eq_some_iff.mp hlast
  rw [feedAll_map_reindentLine hwas hnow, continues_reindentLine hwas hnow]
  exact h line hline

end Reindent

end ProgramRepair.Source
