import ProgramRepair.Outcome.Classifier
import ProgramRepair.Proofs.Text.Lines

/-!
# Summary lines

The grammar of the line that a test run ends with: sections such as `2 failed` with
commas between them, then perhaps the time it took, and decoration around all that.
Main statement:

* `Line.ofOutput_text`: at the end of an output the line is found and freed from its
  decoration, whatever stands in the lines before it.
-/

namespace ProgramRepair.Text

/-! ## Trimming -/

/-- Blanks around a text that has none at its ends are trimmed away. -/
theorem trim_append {before core after : List Char} {first last : Char}
    (hbefore : ∀ c ∈ before, isBlank c = true) (hafter : ∀ c ∈ after, isBlank c = true)
    (hhead : core.head? = some first) (hfirst : isBlank first = false)
    (hlast : core.getLast? = some last) (hlastBlank : isBlank last = false) :
    trim (before ++ core ++ after) = core := by
  have hstart : trimStart (before ++ core ++ after) = core ++ after := by
    obtain ⟨rest, rfl⟩ := List.head?_eq_some_iff.mp hhead
    rw [trimStart, List.append_assoc, List.dropWhile_append_of_pos hbefore, List.cons_append,
      List.dropWhile_cons_of_neg (ne_true_of_eq_false hfirst)]
  have hend : trimEnd (core ++ after) = core := by
    obtain ⟨init, rfl⟩ := List.getLast?_eq_some_iff.mp hlast
    have hreverse : ∀ c ∈ after.reverse, isBlank c = true :=
      fun c hc => hafter c (List.mem_reverse.mp hc)
    rw [trimEnd, List.reverse_append, List.dropWhile_append_of_pos hreverse, List.reverse_concat,
      List.dropWhile_cons_of_neg (ne_true_of_eq_false hlastBlank), ← List.reverse_concat,
      List.reverse_reverse]
  rw [trim, hstart, hend]

/-! ## Digits and small letters -/

theorem toNat_of_isDigit {c : Char} (h : c.isDigit = true) : 48 ≤ c.toNat ∧ c.toNat ≤ 57 := by
  have hrange : (decide (48 ≤ c.val) && decide (c.val ≤ 57)) = true := h
  simpa [UInt32.le_iff_toNat_le] using hrange

theorem toNat_of_isLower {c : Char} (h : c.isLower = true) : 97 ≤ c.toNat ∧ c.toNat ≤ 122 := by
  have hrange : (decide (97 ≤ c.val) && decide (c.val ≤ 122)) = true := h
  simpa [UInt32.le_iff_toNat_le] using hrange

theorem isDigit_of_isLower {c : Char} (h : c.isLower = true) : c.isDigit = false := by
  have hlower := toNat_of_isLower h
  refine eq_false_of_ne_true fun hdigit => ?_
  have hdigit := toNat_of_isDigit hdigit
  omega

/-- The printed characters of ASCII are not blank. -/
theorem isBlank_of_printed {c : Char} (hlow : 33 ≤ c.toNat) (hhigh : c.toNat ≤ 126) :
    isBlank c = false := by
  simp [isBlank, loneBlanks]
  omega

theorem isBlank_of_isDigit {c : Char} (h : c.isDigit = true) : isBlank c = false := by
  have hrange := toNat_of_isDigit h
  exact isBlank_of_printed (by omega) (by omega)

theorem isBlank_of_isLower {c : Char} (h : c.isLower = true) : isBlank c = false := by
  have hrange := toNat_of_isLower h
  exact isBlank_of_printed (by omega) (by omega)

end ProgramRepair.Text

namespace ProgramRepair.Summary

open Text

/-! ## The grammar -/

/-- What a test run counts. -/
inductive Outcome where
  | failed
  | passed
  | error
  | skipped
  | deselected
  | xfailed
  | xpassed
  | warning
  | rerun
deriving DecidableEq, Repr

namespace Outcome

def word : Outcome → String
  | failed => "failed"
  | passed => "passed"
  | error => "error"
  | skipped => "skipped"
  | deselected => "deselected"
  | xfailed => "xfailed"
  | xpassed => "xpassed"
  | warning => "warning"
  | rerun => "rerun"

/-- The forms of a word. Two words have a plural. -/
def forms : Outcome → List String
  | error => ["error", "errors"]
  | warning => ["warning", "warnings"]
  | o => [o.word]

end Outcome

/-- A section of a summary line: a count and what it counts. -/
structure Section where
  outcome : Outcome
  /-- The count as it is written, with leading zeros if there are any. -/
  digits : List Char
  form : String
  digits_ne_nil : digits ≠ []
  isDigit_of_mem : ∀ c ∈ digits, c.isDigit = true
  form_mem : form ∈ outcome.forms

namespace Section

def text (s : Section) : List Char := s.digits ++ ' ' :: s.form.toList

/-- The decimal number, however large. -/
def count (s : Section) : Nat := Nat.ofDigitChars 10 s.digits 0

end Section

/-- Sections with commas between them. -/
def joined (sections : List Section) : List Char :=
  [',', ' '].intercalate (sections.map Section.text)

@[simp] theorem joined_singleton (s : Section) : joined [s] = s.text := List.intercalate_singleton

@[simp] theorem joined_cons_cons (s t : Section) (rest : List Section) :
    joined (s :: t :: rest) = s.text ++ ([',', ' '] ++ joined (t :: rest)) := by
  rw [joined, List.map_cons, List.map_cons, List.intercalate_cons_cons, List.append_assoc]
  rfl

/-- The line that a test run ends with. -/
structure Line where
  before : List Char
  sections : List Section
  /-- The time that the run took, if the line tells it. -/
  seconds : Option (List Char)
  after : List Char
  before_decorates : ∀ c ∈ before, c = '=' ∨ c = ' '
  sections_ne_nil : sections ≠ []
  seconds_numeric : ∀ t ∈ seconds, ∀ c ∈ t, c.isDigit = true ∨ c = '.'
  after_decorates : ∀ c ∈ after, c = '=' ∨ c = ' '

namespace Line

/-- What stands after the sections. -/
def ending (l : Line) : List Char :=
  match l.seconds with
  | none => []
  | some t => [' ', 'i', 'n', ' '] ++ (t ++ ['s'])

/-- The line without its decoration. -/
def core (l : Line) : List Char := joined l.sections ++ l.ending

def text (l : Line) : List Char := l.before ++ l.core ++ l.after

/-- The count for an outcome, if there is a section for it; the first one if there are more. -/
def count? (l : Line) (o : Outcome) : Option Nat :=
  (l.sections.find? (·.outcome = o)).map Section.count

end Line

/-! ## The characters of a line -/

/-- Words consist of small letters. -/
theorem Outcome.isLower_of_mem {o : Outcome} {form : String} (h : form ∈ o.forms) :
    form ≠ "" ∧ ∀ c ∈ form.toList, c.isLower = true := by
  have hall : o.forms.all (fun form => form ≠ "" && form.toList.all Char.isLower) = true := by
    cases o <;> decide
  have hform := List.all_eq_true.mp hall form h
  rw [Bool.and_eq_true, decide_eq_true_eq] at hform
  exact ⟨hform.1, List.all_eq_true.mp hform.2⟩

/-- Whether a character can stand in a line without its decoration. -/
def isPlain (c : Char) : Bool := c.isDigit || c.isLower || [' ', ',', '.'].contains c

theorem isPlain_of_isDigit {c : Char} (h : c.isDigit = true) : isPlain c = true := by
  simp [isPlain, h]

theorem isPlain_of_isLower {c : Char} (h : c.isLower = true) : isPlain c = true := by
  simp [isPlain, h]

theorem ne_of_isPlain {c d : Char} (hc : isPlain c = true) (hd : isPlain d = false) : c ≠ d := by
  rintro rfl
  exact Bool.false_ne_true (hd.symm.trans hc)

theorem Section.isPlain_of_mem (s : Section) : ∀ c ∈ s.text, isPlain c = true := by
  refine List.forall_mem_append.mpr ⟨?_, List.forall_mem_cons.mpr ⟨by decide, ?_⟩⟩
  · exact fun c hc => isPlain_of_isDigit (s.isDigit_of_mem c hc)
  · exact fun c hc => isPlain_of_isLower ((Outcome.isLower_of_mem s.form_mem).2 c hc)

/-- A section ends with the last letter of its word. -/
theorem Section.getLast?_text (s : Section) :
    ∃ last, s.text.getLast? = some last ∧ last.isLower = true := by
  obtain ⟨hform, hlower⟩ := Outcome.isLower_of_mem s.form_mem
  cases hlast : s.form.toList.getLast? with
  | none => exact absurd (String.toList_eq_nil_iff.mp (List.getLast?_eq_none_iff.mp hlast)) hform
  | some last =>
    obtain ⟨init, hinit⟩ := List.getLast?_eq_some_iff.mp hlast
    refine ⟨last, List.getLast?_eq_some_iff.mpr ⟨s.digits ++ ' ' :: init, ?_⟩,
      hlower last (List.mem_of_getLast? hlast)⟩
    rw [Section.text, hinit, List.append_assoc, List.cons_append]

namespace Line

theorem isPlain_of_mem_joined (sections : List Section) :
    ∀ c ∈ joined sections, isPlain c = true := by
  induction sections with
  | nil => exact List.forall_mem_nil _
  | cons s rest ih =>
    cases rest with
    | nil =>
      rw [joined_singleton]
      exact s.isPlain_of_mem
    | cons t rest =>
      rw [joined_cons_cons]
      exact List.forall_mem_append.mpr
        ⟨s.isPlain_of_mem, List.forall_mem_append.mpr ⟨List.all_eq_true.mp rfl, ih⟩⟩

theorem isPlain_of_mem_ending (l : Line) : ∀ c ∈ l.ending, isPlain c = true := by
  unfold ending
  cases hseconds : l.seconds with
  | none => exact List.forall_mem_nil _
  | some t =>
    have ht : ∀ c ∈ t, isPlain c = true := by
      intro c hc
      rcases l.seconds_numeric t hseconds c hc with hdigit | rfl
      · exact isPlain_of_isDigit hdigit
      · decide
    exact List.forall_mem_append.mpr
      ⟨List.all_eq_true.mp rfl, List.forall_mem_append.mpr ⟨ht, List.all_eq_true.mp rfl⟩⟩

theorem isPlain_of_mem_core (l : Line) : ∀ c ∈ l.core, isPlain c = true :=
  List.forall_mem_append.mpr ⟨isPlain_of_mem_joined l.sections, l.isPlain_of_mem_ending⟩

/-- A line starts with the first digit of its first count. -/
theorem head?_core (l : Line) : ∃ first, l.core.head? = some first ∧ first.isDigit = true := by
  obtain ⟨s, rest, hsections⟩ := List.exists_cons_of_ne_nil l.sections_ne_nil
  obtain ⟨first, digits, hdigits⟩ := List.exists_cons_of_ne_nil s.digits_ne_nil
  refine ⟨first, ?_, s.isDigit_of_mem first (by simp [hdigits])⟩
  cases rest <;> simp [core, hsections, Section.text, hdigits]

theorem getLast?_joined {sections : List Section} (hne : sections ≠ []) :
    ∃ last, (joined sections).getLast? = some last ∧ last.isLower = true := by
  induction sections with
  | nil => exact absurd rfl hne
  | cons s rest ih =>
    cases rest with
    | nil =>
      rw [joined_singleton]
      exact s.getLast?_text
    | cons t rest =>
      obtain ⟨last, hlast, hlower⟩ := ih (List.cons_ne_nil t rest)
      refine ⟨last, ?_, hlower⟩
      rw [joined_cons_cons, List.getLast?_append, List.getLast?_append, hlast, Option.some_or,
        Option.some_or]

/-- A line ends with the last letter of a word or of its time. -/
theorem getLast?_core (l : Line) : ∃ last, l.core.getLast? = some last ∧ last.isLower = true := by
  unfold core ending
  cases l.seconds with
  | none =>
    rw [List.append_nil]
    exact getLast?_joined l.sections_ne_nil
  | some t =>
    refine ⟨'s', List.getLast?_eq_some_iff.mpr ⟨joined l.sections ++ ([' ', 'i', 'n', ' '] ++ t), ?_⟩,
      by decide⟩
    simp only [List.append_assoc]

/-! ## The line in an output -/

theorem text_ne_nil (l : Line) : l.text ≠ [] := by
  obtain ⟨first, hfirst, -⟩ := l.head?_core
  obtain ⟨rest, hcore⟩ := List.head?_eq_some_iff.mp hfirst
  simp [text, hcore]

theorem break_notMem_text (l : Line) : '\n' ∉ l.text := by
  intro h
  rcases List.mem_append.mp h with h | hafter
  · rcases List.mem_append.mp h with hbefore | hcore
    · exact absurd (l.before_decorates _ hbefore) (by decide)
    · exact ne_of_isPlain (l.isPlain_of_mem_core _ hcore) (by decide) rfl
  · exact absurd (l.after_decorates _ hafter) (by decide)

/-- Nothing but blanks is left of decoration. -/
theorem isBlank_of_decorates {decoration : List Char} (h : ∀ c ∈ decoration, c = '=' ∨ c = ' ') :
    ∀ c ∈ decoration.filter (· ≠ '='), isBlank c = true := by
  intro c hc
  obtain ⟨hmem, hne⟩ := List.mem_filter.mp hc
  rcases h c hmem with rfl | rfl
  · exact absurd hne (by decide)
  · decide

/-- At the end of an output, the line is found and freed from its decoration. -/
theorem ofOutput_text (l : Line) {lines tail : List Char}
    (hlines : lines = [] ∨ lines.getLast? = some '\n') (htail : tail = [] ∨ tail = ['\n']) :
    ofOutput (lines ++ l.text ++ tail) = l.core := by
  have hcore : l.core.filter (· ≠ '=') = l.core := by
    refine List.filter_eq_self.mpr fun c hc => ?_
    exact decide_eq_true (ne_of_isPlain (l.isPlain_of_mem_core c hc) (by decide))
  obtain ⟨first, hhead, hfirst⟩ := l.head?_core
  obtain ⟨last, hlast, hlower⟩ := l.getLast?_core
  rw [ofOutput, lastLine_dropFinalBreak hlines l.text_ne_nil l.break_notMem_text htail, text,
    List.filter_append, List.filter_append, hcore]
  exact trim_append (isBlank_of_decorates l.before_decorates)
    (isBlank_of_decorates l.after_decorates) hhead (isBlank_of_isDigit hfirst) hlast
    (isBlank_of_isLower hlower)

end Line

end ProgramRepair.Summary
