import Mathlib.Data.List.DropRight
import ProgramRepair.Outcome.Classifier
import ProgramRepair.Proofs.Text.Lines

/-!
# The last line of an output

Of everything that a test run prints, only the last line is evaluated, and of that line
neither `=` signs nor blanks at its ends. Main statements:

* `isBare_ofOutput`: what is left of an output is a bare line, and `IsBare.ofOutput_eq`:
  a bare line is left as it is;
* `EndsWith.ofOutput_eq`: of an output that ends with a line, nothing else is left;
* `Decorated.undecorated_eq`: decoration that is added to a line does not show;
* `last_line_decides`: outputs that end with one line, decorated or not, have one summary
  line and one score.
-/

namespace ProgramRepair.Text

/-! ## Trimming -/

variable {s : List Char} {c : Char}

theorem trimEnd_eq_rdropWhile (s : List Char) : trimEnd s = s.rdropWhile isBlank := rfl

/-- A text without blanks at its ends stays as it is. -/
theorem trim_eq_self (hhead : ∀ c ∈ s.head?, isBlank c = false)
    (hlast : ∀ c ∈ s.getLast?, isBlank c = false) : trim s = s := by
  have hstart : trimStart s = s := by
    cases s with
    | nil => rfl
    | cons c rest => exact List.dropWhile_cons_of_neg (ne_true_of_eq_false (hhead c rfl))
  rw [trim, hstart, trimEnd_eq_rdropWhile, List.rdropWhile_eq_self_iff]
  intro hne
  exact ne_true_of_eq_false (hlast _ (List.getLast?_eq_some_getLast hne))

theorem mem_of_mem_trim (h : c ∈ trim s) : c ∈ s :=
  (List.dropWhile_suffix isBlank).subset ((List.rdropWhile_prefix isBlank _).subset h)

/-- The start is trimmed before the end, and trimming the end leaves the start alone. -/
theorem isBlank_of_mem_head?_trim (h : c ∈ (trim s).head?) : isBlank c = false := by
  obtain ⟨rest, hrest⟩ : trim s <+: trimStart s := List.rdropWhile_prefix isBlank _
  have hstart : (trimStart s).head? = some c := by
    rw [← hrest, List.head?_append, Option.mem_def.mp h, Option.some_or]
  have hnot := List.head?_dropWhile_not isBlank s
  rw [show s.dropWhile isBlank = trimStart s from rfl, hstart] at hnot
  exact hnot

theorem isBlank_of_mem_getLast?_trim (h : c ∈ (trim s).getLast?) : isBlank c = false := by
  have hnot := List.head?_dropWhile_not isBlank (trimStart s).reverse
  rw [← List.getLast?_reverse, show (_ : List Char).reverse = trim s from rfl,
    Option.mem_def.mp h] at hnot
  exact hnot

theorem trim_cons_blank (h : isBlank c = true) (s : List Char) : trim (c :: s) = trim s := by
  rw [trim, trimStart, List.dropWhile_cons_of_pos h]
  rfl

theorem trim_append_blank (h : isBlank c = true) (s : List Char) : trim (s ++ [c]) = trim s := by
  unfold trim
  by_cases hnil : trimStart s = []
  · -- the blank is trimmed with the others from the start
    have hall : trimStart (s ++ [c]) = [] := by
      rw [trimStart, List.dropWhile_eq_nil_iff] at hnil ⊢
      exact List.forall_mem_append.mpr ⟨hnil, List.forall_mem_singleton.mpr h⟩
    rw [hall, hnil]
  · have hstart : trimStart (s ++ [c]) = trimStart s ++ [c] := by
      unfold trimStart at hnil ⊢
      rw [List.dropWhile_append, if_neg (mt List.isEmpty_iff.mp hnil)]
    rw [hstart, trimEnd_eq_rdropWhile, List.rdropWhile_concat_pos _ _ _ h]
    rfl

theorem not_mem_lastLine (s : List Char) : '\n' ∉ lastLine s := by
  intro h
  simpa using List.mem_takeWhile_imp (List.mem_reverse.mp h)

end ProgramRepair.Text

namespace ProgramRepair.Summary

open Text

/-! ## Bare lines -/

/-- A line without `=` signs and without blanks at its ends. -/
structure IsBare (line : List Char) : Prop where
  no_sign : '=' ∉ line
  no_break : '\n' ∉ line
  head : ∀ c ∈ line.head?, isBlank c = false
  last : ∀ c ∈ line.getLast?, isBlank c = false

/-- What is left of a line without its decoration. -/
def undecorated (line : List Char) : List Char := trim (line.filter (· ≠ '='))

theorem ofOutput_eq (output : List Char) :
    ofOutput output = undecorated (lastLine (dropFinalBreak output)) := rfl

theorem isBare_undecorated {line : List Char} (h : '\n' ∉ line) : IsBare (undecorated line) where
  no_sign hmem := by simpa using (List.mem_filter.mp (mem_of_mem_trim hmem)).2
  no_break hmem := h (List.mem_filter.mp (mem_of_mem_trim hmem)).1
  head _ := isBlank_of_mem_head?_trim
  last _ := isBlank_of_mem_getLast?_trim

/-- What is left of an output is a bare line. -/
theorem isBare_ofOutput (output : List Char) : IsBare (ofOutput output) := by
  rw [ofOutput_eq]
  exact isBare_undecorated (not_mem_lastLine _)

theorem IsBare.undecorated_eq {line : List Char} (h : IsBare line) : undecorated line = line := by
  have hfilter : line.filter (· ≠ '=') = line := by
    refine List.filter_eq_self.mpr fun c hc => decide_eq_true ?_
    rintro rfl
    exact h.no_sign hc
  rw [undecorated, hfilter, trim_eq_self h.head h.last]

/-! ## Outputs that end with a line -/

/-- An output that ends with `line`, with or without a line break after it. Without one, an empty
line after a line break does not count as a line. -/
inductive EndsWith (line : List Char) : List Char → Prop
  | alone : EndsWith line line
  | ended (before : List Char) : EndsWith line (before ++ '\n' :: line ++ ['\n'])
  | unended (before : List Char) : line ≠ [] → EndsWith line (before ++ '\n' :: line)

theorem ofOutput_of_not_mem {line : List Char} (h : '\n' ∉ line) :
    ofOutput line = undecorated line := by
  have hlast : line.getLast? ≠ some '\n' := fun hlast => h (List.mem_of_getLast? hlast)
  rw [ofOutput_eq, dropFinalBreak, if_neg hlast]
  exact congrArg undecorated (lastLine_append (.inl rfl) h)

/-- Nothing but the last line is left of an output. -/
theorem EndsWith.ofOutput_eq {line output : List Char} (h : EndsWith line output)
    (hline : '\n' ∉ line) : ofOutput output = undecorated line := by
  have hbreak (before : List Char) : (before ++ ['\n']).getLast? = some '\n' := by simp
  cases h with
  | alone => exact ofOutput_of_not_mem hline
  | ended before =>
    rw [Summary.ofOutput_eq, dropFinalBreak_append, List.append_cons,
      lastLine_append (.inr (hbreak before)) hline]
  | unended before hne =>
    have hlast : lastLine (dropFinalBreak ((before ++ ['\n']) ++ line ++ [])) = line :=
      lastLine_dropFinalBreak (.inr (hbreak before)) hne hline (.inl rfl)
    rw [Summary.ofOutput_eq, List.append_cons, ← List.append_nil (_ ++ line), hlast]

/-- A bare line is left as it is. -/
theorem IsBare.ofOutput_eq {line : List Char} (h : IsBare line) : ofOutput line = line := by
  rw [ofOutput_of_not_mem h.no_break, h.undecorated_eq]

/-! ## Decoration -/

/-- A line to which decoration was added: `=` signs anywhere, and blanks at its ends. -/
inductive Decorated (line : List Char) : List Char → Prop
  | bare : Decorated line line
  | sign (before after : List Char) :
    Decorated line (before ++ after) → Decorated line (before ++ '=' :: after)
  | blankBefore {c : Char} {text : List Char} :
    isBlank c = true → c ≠ '\n' → Decorated line text → Decorated line (c :: text)
  | blankAfter {c : Char} {text : List Char} :
    isBlank c = true → c ≠ '\n' → Decorated line text → Decorated line (text ++ [c])

theorem filter_blank {c : Char} (h : isBlank c = true) : [c].filter (· ≠ '=') = [c] := by
  refine List.filter_eq_self.mpr (List.forall_mem_singleton.mpr (decide_eq_true ?_))
  rintro rfl
  revert h
  decide

theorem undecorated_cons_blank {c : Char} (h : isBlank c = true) (text : List Char) :
    undecorated (c :: text) = undecorated text := by
  rw [undecorated, ← List.singleton_append, List.filter_append, filter_blank h,
    List.singleton_append, trim_cons_blank h]
  rfl

theorem undecorated_append_blank {c : Char} (h : isBlank c = true) (text : List Char) :
    undecorated (text ++ [c]) = undecorated text := by
  rw [undecorated, List.filter_append, filter_blank h, trim_append_blank h]
  rfl

namespace Decorated

variable {line text : List Char}

theorem not_mem (h : Decorated line text) (hline : '\n' ∉ line) : '\n' ∉ text := by
  induction h with
  | bare => exact hline
  | sign before after _ ih => simpa using ih
  | blankBefore _ hbreak _ ih => simpa [Ne.symm hbreak] using ih
  | blankAfter _ hbreak _ ih => simpa [Ne.symm hbreak] using ih

/-- Decoration does not show. -/
theorem undecorated_eq (h : Decorated line text) : undecorated text = undecorated line := by
  induction h with
  | bare => rfl
  | sign before after _ ih =>
    rw [← ih, undecorated, undecorated, List.filter_append, List.filter_append,
      List.filter_cons_of_neg (by decide)]
  | blankBefore hc _ _ ih => rw [undecorated_cons_blank hc, ih]
  | blankAfter hc _ _ ih => rw [undecorated_append_blank hc, ih]

end Decorated

/-! ## What decides -/

/-- Status and fitness know an output by what `ofOutput` leaves of it. -/
theorem classify_congr {output output' : String}
    (h : ofOutput output.toList = ofOutput output'.toList) (code : Option Int) (stderr : String)
    (elapsed : Binary64) :
    (Classifier.pytestSummary.classify output code stderr elapsed).status =
        (Classifier.pytestSummary.classify output' code stderr elapsed).status ∧
      (Classifier.pytestSummary.classify output code stderr elapsed).fitness =
        (Classifier.pytestSummary.classify output' code stderr elapsed).fitness := by
  simp only [Classifier.classify, Classifier.score, h, and_self]

/-- Only the last line decides. An output that ends with a line has the summary line of that line
alone, and so its status and fitness, whatever stands before it and however it is decorated. Every
summary line is bare, and it is its own summary line. -/
theorem last_line_decides {line decorated output : String} (hline : '\n' ∉ line.toList)
    (hdecorated : Decorated line.toList decorated.toList)
    (houtput : EndsWith decorated.toList output.toList) (code : Option Int) (stderr : String)
    (elapsed : Binary64) :
    ofOutput output.toList = ofOutput line.toList ∧
    (Classifier.pytestSummary.classify output code stderr elapsed).status =
      (Classifier.pytestSummary.classify line code stderr elapsed).status ∧
    (Classifier.pytestSummary.classify output code stderr elapsed).fitness =
      (Classifier.pytestSummary.classify line code stderr elapsed).fitness ∧
    ∀ printed, IsBare (ofOutput printed) ∧ ofOutput (ofOutput printed) = ofOutput printed := by
  have hsame : ofOutput output.toList = ofOutput line.toList := by
    rw [houtput.ofOutput_eq (hdecorated.not_mem hline), hdecorated.undecorated_eq,
      ofOutput_of_not_mem hline]
  obtain ⟨hstatus, hfitness⟩ := classify_congr hsame code stderr elapsed
  exact ⟨hsame, hstatus, hfitness,
    fun printed => ⟨isBare_ofOutput printed, (isBare_ofOutput printed).ofOutput_eq⟩⟩

/-- A run under a decorated line is scored as its summary alone, with `\r\n` as the line ends. -/
theorem last_line_decides_decorated :
    ofOutput "2 failed\r\n= 1 passed =\r\n".toList = ofOutput "1 passed".toList ∧
      (Classifier.pytestSummary.classify "2 failed\r\n= 1 passed =\r\n" none "" .zero).status =
        .success := by
  have hsigns : Decorated "1 passed".toList "= 1 passed =".toList :=
    .sign [] " 1 passed =".toList (.sign " 1 passed ".toList []
      (.blankBefore (by decide) (by decide) (.blankAfter (by decide) (by decide) .bare)))
  have hdecorated : Decorated "1 passed".toList "= 1 passed =\r".toList :=
    .blankAfter (by decide) (by decide) hsigns
  have houtput : EndsWith "= 1 passed =\r".toList "2 failed\r\n= 1 passed =\r\n".toList :=
    .ended "2 failed\r".toList
  have h := last_line_decides (by decide) hdecorated houtput none "" .zero
  exact ⟨h.1, h.2.1.trans (by decide +kernel)⟩

end ProgramRepair.Summary
