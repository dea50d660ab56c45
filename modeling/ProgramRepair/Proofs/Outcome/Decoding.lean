import ProgramRepair.Outcome.Classifier
import ProgramRepair.Proofs.Binary64.Rounding
import ProgramRepair.Proofs.Outcome.SummaryLine

/-!
# What a summary line says

The search for a count looks for a number, a space and a word anywhere in a line. In
a line of the grammar it cannot be misled: no form of another word starts with the
word, commas and spaces part the numbers, and the time at the end has no space after
its digits. Main statements:

* `Line.firstCount_core`: the number before a word is the whole count of the section
  with this outcome, whichever other sections there are;
* `classify_summary_line`: the evaluation of an output that ends with a line is the
  `verdict` on its counts of errors, failed and passed tests.
-/

namespace ProgramRepair.Summary

open Text

/-! ## The search for a count -/

section Search

variable {word s t : List Char}

/-- A digit goes on with the number that ends before it, or starts one. -/
theorem countFrom_digit {d : Char} (hd : d.isDigit = true) (run : Option Nat) :
    countFrom word run (d :: t) = countFrom word (some (10 * run.getD 0 + digitValue d)) t := by
  cases run with
  | none => rw [countFrom, if_pos hd]
  | some n => rw [countFrom, if_pos hd]

/-- A number is read to its last digit. -/
theorem countFrom_digits {digits : List Char} (hne : digits ≠ [])
    (hdigits : ∀ c ∈ digits, c.isDigit = true) (run : Option Nat) :
    countFrom word run (digits ++ t) =
      countFrom word (some (Nat.ofDigitChars 10 digits (run.getD 0))) t := by
  induction digits generalizing run with
  | nil => exact absurd rfl hne
  | cons d rest ih =>
    obtain ⟨hd, hrest⟩ := List.forall_mem_cons.mp hdigits
    rw [List.cons_append, countFrom_digit hd, Nat.ofDigitChars_cons]
    by_cases hnil : rest = []
    · rw [hnil]
      rfl
    · rw [ih hnil hrest]
      rfl

/-- Without a number that ends before it, what holds no digit is passed over. -/
theorem countFrom_append (hs : s.any Char.isDigit = false) :
    countFrom word none (s ++ t) = countFrom word none t := by
  induction s with
  | nil => rfl
  | cons c s ih =>
    rw [List.any_cons, Bool.or_eq_false_iff] at hs
    obtain ⟨hc, hs⟩ := hs
    rw [List.cons_append, countFrom, if_neg (ne_true_of_eq_false hc), ih hs]

/-- A number and a space are the count if the word comes next. -/
theorem countFrom_space (n : Nat) :
    countFrom word (some n) (' ' :: t) =
      if startsWith t word then some n else countFrom word none t := by
  rw [countFrom, if_neg (by decide)]
  rfl

/-- What holds no space holds no count. -/
theorem countFrom_of_no_space (hs : ' ' ∉ s) (run : Option Nat) : countFrom word run s = none := by
  induction s generalizing run with
  | nil => rfl
  | cons c s ih =>
    obtain ⟨hc, hrest⟩ : ' ' ≠ c ∧ ' ' ∉ s := by simpa using hs
    by_cases hdigit : c.isDigit = true
    · rw [countFrom_digit hdigit, ih hrest]
    · have hword : startsWith (c :: s) (' ' :: word) = false := by
        simp [startsWith, dropLead?, hc]
      cases run with
      | none => rw [countFrom, if_neg hdigit, ih hrest]
      | some n => rw [countFrom, if_neg hdigit, if_neg (ne_true_of_eq_false hword), ih hrest]

end Search

/-! ## Sections -/

/-- A word begins the forms of its own outcome and no others, whatever follows them. -/
theorem Outcome.startsWith_form (o : Outcome) {o' : Outcome} {form : String}
    (h : form ∈ o'.forms) (rest : List Char) :
    startsWith (form.toList ++ rest) o.word.toList = decide (o' = o) := by
  cases o' <;> simp only [forms, word, List.mem_cons, List.not_mem_nil, or_false] at h
  case error | warning => rcases h with rfl | rfl <;> cases o <;> rfl
  all_goals subst h; cases o <;> rfl

/-- A section gives the count for its own outcome and is passed over for the others. -/
theorem Section.countFrom_text (s : Section) (o : Outcome) (rest : List Char) :
    countFrom o.word.toList none (s.text ++ rest) =
      if s.outcome = o then some s.count else countFrom o.word.toList none rest := by
  have hletters : s.form.toList.any Char.isDigit = false := by
    refine List.any_eq_false.mpr fun c hc => ?_
    exact ne_true_of_eq_false
      (isDigit_of_isLower ((Outcome.isLower_of_mem s.form_mem).2 c hc))
  rw [Section.text, List.append_assoc, countFrom_digits s.digits_ne_nil s.isDigit_of_mem,
    List.cons_append, countFrom_space, o.startsWith_form s.form_mem, countFrom_append hletters]
  simp only [decide_eq_true_eq]
  rfl

theorem countFrom_joined (sections : List Section) (o : Outcome) {rest : List Char}
    (hrest : countFrom o.word.toList none rest = none) :
    countFrom o.word.toList none (joined sections ++ rest) =
      (sections.find? (·.outcome = o)).map Section.count := by
  induction sections with
  | nil => exact hrest
  | cons s sections ih =>
    -- what follows the section, with a comma before it if there is another one
    have hlater : countFrom o.word.toList none (joined (s :: sections) ++ rest) =
        if s.outcome = o then some s.count
        else countFrom o.word.toList none (joined sections ++ rest) := by
      cases sections with
      | nil =>
        rw [joined_singleton, s.countFrom_text]
        rfl
      | cons t sections =>
        rw [joined_cons_cons, List.append_assoc, s.countFrom_text, List.append_assoc,
          countFrom_append rfl]
    rw [hlater, ih, List.find?_cons]
    by_cases ho : s.outcome = o
    · simp [ho]
    · simp [ho]

namespace Line

/-- There is no count in the time that a run took. -/
theorem countFrom_ending (l : Line) (word : List Char) : countFrom word none l.ending = none := by
  unfold ending
  cases hseconds : l.seconds with
  | none => rfl
  | some t =>
    dsimp only
    rw [countFrom_append rfl]
    refine countFrom_of_no_space ?_ none
    intro hmem
    rcases List.mem_append.mp hmem with ht | hs
    · exact absurd (l.seconds_numeric t hseconds ' ' ht) (by decide)
    · exact absurd hs (by decide)

/-- The number before a word is the count of the section with this outcome. -/
theorem firstCount_core (l : Line) (o : Outcome) : firstCount o.word l.core = l.count? o :=
  countFrom_joined l.sections o (l.countFrom_ending o.word.toList)

end Line

/-! ## Scores -/

/-- The fitness of counts that fit is zero if something passed and nothing failed. -/
theorem failureRatio_eq {failed passed : Nat} (h : failed + passed < 2 ^ 64) :
    failureRatio failed (failed + passed) =
      if failed = 0 ∧ 0 < passed then .zero
      else if failed + passed = 0 then .one
      else .ofNat failed / .ofNat (failed + passed) := by
  unfold failureRatio
  by_cases hzero : failed = 0 ∧ 0 < passed
  · obtain ⟨rfl, hpassed⟩ := hzero
    rw [if_neg (by omega), if_pos ⟨rfl, hpassed⟩]
    exact Binary64.zero_div_ofNat (by omega) h
  · rw [if_neg hzero]

theorem isZero_failureRatio {failed passed : Nat} (h : failed + passed < 2 ^ 64) :
    (failureRatio failed (failed + passed)).isZero = true ↔ failed = 0 ∧ 0 < passed := by
  rw [failureRatio_eq h]
  split
  · next hzero => exact iff_of_true rfl hzero
  · next hzero =>
    refine iff_of_false (ne_true_of_eq_false ?_) hzero
    split
    · decide
    · exact Binary64.isZero_div_ofNat (by omega) (by omega) (by omega) h

/-- What the counts of errors, failed and passed tests say, where a count may be missing. The
fitness of a run with failed tests is their share, both numbers and their quotient as doubles. -/
def verdict (errors failed passed : Option Nat) : Status × Option Binary64 :=
  let f := failed.getD 0
  let p := passed.getD 0
  if 0 < errors.getD 0 then (.invalid, some .two)
  else if (failed = none ∧ passed = none) ∨ 2 ^ 64 ≤ f ∨ 2 ^ 64 ≤ p ∨ 2 ^ 64 ≤ f + p then
    (.parseError, none)
  else if f = 0 ∧ 0 < p then (.success, some .zero)
  else (.failing f (f + p), some (if f + p = 0 then .one else .ofNat f / .ofNat (f + p)))

theorem scoreOfCounts_eq (failed passed : Nat) :
    scoreOfCounts failed passed =
      if 2 ^ 64 ≤ failed ∨ 2 ^ 64 ≤ passed ∨ 2 ^ 64 ≤ failed + passed then (.parseError, none)
      else if failed = 0 ∧ 0 < passed then (.success, some .zero)
      else (.failing failed (failed + passed),
        some (if failed + passed = 0 then .one else .ofNat failed / .ofNat (failed + passed))) := by
  unfold scoreOfCounts
  rw [show countLimit = 2 ^ 64 from rfl]
  by_cases hfits : failed < 2 ^ 64 ∧ passed < 2 ^ 64 ∧ failed + passed < 2 ^ 64
  · have hsum := hfits.2.2
    rw [if_pos hfits, if_neg (by omega)]
    dsimp only
    by_cases hzero : failed = 0 ∧ 0 < passed
    · rw [if_pos ((isZero_failureRatio hsum).mpr hzero), failureRatio_eq hsum, if_pos hzero,
        if_pos hzero]
    · rw [if_neg (mt (isZero_failureRatio hsum).mp hzero), failureRatio_eq hsum, if_neg hzero,
        if_neg hzero]
  · rw [if_neg hfits, if_pos (by omega)]

/-- The score of a line is the verdict on three of its counts. -/
theorem Line.score_core (l : Line) :
    score l.core = verdict (l.count? .error) (l.count? .failed) (l.count? .passed) := by
  have herror : firstCount "error" l.core = l.count? .error := l.firstCount_core .error
  have hfailed : firstCount "failed" l.core = l.count? .failed := l.firstCount_core .failed
  have hpassed : firstCount "passed" l.core = l.count? .passed := l.firstCount_core .passed
  have hpositive : (l.count? .error).any (0 < ·) = true ↔ 0 < (l.count? .error).getD 0 := by
    cases l.count? .error <;> simp
  rw [score, herror, hfailed, hpassed, verdict]
  simp only [hpositive]
  by_cases hbroken : 0 < (l.count? .error).getD 0
  · rw [if_pos hbroken, if_pos hbroken]
    rfl
  · rw [if_neg hbroken, if_neg hbroken]
    cases l.count? .failed <;> cases l.count? .passed <;> simp [scoreOfCounts_eq]

/-- An output that ends with a summary line is evaluated by what the line says: neither the other
sections nor their order, the time, the decoration or the lines before make a difference. -/
theorem classify_summary_line (l : Line) (lines tail : List Char)
    (hlines : lines = [] ∨ lines.getLast? = some '\n') (htail : tail = [] ∨ tail = ['\n'])
    (code : Option Int) (stderr : String) (elapsed : Binary64) :
    Classifier.pytestSummary.classify (String.ofList (lines ++ l.text ++ tail)) code stderr elapsed =
      ⟨(verdict (l.count? .error) (l.count? .failed) (l.count? .passed)).1,
        (verdict (l.count? .error) (l.count? .failed) (l.count? .passed)).2,
        String.ofList (lines ++ l.text ++ tail), stderr, code, elapsed⟩ := by
  unfold Classifier.classify Classifier.score
  dsimp only
  rw [String.toList_ofList, l.ofOutput_text hlines htail, l.score_core]

/-! ### A line with expected failures -/

section ExpectedFailures

/-- The line `== 3 xfailed, 1 failed, 4 passed, 2 warnings in 0.02s ==`. -/
def expectedFailures : Line where
  before := ['=', '=', ' ']
  sections := [
    ⟨.xfailed, ['3'], "xfailed", by decide, List.all_eq_true.mp rfl, by decide⟩,
    ⟨.failed, ['1'], "failed", by decide, List.all_eq_true.mp rfl, by decide⟩,
    ⟨.passed, ['4'], "passed", by decide, List.all_eq_true.mp rfl, by decide⟩,
    ⟨.warning, ['2'], "warnings", by decide, List.all_eq_true.mp rfl, by decide⟩]
  seconds := some ['0', '.', '0', '2']
  after := [' ', '=', '=']
  before_decorates := by simp
  sections_ne_nil := List.cons_ne_nil _ _
  seconds_numeric := by
    rintro t ⟨⟩
    simp
  after_decorates := by simp

/-- One of five tests failed: failures that were expected do not count. -/
theorem classify_expectedFailures :
    "a test\n".toList.getLast? = some '\n' ∧
      Classifier.pytestSummary.classify
          "a test\n== 3 xfailed, 1 failed, 4 passed, 2 warnings in 0.02s ==\n" (some 1) "" .zero =
        ⟨.failing 1 5, some (.ofNat 1 / .ofNat 5),
          "a test\n== 3 xfailed, 1 failed, 4 passed, 2 warnings in 0.02s ==\n", "", some 1,
          .zero⟩ :=
  ⟨by decide, classify_summary_line expectedFailures "a test\n".toList ['\n'] (.inr (by decide))
    (.inr rfl) (some 1) "" .zero⟩

end ExpectedFailures

end ProgramRepair.Summary
