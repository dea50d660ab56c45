import Mathlib.Data.List.Induction
import Mathlib.Data.Nat.Find
import ProgramRepair.Proofs.Outcome.Decoding

/-!
# The first count in a text

A count is looked for by the word after it. A place is marked if a digit stands there
that is directly followed by a space and the word; the count is the whole number that
ends at the leftmost marked place. Main statements:

* `countFrom_append_of_unmarked`: the search passes over a text without a marked place
  and knows the number that ends with it;
* `firstCount_eq_some_iff`: what is found is the first number that is marked;
* `score_eq_scoreOfReadings`: a score knows its counts only as 64 bits tell them;
* `count_is_first_number`: any word has the first marked number as its count in any text, told
  where it fits 64 bits.
-/

namespace ProgramRepair.Text

theorem startsWith_iff {s lead : List Char} :
    startsWith s lead = true ↔ ∃ rest, s = lead ++ rest := by
  rw [startsWith]
  induction lead generalizing s with
  | nil => simp [dropLead?]
  | cons a lead ih =>
    cases s with
    | nil => simp [dropLead?]
    | cons c s =>
      by_cases hac : a = c
      · subst hac
        simp [dropLead?, ih]
      · have hca : c ≠ a := fun h => hac h.symm
        simp [dropLead?, hac, hca]

end ProgramRepair.Text

namespace ProgramRepair.Summary

open Text

/-! ## Marked places -/

/-- After `before`, a digit stands in the text that is directly followed by a space and the
word. -/
def MarkedAfter (word s before : List Char) : Prop :=
  ∃ d after, d.isDigit = true ∧ s = before ++ d :: ' ' :: (word ++ after)

/-- The number `digits` stands after `lead` in the text, and its last digit is the leftmost marked
one. -/
structure FirstNumber (word s lead digits : List Char) : Prop where
  text : ∃ after, s = lead ++ (digits ++ ' ' :: (word ++ after))
  digits_ne_nil : digits ≠ []
  isDigit_of_mem : ∀ c ∈ digits, c.isDigit = true
  /-- No digit of the number is left out. -/
  whole : ∀ c, lead.getLast? = some c → c.isDigit = false
  leftmost : ∀ before, MarkedAfter word s before → lead.length + digits.length ≤ before.length + 1

/-- A text ends with a number, which may have no digits, after something that does not end with a
digit. -/
theorem exists_lead_digits (s : List Char) :
    ∃ lead digits, s = lead ++ digits ∧ (∀ c ∈ digits, c.isDigit = true) ∧
      ∀ c, lead.getLast? = some c → c.isDigit = false := by
  induction s using List.reverseRecOn with
  | nil => exact ⟨[], [], rfl, List.forall_mem_nil _, fun c hc => nomatch hc⟩
  | append_singleton s c ih =>
    cases hc : c.isDigit with
    | true =>
      obtain ⟨lead, digits, rfl, hdigits, hwhole⟩ := ih
      refine ⟨lead, digits ++ [c], List.append_assoc _ _ _, ?_, hwhole⟩
      exact List.forall_mem_append.mpr ⟨hdigits, List.forall_mem_singleton.mpr hc⟩
    | false =>
      refine ⟨s ++ [c], [], (List.append_nil _).symm, List.forall_mem_nil _, fun d hd => ?_⟩
      rw [List.getLast?_concat] at hd
      cases hd
      exact hc

/-- Where there is a marked place, there is a leftmost one, and a number ends at it. -/
theorem exists_firstNumber {word s before : List Char} (h : MarkedAfter word s before) :
    ∃ lead digits, FirstNumber word s lead digits := by
  classical
  have hsome : ∃ n, ∃ before, before.length = n ∧ MarkedAfter word s before := ⟨_, before, rfl, h⟩
  obtain ⟨first, hlength, d, after, hd, htext⟩ := Nat.find_spec hsome
  have hleftmost : ∀ other, MarkedAfter word s other → first.length ≤ other.length := by
    intro other hother
    rw [hlength]
    exact Nat.find_min' hsome ⟨other, rfl, hother⟩
  -- the number goes back from the digit as far as there are digits
  obtain ⟨lead, digits, hsplit, hdigits, hwhole⟩ := exists_lead_digits first
  refine ⟨lead, digits ++ [d], ⟨after, ?_⟩, ?_, ?_, hwhole, ?_⟩
  · simp [htext, hsplit]
  · simp
  · exact List.forall_mem_append.mpr ⟨hdigits, List.forall_mem_singleton.mpr hd⟩
  · intro other hother
    have hle := hleftmost other hother
    rw [hsplit, List.length_append] at hle
    rw [List.length_append, List.length_singleton]
    omega

/-! ## The search -/

/-- The number that ends with the text, if one does, where `run` is the one that ends before it. -/
def numberAtEnd (run : Option Nat) : List Char → Option Nat
  | [] => run
  | c :: s => numberAtEnd (if c.isDigit then some (10 * run.getD 0 + digitValue c) else none) s

theorem numberAtEnd_eq_none {run : Option Nat} {s : List Char}
    (hlast : ∀ c, s.getLast? = some c → c.isDigit = false) (hnil : s = [] → run = none) :
    numberAtEnd run s = none := by
  induction s generalizing run with
  | nil => exact hnil rfl
  | cons c s ih =>
    rw [numberAtEnd]
    cases s with
    | nil =>
      have hc : c.isDigit = false := hlast c rfl
      simp [hc, numberAtEnd]
    | cons d s => exact ih hlast (fun h => nomatch h)

/-- A text without a marked place is passed over, with the number that ends with it. -/
theorem countFrom_append_of_unmarked {word lead rest : List Char} {run : Option Nat}
    (hunmarked : ∀ before, MarkedAfter word (lead ++ rest) before → lead.length ≤ before.length)
    (hrun : run ≠ none → startsWith (lead ++ rest) (' ' :: word) = false) :
    countFrom word run (lead ++ rest) = countFrom word (numberAtEnd run lead) rest := by
  induction lead generalizing run with
  | nil => rfl
  | cons c lead ih =>
    -- a place that is marked later is marked in the longer text too
    have hlater : ∀ before, MarkedAfter word (lead ++ rest) before →
        lead.length ≤ before.length := by
      rintro before ⟨d, after, hd, htext⟩
      have hle := hunmarked (c :: before) ⟨d, after, hd, by rw [List.cons_append, htext]; rfl⟩
      simpa using hle
    rw [List.cons_append, numberAtEnd]
    cases hc : c.isDigit with
    | true =>
      rw [countFrom_digit hc, if_pos rfl]
      refine ih hlater fun _ => ?_
      -- the digit before would be a marked place
      rw [← Bool.not_eq_true, startsWith_iff]
      rintro ⟨after, htext⟩
      have hle := hunmarked [] ⟨c, after, hc, by rw [List.cons_append, htext]; rfl⟩
      simp at hle
    | false =>
      rw [if_neg Bool.false_ne_true]
      have hnext : countFrom word none (lead ++ rest) = countFrom word (numberAtEnd none lead) rest :=
        ih hlater fun h => absurd rfl h
      cases run with
      | none => rw [countFrom, if_neg (by simp [hc]), hnext]
      | some n =>
        have hword := hrun (by simp)
        rw [List.cons_append] at hword
        rw [countFrom, if_neg (by simp [hc]), if_neg (by simp [hword]), hnext]

section FirstCount

variable {word : String} {s lead digits : List Char}

theorem FirstNumber.firstCount_eq (h : FirstNumber word.toList s lead digits) :
    firstCount word s = some (Nat.ofDigitChars 10 digits 0) := by
  obtain ⟨after, htext⟩ := h.text
  have hpositive : 0 < digits.length := List.length_pos_iff.mpr h.digits_ne_nil
  have hunmarked : ∀ before,
      MarkedAfter word.toList (lead ++ (digits ++ ' ' :: (word.toList ++ after))) before →
      lead.length ≤ before.length := by
    intro before hmarked
    have hle := h.leftmost before (htext ▸ hmarked)
    omega
  have hword : startsWith (word.toList ++ after) word.toList = true :=
    startsWith_iff.mpr ⟨after, rfl⟩
  calc firstCount word s
      = countFrom word.toList none (lead ++ (digits ++ ' ' :: (word.toList ++ after))) := by
        rw [firstCount, htext]
    _ = countFrom word.toList none (digits ++ ' ' :: (word.toList ++ after)) := by
        rw [countFrom_append_of_unmarked hunmarked (fun h => absurd rfl h),
          numberAtEnd_eq_none h.whole (fun _ => rfl)]
    _ = countFrom word.toList (some (Nat.ofDigitChars 10 digits 0))
          (' ' :: (word.toList ++ after)) :=
        countFrom_digits h.digits_ne_nil h.isDigit_of_mem none
    _ = some (Nat.ofDigitChars 10 digits 0) := by rw [countFrom_space, if_pos hword]

/-- Nothing is found exactly if no place is marked. -/
theorem firstCount_eq_none_iff :
    firstCount word s = none ↔ ¬ ∃ before, MarkedAfter word.toList s before := by
  constructor
  · rintro hnone ⟨before, hmarked⟩
    obtain ⟨lead, digits, hfirst⟩ := exists_firstNumber hmarked
    rw [hfirst.firstCount_eq] at hnone
    cases hnone
  · intro hunmarked
    have hpassed : countFrom word.toList none (s ++ []) =
        countFrom word.toList (numberAtEnd none s) [] := by
      refine countFrom_append_of_unmarked (fun before hmarked => ?_) (fun h => absurd rfl h)
      rw [List.append_nil] at hmarked
      exact absurd ⟨before, hmarked⟩ hunmarked
    rw [List.append_nil] at hpassed
    exact hpassed

/-- What is found is the first number that is marked. -/
theorem firstCount_eq_some_iff {n : Nat} :
    firstCount word s = some n ↔
      ∃ lead digits, FirstNumber word.toList s lead digits ∧ Nat.ofDigitChars 10 digits 0 = n := by
  constructor
  · intro hfound
    have hmarked : ∃ before, MarkedAfter word.toList s before := by
      refine Classical.byContradiction fun hunmarked => ?_
      rw [firstCount_eq_none_iff.mpr hunmarked] at hfound
      cases hfound
    obtain ⟨before, hmarked⟩ := hmarked
    obtain ⟨lead, digits, hfirst⟩ := exists_firstNumber hmarked
    refine ⟨lead, digits, hfirst, ?_⟩
    rw [hfirst.firstCount_eq] at hfound
    exact Option.some.inj hfound
  · rintro ⟨lead, digits, hfirst, rfl⟩
    exact hfirst.firstCount_eq

end FirstCount

/-! ## Counts in 64 bits -/

/-- Why a count is not told. -/
inductive CountError where
  | tooLarge
deriving DecidableEq, Repr

/-- A count as 64 bits tell it. -/
def tell (n : Nat) : Except CountError UInt64 :=
  if n < countLimit then .ok (.ofNat n) else .error .tooLarge

/-- The first count before a word, as 64 bits tell it. -/
def readCount (word : String) (s : List Char) : Option (Except CountError UInt64) :=
  (firstCount word s).map tell

theorem tell_eq_ok_iff {n : Nat} {v : UInt64} : tell n = .ok v ↔ n = v.toNat := by
  unfold tell
  constructor
  · intro h
    split at h
    · next hlt =>
      cases h
      exact (UInt64.toNat_ofNat_of_lt' hlt).symm
    · cases h
  · rintro rfl
    have hlt : v.toNat < countLimit := v.toNat_lt
    rw [if_pos hlt, UInt64.ofNat_toNat]

theorem tell_eq_error_iff {n : Nat} {e : CountError} : tell n = .error e ↔ 2 ^ 64 ≤ n := by
  have hlimit : countLimit = 2 ^ 64 := rfl
  cases e
  unfold tell
  split
  · next hlt => exact iff_of_false (fun h => nomatch h) (by omega)
  · next hle => exact iff_of_true rfl (by omega)

/-- Whether a count is there and is not zero, be it too large to be told. -/
def isPositive : Option (Except CountError UInt64) → Bool
  | none => false
  | some (.ok n) => 0 < n
  | some (.error _) => true

/-- The value of a count that is told, and zero for one that is not there. -/
def amount : Option (Except CountError UInt64) → Except CountError Nat
  | none => .ok 0
  | some (.ok n) => .ok n.toNat
  | some (.error e) => .error e

/-- Status and fitness for these amounts of failed and passed tests, of which the sum has to be
told too. -/
def scoreOfAmounts : Except CountError Nat → Except CountError Nat → Status × Option Binary64
  | .ok failed, .ok passed =>
    if failed + passed < countLimit then
      let ratio := failureRatio failed (failed + passed)
      (if ratio.isZero then .success else .failing failed (failed + passed), some ratio)
    else (.parseError, none)
  | _, _ => (.parseError, none)

/-- Status and fitness of a line with these counts of errors, failed and passed tests. -/
def scoreOfReadings (errors failed passed : Option (Except CountError UInt64)) :
    Status × Option Binary64 :=
  if isPositive errors then (.invalid, some invalidFitness)
  else
    match failed, passed with
    | none, none => (.parseError, none)
    | failed, passed => scoreOfAmounts (amount failed) (amount passed)

theorem isPositive_map_tell (count : Option Nat) :
    isPositive (count.map tell) = count.any (0 < ·) := by
  cases count with
  | none => rfl
  | some n =>
    have hlimit : countLimit = 2 ^ 64 := rfl
    rw [Option.map_some, Option.any_some]
    unfold tell
    split
    · next hlt =>
      have hvalue : (UInt64.ofNat n).toNat = n := UInt64.toNat_ofNat_of_lt' hlt
      simp [isPositive, UInt64.lt_iff_toNat_lt, hvalue]
    · next hle => simp [isPositive]; omega

theorem amount_map_tell (count : Option Nat) :
    amount (count.map tell) =
      if count.getD 0 < countLimit then .ok (count.getD 0) else .error .tooLarge := by
  cases count with
  | none => rfl
  | some n =>
    rw [Option.map_some, Option.getD_some]
    unfold tell
    split
    · next hlt => simp [amount, UInt64.toNat_ofNat_of_lt' hlt]
    · rfl

theorem scoreOfAmounts_map_tell (failed passed : Option Nat) :
    scoreOfAmounts (amount (failed.map tell)) (amount (passed.map tell)) =
      scoreOfCounts (failed.getD 0) (passed.getD 0) := by
  rw [amount_map_tell, amount_map_tell, scoreOfCounts]
  by_cases hfailed : failed.getD 0 < countLimit
  · by_cases hpassed : passed.getD 0 < countLimit
    · rw [if_pos hfailed, if_pos hpassed, scoreOfAmounts]
      simp only [hfailed, hpassed, true_and]
    · have hspoilt : ¬ (failed.getD 0 < countLimit ∧ passed.getD 0 < countLimit ∧
          failed.getD 0 + passed.getD 0 < countLimit) := fun h => hpassed h.2.1
      rw [if_pos hfailed, if_neg hpassed, if_neg hspoilt]
      rfl
  · have hspoilt : ¬ (failed.getD 0 < countLimit ∧ passed.getD 0 < countLimit ∧
        failed.getD 0 + passed.getD 0 < countLimit) := fun h => hfailed h.1
    rw [if_neg hfailed, if_neg hspoilt]
    rfl

/-- A score knows its counts only as 64 bits tell them. -/
theorem score_eq_scoreOfReadings (s : List Char) :
    score s =
      scoreOfReadings (readCount "error" s) (readCount "failed" s) (readCount "passed" s) := by
  unfold score scoreOfReadings readCount
  rw [isPositive_map_tell]
  -- only the line with neither count is told apart before the amounts
  cases firstCount "failed" s <;> cases firstCount "passed" s
  case none.none => rfl
  all_goals
    dsimp only [Option.map_some, Option.map_none]
    rw [← scoreOfAmounts_map_tell]
    rfl

/-- A word has a count in a text exactly if some place in it is marked. The count is then the value
of the first number that is marked, whole and with any zeros before it, and it is told exactly if it
is below `2 ^ 64`. These are the counts a score is made from. -/
theorem count_is_first_number (s : List Char) :
    (∀ word : String,
      (readCount word s = none ↔ ¬ ∃ before, MarkedAfter word.toList s before) ∧
      (∀ n, readCount word s = some (.ok n) ↔
        ∃ lead digits, FirstNumber word.toList s lead digits ∧
          Nat.ofDigitChars 10 digits 0 = n.toNat) ∧
      (∀ e, readCount word s = some (.error e) ↔
        ∃ lead digits, FirstNumber word.toList s lead digits ∧
          2 ^ 64 ≤ Nat.ofDigitChars 10 digits 0)) ∧
    score s =
      scoreOfReadings (readCount "error" s) (readCount "failed" s) (readCount "passed" s) := by
  refine ⟨fun word => ⟨?_, fun n => ?_, fun e => ?_⟩, score_eq_scoreOfReadings s⟩
  · rw [readCount, Option.map_eq_none_iff]
    exact firstCount_eq_none_iff
  · rw [readCount, Option.map_eq_some_iff]
    constructor
    · rintro ⟨m, hfound, htold⟩
      obtain ⟨lead, digits, hfirst, rfl⟩ := firstCount_eq_some_iff.mp hfound
      exact ⟨lead, digits, hfirst, tell_eq_ok_iff.mp htold⟩
    · rintro ⟨lead, digits, hfirst, hvalue⟩
      exact ⟨_, hfirst.firstCount_eq, tell_eq_ok_iff.mpr hvalue⟩
  · rw [readCount, Option.map_eq_some_iff]
    constructor
    · rintro ⟨m, hfound, htold⟩
      obtain ⟨lead, digits, hfirst, rfl⟩ := firstCount_eq_some_iff.mp hfound
      exact ⟨lead, digits, hfirst, tell_eq_error_iff.mp htold⟩
    · rintro ⟨lead, digits, hfirst, hvalue⟩
      exact ⟨_, hfirst.firstCount_eq, tell_eq_error_iff.mpr hvalue⟩

example : firstCount "failed" "12 xfailed, 1 2x 007 failed, 3 failed".toList = some 7 := by decide

end ProgramRepair.Summary
