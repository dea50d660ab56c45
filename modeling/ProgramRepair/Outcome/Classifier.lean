import ProgramRepair.Binary64.Basic
import ProgramRepair.Text.CharClass
import ProgramRepair.Text.Lines

/-!
# Outcomes and classifiers

What one run of the tests says about a candidate: a `Status` and, where the run
can be scored, a fitness. Lower fitness is better and zero means repaired.
Runs that broke or ran out of time are not comparable: they never compete for
the best candidate.

A classifier turns the raw result of a test command into an evaluation: either
by the summary line it printed or by its exit code alone. Output, exit code and
duration are kept as they are.

A summary line is one such as `== 2 failed, 8 passed in 1.02s ==`. It is taken
from the end of the output (`Summary.ofOutput`), counts are read from it by the
word that follows them (`Summary.firstCount`), and the counts give status and
fitness (`Summary.score`). Counts are kept exactly; one that does not fit in 64
bits spoils the score, except that errors are errors however many.
-/

/-! ## Outcomes -/

namespace ProgramRepair

/-- The kind of outcome of one evaluation. -/
inductive Status where
  /-- Every test passed. -/
  | success
  /-- The tests ran and `failed` of `total` failed. -/
  | failing (failed total : Nat)
  /-- The candidate could not be built or run. -/
  | invalid
  /-- The test command took too long. -/
  | timeout
  /-- The test output has no readable summary. -/
  | parseError
deriving DecidableEq, Repr, Inhabited

namespace Status

/-- Whether an outcome may compete for the best candidate. -/
def isComparable : Status → Bool
  | invalid | timeout => false
  | success | failing _ _ | parseError => true

/-- Whether an outcome counts as an invalid candidate. -/
def isInvalid (s : Status) : Bool := !s.isComparable

def toText : Status → String
  | success => "SUCCESS"
  | failing failed total => "FAILING(" ++ toString failed ++ "/" ++ toString total ++ ")"
  | invalid => "INVALID"
  | timeout => "TIMEOUT"
  | parseError => "PARSE_ERROR"

end Status

/-- The result of running the tests against one candidate. -/
structure Evaluation where
  status : Status
  /-- Absent when the run has no comparable score. -/
  fitness : Option Binary64
  stdout : String
  stderr : String
  /-- Absent when a signal ended the command. -/
  returnCode : Option Int
  elapsedSeconds : Binary64
deriving DecidableEq, Repr, Inhabited

/-- The fitness of a candidate that broke, above that of every candidate that ran. -/
def invalidFitness : Binary64 := .two

namespace Evaluation

/-- The result of a run that was ended at its deadline. -/
def ofTimeout (stdout stderr : String) (elapsed : Binary64) : Evaluation :=
  ⟨.timeout, none, stdout, stderr, none, elapsed⟩

/-- The result for a candidate that could not be written or started. -/
def ofInvalid (reason : String) : Evaluation :=
  ⟨.invalid, some invalidFitness, "", reason, none, .zero⟩

end Evaluation

/-- Whether `fitness` should replace `best`. A missing best yields to any fitness, and a missing
fitness replaces nothing. -/
def isBetter : Option Binary64 → Option Binary64 → Bool
  | none, _ => false
  | some _, none => true
  | some f, some best => f.lt best

/-- Whether a fitness means that the program is repaired. -/
def isRepaired : Option Binary64 → Bool
  | none => false
  | some f => f.isZero

end ProgramRepair

/-! ## Summary lines -/

namespace ProgramRepair.Summary

open Text

/-- The last line of an output without `=` signs and without blanks at its ends. One line break
at the end of the output does not start a line of its own. -/
def ofOutput (output : List Char) : List Char :=
  trim ((lastLine (dropFinalBreak output)).filter (· ≠ '='))

/-- The value of a decimal digit. -/
def digitValue (c : Char) : Nat := c.toNat - '0'.toNat

/-- The search for a count, where `run` is the number that ends right here, if one does. -/
def countFrom (word : List Char) (run : Option Nat) : List Char → Option Nat
  | [] => none
  | c :: s =>
    if c.isDigit then countFrom word (some (10 * run.getD 0 + digitValue c)) s
    else
      match run with
      | some n => if startsWith (c :: s) (' ' :: word) then some n else countFrom word none s
      | none => countFrom word none s

/-- The first number that is followed by a space and `word`. -/
def firstCount (word : String) (s : List Char) : Option Nat :=
  countFrom word.toList none s

/-- The first number that does not fit in 64 bits. -/
def countLimit : Nat := Nat.pow 2 64

/-- The share of failed tests; 1 if there were no tests at all. -/
def failureRatio (failed total : Nat) : Binary64 :=
  if total = 0 then .one else .ofNat failed / .ofNat total

/-- Status and fitness of a run with the given counts of failed and passed tests. -/
def scoreOfCounts (failed passed : Nat) : Status × Option Binary64 :=
  if failed < countLimit ∧ passed < countLimit ∧ failed + passed < countLimit then
    let ratio := failureRatio failed (failed + passed)
    (if ratio.isZero then .success else .failing failed (failed + passed), some ratio)
  else (.parseError, none)

/-- Status and fitness of a summary line. An error count decides first; without a count of failed
or passed tests there is nothing to score. -/
def score (line : List Char) : Status × Option Binary64 :=
  if (firstCount "error" line).any (0 < ·) then (.invalid, some invalidFitness)
  else
    match firstCount "failed" line, firstCount "passed" line with
    | none, none => (.parseError, none)
    | failed, passed => scoreOfCounts (failed.getD 0) (passed.getD 0)

end ProgramRepair.Summary

namespace ProgramRepair

/-! ## Classifiers -/

/-- How test output is turned into fitness. -/
inductive Classifier where
  /-- By the counts in the last line of the output. -/
  | pytestSummary
  /-- By the exit code alone. -/
  | exitCode
deriving DecidableEq, Repr, Inhabited

namespace Classifier

/-- Zero passes, any other code fails, and a command that a signal ended is broken. -/
def scoreOfCode : Option Int → Status × Option Binary64
  | some 0 => (.success, some .zero)
  | some _ => (.failing 1 1, some .one)
  | none => (.invalid, some invalidFitness)

/-- Status and fitness of a finished test command. -/
def score (c : Classifier) (stdout : String) (code : Option Int) : Status × Option Binary64 :=
  match c with
  | pytestSummary => Summary.score (Summary.ofOutput stdout.toList)
  | exitCode => scoreOfCode code

/-- The evaluation of a finished test command. -/
def classify (c : Classifier) (stdout : String) (code : Option Int) (stderr : String)
    (elapsed : Binary64) : Evaluation :=
  let (status, fitness) := c.score stdout code
  ⟨status, fitness, stdout, stderr, code, elapsed⟩

end Classifier

end ProgramRepair
