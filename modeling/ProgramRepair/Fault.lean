/-!
# Faults

The calls that have no result: a precondition of an operation does not hold, or
a number does not fit where it has to go. A fault ends the whole run; it is not
one of the errors that a run reports and goes on from.
-/

namespace ProgramRepair

/-- Why an operation has no result. -/
inductive Fault where
  /-- A number was to be drawn from an empty range. -/
  | emptyRange
  /-- A patch has no edit at this place. -/
  | noSuchEdit (index : Nat)
  /-- There is no target file with this number. -/
  | noSuchFile (index : Nat)
  /-- The weights of a file add up to infinity. -/
  | infiniteWeight
  /-- A number of seconds is negative, no number, or too large for a duration. -/
  | durationRange
  /-- A deadline lies beyond the end of the clock. -/
  | deadlineRange
  /-- A sum of counters does not fit in 64 bits. -/
  | countOverflow
  /-- Room for a list was asked for that no memory has. -/
  | capacity
deriving DecidableEq, Repr, Inhabited

end ProgramRepair
