import ProgramRepair.Fault
import ProgramRepair.Binary64.Basic

/-!
# Durations

A duration is a whole number of nanoseconds of less than `2 ^ 64` seconds. A
number of seconds is rounded to the nearest nanosecond, a tie to the even one.
-/

namespace ProgramRepair

/-- A span of time. -/
structure Duration where
  nanoseconds : Nat
deriving DecidableEq, Repr, Inhabited

namespace Duration

def perSecond : Nat := Nat.pow 10 9

/-- The first number of seconds that is too large for a duration. -/
def secondsLimit : Nat := Nat.pow 2 64

def ofMilliseconds (n : Nat) : Duration := ⟨n * Nat.pow 10 6⟩

/-- The whole seconds of a duration. -/
def seconds (d : Duration) : Nat := d.nanoseconds / perSecond

/-- The nanoseconds beyond the whole seconds. -/
def subsecond (d : Duration) : Nat := d.nanoseconds % perSecond

/-- A duration as a number of seconds. -/
def inSeconds (d : Duration) : Binary64 :=
  .ofNat d.seconds + .ofNat d.subsecond / .ofNat perSecond

/-- The duration of a number of seconds. -/
def ofSeconds (x : Binary64) : Except Fault Duration :=
  if x.isNaN ∨ (x.negative ∧ !x.isZero) then .error .durationRange
  else
    let ns := Binary64.roundToEven (Binary64.units x.magnitude * perSecond) Binary64.unitsPerOne
    if ns < secondsLimit * perSecond then .ok ⟨ns⟩ else .error .durationRange

end Duration

end ProgramRepair
