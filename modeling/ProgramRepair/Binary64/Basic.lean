/-!
# Double-precision numbers as exact values

A double is a sign and a magnitude. The magnitude is the encoding without the
sign bit: exponent field and fraction read as one number. Encodings of larger
values are larger, so magnitudes are compared as natural numbers, and the value
of a finite one is a whole number of units of `2 ^ -1074`, the least positive
double. Every operation computes its exact result in units and rounds once
(`nearest`), a tie going to the even neighbour.
-/

namespace ProgramRepair

/-- A double: a sign and the encoding of its absolute value. -/
structure Binary64 where
  negative : Bool
  magnitude : Nat
deriving DecidableEq, Repr, Inhabited

namespace Binary64

/-! ## Magnitudes -/

/-- The magnitude of the infinities; above it stand the values that are no number. -/
def infiniteMagnitude : Nat := 0x7FF * Nat.pow 2 52

/-- The number of units per 1. -/
def unitsPerOne : Nat := Nat.pow 2 1074

/-- The value of a finite magnitude, counted in units. -/
def units (magnitude : Nat) : Nat :=
  match magnitude / Nat.pow 2 52 with
  | 0 => magnitude
  | e + 1 => (Nat.pow 2 52 + magnitude % Nat.pow 2 52) * Nat.pow 2 e

/-- The whole number nearest to `num / den`; of two equally near the even one. -/
def roundToEven (num den : Nat) : Nat :=
  let q := num / den
  let twice := 2 * (num % den)
  if twice < den || (twice == den && q % 2 == 0) then q else q + 1

/-- The magnitude nearest to `num / den` units; what is beyond the largest finite value by half
its spacing is infinite. -/
def nearest (num den : Nat) : Nat :=
  let e := (num / den).log2 - 52
  min infiniteMagnitude (e * Nat.pow 2 52 + roundToEven num (den * Nat.pow 2 e))

/-! ## Numbers -/

def zero : Binary64 := ⟨false, 0⟩

def one : Binary64 := ⟨false, 0x3FF * Nat.pow 2 52⟩

def two : Binary64 := ⟨false, 0x400 * Nat.pow 2 52⟩

def infinity : Binary64 := ⟨false, infiniteMagnitude⟩

/-- The value that is no number. -/
def nan : Binary64 := ⟨false, infiniteMagnitude + Nat.pow 2 51⟩

def isNaN (x : Binary64) : Bool := infiniteMagnitude < x.magnitude

def isFinite (x : Binary64) : Bool := x.magnitude < infiniteMagnitude

def isInfinite (x : Binary64) : Bool := x.magnitude == infiniteMagnitude

/-- Zero of either sign. -/
def isZero (x : Binary64) : Bool := x.magnitude == 0

def neg (x : Binary64) : Binary64 := ⟨!x.negative, x.magnitude⟩

instance : Neg Binary64 := ⟨neg⟩

/-- The value in units with its sign; of interest for finite numbers. -/
def signedUnits (x : Binary64) : Int :=
  if x.negative then - (units x.magnitude : Int) else units x.magnitude

/-- The double nearest to a number of units. -/
def ofSignedUnits (n : Int) : Binary64 := ⟨n < 0, nearest n.natAbs 1⟩

/-- The double nearest to a natural number. -/
def ofNat (n : Nat) : Binary64 := ⟨false, nearest (n * unitsPerOne) 1⟩

/-! ## Order -/

/-- Where a number that is one stands on the line: magnitudes to the right of zero, their
negatives to the left, and both zeros at zero. -/
def rank (x : Binary64) : Int :=
  if x.negative then - (x.magnitude : Int) else x.magnitude

/-- `x` is less than `y`; false if one of them is no number. -/
def lt (x y : Binary64) : Bool := !x.isNaN && !y.isNaN && x.rank < y.rank

/-- `x` is at most `y`; false if one of them is no number. -/
def le (x y : Binary64) : Bool := !x.isNaN && !y.isNaN && x.rank ≤ y.rank

/-! ## Arithmetic -/

/-- The sum. Opposite infinities have none; an exact zero is negative only if both terms are. -/
def add (x y : Binary64) : Binary64 :=
  if x.isNaN || y.isNaN then nan
  else if x.isInfinite then
    if y.isInfinite && x.negative != y.negative then nan else x
  else if y.isInfinite then y
  else
    let sum := x.signedUnits + y.signedUnits
    if sum = 0 then ⟨x.negative && y.negative, 0⟩ else ofSignedUnits sum

/-- The product. Zero times infinity has none. -/
def mul (x y : Binary64) : Binary64 :=
  let negative := x.negative != y.negative
  if x.isNaN || y.isNaN then nan
  else if x.isInfinite || y.isInfinite then
    if x.isZero || y.isZero then nan else ⟨negative, infiniteMagnitude⟩
  else ⟨negative, nearest (units x.magnitude * units y.magnitude) unitsPerOne⟩

/-- The quotient. Zero by zero and infinity by infinity have none; any other number by zero is
infinite. -/
def div (x y : Binary64) : Binary64 :=
  let negative := x.negative != y.negative
  if x.isNaN || y.isNaN then nan
  else if x.isInfinite then
    if y.isInfinite then nan else ⟨negative, infiniteMagnitude⟩
  else if y.isInfinite then ⟨negative, 0⟩
  else if y.isZero then
    if x.isZero then nan else ⟨negative, infiniteMagnitude⟩
  else ⟨negative, nearest (units x.magnitude * unitsPerOne) (units y.magnitude)⟩

instance : Add Binary64 := ⟨add⟩
instance : Mul Binary64 := ⟨mul⟩
instance : Div Binary64 := ⟨div⟩

/-- The sum of a list, added up from the left. The sum of no numbers is the negative zero, which
changes nothing when a number is added to it. -/
def sum (xs : List Binary64) : Binary64 :=
  xs.foldl (· + ·) ⟨true, 0⟩

@[simp] theorem units_zero : units 0 = 0 := rfl

@[simp] theorem lt_nan_left (y : Binary64) : lt nan y = false := rfl

@[simp] theorem lt_nan_right (x : Binary64) : lt x nan = false := by
  simp [lt, show isNaN nan = true from by decide]

@[simp] theorem lt_irrefl (x : Binary64) : lt x x = false := by
  simp [lt]

end Binary64

end ProgramRepair
