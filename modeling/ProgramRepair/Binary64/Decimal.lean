import ProgramRepair.Binary64.Basic

/-!
# Decimal text of doubles

Reading: `ofDecimal` takes the double nearest to `digits * 10 ^ exponent`, and
`read?` the usual spellings of a number. Writing: `shortest` finds the fewest
digits that read back to the same double, and a `NumberStyle` decides how those
digits are laid out.
-/

namespace ProgramRepair.Binary64

/-! ## Reading -/

/-- The number of decimal digits of a natural number; 1 for zero. -/
def decimalLength (n : Nat) : Nat :=
  (Nat.toDigits 10 n).length

/-- The magnitude nearest to `digits * 10 ^ exponent`. Exponents far outside the range of the
doubles are decided by the number of digits alone. -/
def magnitudeOfDecimal (digits : Nat) (exponent : Int) : Nat :=
  let top := exponent + decimalLength digits
  if digits = 0 ∨ top < -400 then 0
  else if 400 < top then infiniteMagnitude
  else if 0 ≤ exponent then nearest (digits * Nat.pow 10 exponent.toNat * unitsPerOne) 1
  else nearest (digits * unitsPerOne) (Nat.pow 10 (-exponent).toNat)

/-- The double nearest to a decimal. -/
def ofDecimal (negative : Bool) (digits : Nat) (exponent : Int) : Binary64 :=
  ⟨negative, magnitudeOfDecimal digits exponent⟩

/-- The value of a list of decimal digits. -/
def digitsValue (ds : List Char) : Nat :=
  ds.foldl (fun n d => 10 * n + (d.toNat - '0'.toNat)) 0

/-- An exponent: an optional sign and at least one digit. -/
def readExponent? : List Char → Option Int
  | '+' :: ds => if ds ≠ [] ∧ ds.all Char.isDigit then some (digitsValue ds) else none
  | '-' :: ds => if ds ≠ [] ∧ ds.all Char.isDigit then some (- (digitsValue ds : Int)) else none
  | ds => if ds ≠ [] ∧ ds.all Char.isDigit then some (digitsValue ds) else none

/-- A number without its sign: digits with an optional point and exponent, or a word. -/
def readUnsigned? (negative : Bool) (s : List Char) : Option Binary64 :=
  let word := s.map Char.toLower
  if word = "inf".toList ∨ word = "infinity".toList then some ⟨negative, infiniteMagnitude⟩
  else if word = "nan".toList then some nan
  else
    let whole := s.takeWhile Char.isDigit
    let rest := s.dropWhile Char.isDigit
    let (fraction, tail) := match rest with
      | '.' :: r => (r.takeWhile Char.isDigit, r.dropWhile Char.isDigit)
      | r => ([], r)
    let mantissa := whole ++ fraction
    if mantissa = [] then none
    else
      let shift : Int := - (fraction.length : Int)
      match tail with
      | [] => some (ofDecimal negative (digitsValue mantissa) shift)
      | e :: r =>
        if e = 'e' ∨ e = 'E' then
          (readExponent? r).map fun x => ofDecimal negative (digitsValue mantissa) (shift + x)
        else none

/-- The double written by a text: `1.5`, `.5`, `2.`, `-1e-7`, `inf`, `NaN` and the like. -/
def read? (s : List Char) : Option Binary64 :=
  match s with
  | '+' :: r => readUnsigned? false r
  | '-' :: r => readUnsigned? true r
  | r => readUnsigned? false r

/-! ## The fewest digits -/

/-- Which of two equally near decimals is taken. -/
inductive Tie where
  | up
  | toEven
deriving DecidableEq, Repr

/-- A positive decimal `digits * 10 ^ exponent`. -/
structure Decimal where
  digits : Nat
  exponent : Int
deriving DecidableEq, Repr

/-- The decimal without zeros at its end, `fuel` of them at most. -/
def Decimal.strip : Nat → Decimal → Decimal
  | 0, d => d
  | fuel + 1, d => if d.digits % 10 = 0 then strip fuel ⟨d.digits / 10, d.exponent + 1⟩ else d

/-- Whether `num / den < 10 ^ p`. -/
def belowPower (num den : Nat) (p : Int) : Bool :=
  if 0 ≤ p then num < den * Nat.pow 10 p.toNat else num * Nat.pow 10 (-p).toNat < den

/-- The least `p` with `num / den < 10 ^ p`, for a positive quotient: an estimate from the binary
logarithms, which is never too large, and then at most four steps up. -/
def decimalPoint (num den : Nat) : Int :=
  let estimate := ((num.log2 : Int) - den.log2 - 1) * 30103 / 100000
  let steps := [estimate, estimate + 1, estimate + 2, estimate + 3]
  (steps.find? (belowPower num den)).getD (estimate + 4)

/-- The decimal of `n` digits that reads back to a magnitude, if there is one: the one below the
value or the one above it, and of both the nearer. The magnitude stands between the halves of
its distances to its neighbours, both ends included if it is even. -/
def ofLength? (tie : Tie) (magnitude : Nat) (point : Int) (n : Nat) : Option Decimal :=
  let den := 2 * unitsPerOne
  let mid := 2 * units magnitude
  let low := units (magnitude - 1) + units magnitude
  let high := units magnitude + units (magnitude + 1)
  let exponent := point - n
  -- all three scaled so that one step of the grid is `step`
  let scale := if 0 ≤ exponent then 1 else (Nat.pow 10 (-exponent).toNat)
  let step := if 0 ≤ exponent then den * Nat.pow 10 exponent.toNat else den
  let below := mid * scale / step
  let inside (k : Nat) : Bool :=
    if magnitude % 2 = 0 then low * scale ≤ k * step && k * step ≤ high * scale
    else low * scale < k * step && k * step < high * scale
  let twice := 2 * (mid * scale % step)
  let upper : Bool := match tie with
    | .up => step ≤ twice
    | .toEven => step < twice || (step == twice && below % 2 == 1)
  match inside below, inside (below + 1) with
  | true, true => some ⟨if upper then below + 1 else below, exponent⟩
  | true, false => some ⟨below, exponent⟩
  | false, true => some ⟨below + 1, exponent⟩
  | false, false => none

/-- The fewest digits that read back to a positive finite magnitude; 17 always do. -/
def shortest (tie : Tie) (magnitude : Nat) : Decimal :=
  let point := decimalPoint (units magnitude) unitsPerOne
  match (List.range 17).findSome? fun n => ofLength? tie magnitude point (n + 1) with
  | some d => d.strip 17
  | none => ⟨0, 0⟩

/-! ## Layout -/

/-- How the digits of a number are laid out: from which exponents of its first digit on they are
written positionally, whether a whole number keeps `.0`, and the sign of a positive exponent.
A style without bounds writes every number positionally. -/
structure NumberStyle where
  tie : Tie
  positional : Option (Int × Int)
  keepPoint : Bool
  exponentPlus : String

/-- The shortest positional text, as in `0.2`, `2` and `0.0000001`. -/
def NumberStyle.plain : NumberStyle := ⟨.up, none, false, ""⟩

/-- The text of a number inside a JSON document, as in `0.2`, `2.0`, `1e-7` and `1e+16`. -/
def NumberStyle.json : NumberStyle := ⟨.toEven, some (-5, 15), true, "+"⟩

/-- The text of a number inside a progress line, as in `0.2`, `2.0`, `1e-7` and `1e16`. -/
def NumberStyle.detailed : NumberStyle := ⟨.up, some (-4, 15), true, ""⟩

/-- The digits with the point where it belongs and no exponent. -/
def positionalText (keepPoint : Bool) (ds : List Char) (exponent : Int) : List Char :=
  if 0 ≤ exponent then
    ds ++ List.replicate exponent.toNat '0' ++ (if keepPoint then ['.', '0'] else [])
  else
    let places := (-exponent).toNat
    if places < ds.length then
      ds.take (ds.length - places) ++ '.' :: ds.drop (ds.length - places)
    else '0' :: '.' :: List.replicate (places - ds.length) '0' ++ ds

/-- One digit, the others after a point, and the exponent of the first. -/
def scientificText (plus : String) (ds : List Char) (first : Int) : List Char :=
  let mantissa := match ds with
    | d :: e :: rest => d :: '.' :: e :: rest
    | short => short
  let sign := if first < 0 then ['-'] else plus.toList
  mantissa ++ 'e' :: sign ++ (Nat.toDigits 10 first.natAbs)

/-- The text of a positive finite magnitude. -/
def magnitudeText (style : NumberStyle) (magnitude : Nat) : List Char :=
  if magnitude = 0 then positionalText style.keepPoint ['0'] 0
  else
    let d := shortest style.tie magnitude
    let ds := Nat.toDigits 10 d.digits
    let first := d.exponent + ds.length - 1
    let inBounds := match style.positional with
      | none => true
      | some (low, high) => low ≤ first && first ≤ high
    if inBounds then positionalText style.keepPoint ds d.exponent
    else scientificText style.exponentPlus ds first

/-- A number in a given style. -/
def text (style : NumberStyle) (x : Binary64) : String :=
  if x.isNaN then "NaN"
  else
    let sign := if x.negative then ['-'] else []
    let body := if x.isInfinite then "inf".toList else magnitudeText style x.magnitude
    String.ofList (sign ++ body)

/-- The shortest positional text. -/
def toText (x : Binary64) : String := x.text .plain

/-- The number rounded to one decimal place; an exact tie goes to the even digit. -/
def tenthsText (x : Binary64) : String :=
  if x.isNaN then "NaN"
  else
    let sign := if x.negative then "-" else ""
    if x.isInfinite then sign ++ "inf"
    else
      let tenths := roundToEven (10 * units x.magnitude) unitsPerOne
      sign ++ toString (tenths / 10) ++ "." ++ toString (tenths % 10)

end ProgramRepair.Binary64
