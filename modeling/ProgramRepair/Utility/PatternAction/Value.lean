import Std.Data.HashMap
import ProgramRepair.Utility.PatternAction.Token

/-!
# Values and tables

A value is a number or a text and is taken for the other where that is needed. A
text from the input that looks like a number is compared as one.

A table has entries by keys. Keys come in the order of lists that they are spread
over by a hash; within a list the key that was looked for last as a text comes
first. A key that has only been used as a number joins its list when the table is
first asked by a text or for all of its keys.
-/

namespace ProgramRepair.Utility.PatternAction

/-- A value. -/
inductive Value where
  /-- The value of a variable that nothing was assigned to: zero, and the empty text. -/
  | unset
  | number (x : Binary64)
  | text (s : List Char)
  /-- A text from the input. -/
  | input (s : List Char)
deriving Repr, Inhabited

/-! ## Numbers -/

/-- A whole number. -/
def numberOf (n : Int) : Binary64 := ⟨n < 0, (Binary64.ofNat n.natAbs).magnitude⟩

/-- A truth value. -/
def truth (b : Bool) : Value := .number (if b then .one else .zero)

/-- The whole number next to a double on the side of zero; 0 if the double is not finite. -/
def truncated (x : Binary64) : Int :=
  if x.isFinite then x.signedUnits.tdiv Binary64.unitsPerOne else 0

/-- The whole number that a double is. -/
def whole? (x : Binary64) : Option Int :=
  if x.isFinite ∧ x.signedUnits % (Binary64.unitsPerOne : Int) = 0 then some (truncated x) else none

/-- The number that a text begins with, without blanks and a sign, and what follows it. -/
def unsignedNumber? (s : List Char) : Option (Binary64 × List Char) :=
  match s with
  | '0' :: x :: d :: rest =>
    if (x = 'x' ∨ x = 'X') ∧ isHexDigit d then
      let ds := (d :: rest).takeWhile isHexDigit
      let n := ds.foldl (fun n d => 16 * n + hexDigitValue d) 0
      some (.ofNat n, (d :: rest).drop ds.length)
    else decimal s
  | _ => decimal s
where
  /-- A number with decimal digits. -/
  decimal (s : List Char) : Option (Binary64 × List Char) :=
    (numberText? s).map fun (text, rest) => ((Binary64.read? text).getD .zero, rest)

/-- The number that a text begins with, and what follows it. -/
def leadingNumber? (s : List Char) : Option (Binary64 × List Char) :=
  match s.dropWhile Text.isSpaceChar with
  | '-' :: s => (unsignedNumber? s).map fun (x, rest) => (-x, rest)
  | '+' :: s => unsignedNumber? s
  | s => unsignedNumber? s

/-- Words for doubles that are not finite. -/
def infiniteWord? (s : List Char) : Option Binary64 :=
  let s := s.dropWhile Text.isSpaceChar
  let (negative, s) := match s with
    | '-' :: s => (true, s)
    | '+' :: s => (false, s)
    | s => (false, s)
  let word := (s.takeWhile Char.isAlpha).map Char.toLower
  if "inf".toList.isPrefixOf word then some ⟨negative, Binary64.infiniteMagnitude⟩
  else if "nan".toList.isPrefixOf word then some ⟨negative, Binary64.nan.magnitude⟩
  else none

/-- The number that a text counts as. -/
def numberOfText (s : List Char) : Binary64 :=
  match leadingNumber? s with
  | some (x, _) => x
  | none => (infiniteWord? s).getD .zero

/-- The number that a text looks like, if it is nothing but a number. -/
def wholeNumber? (s : List Char) : Option Binary64 :=
  match leadingNumber? s with
  | some (x, rest) => if rest.all Text.isSpaceChar then some x else none
  | none => none

/-! ## Printing by format -/

/-- The bounds between which numbers are printed as whole ones. -/
def wholeBound : Nat := Nat.pow 2 63

/-- A number without a part behind the point, if it is one and not too large. -/
def wholeText? (x : Binary64) : Option (List Char) :=
  (whole? x).bind fun n =>
    let ds := digits n.natAbs
    if n < 0 then (if n.natAbs ≤ wholeBound then some ('-' :: ds) else none)
    else if n.natAbs ≤ 2 * wholeBound then some (digits (min n.natAbs (2 * wholeBound - 1)))
    else none

/-- A number for a directive that prints whole ones. -/
def directiveInt (x : Binary64) : Int :=
  if x.isNaN then -wholeBound
  else if x.isInfinite then (if x.negative then 1 - wholeBound else 2 * wholeBound - 1)
  else max (1 - wholeBound) (min (2 * wholeBound - 1) (truncated x))

namespace Value

def toNumber : Value → Binary64
  | unset => .zero
  | number x => x
  | text s | input s => numberOfText s

/-- A number with a directive such as `%.6g`. -/
def numberText (format : List Char) (x : Binary64) : List Char :=
  match wholeText? x with
  | some s => s
  | none =>
    let plain : Directive := ⟨false, false, false, false, false, 0, some 6, 'g'⟩
    if format = "%.6g".toList then plain.double x
    else directives format
where
  /-- The text for a format with at most one directive. -/
  directives (format : List Char) : List Char :=
    let lead := format.takeWhile (· ≠ '%')
    match format.drop lead.length with
    | '%' :: rest =>
      let flags := rest.takeWhile fun c => "-+ #0".toList.contains c
      let rest := rest.drop flags.length
      let width := rest.takeWhile Char.isDigit
      let rest := rest.drop width.length
      let (precision, rest) := match rest with
        | '.' :: r =>
          let ds := r.takeWhile Char.isDigit
          (some ((natural? ds).getD 0), r.drop ds.length)
        | r => (none, r)
      match rest with
      | letter :: tail =>
        let d : Directive := ⟨flags.contains '-', flags.contains '0', flags.contains '+',
          flags.contains ' ', flags.contains '#', (natural? width).getD 0, precision, letter⟩
        let text := if wholeLetters.contains letter then d.number (directiveInt x) else d.double x
        lead ++ text ++ tail
      | [] => lead
    | _ => lead

/-- The text that a value counts as; numbers are written by a format. -/
def toText (format : List Char) : Value → List Char
  | unset => []
  | number x => numberText format x
  | text s | input s => s

/-- The number that a value is compared as, if it is. -/
def comparable? : Value → Option Binary64
  | unset => some .zero
  | number x => some x
  | text _ => none
  | input s => wholeNumber? s

/-- Whether a value counts as true. -/
def isTrue : Value → Bool
  | unset => false
  | number x => !x.isZero
  | text s => !s.isEmpty
  | input s =>
    match wholeNumber? s with
    | some x => !x.isZero
    | none => !s.isEmpty

/-- How two values compare: as numbers if both can be, else as texts. -/
def compare (format : List Char) (a b : Value) : Ordering :=
  match a.comparable?, b.comparable? with
  | some x, some y => if x.lt y then .lt else if y.lt x then .gt else .eq
  | _, _ =>
    let s := a.toText format
    let t := b.toText format
    if s = t then .eq else if s < t then .lt else .gt

end Value

def Comparison.holds (c : Comparison) (o : Ordering) : Bool :=
  match c with
  | .less => o = .lt
  | .atMost => o ≠ .gt
  | .equal => o = .eq
  | .unequal => o ≠ .eq
  | .atLeast => o ≠ .lt
  | .greater => o = .gt

/-- What is wrong with a format and its arguments. -/
inductive FormatProblem where
  | tooFew
  /-- A directive that there is not, by its number. -/
  | improper (number : Nat)

def FormatProblem.message (format : List Char) : FormatProblem → String
  | tooFew => "not enough arguments passed to printf(\"" ++ shown format ++ "\")"
  | improper n =>
    "improper conversion(number " ++ toString n ++ ") in printf(\"" ++ shown format ++ "\")"

/-- A number within a directive, or the next argument for a star. -/
def formatNumber (s : List Char) (args : List Value) :
    Except FormatProblem (Option Int × List Char × List Value) :=
  match s with
  | '*' :: s =>
    match args with
    | a :: args => .ok (some (truncated a.toNumber), s, args)
    | [] => .error .tooFew
  | s =>
    let ds := s.takeWhile Char.isDigit
    .ok ((natural? ds).map fun n => (n : Int), s.drop ds.length, args)

/-- Values printed by a format; `numbers` is the format of numbers that are printed as texts, and
`count` the number of the next directive. The text before a problem counts too. -/
def formatted (numbers : List Char) (count : Nat) : Nat → List Char → List Value →
    List Char × Option FormatProblem
  | 0, _, _ => ([], none)
  | _ + 1, [], _ => ([], none)
  | fuel + 1, '%' :: '%' :: s, args =>
    let (text, problem) := formatted numbers count fuel s args
    ('%' :: text, problem)
  | fuel + 1, '%' :: s, args =>
    let flags := s.takeWhile fun c => "-+ #0".toList.contains c
    let read : Except FormatProblem (Directive × List Char × List Value) := do
      let (width, s, args) ← formatNumber (s.drop flags.length) args
      let (precision, s, args) ← match s with
        | '.' :: s => do
          let (n, s, args) ← formatNumber s args
          pure (some (n.getD 0), s, args)
        | s => pure (none, s, args)
      let s := s.dropWhile fun c => c = 'h' || c = 'l'
      let width := width.getD 0
      let d : Directive := {
        left := flags.contains '-' || width < 0
        zeros := flags.contains '0'
        plus := flags.contains '+'
        blank := flags.contains ' '
        alternate := flags.contains '#'
        width := width.natAbs
        precision := precision.bind fun n => if n < 0 then none else some n.toNat
        letter := s.head?.getD ' ' }
      return (d, s.tail, args)
    match read with
    | .error problem => ([], some problem)
    | .ok (d, s, args) =>
      match args with
      | [] => ([], some .tooFew)
      | a :: args =>
        let here : Option (List Char) :=
          if d.letter = 's' then
            let text := a.toText numbers
            some (d.fill false (match d.precision with
              | some n => text.take n
              | none => text))
          else if d.letter = 'c' then
            some (d.fill false [character a])
          else if wholeLetters.contains d.letter then
            some (d.number (directiveInt a.toNumber))
          else if "fFeEgG".toList.contains d.letter then some (d.double a.toNumber)
          else none
        match here with
        | none => ([], some (.improper count))
        | some here =>
          let (text, problem) := formatted numbers (count + 1) fuel s args
          (here ++ text, problem)
  | fuel + 1, c :: s, args =>
    let (text, problem) := formatted numbers count fuel s args
    (c :: text, problem)
where
  /-- The character that a value stands for: one by its number, or the first of a text. -/
  character (a : Value) : Char :=
    let byNumber := fun (x : Binary64) => Char.ofNat (truncated x % 256).toNat
    match a with
    | .unset => '\x00'
    | .number x => byNumber x
    | .text s => s.head?.getD '\x00'
    | .input s =>
      match wholeNumber? s with
      | some x => byNumber x
      | none => s.head?.getD '\x00'

/-! ## Calculations -/

/-- A double by its encoding. -/
def toFloat (x : Binary64) : Float :=
  Float.ofBits (UInt64.ofNat (x.magnitude + (if x.negative then (Nat.pow 2 63) else 0)))

/-- The double of an encoding. One that is no number has the sign that calculations give it. -/
def ofFloat (x : Float) : Binary64 :=
  let bits := x.toBits.toNat
  if x.isNaN then -.nan else ⟨Nat.pow 2 63 ≤ bits, bits % Nat.pow 2 63⟩

/-- What is left of a double when another one is taken away as often as possible. -/
def leftOver (x y : Binary64) : Binary64 :=
  if x.isNaN ∨ y.isNaN ∨ x.isInfinite ∨ y.isZero then -.nan
  else if y.isInfinite then x
  else
    let r := x.signedUnits.tmod y.signedUnits
    if r = 0 then ⟨x.negative, 0⟩ else Binary64.ofSignedUnits r

def Operation.apply (operation : Operation) (x y : Binary64) : Binary64 :=
  match operation with
  | .add => x + y
  | .subtract => x + -y
  | .multiply => x * y
  | .divide => if x.isZero ∧ y.isZero then -.nan else x / y
  | .remainder => leftOver x y
  | .power => ofFloat (Float.pow (toFloat x) (toFloat y))

/-! ## Tables -/

/-- A table. -/
structure Table where
  entries : Std.HashMap String Value
  /-- One less than the number of lists. -/
  mask : Nat
  /-- Whether all keys are on the lists of texts. -/
  byText : Bool
  /-- Keys that were used as texts. -/
  texts : Std.HashMap Nat (List (List Char))
  /-- Keys that were used as numbers. -/
  numbers : Std.HashMap Nat (List Int)
deriving Inhabited

namespace Table

/-- The number of lists at first, less one. -/
def firstMask : Nat := 63

/-- How many keys there may be for each list. -/
def listLimit : Nat := 12

def empty : Table := ⟨{}, firstMask, false, {}, {}⟩

/-- The hash of a text: each byte is mixed in and spread over all bits by a multiplication. -/
def hash (s : List Char) : Nat :=
  s.foldl (fun h c => ((h ^^^ c.toNat) * 16777619) % Nat.pow 2 32) 2166136261

/-- The list for a number. -/
def numberSlot (mask : Nat) (n : Int) : Nat := (n % (mask + 1 : Nat)).toNat

/-- The whole number that a text is written as. -/
def plainInt? (s : List Char) : Option Int :=
  match s with
  | '-' :: ds => (natural? ds).bind fun n => if digits n = ds ∧ n ≠ 0 then some (-(n : Int)) else none
  | ds => (natural? ds).bind fun n => if digits n = ds then some (n : Int) else none

/-- A number as a key. -/
def intKey (n : Int) : List Char := if n < 0 then '-' :: digits n.natAbs else digits n.natAbs

/-- The numbers on their lists, list by list. -/
def numberOrder (t : Table) : List Int :=
  (List.range (t.mask + 1)).flatMap fun i => (t.numbers[i]?).getD []

/-- Puts a key at the front of its list of texts. -/
def toFront (t : Table) (key : List Char) : Table :=
  let slot := hash key &&& t.mask
  let others := ((t.texts[slot]?).getD []).filter (· ≠ key)
  { t with texts := t.texts.insert slot (key :: others) }

/-- Puts all keys on the lists of texts. -/
def associate (t : Table) : Table :=
  if t.byText then t
  else { (t.numberOrder.map intKey).foldl toFront t with byText := true }

/-- Spreads the keys over twice as many lists if there are too many for these. -/
def grow (t : Table) : Table :=
  if t.entries.size ≤ (t.mask + 1) * listLimit then t
  else
    let mask := 2 * t.mask + 1
    let texts := (List.range (t.mask + 1)).flatMap fun i => (t.texts[i]?).getD []
    let numbers := t.numberOrder
    { t with
      mask
      texts := texts.foldr (fun key lists =>
        let slot := hash key &&& mask
        lists.insert slot (key :: (lists[slot]?).getD [])) {}
      numbers := numbers.foldr (fun n lists =>
        let slot := numberSlot mask n
        lists.insert slot (n :: (lists[slot]?).getD [])) {} }

/-- Notes that a key was looked for as a text. -/
def useText (t : Table) (key : List Char) : Table := t.associate.toFront key

/-- Notes that a key was looked for as a number. -/
def useNumber (t : Table) (n : Int) : Table :=
  let slot := numberSlot t.mask n
  let known := (t.numbers[slot]?).getD []
  let isKnown := known.contains n
  let t := if t.byText ∧ !isKnown then t.toFront (intKey n) else t
  { t with numbers := t.numbers.insert slot (n :: known.filter (· ≠ n)) }

/-- The key that a value stands for. -/
def keyOf (format : List Char) (v : Value) : List Char := v.toText format

/-- Notes that a key was looked for in the way of a value. -/
def use (t : Table) (v : Value) (key : List Char) : Table :=
  match v with
  | .number x =>
    match whole? x with
    | some n => t.useNumber n
    | none => t.useText key
  | _ => t.useText key

/-- The value of an entry, which is made if there is none. -/
def find (t : Table) (v : Value) (key : List Char) : Value × Table :=
  match t.entries[String.ofList key]? with
  | some found => (found, t.use v key)
  | none =>
    let t := { t with entries := t.entries.insert (String.ofList key) .unset }
    (.unset, (t.use v key).grow)

/-- The value of an entry, without a note that it was looked for. -/
def get (t : Table) (key : List Char) : Value := (t.entries[String.ofList key]?).getD .unset

/-- Sets an entry that was looked for before. -/
def set (t : Table) (key : List Char) (value : Value) : Table :=
  { t with entries := t.entries.insert (String.ofList key) value }

def contains (t : Table) (key : List Char) : Bool := t.entries.contains (String.ofList key)

/-- Removes an entry. -/
def erase (t : Table) (key : List Char) : Table :=
  if !t.contains key then t
  else
    let entries := t.entries.erase (String.ofList key)
    if entries.isEmpty then empty
    else
      let slot := hash key &&& t.mask
      let texts := t.texts.insert slot (((t.texts[slot]?).getD []).filter (· ≠ key))
      match plainInt? key with
      | none => { t with entries, texts }
      | some n =>
        let slot := numberSlot t.mask n
        let numbers := t.numbers.insert slot (((t.numbers[slot]?).getD []).filter (· ≠ n))
        { t with entries, texts, numbers }

/-- All keys in their order. -/
def keys (t : Table) : List (List Char) × Table :=
  let t := t.associate
  ((List.range (t.mask + 1)).flatMap fun i => (t.texts[i]?).getD [], t)

/-- The table of some values under the numbers from 1 on. -/
def ofList (values : List Value) : Table :=
  (values.foldl (fun (t, n) v =>
    let key := numberOf n
    let (_, t) := find t (.number key) (intKey n)
    (t.set (intKey n) v, n + 1)) ((empty, 1) : Table × Int)).1

end Table

end ProgramRepair.Utility.PatternAction
