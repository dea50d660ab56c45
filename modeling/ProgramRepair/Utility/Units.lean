import ProgramRepair.Utility.Quotation
import ProgramRepair.Utility.Columns
import ProgramRepair.Utility.Input

/-!
# Numbers with units

`numfmt` reads numbers that may have a letter for a power of 1000 or 1024 behind them, and
prints them with such letters or without. Numbers are exact fractions.
-/

namespace ProgramRepair.Utility

open Machine

namespace Units

/-! ## Fractions -/

/-- A number as a fraction. -/
structure Quantity where
  num : Int
  den : Nat

namespace Quantity

def ofNat (n : Nat) : Quantity := ⟨n, 1⟩

def scale (q : Quantity) (up down : Nat) : Quantity := ⟨q.num * up, q.den * down⟩

/-- Whether a number is less than another without its sign. -/
def isBelow (q : Quantity) (n : Nat) : Bool := q.num.natAbs < n * q.den

end Quantity

/-- How numbers are rounded. -/
inductive Rounding where
  | up
  | down
  | fromZero
  | towardsZero
  | nearest

/-- A number rounded to a whole one. -/
def Rounding.round (r : Rounding) (q : Quantity) : Int :=
  let n := q.num.natAbs
  let low := n / q.den
  let high := (n + q.den - 1) / q.den
  let signed := fun (n : Nat) => if q.num < 0 then -(n : Int) else n
  match r with
  | up => if q.num < 0 then -(low : Int) else high
  | down => if q.num < 0 then -(high : Int) else low
  | fromZero => signed high
  | towardsZero => signed low
  | nearest => signed ((2 * n + q.den) / (2 * q.den))

/-! ## Scales -/

/-- What letters behind numbers mean. -/
inductive Scale where
  | plain
  /-- Both kinds of units, told apart by a second letter. -/
  | either
  | thousands
  | binary
  /-- Units of two letters. -/
  | binaryPairs
deriving DecidableEq

def Scale.base : Scale → Nat
  | binary | binaryPairs => 1024
  | _ => 1000

/-- The letters for powers. -/
def letters : List Char := "KMGTPEZY".toList

/-- What is asked for. -/
structure Form where
  source : Scale
  target : Scale
  sourceUnit : Nat
  targetUnit : Nat
  rounding : Rounding
  /-- The ranges of the fields that are converted. -/
  fields : List PlaceRange
  /-- The character between fields; blanks if there is none. -/
  separator : Option Char
  lineEnd : Char
  header : Nat
  suffix : List Char
  /-- The least width; with `toLeft` numbers stand at its left. -/
  padding : Option Nat
  toLeft : Bool
  zeros : Nat
  precision : Option Nat
  before : List Char
  after : List Char

/-- What is wrong with a number. -/
inductive Trouble where
  | notNumber
  | forbidden
  | unknown
  | incomplete
  | behind (s : List Char)
  | tooLarge (q : Quantity)

/-- A number in six significant digits. -/
def roughly (q : Quantity) : String :=
  let n := q.num.natAbs / q.den
  let ds := (toString n).toList
  let power := ds.length - 6
  let head := (n + Nat.pow 10 power / 2) / Nat.pow 10 power
  let (head, power) := if head = 1000000 then (100000, power + 1) else (head, power)
  let ds := (toString head).toList
  let tail := ((ds.drop 1).reverse.dropWhile (· = '0')).reverse
  let exponent := power + ds.length - 1
  (if q.num < 0 then "-" else "") ++ String.ofList (ds.take 1) ++
    (if tail.isEmpty then "" else "." ++ String.ofList tail) ++ "e+" ++
    (if exponent < 10 then "0" else "") ++ toString exponent

/-- The message about a number. -/
def Trouble.message (text : List Char) : Trouble → String
  | notNumber => "invalid number: " ++ quoted text
  | forbidden => "rejecting suffix in input: " ++ quoted text ++ " (consider using --from)"
  | unknown => "invalid suffix in input: " ++ quoted text
  | incomplete => "missing 'i' suffix in input: " ++ quoted text ++ " (e.g Ki/Mi/Gi)"
  | behind s => "invalid suffix in input " ++ quoted text ++ ": " ++ quoted s
  | tooLarge q => "value too large to be printed: '" ++ roughly q ++ "' (consider using --to)"

/-! ## Reading -/

/-- A number without a unit, with the digits behind its point, and what follows it. -/
def number? (s : List Char) : Option (Quantity × Nat × List Char) := do
  let (isNegative, s) := match s with
    | '-' :: s => (true, s)
    | s => (false, s)
  let whole := s.takeWhile Char.isDigit
  let rest := s.drop whole.length
  if whole.isEmpty ∧ rest.head? ≠ some '.' then none
  let (part, rest) ← match rest with
    | '.' :: rest =>
      let part := rest.takeWhile Char.isDigit
      if part.isEmpty then none else some (part, rest.drop part.length)
    | rest => some ([], rest)
  let n : Int := (natural? (whole ++ part)).getD 0
  return (⟨if isNegative then -n else n, Nat.pow 10 part.length⟩, part.length, rest)

/-- The number that a text stands for, with the digits that are to be printed behind its point. -/
def read (scale : Scale) (text : List Char) : Except Trouble (Quantity × Nat) := do
  match number? text with
  | none => throw .notNumber
  | some (q, places, rest) =>
    let (base, power, places, rest) ← match rest.dropWhile fun c => c = ' ' || c = '\t' with
      | [] => if rest.isEmpty then pure (scale.base, 0, places, []) else throw .unknown
      | c :: rest =>
        match letters.idxOf? c with
        | none => throw .unknown
        | some i =>
          if scale = .plain then throw .forbidden
          else
            match scale, rest with
            | .either, 'i' :: rest => pure (1024, i + 1, 0, rest)
            | _, _ => pure (scale.base, i + 1, 0, rest)
    let rest ← match scale, rest with
      | .binaryPairs, 'i' :: rest => pure rest
      | .binaryPairs, _ => throw .incomplete
      | _, rest => pure rest
    if !rest.isEmpty then throw (.behind rest)
    return (q.scale (Nat.pow base power) 1, places)

/-! ## Printing -/

/-- A number rounded to some digits behind the point. -/
def decimal (r : Rounding) (q : Quantity) (rounded places : Nat) : List Char :=
  let n := r.round (q.scale (Nat.pow 10 rounded) 1)
  let ds := (toString n.natAbs).toList
  let ds := List.replicate (rounded + 1 - ds.length) '0' ++ ds
  let whole := ds.take (ds.length - rounded)
  let part := ds.drop (ds.length - rounded)
  let part := part.take places ++ List.replicate (places - part.length) '0'
  (if n < 0 then ['-'] else []) ++ whole ++ if part.isEmpty then [] else '.' :: part

/-- The power of the unit in which a number is less than the next unit. -/
def powerFor (base : Nat) (q : Quantity) : (fuel power : Nat) → Nat
  | 0, power => power
  | fuel + 1, power =>
    if q.isBelow (Nat.pow base (power + 1)) then power else powerFor base q fuel (power + 1)

/-- A number in a unit, and the letters of the unit. -/
def scaled (f : Form) (q : Quantity) : List Char × List Char :=
  let base := f.target.base
  let power := powerFor base q 64 0
  let reduced := q.scale 1 (Nat.pow base power)
  let rounded := match f.precision with
    | some p => min (power * 3) p
    | none => if reduced.isBelow 10 then 1 else 0
  let n := f.rounding.round (reduced.scale (Nat.pow 10 rounded) 1)
  let value : Quantity := ⟨n, Nat.pow 10 rounded⟩
  let (value, power) := if value.isBelow base then (value, power)
    else (value.scale 1 base, power + 1)
  let places := match f.precision with
    | some p => p
    | none => if value.num ≠ 0 ∧ value.isBelow 10 ∧ 0 < power then 1 else 0
  let letter := if power = 0 then [] else ((letters[power - 1]?).getD '?') ::
    if f.target = .binaryPairs then ['i'] else []
  (decimal .nearest value places places, letter)

/-- How many digits can be printed without a unit. -/
def mostDigits : Nat := 18

/-- A number as wide as zeros make it. -/
def zeroPadded (width : Nat) (s : List Char) : List Char :=
  match s with
  | '-' :: ds => '-' :: List.replicate (width - s.length) '0' ++ ds
  | ds => List.replicate (width - ds.length) '0' ++ ds

/-- A number as it is printed, or what is wrong with it. -/
def Form.text (f : Form) (q : Quantity) (places : Nat) : Except Trouble (List Char) :=
  let places := f.precision.getD places
  if f.target = .plain then
    if mostDigits < powerFor 10 q 64 0 + places then .error (.tooLarge q)
    else .ok (zeroPadded f.zeros (decimal f.rounding q places places))
  else
    let (number, letter) := scaled f q
    .ok (zeroPadded f.zeros number ++ letter)

/-- A text as wide as it is asked for. -/
def padded (width : Nat) (toLeft : Bool) (s : List Char) : List Char :=
  let blanks := List.replicate (width - s.length) ' '
  if toLeft then s ++ blanks else blanks ++ s

/-- A converted field, or what is wrong with it, with the text that is to be blamed. -/
def Form.field (f : Form) (isFirst : Bool) (text : List Char) :
    Except (Trouble × List Char) (List Char) := do
  let core :=
    if !f.suffix.isEmpty ∧ f.suffix.length < text.length ∧ f.suffix.isSuffixOf text then
      text.take (text.length - f.suffix.length)
    else text
  let bare := core.dropWhile fun c => c = ' ' || c = '\t'
  let isWide := f.separator.isNone && (bare.length < core.length || !isFirst)
  let auto := if isWide then core.length else 0
  let blame := fun (t : Trouble) => (t, bare)
  let (q, places) ← (read f.source bare).mapError blame
  let q := q.scale f.sourceUnit f.targetUnit
  let number ← (f.text q places).mapError blame
  let number := padded (f.padding.getD auto) f.toLeft (number ++ f.suffix)
  return f.before ++ number ++ f.after

/-- The fields of a line that is separated by blanks, each with the blanks in front of it. -/
def blankFields : (fuel : Nat) → List Char → List (List Char)
  | 0, _ => []
  | fuel + 1, s =>
    let isBlank := fun (c : Char) => c = ' ' || c = '\t' || c = '\n'
    let lead := s.takeWhile isBlank
    let word := (s.drop lead.length).takeWhile fun c => !isBlank c
    match s.drop (lead.length + word.length) with
    | [] => [lead ++ word]
    | _ :: rest => (lead ++ word) :: blankFields fuel rest

/-- The fields of a line, converted or as they are, with what is wrong with them. -/
def Form.convert (f : Form) (text : List Char) : List (List Char × Option String) :=
  let fields := match f.separator with
    | some c => Text.cut c text
    | none => blankFields (text.length + 1) text
  let isChosen := fun (n : Nat) => f.fields.any fun (low, high) => low ≤ n && high.all (n ≤ ·)
  fields.zipIdx.map fun (text, i) =>
    if !isChosen (i + 1) then (text, none)
    else
      match f.field (i = 0) text with
      | .ok s => (s, none)
      | .error (t, s) => (text, some (t.message s))

/-- What stands between fields. -/
def Form.between (f : Form) : List Char := [f.separator.getD ' ']

/-! ## Requests -/

def grammar : Grammar :=
  ⟨"z", "d", "", [("from=", 'f'), ("from-unit=", 'F'), ("to=", 't'), ("to-unit=", 'T'),
    ("round=", 'r'), ("padding=", 'p'), ("suffix=", 's'), ("grouping", 'g'), ("delimiter=", 'd'),
    ("field=", 'k'), ("debug", 'D'), ("header?", 'h'), ("format=", '%'), ("invalid=", 'i'),
    ("zero-terminated", 'z')]⟩

/-- What is wrong with the options, and whether a hint follows. -/
abbrev Problem := String × Bool

/-- What a text stands for as the value of an option. -/
def chosen (option : String) (choices : List (String × α)) (s : List Char) : Except Problem α :=
  (choose ("--" ++ option) (singly choices) s).mapError fun p => (p, true)

/-- What is to be done about numbers that are wrong. -/
inductive Care where
  | abort
  | fail
  | warn
  | ignore
deriving DecidableEq

/-- The size of a unit: a number, a letter or both. -/
def unit? (s : List Char) : Option Nat := do
  let ds := s.takeWhile Char.isDigit
  let n ← if ds.isEmpty then some 1 else natural? ds
  let size ← match s.drop ds.length with
    | [] => if ds.isEmpty then none else some 1
    | [c] => (letters.idxOf? c).map fun i => Nat.pow 1000 (i + 1)
    | [c, 'i'] => (letters.idxOf? c).map fun i => Nat.pow 1024 (i + 1)
    | _ => none
  if n = 0 then none else return n * size

/-- A format: what stands before and behind the number, its flags, its width and its digits. -/
structure Template where
  before : List Char
  after : List Char
  toLeft : Bool
  zeros : Bool
  width : Nat
  precision : Option Nat

/-- Reads a format. -/
def templateOf (s : List Char) : Except Problem Template := do
  let rec plain : List Char → List Char × List Char
    | '%' :: '%' :: s =>
      let (text, rest) := plain s
      ('%' :: text, rest)
    | '%' :: s => ([], '%' :: s)
    | c :: s =>
      let (text, rest) := plain s
      (c :: text, rest)
    | [] => ([], [])
  let (before, rest) := plain s
  let said := fun (what : String) => (("format " ++ quoted s ++ what, false) : Problem)
  match rest with
  | [] => throw (said " has no % directive")
  | [_] => throw (said " ends in %")
  | _ :: rest =>
    let flags := rest.takeWhile "0'- ".toList.contains
    let rest := rest.drop flags.length
    let width := rest.takeWhile Char.isDigit
    let rest := rest.drop width.length
    let (precision, rest) := match rest with
      | '.' :: rest =>
        let ds := rest.takeWhile Char.isDigit
        (some ((natural? ds).getD 0), rest.drop ds.length)
      | _ => (none, rest)
    match rest with
    | 'f' :: rest =>
      if !(plain rest).2.isEmpty then throw (said " has too many % directives")
      return ⟨before, rest, flags.contains '-', flags.contains '0', (natural? width).getD 0,
        precision⟩
    | _ =>
      throw ("invalid format " ++ quoted s ++ ", directive must be %[0]['][-][N][.][N]f", false)

/-- The form that options ask for. -/
def formOf (o : Options) : Except Problem (Form × Care) := do
  let scales := [("none", Scale.plain), ("si", .thousands), ("iec", .binary),
    ("iec-i", .binaryPairs)]
  let sources := [("none", Scale.plain), ("auto", .either), ("si", .thousands), ("iec", .binary),
    ("iec-i", .binaryPairs)]
  let scale := fun (option : String) (all : List (String × Scale)) (letter : Char) =>
    match o.value? letter with
    | none => Except.ok Scale.plain
    | some s => chosen option all s
  let source ← scale "from" sources 'f'
  let target ← scale "to" scales 't'
  let unitOf := fun (letter : Char) =>
    match o.value? letter with
    | none => Except.ok 1
    | some s =>
      match unit? s with
      | some n => .ok n
      | none => .error (("invalid unit size: " ++ quoted s, false) : Problem)
  let sourceUnit ← unitOf 'F'
  let targetUnit ← unitOf 'T'
  let rounding ← match o.value? 'r' with
    | none => pure Rounding.fromZero
    | some s =>
      chosen "round" [("up", Rounding.up), ("down", .down), ("from-zero", .fromZero),
        ("towards-zero", .towardsZero), ("nearest", .nearest)] s
  let padding ← (o.value? 'p').mapM fun s =>
    match integer? s with
    | none | some 0 => Except.error (("invalid padding value " ++ quoted s, false) : Problem)
    | some n => .ok n
  let header ← match o.value? 'h' with
    | none => pure (if o.has 'h' then 1 else 0)
    | some s =>
      match natural? s with
      | none | some 0 => throw ("invalid header value " ++ quoted s, false)
      | some n => pure n
  let care ← match o.value? 'i' with
    | none => pure Care.abort
    | some s =>
      chosen "invalid"
        [("abort", Care.abort), ("fail", .fail), ("warn", .warn), ("ignore", .ignore)] s
  let separator ← match o.value? 'd' with
    | none => pure none
    | some [c] => pure (some c)
    | some [] => pure (some '\x00')
    | some _ => throw ("the delimiter must be a single character", false)
  let fields ← match o.value? 'k' with
    | none => pure [((1, some 1) : PlaceRange)]
    | some ['-'] => pure [(1, none)]
    | some s => (placeRanges s).mapError fun p => (p.message true, true)
  let template ← (o.value? '%').mapM templateOf
  if o.has 'g' ∧ template.isSome then throw ("--grouping cannot be combined with --format", false)
  if o.has 'g' ∧ target ≠ .plain then throw ("grouping cannot be combined with --to", false)
  let wide := fun (t : Template) => if t.zeros || t.width = 0 then none else some t.width
  let ownPadding := template.bind wide
  return ({
    source, target, sourceUnit, targetUnit, rounding, fields, separator, header
    lineEnd := if o.has 'z' then '\x00' else '\n'
    suffix := (o.value? 's').getD []
    padding := ownPadding <|> padding.map Int.natAbs
    toLeft := match ownPadding, template with
      | some _, some t => t.toLeft
      | _, _ => padding.any (· < 0)
    zeros := match template with
      | some t => if t.zeros then t.width else 0
      | none => 0
    precision := template.bind (·.precision)
    before := (template.map (·.before)).getD []
    after := (template.map (·.after)).getD [] }, care)

/-- Prints lines, of which the first ones may be a header; each comes with its end. The result is the
exit code. -/
def printLines (f : Form) (care : Care) (header code : Nat) :
    List (List Char × List Char) → Work Nat
  | [] => return code
  | (text, lineEnd) :: rest => do
    if 0 < header then
      if ← tryPut "numfmt" (text ++ lineEnd) then printLines f care (header - 1) code rest
      else return 1
    else
      let results := f.convert text
      let problems := results.filterMap (·.2)
      match care, problems with
      | .abort, problem :: _ =>
        warn "numfmt" problem
        let done := (results.takeWhile (·.2.isNone)).flatMap fun r => r.1 ++ f.between
        discard (tryPut "numfmt" done)
        return 2
      | _, _ =>
        if care ≠ .ignore then
          for p in problems do warn "numfmt" p
        let code := if care = .fail ∧ !problems.isEmpty then 2 else code
        let line := List.flatten ((results.map (·.1)).intersperse f.between)
        if ← tryPut "numfmt" (line ++ lineEnd) then printLines f care 0 code rest else return 1

/-- Lines with their ends; the last one may have none. -/
def linesWithEnds (lineEnd : Char) (text : List Char) : List (List Char × List Char) :=
  match (Text.cut lineEnd text).reverse with
  | [] => []
  | last :: lines =>
    (lines.reverse.map fun l => (l, [lineEnd])) ++ if last.isEmpty then [] else [(last, [])]

end Units

open ProgramRepair.Utility.Units in
/-- Prints numbers with units or without. -/
def numfmt : Utility := fun _ args => do
  let o := Units.grammar.read args
  match o.problem, formOf o with
  | some problem, _ | none, .error (problem, true) => refuse "numfmt" problem 1
  | none, .error (problem, false) =>
    warn "numfmt" problem
    return 1
  | none, .ok (f, care) =>
    if !o.rest.isEmpty then printLines f care 0 0 (o.rest.map fun a => (a, [f.lineEnd]))
    else
      match ← Work.readAll 0 with
      | .ok bytes =>
        printLines f care f.header 0 (linesWithEnds f.lineEnd (Text.charsOfBytes bytes))
      | .error e =>
        warn "numfmt" ("error reading input: " ++ e.systemText)
        return 1

end ProgramRepair.Utility
