import ProgramRepair.Utility.Condition
import ProgramRepair.Utility.Errand
import ProgramRepair.Utility.Print
import ProgramRepair.Utility.Regex

/-!
# Programs with a value

Programs whose work is a value: a text, a number, a condition, or nothing but an
exit code and the time that it takes.
-/

namespace ProgramRepair.Utility

open Machine

/-- Does nothing and succeeds. -/
def trueProgram : Utility := fun _ _ => return 0

/-- Does nothing and fails. -/
def falseProgram : Utility := fun _ _ => return 1

/-- Prints its arguments. -/
def echo : Utility := fun _ args => emit "echo" (plainEchoText .program true false args) 0

/-- Prints arguments by a format. -/
def printf : Utility := fun _ args =>
  match (match args with
    | ['-', '-'] :: args => args
    | args => args) with
  | [] => refuse "printf" "missing operand" 1
  | format :: args => do
    let p := printfText .program format args
    for c in p.complaints ++ p.fatal.toList ++ p.warning.toList do warn "printf" c
    emit "printf" p.text (if p.complaints.isEmpty ∧ p.fatal.isNone then 0 else 1)

/-- Checks a condition. -/
def test : Utility := fun env args => do
  let d ← Work.call (Kernel.askDisk id)
  match Condition.holds d env.cwd args with
  | .ok b => return if b then 0 else 1
  | .error message =>
    warn "test" message
    return 2

/-- Checks a condition that ends with a bracket. -/
def bracket : Utility := fun env args => do
  match args.reverse with
  | [']'] :: rest => test env rest.reverse
  | _ =>
    warn "[" "missing ']'"
    return 2

/-! ## Time -/

/-- The number of nanoseconds that a text such as `0.5` or `2m` stands for. -/
def span? (s : List Char) : Option Nat := do
  let (digits, factor) := match s.reverse with
    | 's' :: r => (r.reverse, 1)
    | 'm' :: r => (r.reverse, 60)
    | 'h' :: r => (r.reverse, 3600)
    | 'd' :: r => (r.reverse, 86400)
    | _ => (s, 1)
  if digits = "infinity".toList ∨ digits = "inf".toList then return (Nat.pow 10 30)
  let whole := digits.takeWhile Char.isDigit
  let places ← match digits.drop whole.length with
    | [] => some []
    | '.' :: ds => if ds.all Char.isDigit then some ds else none
    | _ => none
  if whole.isEmpty ∧ places.isEmpty then none
  else
    let n := (natural? (whole ++ places)).getD 0
    return n * factor * Nat.pow 10 9 / Nat.pow 10 places.length

/-- Lets time pass. -/
def sleep : Utility := fun _ args => do
  let o := (⟨"", "", "", []⟩ : Grammar).readLeading args
  match o.problem, o.rest.find? fun a => (span? a).isNone with
  | some problem, _ => refuse "sleep" problem 1
  | none, some bad => refuse "sleep" ("invalid time interval " ++ quoted bad) 1
  | none, none =>
    if o.rest.isEmpty then refuse "sleep" "missing operand" 1
    else
      Work.sleep ((o.rest.filterMap span?).foldl (· + ·) 0)
      return 0

/-! ## Names and numbers -/

/-- Prints the last name of a path, without an ending if one is given. -/
def basename : Utility := fun _ args =>
  match args with
  | [] => refuse "basename" "missing operand" 1
  | _ :: _ :: extra :: _ => refuse "basename" ("extra operand " ++ quoted extra) 1
  | path :: rest =>
    let name := lastName path
    let ending := rest.head?.getD []
    let name :=
      if ending.length < name.length ∧ ending.isSuffixOf name then
        name.take (name.length - ending.length)
      else name
    emit "basename" (name ++ ['\n']) 0

/-- Prints the directory part of paths. -/
def dirname : Utility := fun _ args =>
  if args.isEmpty then refuse "dirname" "missing operand" 1
  else emit "dirname" (unlines (args.map directoryName)) 0

/-- A number with places after the point: all its digits as a number, and how many places there
are. -/
def decimal? (s : List Char) : Option (Int × Nat) := do
  let (negative, s) := match s.dropWhile Text.isSpaceChar with
    | '-' :: s => (true, s)
    | '+' :: s => (false, s)
    | s => (false, s)
  let sign := fun (n : Nat) => if negative then -(n : Int) else n
  match s with
  | '0' :: x :: ds =>
    if (x = 'x' ∨ x = 'X') ∧ !ds.isEmpty ∧ ds.all isHexDigit then
      return (sign (ds.foldl (fun n d => 16 * n + hexDigitValue d) 0), 0)
    else decimalOf sign s
  | s => decimalOf sign s
where
  /-- The number without its sign. -/
  decimalOf (sign : Nat → Int) (s : List Char) : Option (Int × Nat) := do
    let whole := s.takeWhile Char.isDigit
    let rest := s.drop whole.length
    let places := match rest with
      | '.' :: ds => ds.takeWhile Char.isDigit
      | _ => []
    let rest := match rest with
      | '.' :: ds => ds.drop places.length
      | rest => rest
    let power : Int ← match rest with
      | [] => some 0
      | 'e' :: ds | 'E' :: ds => integer? ds
      | _ => none
    let n ← natural? (whole ++ places)
    let shift : Int := power - places.length
    if 400 < shift then none
    else return (sign (n * Nat.pow 10 shift.toNat), (-shift).toNat)

/-- A number of units of which `10 ^ places` are one. -/
def decimalText (places : Nat) (n : Int) : List Char :=
  let ds := digits n.natAbs
  let ds := List.replicate (places + 1 - ds.length) '0' ++ ds
  let whole := ds.take (ds.length - places)
  (if n < 0 then ['-'] else []) ++ whole ++
    (if places = 0 then [] else '.' :: ds.drop (ds.length - places))

/-- A number filled with zeros up to a width. -/
def zeroFilled (width : Nat) (s : List Char) : List Char :=
  let zeros := List.replicate (width - s.length) '0'
  match s with
  | '-' :: ds => '-' :: zeros ++ ds
  | ds => zeros ++ ds

/-- A format with one directive for a double: the text before it, the directive, and the text after
it. -/
structure NumberFormat where
  before : List Char
  directive : Directive
  after : List Char

/-- The number of a unit of which `10 ^ places` are one in a format. -/
def NumberFormat.print (f : NumberFormat) (places : Nat) (n : Int) : List Char :=
  let x := (Binary64.read? (decimalText places n.natAbs)).getD .zero
  f.before ++ f.directive.double (if n < 0 then -x else x) ++ f.after

/-- Plain text of a format up to a directive, with `%%` replaced. -/
def plainFormat : List Char → List Char × List Char
  | '%' :: '%' :: s =>
    let (text, rest) := plainFormat s
    ('%' :: text, rest)
  | '%' :: s => ([], '%' :: s)
  | c :: s =>
    let (text, rest) := plainFormat s
    (c :: text, rest)
  | [] => ([], [])

/-- Reads a format, or says what is wrong with it. -/
def numberFormat (text : List Char) : Except String NumberFormat := do
  let fault := fun (what : String) => "format " ++ quoted text ++ " " ++ what
  let (before, rest) := plainFormat text
  match rest with
  | [] => throw (fault "has no % directive")
  | _ :: rest =>
    let flags := rest.takeWhile "-+ #0'".toList.contains
    let rest := rest.drop flags.length
    let width := rest.takeWhile Char.isDigit
    let rest := rest.drop width.length
    let (precision, rest) := match rest with
      | '.' :: ds =>
        let places := ds.takeWhile Char.isDigit
        (some ((natural? places).getD 0), ds.drop places.length)
      | rest => (none, rest)
    let rest := match rest with
      | 'L' :: rest => rest
      | rest => rest
    match rest with
    | [] => throw (fault "ends in %")
    | letter :: rest =>
      if !doubleLetters.contains letter then
        throw (fault ("has unknown %" ++ shown [letter] ++ " directive"))
      let (after, more) := plainFormat rest
      if !more.isEmpty then throw (fault "has too many % directives")
      return ⟨before, {
        left := flags.contains '-'
        zeros := flags.contains '0'
        plus := flags.contains '+'
        blank := flags.contains ' '
        alternate := flags.contains '#'
        width := (natural? width).getD 0
        precision, letter }, after⟩

def seqGrammar : Grammar :=
  ⟨"w", "fs", "", [("equal-width", 'w'), ("format=", 'f'), ("separator=", 's')]⟩

/-- The options of `seq`, which negative numbers end. -/
def seqOptions (args : List (List Char)) : Options :=
  let isNegative := fun (a : List Char) =>
    match a with
    | '-' :: c :: _ => c.isDigit || c = '.'
    | _ => false
  let lead := args.takeWhile fun a => !isNegative a
  let o := seqGrammar.readLeading lead
  { o with rest := o.rest ++ args.drop lead.length }

/-- A bound or step of a range: its digits as a number, how many of them stand behind the point, and
how wide it is as it was given. -/
structure RangeOperand where
  value : Int
  places : Nat
  width : Nat

namespace RangeOperand

def one : RangeOperand := ⟨1, 0, 1⟩

/-- The operand that a text stands for. -/
def ofText? (s : List Char) : Option RangeOperand := do
  let (value, places) ← decimal? s
  let s := s.dropWhile fun c => Text.isSpaceChar c || c = '+'
  let whole := s.takeWhile (· ≠ '.')
  let fraction := s.drop (whole.length + 1)
  let width :=
    if s.any "eExX".toList.contains then (decimalText places value).length
    else if whole.length = s.length then s.length
    else if fraction.isEmpty then s.length - 1
    else if whole.getLast?.all fun c => !c.isDigit then s.length + 1
    else s.length
  return ⟨value, places, width⟩

/-- The width as a number with some places behind the point. -/
def widthAt (places : Nat) (x : RangeOperand) : Nat :=
  let width := x.width + places - x.places
  if x.places = 0 ∧ places ≠ 0 then width + 1
  else if x.places ≠ 0 ∧ places = 0 then width - 1
  else width

end RangeOperand

/-- Whether a text stands for a bound that is never reached. -/
def isEndless (s : List Char) : Bool :=
  let s := (s.dropWhile (· = '-')).map Char.toLower
  s = "inf".toList || s = "infinity".toList

/-- How the numbers of a range are printed. -/
structure RangeForm where
  text : Int → List Char
  separator : List Char
  step : Int
  /-- The bound, if there is one. -/
  last : Option Int

/-- Whether a number lies behind the bound. -/
def RangeForm.isBehind (f : RangeForm) (n : Int) : Bool :=
  f.last.any fun last => if 0 ≤ f.step then last < n else n < last

/-- The texts of the next numbers, at most some number of them, and the number after them. -/
def RangeForm.texts (f : RangeForm) : (count : Nat) → Int → List Char × Int
  | 0, n => ([], n)
  | count + 1, n =>
    if f.isBehind n then ([], n)
    else
      let next := n + f.step
      let (more, last) := f.texts count next
      (f.text n ++ (if f.isBehind next then ['\n'] else f.separator) ++ more, last)

/-- Prints the numbers of a range from one on. -/
def RangeForm.print (f : RangeForm) : Nat → Int → Work Nat
  | 0, _ => .forever
  | times + 1, n => do
    if f.isBehind n then return 0
    else
      let (text, next) := f.texts 512 n
      if ← tryPut "seq" text then f.print times next else return 1

/-- Prints the numbers of a range. -/
def printRange (o : Options) (format : Option NumberFormat) (first step : RangeOperand)
    (last : Option RangeOperand) : Work Nat :=
  let shownPlaces := max first.places step.places
  let places := max shownPlaces ((last.map (·.places)).getD 0)
  let scale := fun (x : RangeOperand) => x.value * Nat.pow 10 (places - x.places)
  let width :=
    if o.has 'w' then max (first.widthAt shownPlaces) ((last.map (·.widthAt shownPlaces)).getD 0)
    else 0
  let form : RangeForm := {
    text := fun n =>
      match format with
      | some f => f.print places n
      | none => zeroFilled width (decimalText shownPlaces (n / Nat.pow 10 (places - shownPlaces)))
    separator := (o.value? 's').getD ['\n']
    step := scale step
    last := last.map scale }
  form.print Work.patience (scale first)

/-- Prints the numbers of a range that arguments tell. -/
def seq : Utility := fun _ args => do
  let o := seqOptions args
  let bound? := fun (s : List Char) =>
    if isEndless s then some none else (RangeOperand.ofText? s).map some
  let range := match o.rest with
    | [last] => do return (RangeOperand.one, RangeOperand.one, ← bound? last)
    | [first, last] => do return (← RangeOperand.ofText? first, RangeOperand.one, ← bound? last)
    | [first, step, last] => do
      return (← RangeOperand.ofText? first, ← RangeOperand.ofText? step, ← bound? last)
    | _ => none
  let format : Except String (Option NumberFormat) := match o.value? 'f' with
    | none => .ok none
    | some text => (numberFormat text).map some
  match o.problem, format, range with
  | some problem, _, _ => refuse "seq" problem 1
  | none, .error problem, _ =>
    warn "seq" problem
    return 1
  | none, .ok _, none =>
    match o.rest.find? fun a => (decimal? a).isNone, o.rest with
    | _, [] => refuse "seq" "missing operand" 1
    | _, _ :: _ :: _ :: extra :: _ => refuse "seq" ("extra operand " ++ quoted extra) 1
    | some bad, _ =>
      let what := if bad = "nan".toList then "invalid 'not-a-number' argument: "
        else "invalid floating point argument: "
      refuse "seq" (what ++ quoted bad) 1
    | none, _ => return 1
  | none, .ok format, some (first, step, last) =>
    if o.has 'w' && format.isSome then
      refuse "seq" "format string may not be specified when printing equal width strings" 1
    else if step.value = 0 then
      refuse "seq" ("invalid Zero increment value: " ++ quoted ((o.rest[1]?).getD [])) 1
    else printRange o format first step last

/-- Prints the variables that programs get. -/
def printenv : Utility := fun env args =>
  match args with
  | [] => emit "printenv" (unlines (env.bindings.map fun (n, v) => n ++ ['='] ++ v)) 0
  | names =>
    let values := names.filterMap fun name => env.bindings.lookup name
    emit "printenv" (unlines values) (if values.length = names.length then 0 else 1)

/-! ## Expressions of words -/

/-- The words that are left, and the value of those before. -/
abbrev ExprFound := Except (String × Nat) (List Char × List (List Char))

/-- Whether a value counts as nothing. -/
def isNothing (v : List Char) : Bool := v.isEmpty || integer? v = some 0

/-- The operators of `expr` by how weakly they bind. -/
def exprLevels : List (List String) :=
  [["|"], ["&"], ["=", "!=", "<", "<=", ">", ">="], ["+", "-"], ["*", "/", "%"], [":"]]

/-- What an expression matches at the start of a text: its first group, or the number of characters
if it has none. -/
def exprMatch (text pattern : List Char) : Except (String × Nat) (List Char) :=
  match Regex.ofText .basic pattern with
  | .error problem => .error (problem.message, 2)
  | .ok r =>
    match r.matchAtStart? text with
    | some m =>
      if r.groupCount = 0 then .ok (digits m.text.length) else .ok ((m.groups.lookup 1).getD [])
    | none => .ok (if r.groupCount = 0 then ['0'] else [])

/-- A part of a text, from a position that is counted from 1. -/
def exprPart (text position length : List Char) : List Char :=
  match integer? position, integer? length with
  | some p, some n => if p < 1 ∨ n < 1 then [] else (text.drop (p.toNat - 1)).take n.toNat
  | _, _ => []

/-- The position of the first character of a text that is in a set, counted from 1. -/
def exprIndex (text set : List Char) : Nat :=
  match text.findIdx? set.contains with
  | some i => i + 1
  | none => 0

/-- The value of an operator. -/
def exprApply (op : String) (a b : List Char) : Except (String × Nat) (List Char) := do
  let truth := fun (p : Bool) => if p then ['1'] else ['0']
  let arithmetic := fun (f : Int → Int → Except (String × Nat) Int) =>
    match integer? a, integer? b with
    | some x, some y => (f x y).map fun n => (toString n).toList
    | _, _ => .error ("non-integer argument", 2)
  let order := match integer? a, integer? b with
    | some x, some y => compare x y
    | _, _ => if a < b then .lt else if b < a then .gt else .eq
  match op with
  | "|" => return if !isNothing a then a else if !isNothing b then b else ['0']
  | "&" => return if isNothing a || isNothing b then ['0'] else a
  | "=" => return truth (order = .eq)
  | "!=" => return truth (order ≠ .eq)
  | "<" => return truth (order = .lt)
  | "<=" => return truth (order ≠ .gt)
  | ">" => return truth (order = .gt)
  | ">=" => return truth (order ≠ .lt)
  | "+" => arithmetic fun x y => return x + y
  | "-" => arithmetic fun x y => return x - y
  | "*" => arithmetic fun x y => return x * y
  | ":" => exprMatch a b
  | "/" => arithmetic fun x y => if y = 0 then throw ("division by zero", 2) else return x.tdiv y
  | _ => arithmetic fun x y => if y = 0 then throw ("division by zero", 2) else return x.tmod y

mutual

/-- The value of words with operators that bind at least as strongly as a level. -/
def exprLevel (level : Nat) : Nat → List (List Char) → ExprFound
  | 0, _ => .error ("syntax error", 2)
  | fuel + 1, ws => do
    if exprLevels.length ≤ level then exprPrimary fuel ws
    else
      let (a, rest) ← exprLevel (level + 1) fuel ws
      exprMore level a fuel rest
termination_by structural fuel => fuel

/-- What follows the first operand. -/
def exprMore (level : Nat) (a : List Char) : Nat → List (List Char) → ExprFound
  | 0, _ => .error ("syntax error", 2)
  | fuel + 1, ws =>
    match ws with
    | op :: rest =>
      let op := String.ofList op
      if ((exprLevels[level]?).getD []).contains op then
        if rest.isEmpty then .error ("syntax error: missing argument after '" ++ op ++ "'", 2)
        else do
          let (b, rest) ← exprLevel (level + 1) fuel rest
          exprMore level (← exprApply op a b) fuel rest
      else .ok (a, ws)
    | [] => .ok (a, [])
termination_by structural fuel => fuel

/-- A word, or an expression in parentheses. -/
def exprPrimary : Nat → List (List Char) → ExprFound
  | 0, _ => .error ("syntax error", 2)
  | fuel + 1, ws =>
    match ws with
    | [] => .error ("syntax error", 2)
    | ['('] :: rest => do
      match ← exprLevel 0 fuel rest with
      | (a, [')'] :: rest) => return (a, rest)
      | (_, []) => throw ("syntax error: expecting ')'", 2)
      | (_, w :: _) => throw ("syntax error: expecting ')' instead of '" ++ shown w ++ "'", 2)
    | w :: rest =>
      match String.ofList w, rest with
      | "length", a :: rest => .ok (digits a.length, rest)
      | "match", a :: b :: rest => do return (← exprMatch a b, rest)
      | "index", a :: b :: rest => .ok (digits (exprIndex a b), rest)
      | "substr", a :: b :: c :: rest => .ok (exprPart a b c, rest)
      | "+", a :: rest => .ok (a, rest)
      | _, rest => .ok (w, rest)
termination_by structural fuel => fuel

end

/-- Prints the value of an expression. -/
def expr : Utility := fun _ args => do
  if args.isEmpty then refuse "expr" "missing operand" 2
  else
    match exprLevel 0 (14 * (args.length + 2)) args with
    | .ok (v, []) => emit "expr" (v ++ ['\n']) (if isNothing v then 1 else 0)
    | .ok (_, w :: _) =>
      warn "expr" ("syntax error: unexpected argument '" ++ shown w ++ "'")
      return 2
    | .error (message, code) =>
      warn "expr" message
      return code

end ProgramRepair.Utility
