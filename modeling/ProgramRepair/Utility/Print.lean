import ProgramRepair.Binary64.Decimal
import ProgramRepair.Utility.Quotation

/-!
# Printing by format

The texts that `echo` and `printf` print. `printf` goes through its format until
all arguments are used; an argument that is no number where one is needed is
complained about and counts as far as it is one.
-/

namespace ProgramRepair.Utility

/-! ## Escapes -/

def isOctal (c : Char) : Bool := '0' ≤ c && c ≤ '7'

/-- The character with the number that octal digits stand for. -/
def octalChar (ds : List Char) : Char :=
  Char.ofNat (ds.foldl (fun n d => 8 * n + (d.toNat - '0'.toNat)) 0 % 256)

/-- The value of a digit. -/
def hexDigitValue (c : Char) : Nat :=
  if c.isDigit then c.toNat - '0'.toNat else (c.toLower.toNat - 'a'.toNat) + 10

def isHexDigit (c : Char) : Bool :=
  c.isDigit || ('a' ≤ c && c ≤ 'f') || ('A' ≤ c && c ≤ 'F')

/-- The character that a letter after a backslash stands for. -/
def escapeLetter? : Char → Option Char
  | 'a' => some '\x07'
  | 'b' => some '\x08'
  | 'e' => some '\x1b'
  | 'f' => some '\x0c'
  | 'n' => some '\n'
  | 'r' => some '\x0d'
  | 't' => some '\t'
  | 'v' => some '\x0b'
  | '\\' => some '\\'
  | _ => none

/-- A text with its escapes replaced, and whether `\c` has ended all output. Up to three octal digits
stand for a character; a zero in front of them does not count. -/
def unescape : Nat → List Char → List Char × Bool
  | 0, _ => ([], false)
  | _ + 1, [] => ([], false)
  | fuel + 1, '\\' :: c :: s =>
    if c = 'c' then ([], true)
    else
      match escapeLetter? c with
      | some e =>
        let (rest, stop) := unescape fuel s
        (e :: rest, stop)
      | none =>
        if isOctal c then
          let s := if c = '0' then s else c :: s
          let ds := (s.takeWhile isOctal).take 3
          let (rest, stop) := unescape fuel (s.drop ds.length)
          (octalChar ds :: rest, stop)
        else
          let (rest, stop) := unescape fuel (c :: s)
          ('\\' :: rest, stop)
  | fuel + 1, c :: s =>
    let (rest, stop) := unescape fuel s
    (c :: rest, stop)

/-- What `echo` of the shell prints. -/
def echoText (args : List (List Char)) : List Char :=
  let (lineBreak, args) := match args with
    | ['-', 'n'] :: args => (false, args)
    | args => (true, args)
  let text := List.flatten (args.intersperse [' '])
  match unescape (text.length + 1) text with
  | (s, stop) => if lineBreak && !stop then s ++ ['\n'] else s

/-- Which escapes there are besides those of all shells. -/
structure Escapes where
  /-- Whether a zero in front of octal digits does not count. -/
  octalZero : Bool
  /-- Whether octal digits need that zero. -/
  needsZero : Bool
  /-- Whether characters can be named by their numbers among all characters. -/
  unicode : Bool

/-- The escapes of `echo` as a program. -/
def Escapes.program : Escapes := ⟨true, false, false⟩

/-- The escapes of `echo` in a shell that has programs' escapes. -/
def Escapes.shell : Escapes := ⟨true, true, true⟩

/-- The escapes in arguments of `printf`. -/
def Escapes.printf : Escapes := ⟨true, false, true⟩

/-- The escapes in formats. -/
def Escapes.format : Escapes := ⟨false, false, true⟩

/-- The character with a number, or the escape itself for one that is none of ASCII. -/
def numberedChar (n : Nat) : List Char :=
  if n < 128 then [Char.ofNat n]
  else
    let ds := (Nat.toDigits 16 n).map Char.toUpper
    if ds.length ≤ 4 then "\\u".toList ++ List.replicate (4 - ds.length) '0' ++ ds
    else "\\U".toList ++ List.replicate (8 - ds.length) '0' ++ ds

/-- A text with all the escapes replaced that programs know: also characters by their numbers in
base 16. The error is a number that is missing. -/
def unescapeFully (e : Escapes) : Nat → List Char → Except String (List Char × Bool)
  | 0, _ => .ok ([], false)
  | _ + 1, [] => .ok ([], false)
  | fuel + 1, '\\' :: c :: s => do
    let go := fun (out rest : List Char) => do
      let (tail, stop) ← unescapeFully e fuel rest
      return (out ++ tail, stop)
    let number := fun (most : Nat) =>
      let ds := (s.takeWhile isHexDigit).take most
      (ds, ds.foldl (fun n d => 16 * n + hexDigitValue d) 0)
    if c = 'c' then return ([], true)
    else if c = 'x' then
      let (ds, n) := number 2
      if ds.isEmpty then throw "missing hexadecimal number in escape"
      go [Char.ofNat n] (s.drop ds.length)
    else if e.unicode && (c = 'u' || c = 'U') && !(number 1).1.isEmpty then
      let (ds, n) := number (if c = 'u' then 4 else 8)
      go (numberedChar n) (s.drop ds.length)
    else
      match (if c = '"' then some '"' else escapeLetter? c) with
      | some e => go [e] s
      | none =>
        if isOctal c && !(e.needsZero && c ≠ '0') then
          let s := if c = '0' && e.octalZero then s else c :: s
          let ds := (s.takeWhile isOctal).take 3
          go [octalChar ds] (s.drop ds.length)
        else go ['\\', c] s
  | fuel + 1, c :: s => do
    let (rest, stop) ← unescapeFully e fuel s
    return (c :: rest, stop)

/-- What `echo` prints if escapes are only replaced on request. -/
def plainEchoText (e : Escapes) (lineBreak escapes : Bool) : List (List Char) → List Char
  | [] => finish []
  | a :: rest =>
    let letters := a.drop 1
    if a.head? = some '-' ∧ !letters.isEmpty ∧ letters.all "neE".toList.contains then
      let escapes := letters.foldl (fun b c => if c = 'n' then b else decide (c = 'e')) escapes
      plainEchoText e (lineBreak && !letters.contains 'n') escapes rest
    else finish (a :: rest)
where
  /-- The arguments as one text. -/
  finish (args : List (List Char)) : List Char :=
    let text := List.flatten (args.intersperse [' '])
    let (text, stop) :=
      if escapes then (unescapeFully e (text.length + 1) text).toOption.getD (text, false)
      else (text, false)
    if lineBreak && !stop then text ++ ['\n'] else text

/-! ## Numbers -/

/-- Who prints: a shell itself, a shell of the extended language, or a program of its own. Their
messages have different words. -/
inductive Printer where
  | shell
  | extendedShell
  | program
deriving DecidableEq, Repr

/-- What is wrong with an argument that should be a number. -/
inductive NumberProblem where
  | noNumber
  | incomplete
  | outOfRange
deriving DecidableEq, Repr

def NumberProblem.message (who : Printer) (problem : NumberProblem) : String :=
  match who, problem with
  | .shell, noNumber => "expected numeric value"
  | .shell, incomplete => "not completely converted"
  | .extendedShell, noNumber | .extendedShell, incomplete => "invalid number"
  | .program, noNumber => "expected a numeric value"
  | .program, incomplete => "value not completely converted"
  | _, outOfRange => "Numerical result out of range"

/-- The number at the start of a text without a sign, and what follows it. -/
def leadingNatural (s : List Char) : Option Nat × List Char :=
  let read := fun (base : Nat) (isDigit : Char → Bool) (s : List Char) =>
    let ds := s.takeWhile isDigit
    (ds.foldl (fun n d => base * n + hexDigitValue d) 0, s.drop ds.length)
  match s with
  | '0' :: 'x' :: c :: rest | '0' :: 'X' :: c :: rest =>
    if isHexDigit c then
      let (n, rest) := read 16 isHexDigit (c :: rest)
      (some n, rest)
    else (some 0, s.drop 1)
  | '0' :: _ =>
    let (n, rest) := read 8 isOctal s
    (some n, rest)
  | c :: _ =>
    if c.isDigit then
      let (n, rest) := read 10 Char.isDigit s
      (some n, rest)
    else (none, s)
  | [] => (none, [])

/-- The sign at the start of a text, and what follows it. -/
def leadingSign (s : List Char) : Bool × List Char :=
  match s.dropWhile fun c => c = ' ' ∨ c = '\t' with
  | '-' :: s => (true, s)
  | '+' :: s => (false, s)
  | s => (false, s)

/-- The number that an argument stands for, as far as it is one. An argument that begins with a
quote stands for the character after it. -/
def argumentNumber (arg : List Char) : Int × Option NumberProblem :=
  match arg with
  | [] => (0, none)
  | '\'' :: c :: _ | '"' :: c :: _ => (c.toNat, none)
  | _ =>
    let (negative, s) := leadingSign arg
    match leadingNatural s with
    | (none, _) => (0, some .noNumber)
    | (some n, rest) =>
      (if negative then -(n : Int) else n, if rest.isEmpty then none else some .incomplete)

/-- A number within the bounds of 64 bits. -/
def clampNumber (signed : Bool) (n : Int) (problem : Option NumberProblem) :
    Int × Option NumberProblem :=
  let (low, high) : Int × Int :=
    if signed then (-Nat.pow 2 63, Nat.pow 2 63 - 1)
    else (1 - Nat.pow 2 64, Nat.pow 2 64 - 1)
  if n < low then (low, problem <|> some .outOfRange)
  else if high < n then (high, problem <|> some .outOfRange)
  else (n, problem)

/-- The double that an argument stands for, as far as it is one. -/
def argumentDouble (arg : List Char) : Binary64 × Option NumberProblem :=
  match arg with
  | [] => (.zero, none)
  | '\'' :: c :: _ | '"' :: c :: _ => (.ofNat c.toNat, none)
  | _ =>
    let (negative, s) := leadingSign arg
    let sign := fun (x : Binary64) => if negative then -x else x
    match s with
    | '0' :: 'x' :: _ | '0' :: 'X' :: _ =>
      let (n, rest) := leadingNatural s
      (sign (.ofNat (n.getD 0)), if rest.isEmpty then none else some .incomplete)
    | _ =>
      let lengths := (List.range s.length).reverse.map (· + 1)
      let unsigned := fun (c : Char) => c ≠ '-' && c ≠ '+'
      match lengths.findSome? fun n =>
        if s.head?.any unsigned then (Binary64.read? (s.take n)).map fun x => (n, x) else none with
      | some (n, x) => (sign x, if n = s.length then none else some .incomplete)
      | none => (.zero, some .noNumber)

/-- The digits of a number in a base. -/
def inBase (base n : Nat) : List Char := Nat.toDigits base n

/-- A magnitude with some places after the point. -/
def fixedPlaces (places : Nat) (x : Binary64) : List Char :=
  let n := Binary64.roundToEven (Binary64.units x.magnitude * Nat.pow 10 places) Binary64.unitsPerOne
  let ds := digits n
  let ds := List.replicate (places + 1 - ds.length) '0' ++ ds
  let whole := ds.take (ds.length - places)
  whole ++ (if places = 0 then [] else '.' :: ds.drop (ds.length - places))

/-- A magnitude, which is not zero, rounded to some places after its first digit: the digits and the
power of ten of the first one. -/
def leadingDigits (places : Nat) (x : Binary64) : List Char × Int :=
  let num := Binary64.units x.magnitude
  let den := Binary64.unitsPerOne
  let up := (digits (num / den)).length - 1
  let down := ((List.range 330).find? fun k => den ≤ num * Nat.pow 10 k).getD 0
  let e : Int := if den ≤ num then up else -(down : Int)
  let n := Binary64.roundToEven (num * Nat.pow 10 (places + down)) (den * Nat.pow 10 (if den ≤ num then up else 0))
  let ds := digits n
  if ds.length = places + 2 then (ds.take (places + 1), e + 1) else (ds, e)

/-- A magnitude with a power of ten. -/
def scientific (places : Nat) (x : Binary64) : List Char :=
  let (ds, e) := if x.isZero then (List.replicate (places + 1) '0', 0) else leadingDigits places x
  let es := digits e.natAbs
  ds.take 1 ++ (if places = 0 then [] else '.' :: ds.drop 1) ++
    (if e < 0 then ['e', '-'] else ['e', '+']) ++ List.replicate (2 - es.length) '0' ++ es

/-- A text with a point without the zeros at its end. -/
def withoutFinalZeros (s : List Char) : List Char :=
  let mantissa := s.takeWhile (· ≠ 'e')
  let power := s.drop mantissa.length
  if mantissa.contains '.' then
    (((mantissa.reverse.dropWhile (· = '0')).dropWhile (· = '.')).reverse) ++ power
  else s

/-- A magnitude in the shorter of the two ways, with some digits in all. -/
def shorterForm (keepZeros : Bool) (precision : Nat) (x : Binary64) : List Char :=
  let p := max precision 1
  let e := if x.isZero then 0 else (leadingDigits (p - 1) x).2
  let text :=
    if -4 ≤ e ∧ e < p then fixedPlaces (p - 1 - e).toNat x else scientific (p - 1) x
  if keepZeros then text else withoutFinalZeros text

/-! ## Directives -/

/-- How an argument is printed. -/
structure Directive where
  left : Bool
  zeros : Bool
  plus : Bool
  blank : Bool
  alternate : Bool
  width : Nat
  precision : Option Nat
  letter : Char

/-- Fills a text up to the width of a directive. -/
def Directive.fill (d : Directive) (numeric : Bool) (s : List Char) : List Char :=
  let missing := d.width - s.length
  if d.left then s ++ List.replicate missing ' '
  else if d.zeros && numeric then
    match s with
    | c :: ds =>
      if c = '-' ∨ c = '+' ∨ c = ' ' then c :: List.replicate missing '0' ++ ds
      else List.replicate missing '0' ++ c :: ds
    | [] => List.replicate missing '0'
  else List.replicate missing ' ' ++ s

/-- The sign of a number in the way of a directive. -/
def Directive.sign (d : Directive) (negative : Bool) : List Char :=
  if negative then ['-'] else if d.plus then ['+'] else if d.blank then [' '] else []

/-- A double in the way of a directive. -/
def Directive.double (d : Directive) (x : Binary64) : List Char :=
  let precision := d.precision.getD 6
  let text :=
    if x.isNaN then "nan".toList
    else if x.isInfinite then "inf".toList
    else
      match d.letter.toLower with
      | 'e' => scientific precision x
      | 'g' => shorterForm d.alternate precision x
      | _ => fixedPlaces precision x
  let text := if d.letter.isUpper then text.map Char.toUpper else text
  d.fill x.isFinite (d.sign x.negative ++ text)

/-- A number in the way of a directive. -/
def Directive.number (d : Directive) (n : Int) : List Char :=
  let unsigned := if n < 0 then (Nat.pow 2 64 + n).toNat else n.toNat
  let ds := match d.letter with
    | 'x' => inBase 16 unsigned
    | 'X' => (inBase 16 unsigned).map Char.toUpper
    | 'o' => inBase 8 unsigned
    | 'u' => digits unsigned
    | _ => digits n.natAbs
  let ds := List.replicate (d.precision.getD 1 - ds.length) '0' ++ ds
  let lead :=
    if d.letter = 'd' ∨ d.letter = 'i' then d.sign (n < 0)
    else if d.alternate ∧ d.letter = 'x' ∧ n ≠ 0 then ['0', 'x']
    else if d.alternate ∧ d.letter = 'X' ∧ n ≠ 0 then ['0', 'X']
    else if d.alternate ∧ d.letter = 'o' then ['0']
    else []
  d.fill d.precision.isNone (lead ++ ds)

/-- What was printed so far: text and complaints, both in reverse order. -/
structure Printed where
  printer : Printer
  text : List Char
  complaints : List String
  stopped : Bool
  /-- What is wrong with the format itself. -/
  fatal : Option String
  /-- What is remarkable in the end. -/
  warning : Option String

/-- Adds text. -/
def Printed.add (p : Printed) (s : List Char) : Printed := { p with text := s.reverse ++ p.text }

/-- Adds a complaint about an argument. -/
def Printed.complain (p : Printed) (arg : List Char) : Option NumberProblem → Printed
  | none => p
  | some problem =>
    let arg := match p.printer with
      | .shell | .extendedShell => shown arg
      | .program => quoted arg
    { p with complaints := (arg ++ ": " ++ problem.message p.printer) :: p.complaints }

/-- The letters of directives for doubles. -/
def doubleLetters : List Char := ['f', 'F', 'e', 'E', 'g', 'G', 'a', 'A']

/-- The letters of directives for whole numbers. -/
def wholeLetters : List Char := ['d', 'i', 'u', 'o', 'x', 'X']

/-- A word in the way that a shell reads it. -/
def quotedWord (s : List Char) : List Char :=
  let plain := fun (c : Char) => c.isAlphanum || "%+,-./:=@^_]\x7d\x7b".toList.contains c
  if !s.isEmpty && s.all plain then s
  else if s.contains '\'' && !s.contains '"' then '"' :: s ++ ['"']
  else
    '\'' :: s.flatMap (fun c => if c = '\'' then "'\\''".toList else [c]) ++ ['\'']

/-- A word in which backslashes take away the meaning of characters. -/
def escapedWord (s : List Char) : List Char :=
  let signs := " '\"\\|&;()<>!*[?]^$\x60,\x7b\x7d".toList
  let marked := fun (c : Char) => if signs.contains c then ['\\', c] else [c]
  if s.isEmpty then ['\'', '\'']
  else if s.any fun c => c.toNat < 32 || 127 ≤ c.toNat then
    "$'".toList ++ s.flatMap (fun c =>
      match c with
      | '\n' => ['\\', 'n']
      | '\t' => ['\\', 't']
      | '\'' | '\\' => ['\\', c]
      | c =>
        if c.toNat < 32 ∨ 127 ≤ c.toNat then
          let ds := Nat.toDigits 8 c.toNat
          '\\' :: List.replicate (3 - ds.length) '0' ++ ds
        else [c]) ++ ['\'']
  else
    match s with
    | '~' :: rest | '#' :: rest => '\\' :: s.take 1 ++ rest.flatMap marked
    | s => s.flatMap marked

/-- Prints one argument. -/
def Directive.print (d : Directive) (arg : Option (List Char)) (p : Printed) : Printed :=
  let text := arg.getD []
  match d.letter with
  | 's' => p.add (d.fill false (match d.precision with
      | some n => text.take n
      | none => text))
  | 'c' => p.add (d.fill false [text.head?.getD '\x00'])
  | 'b' =>
    let found : Except String (List Char × Bool) := match p.printer with
      | .shell => .ok (unescape (text.length + 1) text)
      | .extendedShell | .program => unescapeFully .printf (text.length + 1) text
    match found with
    | .ok (s, stop) =>
      let p := p.add (d.fill false s)
      { p with stopped := p.stopped || stop }
    | .error message => { p with fatal := some message }
  | 'q' =>
    let word := if p.printer = .extendedShell then escapedWord text else quotedWord text
    p.add (d.fill false word)
  | letter =>
    if doubleLetters.contains letter then
      let (x, problem) := argumentDouble text
      (p.complain text problem).add (d.double x)
    else
      let (n, problem) := argumentNumber text
      let (n, problem) := clampNumber (letter = 'd' || letter = 'i') n problem
      (p.complain text problem).add (d.number n)

/-- A number in a directive, or the next argument for a star. -/
def directiveNumber (s : List Char) (args : List (List Char)) :
    Option Int × List Char × List (List Char) :=
  match s with
  | '*' :: s =>
    match args with
    | a :: args => (some (argumentNumber a).1, s, args)
    | [] => (some 0, s, [])
  | s =>
    let ds := s.takeWhile Char.isDigit
    ((natural? ds).map fun n => (n : Int), s.drop ds.length, args)

/-- Goes through a format once. -/
def printFormat : Nat → List Char → List (List Char) → Printed → Printed × List (List Char)
  | 0, _, args, p => (p, args)
  | _ + 1, [], args, p => (p, args)
  | fuel + 1, '%' :: '%' :: s, args, p => printFormat fuel s args (p.add ['%'])
  | fuel + 1, '%' :: start, args, p =>
    let isFull := p.printer ≠ .shell
    let flags := start.takeWhile fun c => "-+ #0".toList.contains c
    let (width, s, args) := directiveNumber (start.drop flags.length) args
    let (precision, s, args) := match s with
      | '.' :: s =>
        let (n, s, args) := directiveNumber s args
        (some (n.getD 0), s, args)
      | s => (none, s, args)
    let s := if isFull then s.dropWhile "hlLjtz".toList.contains else s
    let letters := ['s', 'c', 'b'] ++ doubleLetters ++ wholeLetters ++ (if isFull then ['q'] else [])
    match s with
    | [] =>
      let message := match p.printer with
        | .program => shown ('%' :: start) ++ ": invalid conversion specification"
        | .extendedShell => "\x60" ++ shown ('%' :: start) ++ "': missing format character"
        | .shell => "missing format character"
      ({ p with fatal := some message }, args)
    | letter :: s =>
      if !letters.contains letter then
        let directive := shown ('%' :: start.take (start.length - s.length))
        let message := match p.printer with
          | .program => directive ++ ": invalid conversion specification"
          | .extendedShell => "\x60" ++ shown [letter] ++ "': invalid format character"
          | .shell => directive ++ ": invalid directive"
        ({ p with fatal := some message }, args)
      else
        let width := width.getD 0
        let d : Directive := {
          left := flags.contains '-' || width < 0
          zeros := flags.contains '0'
          plus := flags.contains '+'
          blank := flags.contains ' '
          alternate := flags.contains '#'
          width := width.natAbs
          precision := precision.bind fun n => if n < 0 then none else some n.toNat
          letter := letter }
        let p := d.print args.head? p
        if p.stopped || p.fatal.isSome then (p, args.tail) else printFormat fuel s args.tail p
  | fuel + 1, '\\' :: c :: s, args, p =>
    if p.printer ≠ .shell ∧ c ∈ ['c', 'x', '"', 'u', 'U'] then
      let most := if c = 'x' then 2 else if c = 'u' then 4 else if c = 'U' then 8 else 0
      let used := (s.takeWhile isHexDigit).take most
      match unescapeFully .format 2 ('\\' :: c :: used) with
      | .error message => ({ p with fatal := some message }, args)
      | .ok (_, true) => ({ p with stopped := true }, args)
      | .ok (out, false) => printFormat fuel (s.drop used.length) args (p.add out)
    else
    match escapeLetter? c with
    | some e => printFormat fuel s args (p.add [e])
    | none =>
      if isOctal c then
        let ds := ((c :: s).takeWhile isOctal).take 3
        printFormat fuel ((c :: s).drop ds.length) args (p.add [octalChar ds])
      else printFormat fuel (c :: s) args (p.add ['\\'])
  | fuel + 1, c :: s, args, p => printFormat fuel s args (p.add [c])

/-- Goes through a format until all arguments are used. -/
def printRounds (format : List Char) : Nat → List (List Char) → Printed → Printed
  | 0, _, p => p
  | rounds + 1, args, p =>
    let (p, left) := printFormat (format.length + 1) format args p
    let excess := left.length = args.length
    if left.isEmpty ∨ p.stopped ∨ p.fatal.isSome then p
    else if excess then
      match p.printer, left with
      | .program, first :: _ => { p with
          warning := some ("warning: ignoring excess arguments, starting with '" ++ shown first ++ "'") }
      | _, _ => p
    else printRounds format rounds left p

/-- What `printf` prints and complains about. -/
def printfText (printer : Printer) (format : List Char) (args : List (List Char)) : Printed :=
  let p := printRounds format (args.length + 1) args ⟨printer, [], [], false, none, none⟩
  { p with text := p.text.reverse, complaints := p.complaints.reverse }

end ProgramRepair.Utility
