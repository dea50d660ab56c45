import ProgramRepair.Shell.Token

/-!
# Arithmetic

Expressions over whole numbers of 64 bits, which wrap around. `Expression.parse`
reads an expression; its value is found by the shell, which knows the variables.
-/

namespace ProgramRepair.Shell.Arithmetic

/-- An operation on two numbers. -/
inductive Operation where
  | add
  | subtract
  | multiply
  | divide
  | remainder
  | shiftLeft
  | shiftRight
  | less
  | lessEqual
  | greater
  | greaterEqual
  | equal
  | unequal
  | bitAnd
  | bitXor
  | bitOr
  | power
deriving DecidableEq, Repr

/-- A variable or, with the text of a key, an element of an array. -/
structure Target where
  name : List Char
  key : Option (List Char)
deriving DecidableEq, Repr, Inhabited

/-- An expression. -/
inductive Expression where
  | number (n : Int)
  | variable (t : Target)
  | negate (e : Expression)
  | complement (e : Expression)
  | isZero (e : Expression)
  | operation (o : Operation) (a b : Expression)
  | both (a b : Expression)
  | either (a b : Expression)
  | choice (test a b : Expression)
  /-- Sets a variable to a value, or to what an operation makes of it. -/
  | assign (t : Target) (o : Option Operation) (e : Expression)
  /-- Adds to a variable; the value is what it was `before` or what it is then. -/
  | step (t : Target) (before : Bool) (change : Int)
  /-- Two expressions one after the other. -/
  | inOrder (a b : Expression)
deriving Repr, Inhabited

/-! ## Numbers -/

/-- The number of 64 bits with the same last bits. -/
def wrap (n : Int) : Int := Int.bmod n (Nat.pow 2 64)

/-- What is wrong with an expression. -/
inductive Problem where
  | divisionByZero
  | expectingPrimary
  | expectingEnd
  | expectingParenthesis
  | expectingColon
  | notNumber (text : List Char)
  | readOnly (name : List Char)
  | negativeExponent
  /-- A digit that the base of a number does not have. -/
  | digitTooGreat
  /-- A sign that means nothing. -/
  | badOperator
  | notVariable
deriving Repr

def Problem.message : Problem → String
  | divisionByZero => "division by zero"
  | expectingPrimary => "expecting primary"
  | expectingEnd => "expecting EOF"
  | expectingParenthesis => "expecting ')'"
  | expectingColon => "expecting ':'"
  | notNumber text => "Illegal number: " ++ String.ofList text
  | readOnly name => String.ofList name ++ ": is read only"
  | negativeExponent | digitTooGreat | badOperator | notVariable => "expecting EOF"

/-- What is wrong, in the words of the extended language. -/
def Problem.extendedMessage : Problem → String
  | divisionByZero => "division by 0"
  | expectingPrimary => "syntax error: operand expected"
  | expectingEnd => "syntax error in expression"
  | expectingParenthesis => "missing \x60)'"
  | expectingColon => "\x60:' expected for conditional expression"
  | notNumber _ => "syntax error: operand expected"
  | readOnly name => String.ofList name ++ ": readonly variable"
  | negativeExponent => "exponent less than 0"
  | digitTooGreat => "value too great for base"
  | badOperator => "syntax error: invalid arithmetic operator"
  | notVariable => "attempted assignment to non-variable"

/-- A problem and the text from the token on at which it shows. -/
structure Failure where
  problem : Problem
  token : List Char
deriving Repr

def ofBool (b : Bool) : Int := if b then 1 else 0

/-- The bits of a number as a number without a sign. -/
def bits (n : Int) : Nat := (n % Nat.pow 2 64).toNat

/-- A power, with what does not fit left out on the way. -/
def powerOf (a : Int) (n : Nat) : Int :=
  if n = 0 then 1
  else
    let half := powerOf a (n / 2)
    let square := wrap (half * half)
    if n % 2 = 0 then square else wrap (square * a)

/-- The value of an operation. -/
def Operation.apply (o : Operation) (a b : Int) : Except Problem Int :=
  match o with
  | add => .ok (wrap (a + b))
  | subtract => .ok (wrap (a - b))
  | multiply => .ok (wrap (a * b))
  | divide => if b = 0 then .error .divisionByZero else .ok (wrap (a.tdiv b))
  | remainder => if b = 0 then .error .divisionByZero else .ok (wrap (a.tmod b))
  | shiftLeft => .ok (wrap (a * Nat.pow 2 (b % 64).toNat))
  | shiftRight => .ok (wrap (a / Nat.pow 2 (b % 64).toNat))
  | less => .ok (ofBool (a < b))
  | lessEqual => .ok (ofBool (a ≤ b))
  | greater => .ok (ofBool (b < a))
  | greaterEqual => .ok (ofBool (b ≤ a))
  | equal => .ok (ofBool (a = b))
  | unequal => .ok (ofBool (a ≠ b))
  | bitAnd => .ok (wrap (bits a &&& bits b : Nat))
  | bitXor => .ok (wrap (bits a ^^^ bits b : Nat))
  | bitOr => .ok (wrap (bits a ||| bits b : Nat))
  | power => if b < 0 then .error .negativeExponent else .ok (powerOf a b.toNat)

/-- The value of a digit in any base up to 36. -/
def digitValue (c : Char) : Nat :=
  if c.isDigit then c.toNat - '0'.toNat
  else if c.isLower then c.toNat - 'a'.toNat + 10
  else if c.isUpper then c.toNat - 'A'.toNat + 10
  else 99

/-- The number that digits in a base stand for, if they are digits of that base. -/
def ofDigits? (base : Nat) (ds : List Char) : Option Nat :=
  if ds.all fun d => digitValue d < base then
    some (ds.foldl (fun n d => n * base + digitValue d) 0)
  else none

/-- The number that a text without a sign stands for, in base 10, 8 or 16. -/
def natural? : List Char → Option Nat
  | [] => none
  | '0' :: 'x' :: ds => if ds = [] then none else ofDigits? 16 ds
  | '0' :: 'X' :: ds => if ds = [] then none else ofDigits? 16 ds
  | '0' :: ds => ofDigits? 8 ds
  | ds => ofDigits? 10 ds

/-- The number at the start of a text that begins with a digit, in base 10, 8 or 16, and what
follows it. -/
def leadingNatural (s : List Char) : Nat × List Char :=
  let read := fun (base : Nat) (s : List Char) =>
    let ds := s.takeWhile fun d => digitValue d < base
    (ds.foldl (fun n d => n * base + digitValue d) 0, s.drop ds.length)
  match s with
  | '0' :: 'x' :: d :: rest | '0' :: 'X' :: d :: rest =>
    if digitValue d < 16 then read 16 (d :: rest) else (0, s.drop 1)
  | '0' :: _ => read 8 s
  | s => read 10 s

/-- The largest number. -/
def largest : Int := Nat.pow 2 63 - 1

/-- The value of a variable as a number. -/
def ofText (text : List Char) : Except Problem Int :=
  let blank := fun c : Char => c = ' ' || ('\t' ≤ c && c ≤ '\x0d')
  let s := (text.dropWhile blank).reverse.dropWhile blank |>.reverse
  let (negative, ds) := match s with
    | '-' :: ds => (true, ds)
    | '+' :: ds => (false, ds)
    | ds => (false, ds)
  if s = [] then .ok 0
  else
    match natural? ds with
    | some n => .ok (max (-largest - 1) (min largest (if negative then -(n : Int) else n)))
    | none => .error (.notNumber text)

/-! ## Reading -/

/-- A sign, a number or a name. -/
inductive Lexeme where
  | number (n : Int)
  | target (t : Target)
  | sign (s : String)
  /-- A number with a digit that it must not have. -/
  | misspelt
  /-- A character that means nothing. -/
  | unknown (c : Char)
deriving DecidableEq, Repr

/-- A lexeme and the text from its start on. -/
abbrev Placed := Lexeme × List Char

/-- The signs, longer ones before those that they begin with. -/
def signs : List String :=
  ["<<=", ">>=", "<<", ">>", "<=", ">=", "==", "!=", "&&", "||", "+=", "-=", "*=", "/=", "%=", "&=",
   "^=", "|=", "+", "-", "*", "/", "%", "<", ">", "=", "!", "~", "&", "^", "|", "?", ":", "(", ")"]

/-- More signs of the extended language. -/
def extendedSigns : List String := ["**", "++", "--", ","]

/-- The signs of a language. -/
def signsOf : Dialect → List String
  | .common => signs
  | .extended => extendedSigns ++ signs

/-- The value of a digit in a base that is named. Bases above 36 tell small and capital letters
apart. -/
def digitInBase (base : Nat) (c : Char) : Nat :=
  if c.isUpper ∧ 36 < base then c.toNat - 'A'.toNat + 36
  else if c = '@' then 62
  else if c = '_' then 63
  else digitValue c

/-- The number in a base that a text such as `16#ff` names. -/
def based? (s : List Char) : Option Nat :=
  let base := s.takeWhile (· ≠ '#')
  match ofDigits? 10 base, s.drop (base.length + 1) with
  | some b, d :: ds =>
    if 2 ≤ b ∧ b ≤ 64 ∧ (d :: ds).all (digitInBase b · < b) then
      some ((d :: ds).foldl (fun n d => n * b + digitInBase b d) 0)
    else none
  | _, _ => none

/-- The number at the start of a text in the extended language, and what follows it. -/
def extendedNumber (s : List Char) : Lexeme × List Char :=
  let word := s.takeWhile fun c => isNameChar c || c = '#' || c = '@'
  let n? := if word.contains '#' then based? word else natural? word
  (match n? with
    | some n => .number (wrap n)
    | none => .misspelt, s.drop word.length)

/-- What stands before the bracket that closes a key, and what follows it. -/
def closeKey? : (depth : Nat) → List Char → Option (List Char × List Char)
  | _, [] => none
  | depth, c :: rest =>
    if c = ']' ∧ depth = 0 then some ([], rest)
    else
      let depth := if c = ']' then depth - 1 else if c = '[' then depth + 1 else depth
      (closeKey? depth rest).map fun (key, rest) => (c :: key, rest)

/-- The variable or the element whose name a text begins with, and what follows it. -/
def leadingTarget (d : Dialect) (s : List Char) : Target × List Char :=
  let name := s.takeWhile isNameChar
  let rest := s.drop name.length
  match d, rest with
  | .extended, '[' :: more =>
    match closeKey? 0 more with
    | some (key, rest) => (⟨name, some key⟩, rest)
    | none => (⟨name, none⟩, rest)
  | _, _ => (⟨name, none⟩, rest)

/-- The lexemes of a text. -/
def lexemes (d : Dialect) : Nat → List Char → List Placed
  | 0, _ => []
  | _ + 1, [] => []
  | fuel + 1, c :: s =>
    let here := c :: s
    if c = ' ' ∨ c = '\t' ∨ c = '\n' then lexemes d fuel s
    else if c.isDigit then
      match d with
      | .common =>
        let (n, rest) := leadingNatural here
        (.number (min largest n), here) :: lexemes d fuel rest
      | .extended =>
        let (l, rest) := extendedNumber here
        (l, here) :: lexemes d fuel rest
    else if isNameStart c then
      let (t, rest) := leadingTarget d here
      (.target t, here) :: lexemes d fuel rest
    else
      match (signsOf d).find? fun sign => sign.toList.isPrefixOf here with
      | some sign => (.sign sign, here) :: lexemes d fuel (here.drop sign.length)
      | none => (.unknown c, here) :: lexemes d fuel s

/-- The operation of a sign and how strongly it binds. -/
def operation? : String → Option (Operation × Nat)
  | "|" => some (.bitOr, 3)
  | "^" => some (.bitXor, 4)
  | "&" => some (.bitAnd, 5)
  | "==" => some (.equal, 6)
  | "!=" => some (.unequal, 6)
  | "<" => some (.less, 7)
  | "<=" => some (.lessEqual, 7)
  | ">" => some (.greater, 7)
  | ">=" => some (.greaterEqual, 7)
  | "<<" => some (.shiftLeft, 8)
  | ">>" => some (.shiftRight, 8)
  | "+" => some (.add, 9)
  | "-" => some (.subtract, 9)
  | "*" => some (.multiply, 10)
  | "/" => some (.divide, 10)
  | "%" => some (.remainder, 10)
  | _ => none

/-- The operation of a sign for assignment. -/
def assignment? : String → Option (Option Operation)
  | "=" => some none
  | "+=" => some (some .add)
  | "-=" => some (some .subtract)
  | "*=" => some (some .multiply)
  | "/=" => some (some .divide)
  | "%=" => some (some .remainder)
  | "<<=" => some (some .shiftLeft)
  | ">>=" => some (some .shiftRight)
  | "&=" => some (some .bitAnd)
  | "^=" => some (some .bitXor)
  | "|=" => some (some .bitOr)
  | _ => none

/-- An expression that has been read and what follows it. The error is a problem and the lexemes
from which on it shows. -/
abbrev Reading := Except (Problem × List Placed) (Expression × List Placed)

mutual

/-- Expressions one after the other. -/
def series : Nat → List Placed → Reading
  | 0, ls => .error (.expectingPrimary, ls)
  | fuel + 1, ls => do
    let (a, rest) ← whole fuel ls
    match rest with
    | (.sign ",", _) :: rest => do
      let (b, rest) ← series fuel rest
      return (.inOrder a b, rest)
    | _ => return (a, rest)
termination_by structural fuel => fuel

/-- An expression with an assignment or a choice at most. -/
def whole : Nat → List Placed → Reading
  | 0, ls => .error (.expectingPrimary, ls)
  | fuel + 1, ls =>
    match ls with
    | (.target x, _) :: (.sign s, _) :: rest =>
      match assignment? s with
      | some o => do
        let (e, rest) ← whole fuel rest
        return (.assign x o e, rest)
      | none => conditional fuel ls
    | _ => conditional fuel ls
termination_by structural fuel => fuel

/-- A choice, or what binds more strongly. -/
def conditional : Nat → List Placed → Reading
  | 0, ls => .error (.expectingPrimary, ls)
  | fuel + 1, ls => do
    let (test, rest) ← binary 1 fuel ls
    match rest with
    | (.sign "?", _) :: rest =>
      let (a, rest) ← whole fuel rest
      match rest with
      | (.sign ":", _) :: rest =>
        let (b, rest) ← conditional fuel rest
        return (.choice test a b, rest)
      | _ => throw (.expectingColon, rest)
    | _ => return (test, rest)
termination_by structural fuel => fuel

/-- Operations that bind at least as strongly as `level`. -/
def binary (level : Nat) : Nat → List Placed → Reading
  | 0, ls => .error (.expectingPrimary, ls)
  | fuel + 1, ls => do
    let (a, rest) ← power fuel ls
    moreBinary level a fuel rest
termination_by structural fuel => fuel

/-- What follows the first operand. -/
def moreBinary (level : Nat) (a : Expression) : Nat → List Placed → Reading
  | 0, ls => .error (.expectingPrimary, ls)
  | fuel + 1, ls =>
    match ls with
    | (.sign s, _) :: rest =>
      match s, operation? s with
      | "||", _ =>
        if level ≤ 1 then do
          let (b, rest) ← binary 2 fuel rest
          moreBinary level (.either a b) fuel rest
        else .ok (a, ls)
      | "&&", _ =>
        if level ≤ 2 then do
          let (b, rest) ← binary 3 fuel rest
          moreBinary level (.both a b) fuel rest
        else .ok (a, ls)
      | _, some (o, strength) =>
        if level ≤ strength then do
          let (b, rest) ← binary (strength + 1) fuel rest
          moreBinary level (.operation o a b) fuel rest
        else .ok (a, ls)
      | _, none => .ok (a, ls)
    | _ => .ok (a, ls)
termination_by structural fuel => fuel

/-- A power, whose exponent may be one too. -/
def power : Nat → List Placed → Reading
  | 0, ls => .error (.expectingPrimary, ls)
  | fuel + 1, ls => do
    let (a, rest) ← unary fuel ls
    match rest with
    | (.sign "**", _) :: rest =>
      let (b, rest) ← power fuel rest
      return (.operation .power a b, rest)
    | _ => return (a, rest)
termination_by structural fuel => fuel

/-- A number, a variable, or an expression with a sign before it or in parentheses. -/
def unary : Nat → List Placed → Reading
  | 0, ls => .error (.expectingPrimary, ls)
  | fuel + 1, ls =>
    match ls with
    | (.sign "++", _) :: (.target x, _) :: rest => .ok (.step x false 1, rest)
    | (.sign "--", _) :: (.target x, _) :: rest => .ok (.step x false (-1), rest)
    | (.sign "++", _) :: rest => unary fuel rest
    | (.sign "--", _) :: rest => unary fuel rest
    | (.sign "-", _) :: rest => do
      let (e, rest) ← unary fuel rest
      return (.negate e, rest)
    | (.sign "+", _) :: rest => unary fuel rest
    | (.sign "!", _) :: rest => do
      let (e, rest) ← unary fuel rest
      return (.isZero e, rest)
    | (.sign "~", _) :: rest => do
      let (e, rest) ← unary fuel rest
      return (.complement e, rest)
    | (.sign "(", _) :: rest => do
      match ← series fuel rest with
      | (e, (.sign ")", _) :: rest) => return (e, rest)
      | (_, rest) => throw (.expectingParenthesis, rest)
    | (.number n, _) :: rest => .ok (.number n, rest)
    | (.target x, _) :: (.sign "++", _) :: rest => .ok (.step x true 1, rest)
    | (.target x, _) :: (.sign "--", _) :: rest => .ok (.step x true (-1), rest)
    | (.target x, _) :: rest => .ok (.variable x, rest)
    | (.misspelt, _) :: _ => .error (.digitTooGreat, ls)
    | _ => .error (.expectingPrimary, ls)
termination_by structural fuel => fuel

end

/-- What is wrong with the lexemes behind a whole expression. -/
def excess (d : Dialect) : List Placed → Problem
  | (.sign s, _) :: _ =>
    match d with
    | .common => .expectingEnd
    | .extended =>
      if (assignment? s).isSome then .notVariable else .expectingEnd
  | (.unknown _, _) :: _ =>
    match d with
    | .common => .expectingEnd
    | .extended => .badOperator
  | _ => .expectingEnd

/-- The expression that a text stands for. In the extended language nothing at all stands for 0. -/
def Expression.parse (d : Dialect) (text : List Char) : Except Failure Expression :=
  let ls := lexemes d (text.length + 1) text
  let fail := fun (problem : Problem) (rest : List Placed) =>
    let token := ((rest.head? <|> ls.getLast?).map (·.2)).getD []
    .error ⟨problem, token⟩
  if ls.isEmpty ∧ d = .extended then .ok (.number 0)
  else
    match series (20 * (ls.length + 1)) ls with
    | .ok (e, []) => .ok e
    | .ok (_, rest) => fail (excess d rest) rest
    | .error (problem, rest) => fail problem rest

/-- The text from the divisor on that was 0. -/
def lastDivisor (text : List Char) : List Char :=
  let isSign := fun (c : Char) => c = '/' || c = '%'
  ((text.reverse.takeWhile fun c => !isSign c).reverse).dropWhile (· = ' ')

end ProgramRepair.Shell.Arithmetic
