import ProgramRepair.Binary64.Decimal
import ProgramRepair.Utility.PatternAction.Syntax
import ProgramRepair.Utility.Print

/-!
# The words of programs of patterns and actions

A slash begins an expression in places where nothing can be divided. The words
that belong to the syntax are told from names, and a name that has a parenthesis
right behind it from one that has not.
-/

namespace ProgramRepair.Utility.PatternAction

/-- A word of a program. -/
inductive Token where
  | number (x : Binary64) (text : List Char)
  | text (s : List Char)
  | regex (s : List Char)
  | name (s : Name)
  /-- A name right before a parenthesis. -/
  | called (s : Name)
  | function (f : Function)
  /-- A word of the syntax. -/
  | word (w : String)
  | sign (s : String)
  | lineEnd
  | finish
deriving DecidableEq, Repr, Inhabited

/-- The names of the functions that every program has. -/
def functionNames : List (String × Function) :=
  [("length", .length), ("substr", .substring), ("index", .position), ("split", .split),
   ("sub", .substituteFirst), ("gsub", .substituteAll), ("match", .matchText),
   ("sprintf", .format), ("sin", .sine), ("cos", .cosine), ("atan2", .arctangent),
   ("exp", .exponential), ("log", .logarithm), ("sqrt", .squareRoot), ("int", .truncate),
   ("rand", .random), ("srand", .seed), ("toupper", .upper), ("tolower", .lower),
   ("system", .system), ("close", .close), ("fflush", .flush)]

/-- The name of a function that every program has. -/
def functionName (f : Function) : String :=
  ((functionNames.find? fun (_, g) => g = f).map (·.1)).getD ""

/-- The words of the syntax. -/
def syntaxWords : List String :=
  ["BEGIN", "END", "function", "func", "if", "else", "while", "do", "for", "in", "break",
   "continue", "next", "nextfile", "exit", "return", "delete", "print", "printf", "getline"]

/-- The signs, longer ones first. -/
def signTexts : List String :=
  ["&&", "||", "++", "--", "+=", "-=", "*=", "/=", "%=", "^=", "==", "<=", ">=", "!=", "!~", ">>",
   "+", "-", "*", "/", "%", "^", "!", ">", "<", "|", "?", ":", "~", "$", "=", "(", ")", "[", "]",
   ",", ";", "\x7b", "\x7d"]

/-- A word and the number of its line. -/
structure Lexeme where
  token : Token
  line : Nat
deriving Repr, Inhabited

/-- How a word is shown in messages. -/
def Token.shown : Token → String
  | number _ s | text s | regex s | name s | called s => Utility.shown s
  | function f => functionName f
  | word w => w
  | sign s => s
  | lineEnd => "end of line"
  | finish => "end of file"

/-- Whether something can be divided behind a word. -/
def Token.isOperand : Token → Bool
  | number _ _ | text _ | name _ | function _ => true
  | sign s => s = ")" || s = "]" || s = "$" || s = "++" || s = "--"
  | _ => false

/-! ## Texts and expressions -/

/-- What a text in quotes stands for. A backslash stays before a character that it does not
change. -/
def unquoted : Nat → List Char → List Char
  | 0, _ => []
  | _ + 1, [] => []
  | fuel + 1, '\\' :: c :: s =>
    match c with
    | '"' => '"' :: unquoted fuel s
    | '\\' => '\\' :: unquoted fuel s
    | '\n' => unquoted fuel s
    | 'a' => '\x07' :: unquoted fuel s
    | 'b' => '\x08' :: unquoted fuel s
    | 'f' => '\x0c' :: unquoted fuel s
    | 'n' => '\n' :: unquoted fuel s
    | 'r' => '\x0d' :: unquoted fuel s
    | 't' => '\t' :: unquoted fuel s
    | 'v' => '\x0b' :: unquoted fuel s
    | c =>
      if isOctal c then
        let ds := ((c :: s).takeWhile isOctal).take 3
        octalChar ds :: unquoted fuel ((c :: s).drop ds.length)
      else if c = 'x' ∧ s.head?.any isHexDigit then
        let ds := (s.takeWhile isHexDigit).take 2
        Char.ofNat (ds.foldl (fun n d => 16 * n + hexDigitValue d) 0) :: unquoted fuel (s.drop ds.length)
      else '\\' :: c :: unquoted fuel s
  | fuel + 1, c :: s => c :: unquoted fuel s

/-- The inside of a text in quotes, and what follows it. -/
def quoted? : List Char → Option (List Char × List Char)
  | [] => none
  | '"' :: rest => some ([], rest)
  | '\n' :: _ => none
  | '\\' :: c :: rest => (quoted? rest).map fun (s, rest) => ('\\' :: c :: s, rest)
  | c :: rest => (quoted? rest).map fun (s, rest) => (c :: s, rest)

/-- The inside of an expression between slashes, and what follows it. A slash in brackets belongs to
the expression. -/
def slashed? (inSet : Bool) : List Char → Option (List Char × List Char)
  | [] => none
  | '\n' :: _ => none
  | '\\' :: '/' :: rest => (slashed? inSet rest).map fun (s, rest) => ('/' :: s, rest)
  | '\\' :: c :: rest => (slashed? inSet rest).map fun (s, rest) => ('\\' :: c :: s, rest)
  | '[' :: '^' :: ']' :: rest =>
    if inSet then (slashed? false rest).map fun (s, rest) => ('[' :: '^' :: ']' :: s, rest)
    else (slashed? true rest).map fun (s, rest) => ('[' :: '^' :: ']' :: s, rest)
  | '[' :: ']' :: rest =>
    (slashed? (!inSet) rest).map fun (s, rest) => ('[' :: ']' :: s, rest)
  | c :: rest =>
    if c = '/' ∧ !inSet then some ([], rest)
    else
      let inSet := if inSet then c ≠ ']' else c = '['
      (slashed? inSet rest).map fun (s, rest) => (c :: s, rest)

/-- Whether a text is a count of repetitions up to its closing brace. -/
def isCount (s : List Char) : Bool :=
  let inside := s.takeWhile (· ≠ '\x7d')
  let parts := Text.cut ',' inside
  inside.length < s.length && !(inside.filter Char.isDigit).isEmpty && parts.length ≤ 2 &&
    parts.all (·.all Char.isDigit)

/-- What an expression stands for once the escapes of characters are replaced, and braces that are
no counts are marked as plain characters. -/
def plainPattern : Nat → List Char → List Char
  | 0, _ => []
  | _ + 1, [] => []
  | fuel + 1, '\x7b' :: s =>
    if isCount s then '\x7b' :: plainPattern fuel s else '\\' :: '\x7b' :: plainPattern fuel s
  | fuel + 1, '\\' :: c :: s =>
    match c with
    | 'a' => '\x07' :: plainPattern fuel s
    | 'b' => '\x08' :: plainPattern fuel s
    | 'f' => '\x0c' :: plainPattern fuel s
    | 'n' => '\n' :: plainPattern fuel s
    | 'r' => '\x0d' :: plainPattern fuel s
    | 't' => '\t' :: plainPattern fuel s
    | 'v' => '\x0b' :: plainPattern fuel s
    | c =>
      if isOctal c then
        let ds := ((c :: s).takeWhile isOctal).take 3
        octalChar ds :: plainPattern fuel ((c :: s).drop ds.length)
      else if c.isAlphanum ∨ c = '"' ∨ c = '/' ∨ c = '&' then c :: plainPattern fuel s
      else '\\' :: c :: plainPattern fuel s
  | fuel + 1, c :: s => c :: plainPattern fuel s

/-- How expressions are written. -/
def dialect : Regex.Dialect := ⟨true, true, false, false⟩

/-- What is said about an expression that is none. -/
def patternProblem (text : List Char) (problem : Regex.Problem) : String :=
  let what := match problem with
    | .unmatchedOpen => "missing ')'"
    | .badRepetition => "missing operand"
    | .trailingBackslash => "missing operand"
    | _ => "bad class -- [], [^] or ["
  "regular expression compile failed (" ++ what ++ ")\n" ++ Utility.shown text

/-- The expression that a text stands for. -/
def patternOf (text : List Char) : Except String Regex :=
  match Regex.ofText dialect (plainPattern (text.length + 1) text) with
  | .ok r => .ok r
  | .error problem => .error (patternProblem text problem)

/-! ## Words -/

/-- A number at the start of a text, and what follows it. -/
def numberText? (s : List Char) : Option (List Char × List Char) :=
  let whole := s.takeWhile Char.isDigit
  let rest := s.drop whole.length
  let (fraction, rest) := match rest with
    | '.' :: r =>
      let ds := r.takeWhile Char.isDigit
      ('.' :: ds, r.drop ds.length)
    | r => ([], r)
  if whole.isEmpty ∧ fraction.length ≤ 1 then none
  else
    let power : List Char := match rest with
      | e :: r =>
        if e = 'e' ∨ e = 'E' then
          match r with
          | sign :: r =>
            let signed := sign = '+' || sign = '-'
            let ds := (if signed then r else sign :: r).takeWhile Char.isDigit
            if ds.isEmpty then [] else if signed then e :: sign :: ds else e :: ds
          | [] => []
        else []
      | [] => []
    some (whole ++ fraction ++ power, rest.drop power.length)

def isNameStart (c : Char) : Bool := c.isAlpha || c = '_'

def isNameChar (c : Char) : Bool := c.isAlphanum || c = '_'

/-- The sign at the start of a text. -/
def sign? (s : List Char) : Option String := signTexts.find? fun t => t.toList.isPrefixOf s

/-- The word that a name is. -/
def wordOf (name rest : List Char) : Token :=
  let text := String.ofList name
  match functionNames.lookup text with
  | some f => .function f
  | none =>
    if syntaxWords.contains text then .word (if text = "func" then "function" else text)
    else if rest.head? = some '(' then .called name
    else .name name

/-- The start of a text that has no end, for a message. -/
def runaway (s : List Char) : String := Utility.shown ((s.takeWhile (· ≠ '\n')).take 10) ++ " ..."

/-- The words of a program from some line on; `before` is the word in front. -/
def lexemes (line : Nat) (before : Token) : Nat → List Char → Except String (List Lexeme)
  | 0, _ => return []
  | _ + 1, [] => return [⟨.lineEnd, line⟩, ⟨.finish, line + 1⟩]
  | fuel + 1, c :: s => do
    let at_ := fun (t : Token) (rest : List Char) =>
      return ⟨t, line⟩ :: (← lexemes line t fuel rest)
    match c with
    | ' ' | '\t' | '\x0d' => lexemes line before fuel s
    | '\n' => return ⟨.lineEnd, line⟩ :: (← lexemes (line + 1) .lineEnd fuel s)
    | '#' => lexemes line before fuel (s.dropWhile (· ≠ '\n'))
    | '"' =>
      match quoted? s with
      | none => throw ("line " ++ toString line ++ ": runaway string constant " ++ runaway (c :: s))
      | some (inside, rest) => at_ (.text (unquoted (inside.length + 1) inside)) rest
    | _ =>
      if c = '\\' ∧ s.head? = some '\n' then lexemes (line + 1) before fuel (s.drop 1)
      else if c = '/' ∧ !before.isOperand then
        match slashed? false s with
        | none =>
          throw ("line " ++ toString line ++ ": runaway regular expression " ++ runaway (c :: s))
        | some (inside, rest) => at_ (.regex inside) rest
      else
        match numberText? (c :: s) with
        | some (text, rest) => at_ (.number ((Binary64.read? text).getD .zero) text) rest
        | none =>
          if isNameStart c then
            let name := (c :: s).takeWhile isNameChar
            let rest := (c :: s).drop name.length
            at_ (wordOf name rest) rest
          else
            match sign? (c :: s) with
            | some text => at_ (.sign text) ((c :: s).drop text.length)
            | none =>
              throw (toString line ++ ": unexpected character '" ++ Utility.shown [c] ++ "'")

end ProgramRepair.Utility.PatternAction
