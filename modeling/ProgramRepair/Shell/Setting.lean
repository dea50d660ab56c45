import ProgramRepair.Shell.Token
import ProgramRepair.Text.Lines
import ProgramRepair.Text.Utf8

/-!
# Settings and signs

What the characters of a script mean depends on where they stand: in the open,
between quotes, in braces. This module holds these settings, the quotes and
escapes that need nothing but characters, and the signs and operators of both
languages.
-/

namespace ProgramRepair.Shell.Parser


/-- Where a part of a word stands. -/
inductive Setting where
  /-- In the open, up to a blank or a sign. -/
  | bare
  /-- Between double quotes. -/
  | doubleQuoted
  /-- In input that stands in the script. -/
  | document
  /-- In the braces of a variable. -/
  | braces (quoted pattern : Bool)
  /-- In the braces of a variable or the brackets of a key, up to one of some signs. -/
  | portion (stops : List Char) (quoted : Bool)
  /-- In the open, as a regular expression, up to a blank. -/
  | expression
deriving DecidableEq

/-- Whether text in a setting is quoted. -/
def Setting.quoted : Setting → Bool
  | bare | portion _ _ | expression => false
  | doubleQuoted | document => true
  | braces quoted pattern => quoted && !pattern

/-- Whether single quotes mean something. -/
def Setting.hasSingleQuotes : Setting → Bool
  | bare | portion _ _ | expression => true
  | doubleQuoted | document => false
  | braces quoted pattern => !quoted || pattern

/-- Whether a character ends a setting. -/
def Setting.ends (s : Setting) (c : Char) : Bool :=
  match s with
  | bare => isDelimiter c
  | doubleQuoted => c = '"'
  | document => false
  | braces _ _ => c = '\x7d'
  | portion stops _ => stops.contains c
  | expression => c = ' ' || c = '\t' || c = '\n'

/-- What is wrong if a setting has no end. -/
def Setting.openProblem : Setting → SyntaxProblem
  | braces false _ => .unclosed '\x7d' "Missing '\x7d'"
  | braces true _ => .unclosed '\x7d' "Unterminated quoted string"
  | portion stops _ => .unclosed (stops.getLast?.getD '\x7d') "Missing '\x7d'"
  | _ => .unclosed '"' "Unterminated quoted string"

/-- Whether a backslash takes away the meaning of a character. -/
def Setting.escapes (s : Setting) (c : Char) : Bool :=
  match s with
  | bare | braces false _ | portion _ false | expression => true
  | doubleQuoted => c ∈ ['$', '\x60', '"', '\\']
  | document => c ∈ ['$', '\x60', '\\']
  | braces true _ | portion _ true => c ∈ ['$', '\x60', '"', '\\', '\x7d']

/-- Takes the rest of a text in single quotes. -/
def singleQuoted : Parser (List Char) := do
  markOpen
  let s ← takeWhile (· ≠ '\'')
  if ← accept '\'' then
    modify fun st => { st with line := st.line + s.count '\n' }
    return s
  else failWith (.unclosed '\'' "Unterminated quoted string")

/-- What is wrong if a grave accent has no partner. -/
def graveProblem : SyntaxProblem := .unclosed '\x60' "EOF in backquote substitution"

/-- Takes the text up to the next grave accent. -/
def graveText (quoted : Bool) : Nat → Parser (List Char)
  | 0 => failWith graveProblem
  | fuel + 1 => do
    match ← take with
    | none => failWith graveProblem
    | some '\x60' => return []
    | some '\\' =>
      match ← take with
      | none => failWith graveProblem
      | some '\n' => graveText quoted fuel
      | some c =>
        let rest ← graveText quoted fuel
        return if c ∈ ['\\', '\x60', '$'] ∨ (quoted ∧ c = '"') then c :: rest else '\\' :: c :: rest
    | some c => return c :: (← graveText quoted fuel)

/-- The treatment that a sign in braces asks for, and whether an empty value counts as none. -/
def treatment? : Parser (Option (Treatment × Bool)) := do
  match ← take with
  | some ':' =>
    match ← take with
    | some '-' => return some (.fallback, true)
    | some '=' => return some (.assignment, true)
    | some '?' => return some (.demand, true)
    | some '+' => return some (.alternative, true)
    | _ => return none
  | some '-' => return some (.fallback, false)
  | some '=' => return some (.assignment, false)
  | some '?' => return some (.demand, false)
  | some '+' => return some (.alternative, false)
  | some '%' => return some (.dropEnd (← accept '%'), false)
  | some '#' => return some (.dropStart (← accept '#'), false)
  | _ => return none

/-- The name of a parameter. -/
def parameterName : Parser (List Char) := do
  match ← peek with
  | some c =>
    if isNameStart c then takeWhile isNameChar
    else if c.isDigit then takeWhile Char.isDigit
    else if isSpecial c then skip; return [c]
    else return []
  | none => return []

/-- Whether a treatment matches its word against the value. -/
def isPattern : Treatment → Bool
  | .dropEnd _ | .dropStart _ => true
  | _ => false

/-- Passes over a use of a variable that makes no sense; `start` is what was left of the script where
it began. -/
def badUse (quoted : Bool) (start : List Char) : Parser Part := do
  let _ ← takeWhile (· ≠ '\x7d')
  if ← accept '\x7d' then
    let left := (← get).input.length
    return .badUse ("$\x7b".toList ++ start.take (start.length - left))
  else failWith (Setting.braces quoted false).openProblem

/-- The digits that a number after a backslash has in a text with escapes, at most `most`. -/
def numberDigits (most : Nat) (isDigit : Char → Bool) : Parser (List Char) := do
  let ds := ((← get).input.takeWhile isDigit).take most
  for _ in ds do skip
  return ds

/-- The number that digits in a base up to 16 stand for. -/
def valueInBase (base : Nat) (ds : List Char) : Nat :=
  ds.foldl (fun n d => base * n + (if d.isDigit then d.toNat - '0'.toNat
    else d.toLower.toNat - 'a'.toNat + 10)) 0

/-- The bytes of a character. -/
def characterBytes (n : Nat) : List Char :=
  Text.charsOfBytes (Text.bytesOf (String.ofList [Char.ofNat n]))

/-- What a character after a backslash stands for in a text with escapes. -/
def escape (c : Char) : Parser (List Char) := do
  let isHex := fun (d : Char) => d.isDigit || ('a' ≤ d && d ≤ 'f') || ('A' ≤ d && d ≤ 'F')
  match c with
  | 'a' => return ['\x07']
  | 'b' => return ['\x08']
  | 'e' | 'E' => return ['\x1b']
  | 'f' => return ['\x0c']
  | 'n' => return ['\n']
  | 'r' => return ['\x0d']
  | 't' => return ['\t']
  | 'v' => return ['\x0b']
  | '\\' | '\'' | '"' | '?' => return [c]
  | 'x' => return [Char.ofNat (valueInBase 16 (← numberDigits 2 isHex))]
  | 'u' => return characterBytes (valueInBase 16 (← numberDigits 4 isHex))
  | 'U' => return characterBytes (valueInBase 16 (← numberDigits 8 isHex))
  | 'c' =>
    match ← take with
    | some d => return [Char.ofNat (d.toNat % 32)]
    | none => return ['\\', 'c']
  | c =>
    if '0' ≤ c ∧ c ≤ '7' then
      let ds ← numberDigits 2 fun d => '0' ≤ d && d ≤ '7'
      return [Char.ofNat (valueInBase 8 (c :: ds) % 256)]
    else return ['\\', c]

/-- Takes the rest of a text in single quotes with escapes. -/
def escapedText : Nat → Parser (List Char)
  | 0 => failWith (.unclosed '\'' "Unterminated quoted string")
  | fuel + 1 => do
    match ← take with
    | none => failWith (.unclosed '\'' "Unterminated quoted string")
    | some '\'' => return []
    | some '\\' =>
      match ← take with
      | none => failWith (.unclosed '\'' "Unterminated quoted string")
      | some c =>
        let first ← escape c
        return first ++ (← escapedText fuel)
    | some c => return c :: (← escapedText fuel)

/-- The treatment of a value that only the extended language knows and that needs no word, at the
sign behind the name. -/
def wordless? : List Char → Option (Treatment × Nat)
  | '@' :: 'Q' :: '\x7d' :: _ => some (.quotation, 2)
  | '@' :: 'U' :: '\x7d' :: _ => some (.letters true true, 2)
  | '@' :: 'u' :: '\x7d' :: _ => some (.letters true false, 2)
  | '@' :: 'L' :: '\x7d' :: _ => some (.letters false true, 2)
  | _ => none

/-- The treatment of a value that only the extended language knows, and how long its sign is. -/
def extendedTreatment? : List Char → Option (Treatment × Nat)
  | '/' :: '/' :: _ => some (.replacement .every, 2)
  | '/' :: '#' :: _ => some (.replacement .front, 2)
  | '/' :: '%' :: _ => some (.replacement .back, 2)
  | '/' :: _ => some (.replacement .first, 1)
  | '^' :: '^' :: _ => some (.letters true true, 2)
  | '^' :: _ => some (.letters true false, 1)
  | ',' :: ',' :: _ => some (.letters false true, 2)
  | ',' :: _ => some (.letters false false, 1)
  | ':' :: c :: _ =>
    if c ∈ ['-', '=', '?', '+'] then none else some (.slice false, 1)
  | _ => none

/-- Passes over some characters. -/
def skipMany (n : Nat) : Parser Unit := do
  for _ in List.range n do skip

/-- The text of a word without its quotes, and whether there were any. -/
def delimiterOf (w : Word) : List Char × Bool :=
  (w.flatMap fun
    | .text s _ => s
    | _ => [],
   w.any fun
    | .text _ q => q
    | _ => true)

/-- Takes the lines of input that stands in the script. -/
def documentLines (p : PendingDocument) : Nat → Parser (List Char)
  | 0 => return []
  | fuel + 1 => do
    if (← peek).isNone then return []
    let line ← takeWhile (· ≠ '\n')
    let line := if p.dropTabs then line.dropWhile (· = '\t') else line
    let isLast := (← peek).isNone
    skip
    if line = p.delimiter then return []
    else if isLast then return line
    else return line ++ '\n' :: (← documentLines p fuel)

/-- Closing keywords and signs, at which a list of commands ends. -/
def endsList : Token → Bool
  | .done | .closeParen | .endArm _ => true
  | .word w =>
    (keyword? w).any fun s =>
      ["then", "elif", "else", "fi", "do", "done", "esac", "\x7d"].contains s
  | _ => false

/-- Joins two commands that follow each other. -/
def sequence (a b : Command) : Command :=
  match b with
  | .nothing => a
  | b => .sequence a b

/-- Adds redirections to a command that is put together from others. -/
def withRedirections (c : Command) (rs : List Redirection) : Command :=
  if rs.isEmpty then c else .group c rs

/-- A command whose errors go where its output goes. -/
def withErrors (c : Command) : Command :=
  let r := Redirection.file 2 .copyOutput [.text ['1'] false]
  match c with
  | .simple line as ws rs => .simple line as ws (rs ++ [r])
  | c => .group c [r]

/-- The sign of a redirection. -/
def redirect (fd : Option Nat) : Parser Token := do
  let extended ← isExtended
  match ← take with
  | some '<' =>
    if ← accept '<' then
      if extended && (← peek) = some '<' then
        skip
        return .lineOfInput fd
      else return .document fd (← accept '-')
    else if ← accept '&' then return .redirect fd .copyInput
    else if ← accept '>' then return .redirect fd .inputOutput
    else return .redirect fd .input
  | _ =>
    if ← accept '>' then return .redirect fd .append
    else if ← accept '&' then return .redirect fd .copyOutput
    else if ← accept '|' then return .redirect fd .forcedOutput
    else return .redirect fd .output

/-- The sign at the start of a text that only the extended language knows, and its length. -/
def extendedSign? : List Char → Option (Token × Nat)
  | '&' :: '>' :: '>' :: _ => some (.everything true, 3)
  | '&' :: '>' :: _ => some (.everything false, 2)
  | '|' :: '&' :: _ => some (.pipeAll, 2)
  | ';' :: ';' :: '&' :: _ => some (.endArm .resume, 3)
  | ';' :: '&' :: _ => some (.endArm .fallThrough, 2)
  | _ => none

/-- Whether a quoted text is nothing but all arguments, which may be none. -/
def isAllArguments : Word → Bool
  | [.variable (.plain name) _ _ _ _ _] => name = ['@']
  | [.variable (.elements _ joined) t _ _ _ _] => !joined && t ≠ .length
  | [.variable (.names _ joined) _ _ _ _ _] => !joined
  | _ => false

/-- What stands between the semicolons of a text. -/
def betweenSemicolons : Word → List Word
  | [] => [[]]
  | .text s quoted :: rest =>
    let later := betweenSemicolons rest
    match Text.cut ';' s, later with
    | [], _ => later
    | pieces, next :: later =>
      pieces.dropLast.map (fun p => [.text p quoted]) ++
        ((.text (pieces.getLast?.getD []) quoted :: next) :: later)
    | _, [] => later
  | p :: rest =>
    match betweenSemicolons rest with
    | next :: later => (p :: next) :: later
    | [] => [[p]]

/-- The operators of conditions on one word. -/
def unaryOperators : List Char := "abcdefghknoprstuvwxzGLNORS".toList

/-- Whether a word is an operator of conditions on one word. -/
def isUnary (w : Word) : Bool :=
  match plainText? w with
  | some ['-', c] => unaryOperators.contains c
  | _ => false

/-- The operators of conditions on two words. -/
def binaryOperators : List String :=
  ["=", "==", "!=", "=~", "-eq", "-ne", "-lt", "-le", "-gt", "-ge", "-nt", "-ot", "-ef"]

/-- Whether a word is a given sign. -/
def isSign (w : Word) (sign : String) : Bool := plainText? w = some sign.toList

/-- Gives up at a token of a condition. -/
def half (message : String) (t : Token) : Parser α :=
  match t with
  | .done => failWith (.unexpected .done none)
  | t => failWith (.halfCondition message t)

/-- The commands whose arguments can be arrays. -/
def declarations : List String := ["declare", "typeset", "local", "export", "readonly"]

/-- Whether a name can be one of a function. -/
def isFunctionName (d : Dialect) (name : List Char) : Bool :=
  match d with
  | .common => isName name
  | .extended => !name.isEmpty

end ProgramRepair.Shell.Parser
