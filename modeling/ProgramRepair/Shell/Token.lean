import ProgramRepair.Shell.Syntax

/-!
# Tokens of command lines

The words and signs that a command line is made of, the state of reading one,
and the errors that a line can have. A line is read while it is taken apart:
what a sign means depends on where it stands.
-/

namespace ProgramRepair.Shell

/-- A sign or a word of a command line. -/
inductive Token where
  | word (w : Word)
  | and
  | or
  | pipe
  /-- A pipe for errors too. -/
  | pipeAll
  | semicolon
  | endArm (after : AfterArm)
  | ampersand
  | openParen
  | closeParen
  | newline
  | redirect (fd : Option Nat) (direction : Direction)
  /-- The start of input that stands in the script, with or without tabs in front of its lines. -/
  | document (fd : Option Nat) (dropTabs : Bool)
  /-- The sign before a word that is a line of input. -/
  | lineOfInput (fd : Option Nat)
  /-- The redirection of output and errors. -/
  | everything (atEnd : Bool)
  | done
deriving Inhabited

/-- A word that stands for itself, if it has no quotes and nothing to expand. -/
def plainText? : Word → Option (List Char)
  | [.text s false] => some s
  | _ => none

/-- Words that are signs where a command can begin. -/
def keywords : List String :=
  ["!", "\x7b", "\x7d", "case", "do", "done", "elif", "else", "esac", "fi", "for", "if", "in", "then",
   "until", "while"]

/-- The keyword that a word is, if it is one. -/
def keyword? (w : Word) : Option String := do
  let s ← plainText? w
  let s := String.ofList s
  if keywords.contains s then some s else none

/-- More keywords of the extended language. -/
def extendedKeywords : List String := ["[[", "]]", "function", "time"]

/-- The keywords of a language. -/
def Dialect.keywords : Dialect → List String
  | common => Shell.keywords
  | extended => Shell.keywords ++ extendedKeywords

namespace Token

/-- A token in messages. -/
def shown : Token → String
  | word w =>
    match keyword? w with
    | some s => "\"" ++ s ++ "\""
    | none => "word"
  | and => "\"&&\""
  | or => "\"||\""
  | pipe => "\"|\""
  | pipeAll => "\"|&\""
  | semicolon => "\";\""
  | endArm _ => "\";;\""
  | ampersand => "\"&\""
  | openParen => "\"(\""
  | closeParen => "\")\""
  | newline => "newline"
  | redirect _ _ | document _ _ | lineOfInput _ | everything _ => "redirection"
  | done => "end of file"

/-- A token as it is written. -/
def written : Token → List Char
  | word w => w.flatMap fun
    | .text s _ => s
    | _ => []
  | and => "&&".toList
  | or => "||".toList
  | pipe => "|".toList
  | pipeAll => "|&".toList
  | semicolon => ";".toList
  | endArm .leave => ";;".toList
  | endArm .fallThrough => ";&".toList
  | endArm .resume => ";;&".toList
  | ampersand => "&".toList
  | openParen => "(".toList
  | closeParen => ")".toList
  | newline => "newline".toList
  | redirect _ d => match d with
    | .input => "<".toList
    | .output => ">".toList
    | .forcedOutput => ">|".toList
    | .append => ">>".toList
    | .inputOutput => "<>".toList
    | .copyInput => "<&".toList
    | .copyOutput => ">&".toList
  | document _ dropTabs => if dropTabs then "<<-".toList else "<<".toList
  | lineOfInput _ => "<<<".toList
  | everything atEnd => if atEnd then "&>>".toList else "&>".toList
  | done => []

/-- Whether a token is a given keyword. -/
def isKeyword (t : Token) (s : String) : Bool :=
  match t with
  | word w => keyword? w == some s
  | _ => false

end Token

/-- What is wrong with a command line. -/
inductive SyntaxProblem where
  /-- A token that cannot stand where it is, and the only one that could. -/
  | unexpected (t : Token) (expected : Option String)
  /-- Something that the end of the script leaves open, and the sign that would close it. -/
  | unclosed (sign : Char) (message : String)
  /-- A condition that makes no sense at a token. -/
  | halfCondition (message : String) (t : Token)
  | other (message : String)

/-- What is wrong with a command line, and on which line. -/
structure SyntaxError where
  line : Nat
  problem : SyntaxProblem
  /-- The line itself. -/
  source : List Char

/-- What is said about a mistake in the common language. -/
def SyntaxProblem.message : SyntaxProblem → String
  | unexpected t expected => t.shown ++ " unexpected" ++
    (match expected with
      | some e => " (expecting \"" ++ e ++ "\")"
      | none => "")
  | unclosed _ message | halfCondition message _ | other message => message

/-- The lines that are said about a mistake in the extended language. -/
def SyntaxError.lines (e : SyntaxError) : List (List Char) :=
  match e.problem with
  | .unexpected .done _ => ["syntax error: unexpected end of file".toList]
  | .unexpected t _ =>
    ["syntax error near unexpected token \x60".toList ++ t.written ++ ['\''],
     '\x60' :: e.source ++ ['\'']]
  | .unclosed sign _ => ["unexpected EOF while looking for matching \x60".toList ++ [sign, '\'']]
  | .halfCondition message t =>
    (if message.isEmpty then [] else [message.toList]) ++
      ["syntax error near \x60".toList ++ t.written ++ ['\''], '\x60' :: e.source ++ ['\'']]
  | .other message => [("syntax error: " ++ message).toList]

/-- Input that stands in the script and is still to be read. -/
structure PendingDocument where
  number : Nat
  delimiter : List Char
  dropTabs : Bool
  /-- Whether nothing in it is expanded. -/
  literal : Bool

/-- Names with the text that stands in their place where a command begins. -/
abbrev Aliases := List (List Char × List Char)

/-- What is left of a script. -/
structure Script where
  dialect : Dialect
  /-- All of the script, which began in the line `firstLine`. -/
  source : List Char
  firstLine : Nat
  input : List Char
  /-- The number of the current line. -/
  line : Nat
  /-- The number of the line in which something was opened last that has to be closed. -/
  opened : Nat
  /-- A token that was looked at and put back. -/
  pushed : Option Token
  pending : List PendingDocument
  /-- The input that stood in the script, by number. -/
  documents : List (Nat × Word)
  nextDocument : Nat
  aliases : Aliases
  /-- Names that were replaced, each with the length of the input behind its text. -/
  replaced : List (List Char × Nat)
  /-- Whether a text ended with a blank, after which the next word is looked up too; the length of
  the input behind the text. -/
  lookingUp : Option Nat

/-- A whole script. -/
def Script.ofText (d : Dialect) (text : List Char) (line firstDocument : Nat) (aliases : Aliases) :
    Script :=
  ⟨d, text, line, text, line, line, none, [], [], firstDocument, aliases, [], none⟩

/-- A line of a script. -/
def Script.lineAt (s : Script) (line : Nat) : List Char :=
  go s.source (line - s.firstLine)
where
  /-- The line that many lines further on. -/
  go : List Char → Nat → List Char
    | text, 0 => text.takeWhile (· ≠ '\n')
    | [], _ + 1 => []
    | c :: text, n + 1 => if c = '\n' then go text n else go text (n + 1)

/-- A step of reading a script. -/
abbrev Parser := StateT Script (Except SyntaxError)

namespace Parser

/-- Gives up because of a problem. -/
def failWith (problem : SyntaxProblem) : Parser α := do
  let s ← get
  let line := match s.dialect, problem with
    | .extended, .unexpected .newline _ => s.line - 1
    | .extended, .unclosed _ _ => s.opened
    | .extended, .halfCondition _ _ => s.opened
    | _, _ => s.line
  throw ⟨line, problem, s.lineAt line⟩

/-- Gives up. -/
def fail (message : String) : Parser α := failWith (.other message)

/-- Remembers that something was opened that has to be closed. -/
def markOpen : Parser Unit := modify fun s => { s with opened := s.line }

/-- Whether the script is one of the extended language. -/
def isExtended : Parser Bool := do return (← get).dialect = .extended

/-- The next character. -/
def peek : Parser (Option Char) := do return (← get).input.head?

/-- Takes the next character. -/
def take : Parser (Option Char) := do
  let s ← get
  match s.input with
  | [] => return none
  | c :: rest =>
    set { s with input := rest, line := if c = '\n' then s.line + 1 else s.line }
    return some c

/-- Passes over the next character. -/
def skip : Parser Unit := discard take

/-- Passes over the next character if it is `c`. -/
def accept (c : Char) : Parser Bool := do
  if (← peek) = some c then skip; return true
  else return false

/-- Takes characters while they are of a kind. -/
def takeWhile (p : Char → Bool) : Parser (List Char) := do
  let s ← get
  set { s with input := s.input.dropWhile p }
  return s.input.takeWhile p

/-- Puts a token back. -/
def pushBack (t : Token) : Parser Unit := modify fun s => { s with pushed := some t }

/-- Puts the text that a word is short for in the place of the word, which was just read. The value
is whether there is such a text. A name is not replaced within its own text, and none in the extended
language. -/
def replaceAlias (w : Word) : Parser Bool := do
  let s ← get
  match if s.dialect = .extended then none else plainText? w with
  | none => return false
  | some name =>
    let start := s.input.length + name.length
    let replaced := s.replaced.filter fun (_, length) => length < start
    match s.aliases.lookup name, replaced.lookup name with
    | some text, none =>
      let isOpen := text.getLast?.any fun c => c = ' ' || c = '\t'
      set { s with
        input := text ++ s.input
        replaced := (name, s.input.length) :: replaced
        lookingUp := if isOpen then some s.input.length else none }
      return true
    | _, _ => return false

/-- Replaces a word behind a text that ended with a blank. -/
def replaceNext (w : Word) : Parser Bool := do
  let s ← get
  match s.lookingUp with
  | some length =>
    if s.input.length < length then
      set { s with lookingUp := none }
      replaceAlias w
    else return false
  | none => return false

/-- Complains about a token in the place of an expected one. -/
def unexpected (t : Token) (expected : Option String) : Parser α :=
  failWith (.unexpected t expected)

end Parser

/-! ## Characters -/

/-- Whether a name can begin with a character. -/
def isNameStart (c : Char) : Bool := c.isAlpha || c = '_'

/-- Whether a name can go on with a character. -/
def isNameChar (c : Char) : Bool := c.isAlphanum || c = '_'

/-- Whether a text is a name. -/
def isName : List Char → Bool
  | [] => false
  | c :: s => isNameStart c && s.all isNameChar

/-- Names of parameters that are no names of variables. -/
def isSpecial (c : Char) : Bool := c ∈ ['@', '*', '#', '?', '-', '$', '!']

/-- Whether a character ends a word. -/
def isDelimiter (c : Char) : Bool :=
  c ∈ [' ', '\t', '\n', ';', '&', '|', '<', '>', '(', ')']

/-- Puts a character in front of a word, together with text that is quoted alike. -/
def consChar (c : Char) (quoted : Bool) : Word → Word
  | .text s q :: rest =>
    if q = quoted then .text (c :: s) q :: rest else .text [c] quoted :: .text s q :: rest
  | w => .text [c] quoted :: w

/-- Joins texts that stand beside each other and are quoted alike. -/
def joinTexts : Word → Word
  | [] => []
  | .text s q :: rest =>
    match joinTexts rest with
    | .text s' q' :: rest' =>
      if q = q' then .text (s ++ s') q :: rest' else .text s q :: .text s' q' :: rest'
    | rest' => .text s q :: rest'
  | p :: rest => p :: joinTexts rest

/-! ## Pieces of words

A word taken apart further: each of its characters without quotes is a piece, and
so is every other part. Assignments and alternatives in braces are found by the
characters without quotes alone.
-/

/-- A character without quotes, or another part of a word. -/
inductive Piece where
  | char (c : Char)
  | part (p : Part)

/-- The pieces of a word. -/
def pieces (w : Word) : List Piece :=
  w.flatMap fun
    | .text s false => s.map .char
    | p => [.part p]

/-- The word that pieces make. -/
def ofPieces : List Piece → Word
  | [] => []
  | .char c :: rest => consChar c false (ofPieces rest)
  | .part p :: rest => p :: ofPieces rest

/-! ## Assignments -/

/-- An assignment to a variable or, with a key, to an element of an array. -/
structure Assignment where
  name : List Char
  key : Option Word
  /-- Whether the value is added to what there is. -/
  adds : Bool
  value : Word

namespace Assignment

/-- The characters of a name at the start, and what follows them. -/
def leadingName : List Piece → List Char × List Piece
  | .char c :: rest =>
    if isNameChar c then
      let (name, rest) := leadingName rest
      (c :: name, rest)
    else ([], .char c :: rest)
  | rest => ([], rest)

/-- What stands before the bracket that closes a key, and what follows it. -/
def closeKey? : (depth : Nat) → List Piece → Option (List Piece × List Piece)
  | _, [] => none
  | 0, .char ']' :: rest => some ([], rest)
  | depth + 1, .char ']' :: rest => (closeKey? depth rest).map fun (key, rest) => (.char ']' :: key, rest)
  | depth, .char '[' :: rest =>
    (closeKey? (depth + 1) rest).map fun (key, rest) => (.char '[' :: key, rest)
  | depth, p :: rest => (closeKey? depth rest).map fun (key, rest) => (p :: key, rest)

/-- The value behind a sign, and whether it is added. -/
def value? : List Piece → Option (Bool × Word)
  | .char '=' :: rest => some (false, ofPieces rest)
  | .char '+' :: .char '=' :: rest => some (true, ofPieces rest)
  | _ => none

/-- A key in brackets at the start, and what follows it. -/
def key? : List Piece → Option (Word × List Piece)
  | .char '[' :: rest => (closeKey? 0 rest).map fun (key, rest) => (ofPieces key, rest)
  | _ => none

/-- The assignment that a word of the extended language is. -/
def extended? (w : Word) : Option Assignment := do
  let (name, rest) := leadingName (pieces w)
  if !isName name then none
  else
    match key? rest with
    | some (key, rest) => do
      let (adds, value) ← value? rest
      return ⟨name, some key, adds, value⟩
    | none => do
      let (adds, value) ← value? rest
      return ⟨name, none, adds, value⟩

/-- The assignment that a word of the common language is. -/
def common? : Word → Option Assignment
  | .text s false :: rest =>
    let name := s.takeWhile (· ≠ '=')
    if isName name ∧ name.length < s.length then
      let value := s.drop (name.length + 1)
      some ⟨name, none, false, if value = [] then rest else .text value false :: rest⟩
    else none
  | _ => none

/-- The assignment that a word is. -/
def ofWord? : Dialect → Word → Option Assignment
  | .common, w => common? w
  | .extended, w => extended? w

end Assignment

end ProgramRepair.Shell
