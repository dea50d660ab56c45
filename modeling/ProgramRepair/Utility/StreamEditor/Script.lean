import ProgramRepair.Utility.Print
import ProgramRepair.Utility.Regex

/-!
# Scripts of the stream editor

A script is a list of instructions, each with the lines that it is meant for. It is read
from several pieces, arguments or files, and whatever is wrong with it is reported with
the piece and the place in it.
-/

namespace ProgramRepair.Utility.StreamEditor

/-! ## Instructions -/

/-- An expression. -/
inductive Search where
  | regex (r : Regex) (ignoreCase : Bool)
  /-- The expression that was used last. -/
  | latest
deriving Repr, Inhabited

/-- A place in the input. -/
inductive Address where
  | line (n : Nat)
  | last
  | pattern (s : Search)
  /-- Every line that is a number of steps behind the first. -/
  | every (first step : Nat)
  /-- So many lines behind the start of a range. -/
  | offset (n : Nat)
  /-- The next line whose number is a multiple. -/
  | multiple (n : Nat)
deriving Repr, Inhabited

/-- How letters are changed. -/
inductive CaseChange where
  | lower
  | upper
deriving Repr, DecidableEq

/-- A piece of what is put in the place of a match. -/
inductive Piece where
  | text (s : List Char)
  | group (n : Nat)
  /-- The next letter is changed. -/
  | changeNext (c : CaseChange)
  /-- All letters are changed from here on, or none any more. -/
  | changeAll (c : Option CaseChange)
deriving Repr, DecidableEq

/-- A substitution. -/
structure Substitution where
  search : Search
  replacement : List Piece
  /-- The first match that is replaced. -/
  nth : Nat
  all : Bool
  print : Bool
  /-- A file that changed lines are written to. -/
  file : Option (List Char)
deriving Repr, Inhabited

/-- What an instruction does. -/
inductive Action where
  | substitute (s : Substitution)
  | translate (pairs : List (Char × Char))
  | print
  | printFirst
  | delete
  | deleteFirst
  | quit (code : Nat) (silent : Bool)
  | number
  | fileName
  /-- Prints the line with signs for all characters, in rows of some width. -/
  | list (width : Option Nat)
  | append (text : List Char)
  | insert (text : List Char)
  | change (text : List Char)
  | readFile (path : List Char)
  | readLine (path : List Char)
  | write (path : List Char) (firstOnly : Bool)
  | next
  | nextAppend
  | hold (append : Bool)
  | fetch (append : Bool)
  | exchange
  | clear
  /-- The start of a block; it says how many instructions are in it. -/
  | block (size : Nat)
  | label (name : List Char)
  /-- A jump: always, or only after a substitution, or only without one. -/
  | branch (name : List Char) (afterChange : Option Bool)
deriving Repr, Inhabited

/-- An instruction and the lines that it is meant for. -/
structure Instruction where
  start : Option Address
  stop : Option Address
  negated : Bool
  action : Action
deriving Repr, Inhabited

/-! ## Reading -/

/-- Where a piece of a script comes from. -/
inductive Origin where
  | argument (number : Nat)
  | file (name : List Char)
deriving Repr

/-- A piece of a script. -/
structure ScriptPiece where
  origin : Origin
  text : List Char

/-- A script that is being read. -/
structure Source where
  pieces : List ScriptPiece
  input : List Char
  /-- The number of characters that were read. -/
  read : Nat
  extended : Bool

abbrev Reading := StateT Source (Except String)

/-- The words for a place behind some characters of a script. -/
def placeText : List ScriptPiece → Nat → String
  | [], _ => ""
  | p :: rest, n =>
    if rest.isEmpty ∨ n ≤ p.text.length then
      match p.origin with
      | .argument number => "-e expression #" ++ toString number ++ ", char " ++ toString n ++ ": "
      | .file name =>
        let lines := ((p.text.take n).count '\n') + 1
        "file " ++ shown name ++ " line " ++ toString lines ++ ": "
    else placeText rest (n - p.text.length - 1)

namespace Reading

/-- Gives up at the current character. -/
def fail (message : String) : Reading α := do
  let s ← get
  throw (placeText s.pieces s.read ++ message)

/-- Gives up because of a block that has no end, of which `read` characters came before. -/
def failOpen (read : Nat) : Reading α := do
  let s ← get
  let place := match owner s.pieces read with
    | some (.argument number) => "-e expression #" ++ toString number ++ ", char 0: "
    | _ => placeText s.pieces read
  throw (place ++ "unmatched \x60\x7b'")
where
  /-- The origin of a character. -/
  owner : List ScriptPiece → Nat → Option Origin
    | [], _ => none
    | p :: rest, n => if n ≤ p.text.length then some p.origin else owner rest (n - p.text.length - 1)

def peek : Reading (Option Char) := return (← get).input.head?

/-- Takes one character. -/
def take : Reading (Option Char) := do
  let s ← get
  match s.input with
  | [] => return none
  | c :: rest =>
    set { s with input := rest, read := s.read + 1 }
    return some c

def skipWhile (p : Char → Bool) : Reading (List Char) := do
  let s ← get
  let taken := s.input.takeWhile p
  set { s with input := s.input.drop taken.length, read := s.read + taken.length }
  return taken

def isBlank (c : Char) : Bool := c = ' ' || c = '\t'

def skipBlanks : Reading Unit := discard <| skipWhile isBlank

def number : Reading (Option Nat) := return natural? (← skipWhile Char.isDigit)

/-- The text up to a mark, with the mark in it where it stands behind a backslash. Within brackets of
an expression the mark counts as any other character. -/
def delimited (mark : Char) (isRegex : Bool) (inSet : Bool) (message : String) :
    Nat → Reading (List Char)
  | 0 => fail message
  | fuel + 1 => do
    match ← peek with
    | none => fail message
    | some '\n' => if isRegex || inSet then fail message else plain '\n' fuel
    | some '\\' =>
      let _ ← take
      match ← take with
      | none => fail message
      | some c =>
        let rest ← delimited mark isRegex inSet message fuel
        if c = mark ∧ !(c = '&' ∧ !isRegex) then return c :: rest
        else if c = 'n' ∧ isRegex then return '\n' :: rest
        else return '\\' :: c :: rest
    | some c => plain c fuel
where
  /-- Takes a character that is not escaped. -/
  plain (c : Char) (fuel : Nat) : Reading (List Char) := do
    if c = '\n' then fail message
    let _ ← take
    if c = mark ∧ !inSet then return []
    else
      let inSet := if inSet then c ≠ ']' else isRegex && c = '['
      return c :: (← delimited mark isRegex inSet message fuel)

def delimitedBy (mark : Char) (isRegex : Bool) (message : String) : Reading (List Char) := do
  delimited mark isRegex false message ((← get).input.length + 1)

/-- A character that an escape stands for, and what follows it. -/
def escapedChar? : List Char → Option (Char × List Char)
  | 'a' :: s => some ('\x07', s)
  | 'f' :: s => some ('\x0c', s)
  | 'n' :: s => some ('\n', s)
  | 'r' :: s => some ('\x0d', s)
  | 't' :: s => some ('\t', s)
  | 'v' :: s => some ('\x0b', s)
  | 'c' :: c :: s => some (Char.ofNat (c.toUpper.toNat ^^^ 64), s)
  | 'd' :: s => numbered 10 Char.isDigit 3 s
  | 'o' :: s => numbered 8 isOctal 3 s
  | 'x' :: s => numbered 16 isHexDigit 2 s
  | _ => none
where
  /-- The character with a number. -/
  numbered (base : Nat) (isDigit : Char → Bool) (most : Nat) (s : List Char) :
      Option (Char × List Char) :=
    let ds := (s.takeWhile isDigit).take most
    if ds.isEmpty then none
    else
      let n := ds.foldl (fun n d => base * n + hexDigitValue d) 0
      some (Char.ofNat (n % 256), s.drop ds.length)

/-- The text of an expression with its escapes for characters replaced. -/
def plainRegexText : Nat → List Char → List Char
  | 0, s => s
  | _ + 1, [] => []
  | fuel + 1, '\\' :: s =>
    match escapedChar? s, s with
    | some (c, rest), _ => c :: plainRegexText fuel rest
    | none, c :: rest => '\\' :: c :: plainRegexText fuel rest
    | none, [] => ['\\']
  | fuel + 1, c :: s => c :: plainRegexText fuel s

/-- Reads an expression with its flags. -/
def search (text : List Char) (ignoreCase byRows : Bool) : Reading Search := do
  if text.isEmpty then return .latest
  else
    let d : Regex.Dialect := if (← get).extended then .extendedEditing else .basicEditing
    match Regex.ofText d (plainRegexText (text.length + 1) text) with
    | .ok r => return .regex (if byRows then r.byRows else r) ignoreCase
    | .error .bareClass => throw Regex.Problem.bareClass.message
    | .error problem => fail problem.message

/-- An address in the form of an expression up to a mark. -/
def patternAddress (mark : Char) : Reading Address := do
  let text ← delimitedBy mark true "unterminated address regex"
  let flags ← skipWhile fun c => c = 'I' || c = 'M'
  return .pattern (← search text (flags.contains 'I') (flags.contains 'M'))

/-- An address, if there is one. -/
def address? : Reading (Option Address) := do
  match ← peek with
  | some '$' =>
    let _ ← take
    return some .last
  | some '/' =>
    let _ ← take
    return some (← patternAddress '/')
  | some '\\' =>
    let _ ← take
    match ← take with
    | none => fail "unterminated address regex"
    | some mark => return some (← patternAddress mark)
  | some '+' =>
    let _ ← take
    return some (.offset ((← number).getD 0))
  | some '~' =>
    let _ ← take
    return some (.multiple ((← number).getD 0))
  | _ =>
    match ← number with
    | none => return none
    | some n =>
      skipBlanks
      match ← peek with
      | some '~' =>
        let _ ← take
        skipBlanks
        return some (.every n ((← number).getD 0))
      | _ => return some (.line n)

/-- The pieces of a replacement. -/
def pieces : Nat → List Char → List Piece
  | 0, _ => []
  | _ + 1, [] => []
  | fuel + 1, '&' :: s => .group 0 :: pieces fuel s
  | fuel + 1, '\\' :: c :: s =>
    if c.isDigit then .group (c.toNat - '0'.toNat) :: pieces fuel s
    else
      match c with
      | 'L' => .changeAll (some .lower) :: pieces fuel s
      | 'U' => .changeAll (some .upper) :: pieces fuel s
      | 'E' => .changeAll none :: pieces fuel s
      | 'l' => .changeNext .lower :: pieces fuel s
      | 'u' => .changeNext .upper :: pieces fuel s
      | c =>
        match escapedChar? (c :: s) with
        | some (e, rest) => .text [e] :: pieces fuel rest
        | none => .text [c] :: pieces fuel s
  | fuel + 1, c :: s => .text [c] :: pieces fuel s

/-- The name of a file, which goes up to the end of the line. -/
def filePath : Reading (List Char) := do
  skipBlanks
  let path ← skipWhile (· ≠ '\n')
  let s ← get
  if path.isEmpty then fail "missing filename in r/R/w/W commands"
  else
    set { s with input := s.input.drop 1, read := s.read + (if s.input.isEmpty then 0 else 1) }
    return path

/-- The flags of a substitution. -/
structure Flags where
  all : Bool
  print : Bool
  ignoreCase : Bool
  byRows : Bool
  nth : Option Nat
  file : Option (List Char)

/-- Reads the flags of a substitution and the end of the instruction. -/
def flags : Nat → Flags → Reading Flags
  | 0, f => return f
  | fuel + 1, f => do
    match ← peek with
    | none => return f
    | some '\x7d' | some '#' => return f
    | some c =>
      if c.isDigit then
        if f.nth.isSome then
          let _ ← take
          fail "multiple number options to \x60s' command"
        match ← number with
        | some 0 => fail "number option to \x60s' command may not be zero"
        | n => flags fuel { f with nth := n }
      else
        let _ ← take
        match c with
        | '\n' | ';' => return f
        | ' ' | '\t' | '\x0d' => flags fuel f
        | 'i' | 'I' => flags fuel { f with ignoreCase := true }
        | 'm' | 'M' => flags fuel { f with byRows := true }
        | 'g' =>
          if f.all then fail "multiple \x60g' options to \x60s' command"
          flags fuel { f with all := true }
        | 'p' =>
          if f.print then fail "multiple \x60p' options to \x60s' command"
          flags fuel { f with print := true }
        | 'w' => return { f with file := some (← filePath) }
        | _ => fail "unknown option to \x60s'"

/-- A text that is added, with its escapes replaced, and how many characters of the script it takes
up. It ends with a line break that has no backslash before it. -/
def addedLines : Nat → List Char → List Char × Nat
  | 0, _ => ([], 0)
  | _ + 1, [] => ([], 0)
  | _ + 1, '\n' :: _ => ([], 1)
  | _ + 1, ['\\'] => ([], 1)
  | fuel + 1, '\\' :: c :: rest =>
    match if c = '\n' then none else escapedChar? (c :: rest) with
    | some (e, after) =>
      let (text, used) := addedLines fuel after
      (e :: text, used + 1 + (rest.length + 1 - after.length))
    | none =>
      let (text, used) := addedLines fuel rest
      (c :: text, used + 2)
  | fuel + 1, c :: rest =>
    let (text, used) := addedLines fuel rest
    (c :: text, used + 1)

/-- The text of an instruction that adds lines. -/
def addedText : Reading (List Char) := do
  skipBlanks
  match (← get).input with
  | [] => fail "expected \\ after \x60a', \x60c' or \x60i'"
  | '\\' :: rest =>
    let _ ← take
    let blanks := rest.takeWhile isBlank
    match rest.drop blanks.length with
    | [] => return []
    | '\n' :: _ =>
      skipBlanks
      let _ ← take
    | _ => pure ()
  | _ => pure ()
  let s ← get
  let (text, used) := addedLines (s.input.length + 1) s.input
  set { s with input := s.input.drop used, read := s.read + used }
  return if text.isEmpty then [] else text ++ ['\n']

/-- The end of an instruction. -/
def finish : Reading Unit := do
  skipBlanks
  match ← peek with
  | none | some '\x7d' | some '#' => return ()
  | some ';' | some '\n' => discard take
  | some _ =>
    let _ ← take
    fail "extra characters after command"

/-- The name of a label, and the end of the instruction. -/
def labelName : Reading (List Char) := do
  skipBlanks
  let name ← skipWhile fun c => !(c = ';' || Text.isSpaceChar c || c = '\x7d')
  finish
  return name

/-- A character of the strings that characters are replaced by, and what follows it. -/
def plainCharacters : Nat → List Char → List Char
  | 0, _ => []
  | _ + 1, [] => []
  | fuel + 1, '\\' :: c :: s =>
    match escapedChar? (c :: s) with
    | some (e, rest) => e :: plainCharacters fuel rest
    | none => c :: plainCharacters fuel s
  | fuel + 1, c :: s => c :: plainCharacters fuel s

/-- The rest of a substitution. -/
def substitution : Reading Action := do
  let message := "unterminated \x60s' command"
  match ← take with
  | none => fail message
  | some mark =>
    let text ← delimitedBy mark true message
    let replacement ← replacementBy mark message
    let replacement := pieces (replacement.length + 1) replacement
    let f ← flags ((← get).input.length + 1) ⟨false, false, false, false, none, none⟩
    let s ← search text f.ignoreCase f.byRows
    match s with
    | .regex r _ =>
      for p in replacement do
        match p with
        | .group n =>
          if r.groupCount < n then
            fail ("invalid reference \\" ++ toString n ++ " on \x60s' command's RHS")
        | _ => pure ()
    | .latest => pure ()
    return .substitute ⟨s, replacement, f.nth.getD 1, f.all, f.print, f.file⟩
where
  /-- What is put in the place of a match. A line break in it stands behind a backslash. -/
  replacementBy (mark : Char) (message : String) : Reading (List Char) :=
    delimitedBy mark false message

/-- The rest of a translation. -/
def translation : Reading Action := do
  let message := "unterminated \x60y' command"
  match ← take with
  | none => fail message
  | some mark =>
    let plain := fun (s : List Char) => plainCharacters (s.length + 1) s
    let old := plain (← delimitedBy mark false message)
    let new := plain (← delimitedBy mark false message)
    if old.length ≠ new.length then fail "strings for \x60y' command are different lengths"
    finish
    return .translate (old.zip new)

/-- The action of an instruction with all that belongs to it. -/
def action (addresses : Nat) : Reading Action := do
  let plain := fun (a : Action) => do
    finish
    return a
  let code := fun (silent : Bool) => do
    if 1 < addresses then fail "command only uses one address"
    skipBlanks
    let n := (← number).getD 0
    finish
    return Action.quit n silent
  match ← take with
  | some 's' => substitution
  | some 'y' => translation
  | some 'p' => plain .print
  | some 'P' => plain .printFirst
  | some 'd' => plain .delete
  | some 'D' => plain .deleteFirst
  | some '=' => plain .number
  | some 'F' => plain .fileName
  | some 'n' => plain .next
  | some 'N' => plain .nextAppend
  | some 'h' => plain (.hold false)
  | some 'H' => plain (.hold true)
  | some 'g' => plain (.fetch false)
  | some 'G' => plain (.fetch true)
  | some 'x' => plain .exchange
  | some 'z' => plain .clear
  | some 'a' => return .append (← addedText)
  | some 'i' => return .insert (← addedText)
  | some 'c' => return .change (← addedText)
  | some 'r' => return .readFile (← filePath)
  | some 'R' => return .readLine (← filePath)
  | some 'w' => return .write (← filePath) false
  | some 'W' => return .write (← filePath) true
  | some 'l' =>
    skipBlanks
    let width ← number
    plain (.list width)
  | some 'q' => code false
  | some 'Q' => code true
  | some ':' =>
    if 0 < addresses then fail ": doesn't want any addresses"
    let name ← labelName
    if name.isEmpty then fail "\":\" lacks a label"
    return .label name
  | some 'b' => return .branch (← labelName) none
  | some 't' => return .branch (← labelName) (some true)
  | some 'T' => return .branch (← labelName) (some false)
  | some '\x7b' => return .block 0
  | some c => fail ("unknown command: \x60" ++ shown [c] ++ "'")
  | none => fail "missing command"

/-- The addresses of an instruction. -/
def addresses : Reading (Option Address × Option Address) := do
  match ← address? with
  | none => return (none, none)
  | some first =>
    match first with
    | .offset _ | .multiple _ => fail "invalid usage of +N or ~N as first address"
    | _ => pure ()
    skipBlanks
    let second ← do
      if (← peek) = some ',' then
        let _ ← take
        skipBlanks
        match ← address? with
        | some a => pure (some a)
        | none =>
          let _ ← take
          fail "unexpected \x60,'"
      else pure none
    skipBlanks
    match first, second with
    | .line 0, some (.pattern _) => return (some first, second)
    | .line 0, _ =>
      let _ ← take
      fail "invalid usage of line address 0"
    | _, _ => return (some first, second)

/-- The instructions of a script or of a block, which began behind `opened` characters. -/
def instructions (opened : Option Nat) : Nat → Reading (List Instruction)
  | 0 => return []
  | fuel + 1 => do
    let _ ← skipWhile fun c => Text.isSpaceChar c || c = ';'
    match ← peek with
    | none =>
      match opened with
      | some read => failOpen read
      | none => return []
    | some _ =>
      let (start, stop) ← addresses
      let marked : Bool := (← peek) = some '!'
      if marked then
        let _ ← take
        skipBlanks
        if (← peek) = some '!' then
          let _ ← take
          fail "multiple \x60!'s"
      match ← peek with
      | some '#' =>
        if start.isSome then
          let _ ← take
          fail "comments don't accept any addresses"
        let _ ← skipWhile (· ≠ '\n')
        instructions opened fuel
      | some '\x7d' =>
        let _ ← take
        if opened.isNone then fail "unexpected \x60\x7d'"
        if start.isSome then fail "\x60\x7d' doesn't want any addresses"
        finish
        return []
      | _ =>
        let count := (if start.isSome then 1 else 0) + (if stop.isSome then 1 else 0)
        let a ← action count
        match a with
        | .block _ =>
          let body ← instructions (some (← get).read) fuel
          let first : Instruction := ⟨start, stop, marked, .block body.length⟩
          return first :: body ++ (← instructions opened fuel)
        | a => return ⟨start, stop, marked, a⟩ :: (← instructions opened fuel)

end Reading

/-- Whether a script begins with the line `#n`, which keeps lines from being printed. -/
def asksForQuiet (pieces : List ScriptPiece) : Bool :=
  match pieces.head?.map (·.text) with
  | some ('#' :: 'n' :: rest) => rest.head?.all (· = '\n')
  | _ => false

/-- The instructions of a script. -/
def parse (extended : Bool) (pieces : List ScriptPiece) : Except String (List Instruction) := do
  let text := List.flatten ((pieces.map (·.text)).intersperse ['\n'])
  let (all, _) ← Reading.instructions none (2 * text.length + 2) ⟨pieces, text, 0, extended⟩
  return all

/-- The first label that an instruction jumps to and that there is not. -/
def missingLabel? (script : List Instruction) : Option (List Char) :=
  let labels := script.filterMap fun i =>
    match i.action with
    | .label name => some name
    | _ => none
  script.findSome? fun i =>
    match i.action with
    | .branch name _ => if name ≠ [] ∧ !labels.contains name then some name else none
    | _ => none

end ProgramRepair.Utility.StreamEditor
