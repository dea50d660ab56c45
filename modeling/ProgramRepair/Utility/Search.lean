import ProgramRepair.Text.Pattern
import ProgramRepair.Utility.Regex
import ProgramRepair.Utility.Streams

/-!
# Searching lines

`grep` selects the lines of its inputs in which an expression matches. What it
prints about them, and whether it goes on after the first one, is up to its
options.
-/

namespace ProgramRepair.Utility

open Machine

namespace Grep

/-! ## Lines that are selected -/

/-- What is searched for. -/
structure Query where
  regex : Regex
  ignoreCase : Bool
  inverted : Bool
  wholeWords : Bool
  wholeLines : Bool
  /-- How many lines before and after a selected one are printed too. -/
  linesBefore : Nat
  linesAfter : Nat
  /-- The most lines that are selected. -/
  limit : Option Nat
  /-- The character at the end of a line. -/
  lineEnd : Char

/-- The first match in the rest of a line behind some text. -/
def Query.find? (q : Query) (before rest : List Char) : Option Regex.Match :=
  let accepts := fun (a b : Regex.Cursor) =>
    (!q.wholeWords || (!a.sides.1 && !b.sides.2)) &&
      (!q.wholeLines || (a.before.isEmpty && b.rest.isEmpty))
  Regex.search q.ignoreCase q.regex accepts (rest.length + 1) (.between before rest)

/-- Whether a line is selected. -/
def Query.selects (q : Query) (line : List Char) : Bool :=
  (q.find? [] line).isSome != q.inverted

/-- All matches in a line that are not empty, with the number of characters before each. -/
def Query.matchesIn (q : Query) (before : List Char) : Nat → List Char → List (Nat × List Char)
  | 0, _ => []
  | fuel + 1, rest =>
    match q.find? before rest with
    | none => []
    | some m =>
      match m.text, m.after with
      | [], [] => []
      | [], c :: after => q.matchesIn (m.before ++ [c]) fuel after
      | text, after => (m.before.length, text) :: q.matchesIn (m.before ++ text) fuel after

/-- A line, its number, and how many characters are before it. -/
structure Located where
  number : Nat
  offset : Nat
  text : List Char

/-- What is known in the middle of an input. -/
structure Progress where
  /-- The number of lines read. -/
  lines : Nat
  /-- The number of characters read. -/
  offset : Nat
  selected : Nat
  /-- What is to be printed, in reverse order. -/
  output : List (List Char)
  binary : Bool
  /-- Lines that are printed if one that follows soon is selected, the latest first. -/
  recent : List Located
  /-- How many of the next lines are printed. -/
  following : Nat
  /-- The number of the last line that is printed. -/
  printed : Nat
  /-- Whether the output cannot be printed. -/
  stopped : Bool
  /-- How many characters there are up to the end of the last selected line. -/
  selectedEnd : Nat

namespace Progress

def start : Progress := ⟨0, 0, 0, [], false, [], 0, 0, false, 0⟩

end Progress

/-- What stands in front of a line: the title of its input, its number and its offset. -/
def leadOf (o : Options) (title : List Char) (mark : Char) (number offset : Nat) : List Char :=
  let parts := [(o.has 'n', digits number), (o.has 'b', digits offset)]
  let shownParts := (parts.filter (·.1)).flatMap fun (_, part) => part ++ [mark]
  let tab := if o.has 'T' && (o.has 'n' || o.has 'b' || !title.isEmpty) then ['\t'] else []
  (if title.isEmpty then [] else title ++ [if o.has 'Z' then '\x00' else mark]) ++ shownParts ++ tab

/-- What is to be printed about a selected line. -/
def describe (o : Options) (q : Query) (title : List Char) (line : Located) : List (List Char) :=
  if o.has 'o' then
    if q.inverted then []
    else (q.matchesIn [] (line.text.length + 1) line.text).map fun (before, m) =>
      leadOf o title ':' line.number (line.offset + before) ++ m ++ [q.lineEnd]
  else [leadOf o title ':' line.number line.offset ++ line.text ++ [q.lineEnd]]

/-- Prints a line that is not selected itself. -/
def Progress.putContext (o : Options) (q : Query) (title : List Char) (p : Progress)
    (line : Located) : Progress :=
  let text := leadOf o title '-' line.number line.offset ++ line.text ++ [q.lineEnd]
  { p with output := if o.has 'o' then p.output else text :: p.output, printed := line.number }

/-- Prints a selected line and those before it, with a mark where lines were left out. -/
def Progress.putSelected (o : Options) (q : Query) (title : List Char) (p : Progress)
    (line : Located) : Progress :=
  let first := ((p.recent.getLast?).map (·.number)).getD line.number
  let marked := (0 < q.linesBefore || 0 < q.linesAfter) && 0 < p.printed && p.printed + 1 < first
  let p := { p with output := if marked then ['-', '-', '\n'] :: p.output else p.output }
  let p := p.recent.reverse.foldl (fun p line => p.putContext o q title line) p
  { p with
    output := (describe o q title line).reverse ++ p.output
    recent := []
    following := q.linesAfter
    printed := line.number }

/-- Whether nothing is printed about single lines. -/
def isSilent (o : Options) (p : Progress) : Bool :=
  o.has 'q' || o.has 'c' || o.has 'l' || o.has 'L' || p.binary

/-- Takes one line into account. -/
def Progress.add (o : Options) (q : Query) (title : List Char) (p : Progress) (text : List Char) :
    Progress :=
  let line : Located := ⟨p.lines + 1, p.offset, text⟩
  let p := { p with lines := line.number, offset := p.offset + text.length + 1 }
  if q.selects text then
    let p := { p with selected := p.selected + 1, selectedEnd := p.offset }
    if isSilent o p then p else p.putSelected o q title line
  else if isSilent o p then p
  else if 0 < p.following then
    { p with following := p.following - 1 }.putContext o q title line
  else { p with recent := (line :: p.recent).take q.linesBefore }

/-- Whether no more lines are selected. -/
def Progress.isEnough (o : Options) (q : Query) (p : Progress) : Bool :=
  q.limit.any (· ≤ p.selected) ||
    (0 < p.selected && (o.has 'q' || o.has 'l' || o.has 'L' || (p.binary && !o.has 'c')))

/-- Takes lines into account while they matter: after the last selected one there may be some that
are printed with it. -/
def Progress.addAll (o : Options) (q : Query) (title : List Char) (p : Progress) :
    List (List Char) → Progress
  | [] => p
  | text :: rest =>
    if p.isEnough o q then
      if 0 < p.following && !isSilent o p && !q.selects text then
        let line : Located := ⟨p.lines + 1, p.offset, text⟩
        let p := { p with
          lines := line.number
          offset := p.offset + text.length + 1
          following := p.following - 1 }
        (p.putContext o q title line).addAll o q title rest
      else { p with following := 0 }
    else (p.add o q title text).addAll o q title rest

/-- Prints a text. The result says whether that was possible. -/
def couldPrint (text : List Char) : Work Bool := do
  if text.isEmpty then return true
  else
    match ← put text with
    | .ok () => return true
    | .error e =>
      warn "grep" ("write error: " ++ e.systemText)
      return false

/-- Prints what has been collected. -/
def Progress.flush (p : Progress) : Work Progress := do
  let stopped := !(← couldPrint p.output.reverse.flatten)
  return { p with output := [], stopped }

/-- Whether inputs that are no text are searched as if they were. -/
def takesText (o : Options) : Bool := o.has 'a' || o.value? '4' = some "text".toList

/-- Whether nothing is selected in inputs that are no text. -/
def skipsBinary (o : Options) : Bool :=
  o.has 'I' || o.value? '4' = some "without-match".toList

/-- Goes back to the end of the last selected line if no more are wanted; `size` is how many
characters were read. -/
def goBack (q : Query) (fd size : Nat) (p : Progress) : Work Unit := do
  if q.limit.any (· ≤ p.selected) then Work.call (Kernel.unread fd (size - p.selectedEnd))

/-- Reads an input while it matters; `left` has the parts of a line that has begun, the latest first,
and `size` is how many characters were read. Zeros in an input that is no text end a line too. -/
def readLines (o : Options) (q : Query) (title : List Char) (fd : Nat) (left : List (List Char))
    (size : Nat) (p : Progress) : Nat → Work (Except Disk.Error Progress)
  | 0 => .forever
  | times + 1 => do
    if p.stopped || (p.isEnough o q && p.following = 0) then
      goBack q fd size p
      return .ok p
    match ← Work.call (Kernel.read fd Work.blockSize) with
    | .error e => return .error e
    | .ok [] =>
      let last := left.reverse.flatten
      let p ← (p.addAll o q title (if last.isEmpty then [] else [last])).flush
      goBack q fd size p
      return .ok p
    | .ok bytes =>
      let text := Text.charsOfBytes bytes
      let hasZeros := q.lineEnd ≠ '\x00' && text.contains '\x00'
      let p := { p with binary := p.binary || (!takesText o && hasZeros) }
      let size := size + text.length
      if p.binary && skipsBinary o then return .ok { p with selected := 0 }
      let text := if p.binary then text.map fun c => if c = '\x00' then '\n' else c else text
      match (Text.cut q.lineEnd text).reverse with
      | [] => readLines o q title fd left size p times
      | [only] => readLines o q title fd (only :: left) size p times
      | last :: lines =>
        let lines := match lines.reverse with
          | [] => []
          | first :: others => (first :: left).reverse.flatten :: others
        let p ← (p.addAll o q title lines).flush
        readLines o q title fd [last] size p times

/-- What is printed behind the lines of one input. -/
def Progress.report (o : Options) (name title : List Char) (p : Progress) : List Char :=
  let nameEnd := if o.has 'Z' then ['\x00'] else ['\n']
  if o.has 'q' then []
  else if o.has 'l' then (if 0 < p.selected then name ++ nameEnd else [])
  else if o.has 'L' then (if 0 < p.selected then [] else name ++ nameEnd)
  else if o.has 'c' then
    (if title.isEmpty then [] else title ++ (if o.has 'Z' then ['\x00'] else [':'])) ++
      digits p.selected ++ ['\n']
  else []

/-- Whether lines were selected that are not printed, because they are no text. -/
def Progress.hidesMatches (o : Options) (p : Progress) : Bool :=
  p.binary && 0 < p.selected && !(['q', 'l', 'L', 'c'].any o.has)

/-- Searches inputs one after the other. The result is the exit code; `selected` and `failed` say
whether a line was selected and whether there was an error so far. -/
def searchFiles (o : Options) (q : Query) (titled : Bool) (cwd : Place)
    (selected failed : Bool) : List (List Char) → Work Nat
  | [] => return if failed then 2 else if selected then 0 else 1
  | path :: rest => do
    let name := if path = ['-'] then ((o.value? 'S').getD "(standard input)".toList) else path
    let title := if titled then name else []
    let read := fun fd => readLines o q title fd [] 0 .start Work.patience
    match ← if path = ['-'] then read 0 else withFile cwd path .reading read with
    | .ok p =>
      if p.stopped || !(← couldPrint (p.report o name title)) then return 2
      if p.hidesMatches o then warn "grep" (shown name ++ ": binary file matches")
      let found := if o.has 'L' then p.selected = 0 else 0 < p.selected
      if found ∧ o.has 'q' then return 0
      else searchFiles o q titled cwd (selected || found) failed rest
    | .error e =>
      let passed := e = .isDirectory && o.value? 'd' = some "skip".toList
      if !o.has 's' && !passed then warn "grep" (shown path ++ ": " ++ e.systemText)
      searchFiles o q titled cwd selected (failed || !passed) rest

/-! ## Files that are searched -/

/-- Whether a name fits one of some patterns. -/
def fitsOne (patterns : List (List Char)) (name : List Char) : Bool :=
  patterns.any fun p => Pattern.fits (bareText p) name

/-- Whether the file with a name is searched, as far as names of files go. -/
def isWanted (o : Options) (name : List Char) : Bool :=
  let included := o.valuesOf '1'
  (included.isEmpty || fitsOne included name) && !fitsOne (o.valuesOf '2') name

/-- The files that a path leads to, with those in directories. -/
def withDescendants (o : Options) (d : Disk) (cwd : Place) (path : List Char) :
    List (List Char) :=
  match d.find cwd (shown path) with
  | .ok (p, .directory _) =>
    (d.descendants p).filterMap fun q =>
      let inner := (q.drop p.length).map bytesChars
      let isFile := (d.lookup q).any fun e =>
        match e with
        | .file _ _ | .null => true
        | _ => false
      let outside := inner.dropLast.any (fitsOne (o.valuesOf '3'))
      if isFile && !outside && isWanted o (inner.getLast?.getD []) then
        let slash := if path.isEmpty ∨ path.getLast? = some '/' then [] else ['/']
        some (path ++ slash ++ List.flatten (inner.intersperse ['/']))
      else none
  | _ => [path]

/-- The files in and below the current directory. -/
def allBelow (o : Options) (d : Disk) (cwd : Place) : List (List Char) :=
  (withDescendants o d cwd ['.']).map fun path => path.drop 2

/-! ## Options -/

def grammar : Grammar :=
  ⟨"0123456789EFGPabchHilLnoqrRsTUvVwxyzZI", "ABCdefmDX", "",
    [("after-context=", 'A'), ("before-context=", 'B'), ("context=", 'C'), ("count", 'c'),
      ("ignore-case", 'i'), ("no-ignore-case", 'N'), ("invert-match", 'v'), ("line-number", 'n'),
      ("byte-offset", 'b'), ("files-with-matches", 'l'), ("files-without-match", 'L'),
      ("only-matching", 'o'), ("quiet", 'q'), ("silent", 'q'), ("no-messages", 's'),
      ("word-regexp", 'w'), ("line-regexp", 'x'), ("extended-regexp", 'E'),
      ("fixed-strings", 'F'), ("basic-regexp", 'G'), ("perl-regexp", 'P'), ("regexp=", 'e'),
      ("file=", 'f'), ("max-count=", 'm'), ("with-filename", 'H'), ("no-filename", 'h'),
      ("label=", 'S'), ("recursive", 'r'), ("dereference-recursive", 'R'), ("include=", '1'),
      ("exclude=", '2'), ("exclude-dir=", '3'), ("text", 'a'), ("binary-files=", '4'),
      ("null", 'Z'), ("null-data", 'z'), ("initial-tab", 'T'), ("line-buffered", 'u'),
      ("color?", '5'), ("colour?", '5'), ("directories=", 'd'), ("devices=", 'D'),
      ("binary", 'U')]⟩

/-- The names of letters and signs for them that expressions with many signs have, in the words of
those with fewer; a sign that asks for short matches is left out. -/
def plainSigns : List Char → List Char
  | '\\' :: 'd' :: rest => "[0-9]".toList ++ plainSigns rest
  | '\\' :: 'D' :: rest => "[^0-9]".toList ++ plainSigns rest
  | '\\' :: 'h' :: rest => "[ \t]".toList ++ plainSigns rest
  | '\\' :: 't' :: rest => '\t' :: plainSigns rest
  | '\\' :: 'A' :: rest => '^' :: plainSigns rest
  | '\\' :: 'z' :: rest | '\\' :: 'Z' :: rest => '$' :: plainSigns rest
  | '\\' :: c :: rest => '\\' :: c :: plainSigns rest
  | '(' :: '?' :: ':' :: rest => '(' :: plainSigns rest
  | '*' :: '?' :: rest => '*' :: plainSigns rest
  | '+' :: '?' :: rest => '+' :: plainSigns rest
  | '?' :: '?' :: rest => '?' :: plainSigns rest
  | c :: rest => c :: plainSigns rest
  | [] => []

/-- The reader of expressions that options ask for. -/
def reader (o : Options) : List Char → Except Regex.Problem (Regex × List String) :=
  match o.letters.find? fun c => c = 'E' ∨ c = 'F' ∨ c = 'G' ∨ c = 'P' with
  | some 'F' => fun text => .ok (Regex.literal text, [])
  | some 'E' => Regex.parse .extendedSearch
  | some 'P' => fun text => Regex.parse .extendedSearch (plainSigns text)
  | _ => Regex.parse .basic

/-- The number that an option gives, or what is wrong with it. -/
def numberOf (o : Options) (c : Char) (problem : List Char → String) : Except String (Option Nat) :=
  match o.value? c with
  | none => .ok none
  | some text =>
    match natural? text with
    | some n => .ok (some n)
    | none => .error (problem text)

/-- What options and expressions ask for. -/
def queryOf (o : Options) (regex : Regex) : Except String Query := do
  let context := fun (s : List Char) => shown s ++ ": invalid context length argument"
  let short := o.letters.reverse.filter Char.isDigit
  let around := (← numberOf o 'C' context).or (natural? short)
  let caseLetter := o.letters.find? fun c => c = 'i' ∨ c = 'y' ∨ c = 'N'
  return {
    regex
    ignoreCase := caseLetter.any (· ≠ 'N')
    inverted := o.has 'v'
    wholeWords := o.has 'w'
    wholeLines := o.has 'x'
    linesBefore := ((← numberOf o 'B' context).or around).getD 0
    linesAfter := ((← numberOf o 'A' context).or around).getD 0
    limit := ← numberOf o 'm' fun _ => "invalid max count"
    lineEnd := if o.has 'z' then '\x00' else '\n' }

end Grep

/-- Prints how `grep` is to be called. -/
def grepUsage : Work Nat := do
  discard <| Work.write 2 (Text.bytesOf
    ("Usage: grep [OPTION]... PATTERNS [FILE]...\n" ++
      "Try 'grep --help' for more information.\n"))
  return 2

/-- The lines of the files with patterns. -/
def patternsIn (cwd : Place) : List (List Char) → Work (Except String (List (List Char)))
  | [] => return .ok []
  | path :: rest => do
    match ← contents cwd path with
    | .error e => return .error (shown path ++ ": " ++ e.systemText)
    | .ok text => return (← patternsIn cwd rest).map fun others => linesOf text ++ others

/-- Searches with expressions. -/
def grepFor (o : Options) (env : Surroundings) (texts paths : List (List Char)) : Work Nat := do
  match texts.mapM (Grep.reader o) with
  | .error problem =>
    warn "grep" problem.message
    return 2
  | .ok parsed =>
    let regex := match parsed.map (·.1) with
      | [] => Regex.nothing
      | r :: rs => rs.foldl Regex.either r
    match Grep.queryOf o regex with
    | .error problem =>
      warn "grep" problem
      return 2
    | .ok q =>
      for message in parsed.flatMap (·.2) do
        warn "grep" ("warning: " ++ message)
      let recursive := o.has 'r' || o.has 'R' || o.value? 'd' = some "recurse".toList
      let d ← Work.call (Kernel.askDisk id)
      let files :=
        if recursive then
          if paths.isEmpty then Grep.allBelow o d env.cwd
          else paths.flatMap (Grep.withDescendants o d env.cwd)
        else if paths.isEmpty then [['-']]
        else paths.filter fun path =>
          path = ['-'] || Grep.isWanted o (path.reverse.takeWhile (· ≠ '/')).reverse
      let many := 1 < paths.length || recursive
      let last := o.letters.find? fun c => c = 'h' ∨ c = 'H'
      let titled := match last with
        | some c => c = 'H'
        | none => many
      if q.limit = some 0 then return 1
      Grep.searchFiles o q titled env.cwd false false files

/-- Selects lines of its inputs. -/
def grepWith (forced : List Char) : Utility := fun env args => do
  let o := Grep.grammar.read args
  let o := { o with letters := o.letters ++ forced }
  match o.problem with
  | some problem =>
    warn "grep" problem
    grepUsage
  | none =>
    match ← patternsIn env.cwd (o.valuesOf 'f') with
    | .error problem =>
      warn "grep" problem
      return 2
    | .ok fromFiles =>
      let given := (o.valuesOf 'e').flatMap (Text.cut '\n') ++ fromFiles
      if o.has 'e' || o.has 'f' then grepFor o env given o.rest
      else
        match o.rest with
        | [] => grepUsage
        | pattern :: paths => grepFor o env (Text.cut '\n' pattern) paths

/-- Selects lines by a basic expression. -/
def grep : Utility := grepWith []

/-- Selects lines by an extended expression. -/
def egrep : Utility := grepWith ['E']

/-- Selects lines by a text. -/
def fgrep : Utility := grepWith ['F']

end ProgramRepair.Utility
