import ProgramRepair.Utility.Input

/-!
# Filled paragraphs

`fmt` breaks the lines of paragraphs anew. A paragraph is a run of lines with the same
indentation. Where its lines are broken is decided for all of it at once: every way to break
it has a cost, which is small if the lines come close to a length and to each other, and if
they end where sentences do.
-/

namespace ProgramRepair.Utility

open Machine

namespace Fill

/-- How paragraphs are told apart. -/
inductive Mode where
  | usual
  /-- The first line has an indentation of its own. -/
  | crown
  /-- As `crown`, but a single line is not taken for the first one of a paragraph. -/
  | tagged
  /-- Lines are not put together. -/
  | separate
deriving DecidableEq

/-- What is asked for. -/
structure Form where
  mode : Mode
  uniform : Bool
  width : Nat
  goal : Nat
  /-- The blanks in front of the prefix. -/
  lead : Nat
  /-- What lines must begin with. -/
  leadText : List Char
  /-- The length of the prefix with the blanks behind it. -/
  leadFull : Nat

/-! ## Lines and words -/

/-- A word: what stands behind it, and how it can end a line. -/
structure Word where
  text : List Char
  space : Nat
  /-- Whether it begins with a bracket or a quote. -/
  opens : Bool
  /-- Whether it ends like a sentence. -/
  period : Bool
  /-- Whether it ends with a punctuation mark. -/
  punct : Bool
  /-- Whether a sentence ends with it. -/
  final : Bool

/-- A line behind its prefix. -/
structure Line where
  /-- The blanks in front of the prefix. -/
  leadIndent : Nat
  /-- The column in which the words begin. -/
  column : Nat
  words : List Char
  /-- Whether there is a line break. -/
  isWhole : Bool
  /-- Whether there are tabs in this line or one before. -/
  tabs : Bool

/-- The column behind blanks from a column on, and what follows. -/
def passBlanks (column : Nat) : List Char → Nat × List Char
  | ' ' :: s => passBlanks (column + 1) s
  | '\t' :: s => passBlanks ((column / 8 + 1) * 8) s
  | s => (column, s)

/-- Passes over the prefix as far as it is there. The last part says whether all of it was. -/
def passPrefix (column : Nat) : (wanted s : List Char) → Nat × List Char × Bool
  | [], s => (column, s, true)
  | p :: ps, c :: s => if p = c then passPrefix (column + 1) ps s else (column, c :: s, false)
  | _ :: _, [] => (column, [], false)

/-- A line taken apart. -/
def lineOf (f : Form) (tabs : Bool) (text : List Char) (isWhole : Bool) : Line :=
  let (column, rest) := passBlanks 0 text
  let tabs := tabs || text.contains '\t'
  if f.leadText.isEmpty then ⟨min f.lead column, column, rest, isWhole, tabs⟩
  else
    let (behind, rest, isThere) := passPrefix column f.leadText rest
    let (behind, rest) := if isThere then passBlanks behind rest else (behind, rest)
    ⟨column, behind, rest, isWhole, tabs⟩

/-- The lines of a text. The end of the text counts as an empty line without a line break. -/
def linesOf (f : Form) (tabs : Bool) : List (List Char) → List Line
  | [] => []
  | [last] => [lineOf f tabs last false]
  | text :: rest =>
    let l := lineOf f tabs text true
    l :: linesOf f l.tabs rest

/-- Whether there are words behind the prefix. -/
def Line.isSuitable (f : Form) (l : Line) : Bool :=
  !l.words.isEmpty && f.lead ≤ l.leadIndent && l.leadIndent + f.leadFull ≤ l.column

/-- Whether a line can go on with a paragraph whose prefix has some blanks in front. -/
def Line.goesOn (f : Form) (leadIndent : Nat) (l : Line) : Bool :=
  !l.words.isEmpty && l.leadIndent = leadIndent && l.leadIndent + f.leadFull ≤ l.column

def isSpace (c : Char) : Bool := c = ' ' || ('\t' ≤ c && c ≤ '\r')

/-- A word with what stands behind it, in a line that ends there or not. -/
def wordOf (f : Form) (text : List Char) (space : Nat) (endsLine : Bool) : Word :=
  let core := text.reverse.dropWhile fun c => ")]'\"".toList.contains c
  let core := if core.isEmpty then text.take 1 else core.take 1
  let period := core.any ".?!".toList.contains
  let final := period && (endsLine || 1 < space)
  let last := text.getLast?
  { text
    space := if endsLine || f.uniform then (if final then 2 else 1) else space
    opens := text.head?.any "(['\x60\"".toList.contains
    period
    punct := last.any fun c => ('!' ≤ c && c ≤ '~') && !c.isAlphanum
    final }

/-- The words of a line from a column on. -/
def wordsOf (f : Form) : (fuel column : Nat) → List Char → List Word
  | 0, _, _ => []
  | _, _, [] => []
  | fuel + 1, column, s =>
    let text := s.take 1 ++ (s.drop 1).takeWhile fun c => !isSpace c
    let start := column + text.length
    let (next, rest) := passBlanks start (s.drop text.length)
    wordOf f text (next - start) rest.isEmpty :: wordsOf f fuel next rest

/-! ## Costs -/

def square (n : Int) : Int := n * n

def shortCost (n : Int) : Int := square (n * 10)

def raggedCost (n : Int) : Int := shortCost n / 2

/-- Where the rest of a paragraph is broken best if a line begins with some word. -/
structure Break where
  cost : Int
  /-- The number of words in the line, and its length. -/
  count : Nat
  length : Int
  /-- Whether the line is the last one. -/
  isLast : Bool

/-- What a break in front of a word costs, or brings; the words in front of it come with the
latest first. -/
def baseCost (before : List Word) (w : Word) : Int :=
  let cost : Int := square 70
  let cost := match before with
    | [] => cost
    | p :: rest =>
      if p.period then (if p.final then cost - square 50 else cost + square 600)
      else if p.punct then cost - square 40
      else
        match rest with
        | q :: _ => if q.final then cost + square 200 / ((p.text.length : Int) + 2) else cost
        | [] => cost
  if w.opens then cost - square 40
  else if w.final then cost + square 150 / ((w.text.length : Int) + 2)
  else cost

/-- What a line of some length costs if another line follows it. -/
def lineCost (f : Form) (length : Int) (next : Break) : Int :=
  let cost := shortCost (f.goal - length)
  if next.isLast then cost else cost + raggedCost (length - next.length)

/-- The best line that begins with a word. `length` is how long it is with `count` words, and `rest`
has the words behind it, each with the best break from it on. -/
def bestLine (f : Form) (last : Word) (length : Int) (count : Nat) (best : Option Break) :
    List (Word × Break) → Option Break
  | [] => if best.any (·.cost ≤ 0) then best else some ⟨0, count, length, true⟩
  | (w, next) :: rest =>
    let cost := lineCost f length next + next.cost
    let best := if best.any (·.cost ≤ cost) then best else some ⟨cost, count, length, false⟩
    let more := length + last.space + w.text.length
    if more < f.width then bestLine f w more (count + 1) best rest else best

/-- Words with the best break from each of them on. The first line has an indentation of its own. -/
def breaks (f : Form) (first other : Nat) (before : List Word) : List Word → List (Word × Break)
  | [] => []
  | w :: rest =>
    let later := breaks f first other (w :: before) rest
    let indent : Nat := if before.isEmpty then first else other
    match bestLine f w (indent + w.text.length) 1 none later with
    | some b => (w, { b with cost := b.cost + baseCost before w }) :: later
    | none => (w, ⟨0, 1, indent, true⟩) :: later

/-! ## Output -/

/-- Blanks up to a column, with tabs if there are some in the input. -/
def blanks (tabs : Bool) (column count : Nat) : List Char :=
  let target := column + count
  let stop := target / 8 * 8
  if tabs && column + 1 < stop then
    List.replicate (stop / 8 - column / 8) '\t' ++ List.replicate (target - stop) ' '
  else List.replicate count ' '

/-- What is printed, and the column that is reached. -/
abbrev Printed := List Char × Nat

/-- Adds blanks. -/
def addBlanks (tabs : Bool) (p : Printed) (count : Nat) : Printed :=
  (p.1 ++ blanks tabs p.2 count, p.2 + count)

/-- Adds a text. -/
def addText (p : Printed) (text : List Char) : Printed := (p.1 ++ text, p.2 + text.length)

/-- A line of words, without its line break. -/
def printLine (f : Form) (tabs : Bool) (leadIndent indent : Nat) (words : List Word) : Printed :=
  let start := addText (addBlanks tabs ([], 0) leadIndent) f.leadText
  let start := addBlanks tabs start (indent - start.2)
  let rec go (p : Printed) : List Word → Printed
    | [] => p
    | [w] => addText p w.text
    | w :: rest => go (addBlanks tabs (addText p w.text) w.space) rest
  go start words

/-- The lines of a paragraph, and the length of the last one. -/
def printLines (f : Form) (tabs : Bool) (leadIndent other : Nat) :
    (fuel indent : Nat) → List (Word × Break) → List Char × Nat
  | 0, _, _ => ([], 0)
  | _, _, [] => ([], 0)
  | fuel + 1, indent, (w, b) :: rest =>
    let all := (w, b) :: rest
    let (text, column) := printLine f tabs leadIndent indent ((all.take b.count).map (·.1))
    match all.drop b.count with
    | [] => (text ++ ['\n'], column)
    | left =>
      let (more, last) := printLines f tabs leadIndent other fuel other left
      (text ++ '\n' :: more, last)

/-- A line that is in no paragraph. -/
def printOther (f : Form) (l : Line) : List Char :=
  let isEmpty := l.words.isEmpty
  let atEnd := isEmpty && !l.isWhole
  let kept :=
    if l.leadIndent < l.column || !isEmpty then
      let p := addBlanks l.tabs ([], 0) l.leadIndent
      let p := addText p (f.leadText.take (l.column - p.2))
      let p := if isEmpty then p else addBlanks l.tabs p (l.column - p.2)
      p.1 ++ if atEnd && l.leadIndent + f.leadText.length ≤ l.column then ['\n'] else []
    else []
  kept ++ l.words ++ if l.isWhole then ['\n'] else []

/-- The lines that go on with a paragraph and those behind it. -/
def takeLines (goesOn : Line → Bool) : List Line → List Line × List Line
  | [] => ([], [])
  | l :: rest =>
    if goesOn l then
      let (more, left) := takeLines goesOn rest
      (l :: more, left)
    else ([], l :: rest)

/-- The lines of the paragraph that begins with a line, the indentation of all but the first, and the
lines behind it. `other` is that indentation in the paragraph before. -/
def paragraph (f : Form) (other : Nat) (l : Line) (rest : List Line) :
    List Line × Nat × List Line :=
  let goesOn := fun (m : Line) => m.goesOn f l.leadIndent
  let next := rest.head?.filter goesOn
  let other := match f.mode, next with
    | .separate, _ => l.column
    | .usual, _ => l.column
    | .crown, some m => m.column
    | .crown, none => l.column
    | .tagged, next =>
      match next.filter (·.column ≠ l.column) with
      | some m => m.column
      | none => if other = l.column then (if l.column = 0 then 3 else 0) else other
  let isLong : Bool := match f.mode with
    | .separate => false
    | .tagged => next.any (·.column ≠ l.column)
    | _ => true
  let (more, left) :=
    if isLong then takeLines (fun m => goesOn m && m.column = other) rest else ([], rest)
  (l :: more, other, left)

/-- Everything that is printed for lines. -/
def fill (f : Form) : (fuel other : Nat) → List Line → List Char
  | 0, _, _ => []
  | _, _, [] => []
  | fuel + 1, other, l :: rest =>
    if !l.isSuitable f then printOther f l ++ fill f fuel other rest
    else
      let (lines, other, left) := paragraph f other l rest
      let words := lines.flatMap fun l => wordsOf f (l.words.length + 1) l.column l.words
      let words := match words.reverse with
        | [] => []
        | last :: before => ({ last with period := true, final := true } :: before).reverse
      let tabs := l.tabs || (lines ++ left.take 1).any (·.tabs)
      let (text, _) := printLines f tabs l.leadIndent other (words.length + 1) l.column
        (breaks f l.column other [] words)
      text ++ fill f fuel other left

/-- A text with its paragraphs filled. -/
def filled (f : Form) (text : List Char) : List Char :=
  let lines := linesOf f false (Text.cut '\n' text)
  fill f (lines.length + 1) 0 lines

/-! ## The program -/

def grammar : Grammar :=
  ⟨"0123456789cstu", "pwg", "", [("crown-margin", 'c'), ("prefix=", 'p'), ("split-only", 's'),
    ("tagged-paragraph", 't'), ("uniform-spacing", 'u'), ("width=", 'w'), ("goal=", 'g')]⟩

/-- A width that is at most `most`. -/
def widthFor (most : Nat) (s : List Char) : Except String Nat :=
  match natural? s with
  | some n =>
    if n ≤ most then .ok n
    else .error ("invalid width: " ++ quoted s ++ ": Numerical result out of range")
  | none => .error ("invalid width: " ++ quoted s)

/-- The largest width. -/
def largest : Nat := 2500

/-- The form that options ask for. -/
def formOf (o : Options) : Except String Form := do
  let wide ← (o.value? 'w').mapM (widthFor largest)
  let goal ← (o.value? 'g').mapM (widthFor (wide.getD 75))
  let width := match wide, goal with
    | some w, _ => w
    | none, some g => g + 10
    | none, none => 75
  let goal := goal.getD (width * 187 / 200)
  let text := (o.value? 'p').getD []
  let body := text.dropWhile (· = ' ')
  let core := (body.reverse.dropWhile (· = ' ')).reverse
  let mode :=
    if o.has 's' then Mode.separate
    else if o.has 'c' then .crown
    else if o.has 't' then .tagged
    else .usual
  return ⟨mode, o.has 'u', width, goal, text.length - body.length, core, body.length⟩

end Fill

open Fill in
/-- Fills paragraphs. -/
def fmt : Utility := fun env args => do
  let args := match args with
    | ('-' :: d :: ds) :: rest => if d.isDigit then ('-' :: 'w' :: d :: ds) :: rest else args
    | _ => args
  let o := Fill.grammar.read args
  let misplaced := o.letters.find? Char.isDigit
  match o.problem, formOf o with
  | some problem, _ => refuse "fmt" problem 1
  | none, .error problem =>
    warn "fmt" problem
    return 1
  | none, .ok f =>
    match misplaced with
    | some d =>
      refuse "fmt" ("invalid option -- " ++ shown [d] ++
        "; -WIDTH is recognized only when it is the first\noption; use -w N instead") 1
    | none => each env.cwd f 0 (if o.rest.isEmpty then [['-']] else o.rest)
where
  /-- Fills the paragraphs of files one after the other. -/
  each (cwd : Place) (f : Form) (code : Nat) : List (List Char) → Work Nat
    | [] => return code
    | path :: rest => do
      match ← contents cwd path with
      | .ok text => if ← tryPut "fmt" (filled f text) then each cwd f code rest else return 1
      | .error e =>
        warn "fmt" (if e = .isDirectory then "read error"
          else "cannot open " ++ inQuotes path ++ " for reading: " ++ e.systemText)
        each cwd f 1 rest

end ProgramRepair.Utility
