import ProgramRepair.Utility.StreamEditor.Script

/-!
# An editor of lines

The editor takes line after line through its script and says what is to be
printed. Some of its steps depend on what comes after the current line: where
that is not known yet the editor is starved, and goes on from the same place
when it has been given more.
-/

namespace ProgramRepair.Utility.StreamEditor

/-- A line, and whether it ends with a line break. -/
structure Line where
  text : List Char
  complete : Bool
deriving Repr, DecidableEq

/-- Something that is to be printed. -/
inductive Emission where
  | printed (text : List Char)
  /-- The contents that a file has at that time. -/
  | copied (path : List Char)
  /-- A text for a file. -/
  | saved (path text : List Char)
deriving Repr

/-- Something that is to be printed after the current line. -/
inductive Addition where
  | text (s : List Char)
  | file (path : List Char)
deriving Repr

/-- The state of an editor. -/
structure Editor where
  script : Array Instruction
  quiet : Bool
  /-- The character at the end of a line. -/
  mark : Char
  /-- How wide the rows of a line in signs are. -/
  width : Nat
  /-- The lines that come next, as far as they are known, each with the name of its file. -/
  input : List (Line × List Char)
  /-- Whether no more lines come than those. -/
  ended : Bool
  /-- The lines of files that are read one by one. -/
  sources : List (List Char × List (List Char))
  /-- The next instruction. There is none between two lines. -/
  place : Option Nat
  lineNumber : Nat
  fileName : List Char
  current : Line
  held : Line
  additions : List Addition
  /-- What is to be printed, in reverse order. -/
  output : List Emission
  /-- The files, or none for the main output, that lack a line break at their end. -/
  broken : List (Option (List Char))
  /-- The instructions whose ranges are open, with the number of the last line if it is known. -/
  openRanges : List (Nat × Option Nat)
  /-- The instructions whose ranges are over, and which begin no more if they begin at a number. -/
  closedRanges : List Nat
  changed : Bool
  /-- The expression that was used last. -/
  latest : Option (Regex × Bool)

/-- What comes of a step. -/
inductive Turn where
  | onward (e : Editor)
  /-- The step depends on more of the input than is known. -/
  | starved
  /-- There are no more lines. -/
  | finished
  | stopped (e : Editor) (code : Nat)
  /-- There was no expression to use again. -/
  | noExpression

/-! ## Substitutions -/

def CaseChange.apply : CaseChange → Char → Char
  | .lower, c => c.toLower
  | .upper, c => c.toUpper

/-- How the next letter and all letters are changed. -/
structure Casing where
  next : Option CaseChange
  all : Option CaseChange

/-- Changes the letters of a text. -/
def Casing.apply (k : Casing) (s : List Char) : List Char × Casing :=
  let change := fun (how : Option CaseChange) (c : Char) => (how.map (·.apply c)).getD c
  match s with
  | [] => ([], k)
  | c :: rest => (change (k.next <|> k.all) c :: rest.map (change k.all), { k with next := none })

/-- The text for a match. -/
def replacementFor (m : Regex.Match) : Casing → List Piece → List Char
  | _, [] => []
  | k, p :: rest =>
    match p with
    | .changeNext c => replacementFor m { k with next := some c } rest
    | .changeAll c => replacementFor m ⟨none, c⟩ rest
    | .text s =>
      let (s, k) := k.apply s
      s ++ replacementFor m k rest
    | .group n =>
      let (s, k) := k.apply (if n = 0 then m.text else (m.groups.lookup n).getD [])
      s ++ replacementFor m k rest

/-- A text with matches replaced, and whether there were any. The next match is the `count`th, and
`afterMatch` says that another one ends where the rest begins. -/
def substituted (r : Regex) (ignoreCase : Bool) (s : Substitution) (before : List Char)
    (count : Nat) (afterMatch : Bool) : Nat → List Char → List Char × Bool
  | 0, rest => (rest, false)
  | fuel + 1, rest =>
    match r.find? ignoreCase before rest with
    | none => (rest, false)
    | some m =>
      let lead := m.before.drop before.length
      let skipped := m.text.isEmpty ∧ lead.isEmpty ∧ afterMatch
      let replaced := !skipped && (count = s.nth || (s.all && s.nth ≤ count))
      let count := if skipped then count else count + 1
      let new := if replaced then replacementFor m ⟨none, none⟩ s.replacement else m.text
      if replaced ∧ !s.all then (lead ++ new ++ m.after, true)
      else
        match m.text, m.after with
        | [], [] => (lead ++ new, replaced)
        | [], c :: after =>
          let (tail, more) :=
            substituted r ignoreCase s (m.before ++ [c]) count false fuel after
          (lead ++ new ++ c :: tail, replaced || more)
        | text, after =>
          let (tail, more) :=
            substituted r ignoreCase s (m.before ++ text) count true fuel after
          (lead ++ new ++ tail, replaced || more)

/-! ## Lines in signs -/

/-- A character in signs that can be seen. -/
def signs (c : Char) : List Char :=
  match c with
  | '\\' => ['\\', '\\']
  | '\x07' => ['\\', 'a']
  | '\x08' => ['\\', 'b']
  | '\x0c' => ['\\', 'f']
  | '\n' => ['\\', 'n']
  | '\x0d' => ['\\', 'r']
  | '\t' => ['\\', 't']
  | '\x0b' => ['\\', 'v']
  | c =>
    if ' ' ≤ c ∧ c ≤ '~' then [c]
    else
      let ds := Nat.toDigits 8 c.toNat
      '\\' :: List.replicate (3 - ds.length) '0' ++ ds

/-- Signs in rows of some width; `used` columns of the first row are taken. Each row but the last
ends with a backslash. -/
def inRows (width used : Nat) : List (List Char) → List Char
  | [] => ['$', '\n']
  | s :: rest =>
    if 0 < width ∧ width ≤ used + s.length then '\\' :: '\n' :: s ++ inRows width s.length rest
    else s ++ inRows width (used + s.length) rest

namespace Editor

/-! ## Printing -/

/-- What has to come before more output: a line break if the last line lacks one. -/
def repaired (e : Editor) (target : Option (List Char)) : List Char × Editor :=
  if e.broken.contains target then
    ([e.mark], { e with broken := e.broken.filter (· ≠ target) })
  else ([], e)

/-- Prints a text as it is. -/
def putText (e : Editor) (text : List Char) : Editor :=
  let (lead, e) := e.repaired none
  { e with output := .printed (lead ++ text) :: e.output }

/-- Prints a line. -/
def putLine (e : Editor) (line : Line) : Editor :=
  let e := e.putText (line.text ++ (if line.complete then [e.mark] else []))
  if line.complete then e else { e with broken := none :: e.broken }

/-- Writes a line to a file. -/
def saveLine (e : Editor) (path : List Char) (line : Line) : Editor :=
  let (lead, e) := e.repaired (some path)
  let text := lead ++ line.text ++ (if line.complete then [e.mark] else [])
  let e := { e with output := .saved path text :: e.output }
  if line.complete then e else { e with broken := some path :: e.broken }

/-- Prints what was kept for after the current line. -/
def putAdditions (e : Editor) : Editor :=
  let e := e.additions.foldl (fun e a =>
    match a with
    | .text s => e.putText s
    | .file path =>
      let e := e.putText []
      { e with output := .copied path :: e.output }) e
  { e with additions := [] }

/-! ## Lines -/

/-- Whether the current line is the last one, if that is known. -/
def isLast? (e : Editor) : Option Bool :=
  if !e.input.isEmpty then some false else if e.ended then some true else none

/-- Takes the next line, behind the current one if `join` says so. -/
def takeLine (e : Editor) (join : Bool) : Option Editor :=
  match e.input with
  | [] => none
  | (line, file) :: rest =>
    let e := e.putAdditions
    some { e with
      input := rest
      fileName := file
      lineNumber := e.lineNumber + 1
      changed := false
      current :=
        if join then { line with text := e.current.text ++ e.mark :: line.text } else line }

/-- Ends the work on the current line. -/
def close (e : Editor) (printing : Bool) : Editor :=
  let e := if printing && !e.quiet then e.putLine e.current else e
  { e.putAdditions with place := none }

/-- Begins with another file, whose lines are counted anew. -/
def beginFile (e : Editor) : Editor :=
  { e with
    lineNumber := 0
    held := ⟨[], true⟩
    openRanges := []
    closedRanges := []
    ended := false }

/-! ## Addresses -/

/-- What a test comes to. -/
inductive Answer where
  | known (b : Bool) (e : Editor)
  | unknown
  | noExpression

/-- The expression that a search stands for, which counts as used from now on. -/
def regexOf (e : Editor) : Search → Option (Regex × Bool × Editor)
  | .regex r ignoreCase => some (r, ignoreCase, { e with latest := some (r, ignoreCase) })
  | .latest => e.latest.map fun (r, ignoreCase) => (r, ignoreCase, e)

/-- Whether an address fits the current line. -/
def fits (e : Editor) : Address → Answer
  | .line n => .known (e.lineNumber = n) e
  | .last =>
    match e.isLast? with
    | some b => .known b e
    | none => .unknown
  | .pattern s =>
    match e.regexOf s with
    | some (r, ignoreCase, e) =>
      .known (r.find? ignoreCase [] e.current.text).isSome e
    | none => .noExpression
  | .every first step =>
    .known (if step = 0 then e.lineNumber = first
      else first ≤ e.lineNumber && (e.lineNumber - first) % step = 0) e
  | .offset _ | .multiple _ => .known false e

/-- Opens the range of an instruction, or closes it. -/
def setRange (e : Editor) (position : Nat) (range : Option (Option Nat)) : Editor :=
  let others := e.openRanges.filter (·.1 ≠ position)
  match range with
  | some last => { e with openRanges := (position, last) :: others }
  | none =>
    { e with
      openRanges := others
      closedRanges := position :: e.closedRanges.filter (· ≠ position) }

/-- The state on the first line of a range: it is open unless it is known to end there. -/
def enterRange (e : Editor) (position : Nat) (stop : Address) : Editor :=
  let upTo := fun (last : Nat) =>
    e.setRange position (if last ≤ e.lineNumber then none else some (some last))
  match stop with
  | .line n => upTo n
  | .offset n => upTo (e.lineNumber + n)
  | .multiple n => upTo (if n = 0 then 0 else (e.lineNumber / n + 1) * n)
  | _ => e.setRange position (some none)

/-- Whether the current line is in a range. -/
def inRange (e : Editor) (position : Nat) (start stop : Address) : Answer :=
  let inside : Answer := match e.fits stop with
    | .known true e => .known true (e.setRange position none)
    | .known false e => .known true (e.setRange position (some none))
    | r => r
  match e.openRanges.lookup position with
  | some (some last) =>
    .known (e.lineNumber ≤ last) (if e.lineNumber < last then e else e.setRange position none)
  | some none => inside
  | none =>
    let isOver := e.closedRanges.contains position
    match start, isOver with
    | .line _, true => .known false e
    | .line 0, _ => if e.lineNumber = 1 then inside else .known false e
    | _, _ =>
      match e.fits start with
      | .known true e => .known true (e.enterRange position stop)
      | r => r

/-- Whether an instruction is meant for the current line. -/
def selects (e : Editor) (position : Nat) (i : Instruction) : Answer :=
  let answer : Answer := match i.start, i.stop with
    | none, _ => .known true e
    | some a, none => e.fits a
    | some a, some b => e.inRange position a b
  match answer with
  | .known b e => .known (b != i.negated) e
  | r => r

/-! ## Instructions -/

/-- The position behind a label; the end of the script if there is no label. -/
def positionOf (e : Editor) (name : List Char) : Nat :=
  (e.script.findIdx? fun i =>
    match i.action with
    | .label n => n = name
    | _ => false).getD e.script.size

/-- Goes on with an instruction. -/
def goTo (e : Editor) (position : Nat) : Turn := .onward { e with place := some position }

/-- Carries out a substitution. -/
def substitute (e : Editor) (next : Nat) (s : Substitution) : Turn :=
  match e.regexOf s.search with
  | none => .noExpression
  | some (r, ignoreCase, e) =>
    let text := e.current.text
    let (new, changed) := substituted r ignoreCase s [] 1 false (text.length + 2) text
    if !changed then e.goTo next
    else
      let e := { e with current := { e.current with text := new }, changed := true }
      let e := if s.print then e.putLine e.current else e
      let e := match s.file with
        | some path => e.saveLine path e.current
        | none => e
      e.goTo next

/-- The current line up to its first line break. -/
def firstRow (e : Editor) : Line :=
  ⟨e.current.text.takeWhile (· ≠ e.mark), e.current.complete || e.current.text.contains e.mark⟩

/-- Does what an instruction says. -/
def apply (e : Editor) (position : Nat) (a : Action) : Turn :=
  let next := position + 1
  match a with
  | .substitute s => e.substitute next s
  | .translate pairs =>
    let text := e.current.text.map fun c => (pairs.lookup c).getD c
    { e with current := { e.current with text } }.goTo next
  | .print => (e.putLine e.current).goTo next
  | .printFirst => (e.putLine e.firstRow).goTo next
  | .delete => .onward (e.close false)
  | .deleteFirst =>
    let rest := e.current.text.dropWhile (· ≠ e.mark)
    let closed := e.close false
    if rest.isEmpty then .onward closed
    else { closed with current := { e.current with text := rest.drop 1 } }.goTo 0
  | .quit code silent =>
    .stopped (if silent then e else e.close true) code
  | .number => (e.putText (digits e.lineNumber ++ ['\n'])).goTo next
  | .fileName => (e.putText (e.fileName ++ ['\n'])).goTo next
  | .list width =>
    (e.putText (inRows (width.getD e.width) 0 (e.current.text.map signs))).goTo next
  | .append text => { e with additions := e.additions ++ [Addition.text text] }.goTo next
  | .insert text => (e.putText text).goTo next
  | .change text =>
    let isOpen := (e.openRanges.lookup position).isSome
    .onward ((if isOpen then e else e.putText text).close false)
  | .readFile path => { e with additions := e.additions ++ [Addition.file path] }.goTo next
  | .readLine path =>
    match e.sources.lookup path with
    | some (line :: rest) =>
      let sources := e.sources.map fun s => if s.1 = path then (path, rest) else s
      { e with sources, additions := e.additions ++ [Addition.text line] }.goTo next
    | _ => e.goTo next
  | .write path firstOnly => (e.saveLine path (if firstOnly then e.firstRow else e.current)).goTo next
  | .next =>
    match e.isLast? with
    | none => .starved
    | some true => .onward (e.close true)
    | some false =>
      match (if e.quiet then e else e.putLine e.current).takeLine false with
      | some e => e.goTo next
      | none => .starved
  | .nextAppend =>
    match e.isLast? with
    | none => .starved
    | some true => .onward (e.close true)
    | some false =>
      match e.takeLine true with
      | some e => e.goTo next
      | none => .starved
  | .hold false => { e with held := e.current }.goTo next
  | .hold true =>
    { e with held := { e.current with text := e.held.text ++ e.mark :: e.current.text } }.goTo next
  | .fetch false => { e with current := e.held }.goTo next
  | .fetch true =>
    { e with current := { e.held with text := e.current.text ++ e.mark :: e.held.text } }.goTo next
  | .exchange => { e with current := e.held, held := e.current }.goTo next
  | .clear => { e with current := { e.current with text := [] } }.goTo next
  | .block _ | .label _ => e.goTo next
  | .branch name condition =>
    let target := if name.isEmpty then e.script.size else e.positionOf name
    match condition with
    | none => e.goTo target
    | some wanted =>
      let jumps := e.changed = wanted
      { e with changed := false }.goTo (if jumps then target else next)

/-- The next step. -/
def step (e : Editor) : Turn :=
  match e.place with
  | none =>
    match e.takeLine false with
    | some e => e.goTo 0
    | none => if e.ended then .finished else .starved
  | some position =>
    match e.script[position]? with
    | none => .onward (e.close true)
    | some i =>
      match e.selects position i with
      | .unknown => .starved
      | .noExpression => .noExpression
      | .known true e => e.apply position i.action
      | .known false e =>
        match i.action with
        | .block size => e.goTo (position + 1 + size)
        | _ => e.goTo (position + 1)

/-- How far an editor came. -/
inductive Halt where
  | starved
  | finished
  | stopped (code : Nat)
  | noExpression
  /-- There was no time for more steps. -/
  | exhausted

/-- Goes on as far as that is possible, at most some number of steps. -/
def run : Nat → Editor → Editor × Halt
  | 0, e => (e, .exhausted)
  | fuel + 1, e =>
    match e.step with
    | .onward e => run fuel e
    | .starved => (e, .starved)
    | .finished => (e, .finished)
    | .stopped e code => (e, .stopped code)
    | .noExpression => (e, .noExpression)

end Editor

end ProgramRepair.Utility.StreamEditor
