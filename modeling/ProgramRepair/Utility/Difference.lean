import ProgramRepair.Clock.Calendar
import ProgramRepair.Text.Pattern
import ProgramRepair.Utility.Comparison
import ProgramRepair.Utility.Print
import ProgramRepair.Utility.Regex
import ProgramRepair.Utility.Streams

/-!
# Differences of files

`cmp` tells where two files begin to differ, byte by byte. `diff` tells which lines have
changed, in one of several forms, and goes through directories too.
-/

namespace ProgramRepair.Utility

open Machine

/-! ## Bytes -/

/-- Prints a message with a hint, in which the program names itself twice. -/
def refuseTwice (program message : String) : Work Nat := do
  warn program message
  let name ← ownName program
  warn program ("Try '" ++ name ++ " --help' for more information.")
  return 2

def cmpGrammar : Grammar :=
  ⟨"bcls", "in", "", [("print-bytes", 'b'), ("ignore-initial=", 'i'), ("verbose", 'l'),
    ("bytes=", 'n'), ("quiet", 's'), ("silent", 's')]⟩

namespace ByteComparison

/-- What is compared: how many bytes are passed over in both files, and the most that are compared. -/
structure Extent where
  skippedFirst : Nat
  skippedSecond : Nat
  limit : Option Nat

/-- The bytes at which two texts differ, with their positions counted from 1, and how many bytes both
have. -/
def differences (position : Nat) : List Char → List Char → List (Nat × Char × Char) × Nat
  | a :: as, b :: bs =>
    let (rest, count) := differences (position + 1) as bs
    (if a = b then rest else (position, a, b) :: rest, count)
  | _, _ => ([], position - 1)

/-- A byte in base 8. -/
def octalOf (c : Char) : List Char := padLeft 3 (inBase 8 c.toNat)

/-- A line about two bytes that differ; `width` is that of the position. -/
def byteLine (printing : Bool) (width : Nat) (entry : Nat × Char × Char) : List Char :=
  let (position, a, b) := entry
  let lead := padLeft width (digits position) ++ ' ' :: octalOf a
  if printing then
    let mark := visible a
    lead ++ ' ' :: mark ++ List.replicate (4 - mark.length) ' ' ++ ' ' :: octalOf b ++ ' ' :: visible b ++ ['\n']
  else lead ++ ' ' :: octalOf b ++ ['\n']

/-- What is wrong with the end of one text. -/
def endMessage (name : List Char) (text : List Char) (withLine : Bool) : String :=
  if text.isEmpty then "EOF on " ++ shown name ++ " which is empty"
  else
    let lines := text.count '\n'
    let place :=
      if !withLine then ""
      else if text.getLast? = some '\n' then ", line " ++ toString lines
      else ", in line " ++ toString (lines + 1)
    "EOF on " ++ shown name ++ " after byte " ++ toString text.length ++ place

/-- The numbers of bytes that an option passes over. -/
def skips? (s : List Char) : Option (Nat × Nat) :=
  match Text.cut ':' s with
  | [a] => (sized? a).map fun n => (n, n)
  | [a, b] => do return (← sized? a, ← sized? b)
  | _ => none

/-- What options and arguments ask for. -/
def extentOf (o : Options) (skips : List (List Char)) : Except String Extent := do
  let (m, n) ← match o.value? 'i' with
    | none => pure (0, 0)
    | some s =>
      match skips? s with
      | some pair => pure pair
      | none => throw ("invalid --ignore-initial value " ++ quoted s)
  let limit ← match o.value? 'n' with
    | none => pure none
    | some s =>
      match sized? s with
      | some n => pure (some n)
      | none => throw ("invalid --bytes value " ++ quoted s)
  let skip := fun (s : List Char) =>
    match sized? s with
    | some n => pure n
    | none => throw ("invalid --ignore-initial value " ++ quoted s)
  match skips with
  | [] => return ⟨m, n, limit⟩
  | [a] => return ⟨← skip a, n, limit⟩
  | [a, b] => return ⟨← skip a, ← skip b, limit⟩
  | a :: b :: extra :: _ =>
    let _ ← skip a
    let _ ← skip b
    throw ("extra operand " ++ quoted extra)

/-- Compares two texts. -/
def report (o : Options) (first second : List Char) (a b : List Char) : Work Nat := do
  let (found, count) := differences 1 a b
  let width := (digits (min a.length b.length)).length
  let ending := fun (code : Nat) => do
    if count < a.length then
      warn "cmp" (endMessage second (a.take count) (!o.has 'l'))
      return 1
    else if count < b.length then
      warn "cmp" (endMessage first (b.take count) (!o.has 'l'))
      return 1
    else return code
  if o.has 's' then return if found.isEmpty && a.length = b.length then 0 else 1
  match found with
  | [] => ending 0
  | (position, x, y) :: _ =>
    if o.has 'l' then
      discard <| put (found.flatMap (byteLine (o.has 'b') width))
      ending 1
    else
      let line := ((a.take (position - 1)).count '\n') + 1
      let unit := if o.has 'b' then "byte " else "char "
      let text := first ++ ' ' :: second ++
        (" differ: " ++ unit ++ toString position ++ ", line " ++ toString line).toList
      let bytes :=
        if o.has 'b' then
          " is ".toList ++ octalOf x ++ ' ' :: visible x ++ ' ' :: octalOf y ++ ' ' :: visible y
        else []
      emit "cmp" (text ++ bytes ++ ['\n']) 1

end ByteComparison

/-- Compares two files byte by byte. -/
def cmp : Utility := fun env args => do
  let o := cmpGrammar.read args
  match o.problem, o.rest with
  | some problem, _ => refuseTwice "cmp" problem
  | none, [] => do
    let name ← ownName "cmp"
    refuseTwice "cmp" ("missing operand after " ++ quoted name.toList)
  | none, first :: rest =>
    if o.has 'l' && o.has 's' then refuseTwice "cmp" "options -l and -s are incompatible"
    else
      let second := rest.head?.getD ['-']
      match ByteComparison.extentOf o (rest.drop 1) with
      | .error problem => refuseTwice "cmp" problem
      | .ok e =>
        match ← readBoth env.cwd first second with
        | .error (name, problem) =>
          if !o.has 's' then warn "cmp" (shown name ++ ": " ++ problem.systemText)
          return 2
        | .ok (a, b) =>
          let part := fun (skipped : Nat) (text : List Char) =>
            let text := text.drop skipped
            match e.limit with
            | some n => text.take n
            | none => text
          ByteComparison.report o first second (part e.skippedFirst a) (part e.skippedSecond b)
where
  /-- Reads two files, up to the first that cannot be read. -/
  readBoth (cwd : Place) (first second : List Char) :
      Work (Except (List Char × Disk.Error) (List Char × List Char)) := do
    match ← contents cwd first with
    | .error e => return .error (first, e)
    | .ok a =>
      match ← contents cwd second with
      | .error e => return .error (second, e)
      | .ok b => return .ok (a, b)

/-! ## Forms of differences -/

namespace Difference

/-- The forms in which differences are printed. -/
inductive Form where
  | normal
  | unified (context : Nat)
  | context (context : Nat)
  /-- Commands for an editor. -/
  | commands
  /-- Commands that give numbers of lines. -/
  | counts
  /-- Both files side by side. -/
  | columns
deriving DecidableEq, Repr

/-- What is compared and how it is printed. -/
structure Settings where
  form : Form
  options : Options
  /-- What a line is compared by. -/
  fold : List Char → List Char
  /-- Lines whose changes do not matter. -/
  trifling : List Char → Bool

/-- A file: its name, the time of its last change and its lines with their line breaks. -/
structure Source where
  name : List Char
  changed : Int
  lines : Array (List Char)

/-- The line of a file with its line break, or with a remark that it has none. -/
def Source.line (s : Source) (lead : List Char) (i : Nat) : List Char :=
  let text := (s.lines[i]?).getD []
  if text.getLast? = some '\n' then lead ++ text
  else lead ++ text ++ "\n\\ No newline at end of file\n".toList

/-- Some lines of a file. -/
def Source.part (s : Source) (lead : List Char) (start count : Nat) : List Char :=
  (List.range count).flatMap fun k => s.line lead (start + k)

/-- The numbers of the first and the last of some lines, or of the line before if there are none. -/
def rangeText (start count : Nat) : List Char :=
  if count ≤ 1 then digits (start + count)
  else digits (start + 1) ++ ',' :: digits (start + count)

/-- The letter for a change. -/
def letterOf (c : Change) : Char :=
  if c.deleted = 0 then 'a' else if c.inserted = 0 then 'd' else 'c'

/-- A change in the normal form. -/
def normalText (a b : Source) (c : Change) : List Char :=
  rangeText c.old c.deleted ++ letterOf c :: rangeText c.new c.inserted ++ '\n' ::
    a.part ['<', ' '] c.old c.deleted ++
    (if 0 < c.deleted ∧ 0 < c.inserted then "---\n".toList else []) ++
    b.part ['>', ' '] c.new c.inserted

/-- The text that a command of an editor inserts: a line with nothing but a dot is written with two
and mended afterwards. -/
def insertedText : (within : Bool) → List (List Char) → List Char
  | true, [] => ['.', '\n']
  | false, [] => []
  | within, line :: rest =>
    let start := if within then [] else ['a', '\n']
    if line = ['.', '\n'] then start ++ "..\n.\ns/.//\n".toList ++ insertedText false rest
    else start ++ line ++ insertedText true rest

/-- A change as a command for an editor. -/
def commandText (b : Source) (c : Change) : List Char :=
  let lines := (List.range c.inserted).map fun k => (b.lines[c.new + k]?).getD []
  let lines := lines.map fun l => if l.getLast? = some '\n' then l else l ++ ['\n']
  rangeText c.old c.deleted ++ letterOf c :: '\n' ::
    (if c.inserted = 0 then [] else insertedText true lines)

/-- A change as commands with numbers of lines. -/
def countText (b : Source) (c : Change) : List Char :=
  let lines := (List.range c.inserted).flatMap fun k => (b.lines[c.new + k]?).getD []
  (if c.deleted = 0 then []
    else 'd' :: digits (c.old + 1) ++ ' ' :: digits c.deleted ++ ['\n']) ++
    (if c.inserted = 0 then []
      else 'a' :: digits (c.old + c.deleted) ++ ' ' :: digits c.inserted ++ '\n' :: lines)

/-- A change and whether it matters. -/
abbrev Judged := Change × Bool

/-- The changes at the start that are printed together. -/
def hunk (context : Nat) : Judged → List Judged → List Judged × List Judged
  | c, [] => ([c], [])
  | c, d :: rest =>
    let limit := if c.2 && d.2 then 2 * context + 1 else context
    if d.1.old - (c.1.old + c.1.deleted) < limit then
      let (more, rest) := hunk context d rest
      (c :: more, rest)
    else ([c], d :: rest)

/-- Changes in the groups that are printed together. -/
def hunks (context : Nat) : Nat → List Judged → List (List Judged)
  | fuel + 1, c :: rest =>
    let (first, rest) := hunk context c rest
    first :: hunks context fuel rest
  | _, _ => []

/-- The lines that a hunk covers in one file: the first and how many. -/
def cover (context size : Nat) (first last : Nat) : Nat × Nat :=
  let start := first - context
  (start, min size (last + context) - start)

/-- The lines of a hunk in the old and in the new file. -/
def covers (context : Nat) (a b : Source) (changes : List Change) : (Nat × Nat) × (Nat × Nat) :=
  let first := changes.head?.getD ⟨0, 0, 0, 0⟩
  let last := changes.getLast?.getD first
  (cover context a.lines.size first.old (last.old + last.deleted),
    cover context b.lines.size first.new (last.new + last.inserted))

/-- A range of lines at the head of a hunk in the unified form. -/
def unifiedRange (r : Nat × Nat) : List Char :=
  match r with
  | (start, 1) => digits (start + 1)
  | (start, 0) => digits start ++ [',', '0']
  | (start, count) => digits (start + 1) ++ ',' :: digits count

/-- The lines of a hunk in the unified form, from a line of the old file on. -/
def unifiedLines (a b : Source) (stop : Nat) : Nat → List Change → List Char
  | i, [] => a.part [' '] i (stop - i)
  | i, c :: rest =>
    a.part [' '] i (c.old - i) ++ a.part ['-'] c.old c.deleted ++ b.part ['+'] c.new c.inserted ++
      unifiedLines a b stop (c.old + c.deleted) rest

/-- A hunk in the unified form. -/
def unifiedText (context : Nat) (a b : Source) (changes : List Change) : List Char :=
  let (old, new) := covers context a b changes
  "@@ -".toList ++ unifiedRange old ++ ' ' :: '+' :: unifiedRange new ++ " @@\n".toList ++
    unifiedLines a b (old.1 + old.2) old.1 changes

/-- The lines of one file in a hunk of the form with context, from a line on. The changes are the
start and the number of lines in this file and the sign for them. -/
def contextLines (s : Source) (stop : Nat) : Nat → List (Nat × Nat × Char) → List Char
  | i, [] => s.part [' ', ' '] i (stop - i)
  | i, (start, count, sign) :: rest =>
    s.part [' ', ' '] i (start - i) ++ s.part [sign, ' '] start count ++
      contextLines s stop (start + count) rest

/-- A hunk in the form with context. -/
def contextText (context : Nat) (a b : Source) (changes : List Change) : List Char :=
  let (old, new) := covers context a b changes
  let both := fun (c : Change) => 0 < c.deleted && 0 < c.inserted
  let oldParts := changes.map fun c => (c.old, c.deleted, if both c then '!' else '-')
  let newParts := changes.map fun c => (c.new, c.inserted, if both c then '!' else '+')
  let oldLines :=
    if changes.any (0 < ·.deleted) then contextLines a (old.1 + old.2) old.1 oldParts else []
  let newLines :=
    if changes.any (0 < ·.inserted) then contextLines b (new.1 + new.2) new.1 newParts else []
  "***************\n*** ".toList ++ rangeText old.1 old.2 ++ " ****\n".toList ++ oldLines ++
    "--- ".toList ++ rangeText new.1 new.2 ++ " ----\n".toList ++ newLines

/-- The line at the head of a file in the unified form or in the form with context. -/
def headLine (s : Settings) (mark : String) (second : Bool) (f : Source) : List Char :=
  let labels := s.options.valuesOf 'L'
  let time := Moment.ofNanoseconds f.changed
  let text := match labels[if second then 1 else 0]?, s.form with
    | some label, _ => label
    | none, .unified _ => f.name ++ '\t' :: time.format 40 "%Y-%m-%d %H:%M:%S.%N %z".toList
    | none, _ => f.name ++ '\t' :: time.format 40 "%a %b %e %H:%M:%S %Y".toList
  mark.toList ++ ' ' :: text ++ ['\n']

/-! ## Side by side -/

/-- The widths of a line with both files: of one half, and where the second one begins. -/
def halves (width : Nat) : Nat × Nat :=
  let tab := 8
  let gutter := 3
  let unaligned := width / 2 + (tab + gutter) / 2 + width % 2 * ((tab + gutter) % 2)
  let offset := unaligned - unaligned % tab
  (min (offset - gutter) (width - offset), offset)

/-- Blanks from one column to another, with tabs where they fit. -/
def blankTo (stop : Nat) : Nat → Nat → List Char
  | 0, _ => []
  | fuel + 1, column =>
    if stop ≤ column then []
    else
      let next := column - column % 8 + 8
      if next ≤ stop then '\t' :: blankTo stop fuel next else ' ' :: blankTo stop fuel (column + 1)

/-- The part of a line that fits into a width, and the column behind it. -/
def halfLine (width : Nat) (line : List Char) : List Char × Nat :=
  let text := (line.filter (· ≠ '\n')).take width
  (text, text.length)

/-- A line with both files. -/
def columnLine (width : Nat) (mark : Char) (left right : Option (List Char)) : List Char :=
  let (half, offset) := halves width
  let (text, column) := halfLine half (left.getD [])
  let gutter := half + (offset - half) / 2
  let (sign, column) :=
    if mark = ' ' then ([], column)
    else (blankTo gutter (gutter + 1) column ++ [mark], gutter + 1)
  match right with
  | some r =>
    let (rightText, _) := halfLine half r
    let gap := if rightText.isEmpty then [] else blankTo offset (offset + 1) column
    text ++ sign ++ gap ++ rightText ++ ['\n']
  | none => text ++ sign ++ ['\n']

/-- Both files side by side, from lines of them on. -/
def columnsText (width : Nat) (onlyChanged : Bool) (a b : Source) : Nat → List Change → List Char
  | i, [] => if onlyChanged then [] else same i (a.lines.size - i) i
  | i, c :: rest =>
    let shared := min c.deleted c.inserted
    let pair := fun k => columnLine width '|' a.lines[c.old + k]? b.lines[c.new + k]?
    let left := fun k => columnLine width '<' a.lines[c.old + shared + k]? none
    let right := fun k => columnLine width '>' none b.lines[c.new + shared + k]?
    (if onlyChanged then [] else same i (c.old - i) i) ++ (List.range shared).flatMap pair ++
      (List.range (c.deleted - shared)).flatMap left ++
      (List.range (c.inserted - shared)).flatMap right ++
      columnsText width onlyChanged a b (c.old + c.deleted) rest
where
  /-- Lines that both files have. -/
  same (i count : Nat) (_ : Nat) : List Char :=
    (List.range count).flatMap fun k => columnLine width ' ' a.lines[i + k]? a.lines[i + k]?

/-! ## Whole files -/

/-- Whether a change matters: one of its lines is not trifling. -/
def matters (s : Settings) (a b : Source) (c : Change) : Bool :=
  ((List.range c.deleted).any fun k => !s.trifling ((a.lines[c.old + k]?).getD [])) ||
    (List.range c.inserted).any fun k => !s.trifling ((b.lines[c.new + k]?).getD [])

/-- How many lines around changes are printed. -/
def Form.margin : Form → Nat
  | unified n | context n => n
  | _ => 0

/-- The differences of two files, and whether there are any that matter. -/
def text (s : Settings) (a b : Source) : List Char × Bool :=
  let all := changes s.fold s.form.margin a.lines.toList b.lines.toList
  let judged := all.map fun c => (c, matters s a b c)
  let relevant := (judged.filter (·.2)).map (·.1)
  let groups := ((hunks s.form.margin (judged.length + 1) judged).filter fun g => g.any (·.2)).map
    fun g => g.map (·.1)
  let head := fun (first second : String) => headLine s first false a ++ headLine s second true b
  let width := ((s.options.value? 'W').bind natural?).getD 130
  let body := match s.form with
    | .normal => relevant.flatMap (normalText a b)
    | .commands => relevant.reverse.flatMap (commandText b)
    | .counts => relevant.flatMap (countText b)
    | .columns => columnsText width (s.options.has '4') a b 0 all
    | .unified n => head "---" "+++" ++ groups.flatMap (unifiedText n a b)
    | .context n => head "***" "---" ++ groups.flatMap (contextText n a b)
  (if relevant.isEmpty && s.form ≠ .columns then [] else body, !relevant.isEmpty)

/-! ## Options -/

def grammar : Grammar :=
  ⟨"0123456789abBcdeEHilnNpqrstTuvwyZ", "CDFILSUWxX", "",
    [("text", 'a'), ("ignore-space-change", 'b'), ("ignore-blank-lines", 'B'), ("context?", 'C'),
      ("minimal", 'd'), ("ed", 'e'), ("ignore-tab-expansion", 'E'), ("ignore-case", 'i'),
      ("rcs", 'n'), ("new-file", 'N'), ("show-c-function", 'p'), ("brief", 'q'),
      ("recursive", 'r'), ("report-identical-files", 's'), ("expand-tabs", 't'),
      ("initial-tab", 'T'), ("unified?", 'U'), ("ignore-all-space", 'w'), ("side-by-side", 'y'),
      ("ignore-trailing-space", 'Z'), ("ignore-matching-lines=", 'I'), ("label=", 'L'),
      ("width=", 'W'), ("exclude=", 'x'), ("normal", '0'), ("strip-trailing-cr", 'R'),
      ("suppress-common-lines", '4'), ("color?", 'k'), ("no-dereference", 'P'),
      ("speed-large-files", 'H')]⟩

/-- The context that is shown unless an option says something else. -/
def defaultContext : Nat := 3

/-- The form that options ask for. -/
def formOf (o : Options) : Except String Form := do
  let size := fun (c : Char) =>
    match o.value? c with
    | none => pure none
    | some s =>
      match natural? s with
      | some n => pure (some n)
      | none => throw ("invalid context length " ++ quoted s)
  let given := natural? (o.letters.reverse.filter fun c => c.isDigit && c ≠ '4')
  let unified ← size 'U'
  let context ← size 'C'
  let forms :=
    (if o.has 'u' || o.has 'U' then [Form.unified ((unified.or given).getD defaultContext)]
      else []) ++
    (if o.has 'c' || o.has 'C' then [Form.context ((context.or given).getD defaultContext)]
      else []) ++
    (if o.has 'e' then [Form.commands] else []) ++ (if o.has 'n' then [Form.counts] else []) ++
    (if o.has 'y' then [Form.columns] else [])
  match forms with
  | [] => return .normal
  | [f] => return f
  | _ => throw "conflicting output style options"

/-- A line without blanks, or with single ones, as options ask for it. -/
def foldLine (o : Options) (line : List Char) : List Char :=
  let line := if o.has 'i' then line.map Char.toLower else line
  let line :=
    if o.has 'R' then
      match line.reverse with
      | '\n' :: '\x0d' :: rest => (('\n' :: rest : List Char)).reverse
      | _ => line
    else line
  let trimmed := fun (s : List Char) => (s.reverse.dropWhile Text.isSpaceChar).reverse
  if o.has 'w' then line.filter fun c => !Text.isSpaceChar c
  else if o.has 'b' then single false (trimmed line)
  else
    let line := if o.has 'Z' then trimmed line else line
    if o.has 'E' then expanded 0 line else line
where
  /-- Blanks as single ones; `afterBlank` says that there was one. -/
  single (afterBlank : Bool) : List Char → List Char
    | [] => []
    | c :: rest =>
      if Text.isSpaceChar c then (if afterBlank then [] else [' ']) ++ single true rest
      else c :: single false rest
  /-- Tabs as blanks, from a column on. -/
  expanded (column : Nat) : List Char → List Char
    | [] => []
    | '\t' :: rest =>
      let n := 8 - column % 8
      List.replicate n ' ' ++ expanded (column + n) rest
    | c :: rest => c :: expanded (column + 1) rest

/-- What options ask for. -/
def settingsOf (o : Options) : Except String Settings := do
  let form ← formOf o
  let ignored ← (o.valuesOf 'I').mapM fun s =>
    match Regex.ofText .basic s with
    | .ok r => .ok r
    | .error problem => .error (shown s ++ ": " ++ problem.message)
  let isBlank := fun (line : List Char) =>
    if o.has 'w' || o.has 'b' || o.has 'Z' then line.all Text.isSpaceChar
    else line.all (· = '\n')
  return {
    form
    options := o
    fold := foldLine o
    trifling := fun line =>
      (o.has 'B' && isBlank line) ||
        ignored.any fun r => (r.find? false [] (line.filter (· ≠ '\n'))).isSome }

/-- The lines of a text with their line breaks. -/
def sourceLines (text : List Char) : Array (List Char) :=
  let lines := linesOf text
  let complete := text.getLast? = some '\n'
  (lines.mapIdx fun i line =>
    if i + 1 < lines.length ∨ complete then line ++ ['\n'] else line).toArray

/-- How many bytes are looked at to tell whether a file is text. -/
def probeSize : Nat := 32768

/-- The differences of two files with texts, and whether there are any. -/
def ofTexts (s : Settings) (first second : List Char × Int × List Char) : List Char × Bool :=
  let (firstName, firstTime, a) := first
  let (secondName, secondTime, b) := second
  let o := s.options
  let labels := o.valuesOf 'L'
  let names := ((labels[0]?).getD firstName) ++ " and ".toList ++ ((labels[1]?).getD secondName)
  let binary := !o.has 'a' &&
    ((a.take probeSize).contains '\x00' || (b.take probeSize).contains '\x00')
  let equalText :=
    if o.has 's' then "Files ".toList ++ names ++ " are identical\n".toList else []
  if a = b && s.form ≠ .columns then (equalText, false)
  else if binary then ("Binary files ".toList ++ names ++ " differ\n".toList, true)
  else
    let (body, differ) := text s ⟨firstName, firstTime, sourceLines a⟩
      ⟨secondName, secondTime, sourceLines b⟩
    if o.has 'q' then
      (if differ then "Files ".toList ++ names ++ " differ\n".toList else equalText, differ)
    else if differ then (body, true)
    else (body ++ equalText, false)

/-! ## Directories -/

/-- What a path leads to. -/
inductive Side where
  | file (changed : Int) (text : List Char)
  | directory (place : Place)
  | missing
  | broken (e : Disk.Error)

/-- Looks a path up. -/
def sideOf (d : Disk) (cwd : Place) (path : List Char) : Side :=
  match d.find cwd (shown path) with
  | .ok (p, .directory _) => .directory p
  | .ok (_, e) =>
    match d.read cwd (shown path) with
    | .ok bytes => .file ((e.attributes?.map (·.changed)).getD 0) (Text.charsOfBytes bytes)
    | .error e => .broken e
  | .error .notFound => .missing
  | .error e => .broken e

/-- What came of a comparison: what is to be printed in reverse order, whether there are differences,
and complaints, the latest first. -/
structure Result where
  output : List (List Char)
  differ : Bool
  complaints : List String

namespace Result

def say (r : Result) (text : List Char) : Result := { r with output := text :: r.output, differ := true }

def complain (r : Result) (path : List Char) (e : Disk.Error) : Result :=
  { r with complaints := (shown path ++ ": " ++ e.systemText) :: r.complaints }

end Result

/-- What a path leads to, in words. -/
def Side.kind : Side → String
  | directory _ => "a directory"
  | file _ [] => "a regular empty file"
  | _ => "a regular file"

/-- Compares what two paths lead to. `heading` is what is printed in front of differences within
directories. -/
def compare (s : Settings) (d : Disk) (cwd : Place) (heading : List Char) :
    Nat → (top : Bool) → List Char → List Char → Result → Result
  | 0, _, _, _, r => r
  | fuel + 1, top, a, b, r =>
    let o := s.options
    let files := fun (r : Result) (first second : List Char × Int × List Char) =>
      let (body, differ) := ofTexts s first second
      let head :=
        if top || body.isEmpty || o.has 'q' || !differ then []
        else heading ++ ' ' :: inWords a ++ ' ' :: inWords b ++ ['\n']
      { r with output := (head ++ body) :: r.output, differ := r.differ || differ }
    match sideOf d cwd a, sideOf d cwd b with
    | .file m x, .file n y => files r (a, m, x) (b, n, y)
    | .file m x, .missing =>
      if o.has 'N' then files r (a, m, x) (b, 0, []) else r.complain b .notFound
    | .missing, .file n y =>
      if o.has 'N' then files r (a, 0, []) (b, n, y) else r.complain a .notFound
    | .directory p, .directory q =>
      if !top && !o.has 'r' then
        { r with output := ("Common subdirectories: ".toList ++ a ++ " and ".toList ++ b ++
            ['\n']) :: r.output }
      else
        let names := ((d.children p ++ d.children q).map bytesChars).eraseDups.mergeSort
          fun x y => !(y < x)
        let excluded := fun (name : List Char) =>
          (o.valuesOf 'x').any fun pattern => Pattern.fits (bareText pattern) name
        (names.filter fun name => !excluded name).foldl (fun r name =>
          let inFirst := (d.lookup (p ++ [shown name])).isSome
          let inSecond := (d.lookup (q ++ [shown name])).isSome
          let only := fun (path : List Char) =>
            r.say ("Only in ".toList ++ path ++ ": ".toList ++ name ++ ['\n'])
          if (inFirst && inSecond) || o.has 'N' then
            compare s d cwd heading fuel false (inDirectory a name) (inDirectory b name) r
          else if inFirst then only a
          else only b) r
    | .directory p, .missing =>
      if o.has 'N' && !top then
        (d.children p).foldl (fun r name =>
          compare s d cwd heading fuel false (inDirectory a (bytesChars name))
            (inDirectory b (bytesChars name)) r) r
      else r.complain b .notFound
    | .missing, .directory q =>
      if o.has 'N' && !top then
        (d.children q).foldl (fun r name =>
          compare s d cwd heading fuel false (inDirectory a (bytesChars name))
            (inDirectory b (bytesChars name)) r) r
      else r.complain a .notFound
    | .missing, .missing => (r.complain a .notFound).complain b .notFound
    | .broken e, .broken f => (r.complain a e).complain b f
    | .broken e, _ => r.complain a e
    | _, .broken e => r.complain b e
    | x, y =>
      r.say ("File ".toList ++ a ++ (" is " ++ x.kind ++ " while file ").toList ++ b ++
        (" is " ++ y.kind ++ "\n").toList)
where
  /-- A name as a word of a command. -/
  inWords (name : List Char) : List Char := quotedWord name

end Difference

/-- Compares a file that may be the standard input with another one. -/
def diffWithInput (s : Difference.Settings) (env : Surroundings) (a b : List Char) : Work Nat := do
  let d ← Work.call (Kernel.askDisk id)
  let read := fun (path : List Char) => do
    let text ← contents env.cwd path
    let changed : Int := match d.find env.cwd (shown path) with
      | .ok (_, e) => (e.attributes?.map (·.changed)).getD d.now
      | .error _ => d.now
    match text with
    | .ok text => return some (path, changed, text)
    | .error e =>
      warn "diff" (shown path ++ ": " ++ e.systemText)
      return none
  let first ← read a
  let second ← if a = b then pure (first.map fun f => f) else read b
  match first, second with
  | some x, some y =>
    let (text, differ) := Difference.ofTexts s x y
    emit "diff" text (if differ then 1 else 0)
  | _, _ => return 2

/-- Prints the differences of two files. -/
def diff : Utility := fun env args => do
  let o := Difference.grammar.read args
  match o.problem, Difference.settingsOf o, o.rest with
  | some problem, _, _ | none, .error problem, _ => refuseTwice "diff" problem
  | none, .ok _, [] =>
    let name ← ownName "diff"
    refuseTwice "diff" ("missing operand after " ++ quoted name.toList)
  | none, .ok _, [a] => refuseTwice "diff" ("missing operand after " ++ quoted a)
  | none, .ok _, _ :: _ :: extra :: _ => refuseTwice "diff" ("extra operand " ++ quoted extra)
  | none, .ok s, [first, second] =>
    let d ← Work.call (Kernel.askDisk id)
    let kind := fun (path : List Char) =>
      ((d.find env.cwd (shown path)).toOption).map fun (_, e) => e.isDirectory
    let (a, b) := match kind first, kind second with
      | some true, some false => (inDirectory first (lastName second), second)
      | some false, some true => (first, inDirectory second (lastName first))
      | _, _ => (first, second)
    let isSpecial := fun (path : List Char) => path = ['-'] || "/dev/".toList.isPrefixOf path
    if isSpecial a || isSpecial b then diffWithInput s env a b
    else
      let switches := (args.erase first).erase second
      let heading := List.flatten (("diff".toList :: switches.map quotedWord).intersperse [' '])
      let r := Difference.compare s d env.cwd heading (d.entries.length + 2) true a b ⟨[], false, []⟩
      for c in r.complaints.reverse do warn "diff" c
      emit "diff" r.output.reverse.flatten
        (if !r.complaints.isEmpty then 2 else if r.differ then 1 else 0)

end ProgramRepair.Utility
