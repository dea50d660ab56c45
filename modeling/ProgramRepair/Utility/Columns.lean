import ProgramRepair.Utility.Regex
import ProgramRepair.Utility.Streams

/-!
# Columns

Programs that see lines as columns: they take parts of lines, put lines side by side,
break long lines, change tabs into blanks and back, and number lines.
-/

namespace ProgramRepair.Utility

open Machine

/-! ## Parts of lines -/

/-- A range of places counted from 1, perhaps without an end. -/
abbrev PlaceRange := Nat × Option Nat

/-- What is wrong with a list of places. -/
inductive PlaceProblem where
  | numberedFromOne
  | decreasing
  | noEndpoint
  | invalidRange
  | notNumber (s : List Char)

/-- The wording of what is wrong, for fields or for characters. -/
def PlaceProblem.message (fields : Bool) : PlaceProblem → String
  | numberedFromOne =>
    (if fields then "fields" else "byte/character positions") ++ " are numbered from 1"
  | decreasing => "invalid decreasing range"
  | noEndpoint => "invalid range with no endpoint: -"
  | invalidRange => if fields then "invalid field range" else "invalid byte or character range"
  | notNumber s =>
    (if fields then "invalid field value " else "invalid byte/character position ") ++ quoted s

/-- The range that a piece of a list stands for. -/
def placeRange (piece : List Char) : Except PlaceProblem PlaceRange := do
  let isSign := fun c : Char => c.isDigit || c = '-'
  let wrong := piece.dropWhile isSign
  if !wrong.isEmpty then throw (.notNumber wrong)
  match Text.cut '-' piece with
  | [a] =>
    match natural? a with
    | none | some 0 => throw .numberedFromOne
    | some n => return (n, some n)
  | [[], []] => throw .noEndpoint
  | [[], b] =>
    match natural? b with
    | some 0 => throw .decreasing
    | n => return (1, n)
  | [a, b] =>
    match natural? a, natural? b with
    | some 0, _ => throw .numberedFromOne
    | some low, some high => if high < low then throw .decreasing else return (low, some high)
    | low, none => return (low.getD 1, none)
    | none, high => return (1, high)
  | _ => throw .invalidRange

/-- The ranges that a list such as `1,3-5` stands for. -/
def placeRanges (s : List Char) : Except PlaceProblem (List PlaceRange) :=
  (Text.cut ',' (s.map fun c => if c = ' ' ∨ c = '\t' then ',' else c)).mapM placeRange

/-- Ranges in order, those that share a place as one. -/
def joinRanges (ranges : List PlaceRange) : List PlaceRange :=
  let sorted := ranges.mergeSort fun a b => a.1 ≤ b.1
  (sorted.foldl (fun (done : List PlaceRange) r =>
    match done with
    | (low, high) :: rest =>
      if high.all (r.1 ≤ ·) then
        (low, match high, r.2 with
          | some x, some y => some (max x y)
          | _, _ => none) :: rest
      else r :: (low, high) :: rest
    | [] => [r]) []).reverse

/-- The places that are in none of some ranges, which are in order and do not meet. -/
def otherRanges (next : Nat) : List PlaceRange → List PlaceRange
  | [] => [(next, none)]
  | (low, high) :: rest =>
    (if next < low then [(next, some (low - 1))] else []) ++
      match high with
      | some h => otherRanges (h + 1) rest
      | none => []

/-- The items of a list in a range. -/
def inRange (items : List α) (r : PlaceRange) : List α :=
  match r.2 with
  | some high => (items.take high).drop (r.1 - 1)
  | none => items.drop (r.1 - 1)

def cutGrammar : Grammar :=
  ⟨"nsz", "bcdf", "", [("bytes=", 'b'), ("characters=", 'c'), ("fields=", 'f'), ("delimiter=", 'd'),
    ("only-delimited", 's'), ("complement", '!'), ("output-delimiter=", 'o'),
    ("zero-terminated", 'z')]⟩

/-- What is asked for of the lines: fields or characters, and the ranges of them. -/
def cutRequest (o : Options) : Except String (Bool × List PlaceRange) := do
  let lists := o.values.filter fun (c, _) => c = 'b' ∨ c = 'c' ∨ c = 'f'
  if (o.value? 'd').any fun d => 1 < d.length then throw "the delimiter must be a single character"
  match lists with
  | [] => throw "you must specify a list of bytes, characters, or fields"
  | _ :: _ :: _ => throw "only one list may be specified"
  | [(letter, list)] =>
    let fields := letter = 'f'
    if !fields ∧ o.has 'd' then
      throw "an input delimiter may be specified only when operating on fields"
    if !fields ∧ o.has 's' then
      throw "suppressing non-delimited lines makes sense\n\tonly when operating on fields"
    let ranges ← (placeRanges list).mapError (·.message fields)
    let ranges := joinRanges ranges
    return (fields, if o.has '!' then otherRanges 1 ranges else ranges)

/-- Prints parts of lines. -/
def cut : Utility := fun env args => do
  let o := cutGrammar.read args
  match o.problem, cutRequest o with
  | some problem, _ => refuse "cut" problem 1
  | none, .error problem => refuse "cut" problem 1
  | none, .ok (fields, ranges) =>
    let separator := match o.value? 'd' with
      | some d => d.head?.getD '\x00'
      | none => '\t'
    let lineEnd := if o.has 'z' then '\x00' else '\n'
    let join := fun (pieces : List (List Char)) (usual : List Char) =>
      List.flatten (pieces.intersperse ((o.value? 'o').getD usual))
    let parts? := fun (line : List Char) =>
      if fields then
        if line.contains separator then
          some (join (ranges.flatMap (inRange (Text.cut separator line))) [separator])
        else if o.has 's' then none
        else some line
      else some (join ((ranges.map (inRange line)).filter (· ≠ [])) [])
    let filter := Filter.ofLines lineEnd false () fun _ _ line =>
      ((parts? line).elim [] (· ++ [lineEnd]), ())
    filter.run "cut" env.cwd o.rest

/-! ## Lines side by side -/

/-- The separators that a list with escapes stands for, one after the other. -/
def pasteSeparators : List Char → Except String (List (List Char))
  | [] => .ok []
  | ['\\'] => .error "delimiter list ends with an unescaped backslash"
  | '\\' :: c :: s => do
    let e := match c with
      | '0' => []
      | 'b' => ['\x08']
      | 'f' => ['\x0c']
      | 'n' => ['\n']
      | 'r' => ['\x0d']
      | 't' => ['\t']
      | 'v' => ['\x0b']
      | c => [c]
    return e :: (← pasteSeparators s)
  | c :: s => do return [c] :: (← pasteSeparators s)

/-- Texts with separators between them, which are used one after the other. -/
def joinCyclic (separators : List (List Char)) (items : List (List Char)) : List Char :=
  let count := separators.length
  (items.mapIdx fun i item =>
    (if i = 0 ∨ count = 0 then [] else (separators[(i - 1) % count]?).getD []) ++ item).flatten

/-- The next line of each column. A column without lines of its own takes lines from those that all
such columns share. -/
def nextRow (shared : List (List Char)) :
    List (Option (List (List Char))) →
      List (Option (List Char)) × List (Option (List (List Char))) × List (List Char)
  | [] => ([], [], shared)
  | none :: rest =>
    let (row, columns, left) := nextRow shared.tail rest
    (shared.head? :: row, none :: columns, left)
  | some lines :: rest =>
    let (row, columns, left) := nextRow shared rest
    (lines.head? :: row, some lines.tail :: columns, left)

/-- The rows of columns. -/
def pasteRows (separators : List (List Char)) :
    Nat → List (List Char) → List (Option (List (List Char))) → List (List Char)
  | 0, _, _ => []
  | fuel + 1, shared, columns =>
    let (row, columns, shared) := nextRow shared columns
    if row.all Option.isNone then []
    else
      joinCyclic separators (row.map fun line => line.getD []) ::
        pasteRows separators fuel shared columns

/-- The filter that puts as many lines as there are columns side by side. Its state is the row that
has begun, in reverse order. -/
def rowFilter (lineEnd : Char) (separators : List (List Char)) (columns : Nat) :
    Filter (List (List Char) × List (List Char)) :=
  let row := fun (lines : List (List Char)) =>
    joinCyclic separators (lines.reverse ++ List.replicate (columns - lines.length) []) ++ [lineEnd]
  let f := Filter.ofLines lineEnd true [] fun _ lines line =>
    if lines.length + 1 = columns then (row (line :: lines), []) else ([], line :: lines)
  { f with
    finish := fun (lines, left) =>
      let lines := if left.all List.isEmpty then lines else left.reverse.flatten :: lines
      if lines.isEmpty then [] else row lines }

def pasteGrammar : Grammar :=
  ⟨"sz", "d", "", [("serial", 's'), ("delimiters=", 'd'), ("zero-terminated", 'z')]⟩

/-- Prints the lines of files side by side, or with `-s` those of each file in a row. -/
def paste : Utility := fun env args => do
  let o := pasteGrammar.read args
  let list := (o.value? 'd').getD ['\t']
  match o.problem, pasteSeparators list with
  | some problem, _ => refuse "paste" problem 1
  | none, .error problem =>
    warn "paste" (problem ++ ": " ++ shown list)
    return 1
  | none, .ok separators =>
    let separators := if separators.isEmpty then [[]] else separators
    let lineEnd := if o.has 'z' then '\x00' else '\n'
    let paths := if o.rest.isEmpty then [['-']] else o.rest
    if !o.has 's' && paths.all (· = ['-']) then
      (rowFilter lineEnd separators paths.length).run "paste" env.cwd []
    else if o.has 's' then
      let (texts, code) ← inputs "paste" env.cwd paths
      let lines := texts.map fun (_, text) => joinCyclic separators (linesBy lineEnd text)
      emit "paste" (unlinesBy lineEnd lines) code
    else
      let named := paths.filter (· ≠ ['-'])
      let (texts, code) ← inputs "paste" env.cwd named
      if code ≠ 0 then return code
      let (shared, sharedCode) ←
        if paths.contains ['-'] then inputs "paste" env.cwd [['-']] else pure ([], 0)
      let sharedLines := shared.flatMap fun (_, text) => linesBy lineEnd text
      let columns := paths.map fun path =>
        if path = ['-'] then none
        else some ((texts.lookup path).elim [] (linesBy lineEnd))
      let count := sharedLines.length + (texts.flatMap (·.2)).length + 1
      emit "paste" (unlinesBy lineEnd (pasteRows separators count sharedLines columns)) sharedCode

/-! ## Long lines -/

/-- The column after a character. -/
def nextColumn (bytes : Bool) (column : Nat) (c : Char) : Nat :=
  if bytes then column + 1
  else
    match c with
    | '\x08' => column - 1
    | '\x0d' => 0
    | '\t' => column + 8 - column % 8
    | _ => column + 1

/-- The column after a text. -/
def columnAfter (bytes : Bool) (s : List Char) : Nat := s.foldl (nextColumn bytes) 0

/-- The state of breaking lines: what is finished but not yet printed and the current piece, both in
reverse order. -/
structure Folding where
  done : List Char
  piece : List Char
  column : Nat

/-- Takes one character; at most `tries` breaks are made before it. -/
def Folding.step (width : Nat) (bytes atBlanks : Bool) : (tries : Nat) → Folding → Char → Folding
  | 0, f, c => { f with piece := c :: f.piece }
  | tries + 1, f, c =>
    if c = '\n' then ⟨'\n' :: f.piece ++ f.done, [], 0⟩
    else
      let column := nextColumn bytes f.column c
      if column ≤ width then { f with piece := c :: f.piece, column }
      else
        let isBlank := fun d : Char => d = ' ' || d = '\t'
        let after := f.piece.takeWhile fun d => !isBlank d
        if atBlanks ∧ after.length < f.piece.length then
          let kept := f.piece.drop after.length
          Folding.step width bytes atBlanks tries
            ⟨'\n' :: kept ++ f.done, after, columnAfter bytes after.reverse⟩ c
        else if f.piece.isEmpty then ⟨f.done, [c], column⟩
        else Folding.step width bytes atBlanks tries ⟨'\n' :: f.piece ++ f.done, [], 0⟩ c

/-- The filter that breaks lines after a number of columns. -/
def foldFilter (width : Nat) (bytes atBlanks : Bool) : Filter Folding where
  start := ⟨[], [], 0⟩
  piece := fun f text =>
    let f := text.foldl (Folding.step width bytes atBlanks 4) f
    (f.done.reverse, { f with done := [] })
  fileEnd := fun f => (f.piece.reverse, ⟨[], [], 0⟩)
  finish := fun _ => []

def foldGrammar : Grammar :=
  ⟨"bs", "w", "", [("bytes", 'b'), ("spaces", 's'), ("width=", 'w')]⟩

/-- Replaces arguments such as `-5` by options with that value. -/
def withOption (option : Char) (args : List (List Char)) : List (List Char) :=
  args.map fun a =>
    match a with
    | '-' :: d :: ds => if (d :: ds).all fun c => c.isDigit || c = ',' then '-' :: option :: d :: ds else a
    | a => a

/-- Breaks long lines. -/
def fold : Utility := fun env args => do
  let o := foldGrammar.read (withOption 'w' args)
  match o.problem, natural? ((o.value? 'w').getD ['8', '0']) with
  | some problem, _ => refuse "fold" problem 1
  | none, none =>
    warn "fold" ("invalid number of columns: " ++ quoted ((o.value? 'w').getD []))
    return 1
  | none, some 0 =>
    warn "fold" ("invalid number of columns: " ++ quoted ((o.value? 'w').getD []) ++
      ": Numerical result out of range")
    return 1
  | none, some width =>
    (foldFilter width (o.has 'b') (o.has 's')).run "fold" env.cwd o.rest

/-! ## Tabs -/

/-- Where tabs lead to: to multiples of a size, or to the columns of a list. -/
structure TabStops where
  columns : List Nat
  /-- The size of the steps after the columns, if there are any. -/
  size : Option Nat

/-- The next stop after a column. -/
def TabStops.next? (t : TabStops) (column : Nat) : Option Nat :=
  match t.columns.find? (column < ·) with
  | some n => some n
  | none => t.size.map fun size => column + size - column % size

/-- The stops that a list stands for. -/
def tabStops (s : List Char) : Except String TabStops := do
  let words := (Text.cut ',' (s.map fun c => if c = ' ' then ',' else c)).filter (· ≠ [])
  let numbers ← words.mapM fun w =>
    match natural? w with
    | some n => if n = 0 then throw "tab size cannot be 0" else return n
    | none =>
      throw ("tab size contains invalid character(s): " ++ quoted (w.dropWhile Char.isDigit))
  match numbers with
  | [] => return ⟨[], some 8⟩
  | [n] => return ⟨[], some n⟩
  | ns =>
    if (ns.zip ns.tail).all fun (a, b) => a < b then return ⟨ns, none⟩
    else throw "tab sizes must be ascending"

/-- The state of changing tabs into blanks: what is done but not yet printed, in reverse order, the
column, and whether tabs still count. -/
structure Expanding where
  done : List Char
  column : Nat
  active : Bool

/-- Takes one character. -/
def Expanding.step (stops : TabStops) (initialOnly : Bool) (s : Expanding) (c : Char) : Expanding :=
  if c = '\n' then ⟨c :: s.done, 0, true⟩
  else if !s.active then { s with done := c :: s.done }
  else
    match c with
    | '\t' =>
      let next := (stops.next? s.column).getD (s.column + 1)
      { s with done := List.replicate (next - s.column) ' ' ++ s.done, column := next }
    | '\x08' => ⟨c :: s.done, s.column - 1, !initialOnly⟩
    | ' ' => ⟨c :: s.done, s.column + 1, true⟩
    | c => ⟨c :: s.done, s.column + 1, !initialOnly⟩

/-- The stops that options ask for. -/
def optionStops (o : Options) : Except String TabStops :=
  tabStops (List.flatten ((o.valuesOf 't').intersperse [',']))

def expandGrammar : Grammar := ⟨"i", "t", "", [("initial", 'i'), ("tabs=", 't')]⟩

/-- Changes tabs into blanks. -/
def expand : Utility := fun env args => do
  let o := expandGrammar.read (withOption 't' args)
  match o.problem, optionStops o with
  | some problem, _ => refuse "expand" problem 1
  | none, .error problem =>
    warn "expand" problem
    return 1
  | none, .ok stops =>
    let filter := Filter.ofPieces ⟨[], 0, true⟩
      (fun s text =>
        let s := text.foldl (Expanding.step stops (o.has 'i')) s
        (s.done.reverse, { s with done := [] }))
      (fun _ => [])
    filter.run "expand" env.cwd o.rest

/-- The state of changing blanks into tabs. -/
structure Unexpanding where
  /-- What is done but not yet printed, in reverse order. -/
  done : List Char
  column : Nat
  /-- Whether blanks are still changed. -/
  active : Bool
  afterBlank : Bool
  /-- Blanks that may become a tab. -/
  pending : List Char
  /-- Whether a single blank stands just before a stop. -/
  single : Bool

/-- Writes the pending blanks and a character. -/
def Unexpanding.flush (s : Unexpanding) (c : Char) : Unexpanding :=
  let pending := match s.pending with
    | _ :: b :: rest => if s.single then '\t' :: b :: rest else s.pending
    | p => p
  { s with done := c :: pending.reverse ++ s.done, pending := [], single := false }

/-- Takes one character. -/
def Unexpanding.step (stops : TabStops) (whole : Bool) (s : Unexpanding) (c : Char) : Unexpanding :=
  if c = '\n' then
    { s.flush c with column := 0, active := true, afterBlank := true }
  else if !s.active then { s with done := c :: s.done }
  else
    let isBlank := c = ' ' ∨ c = '\t'
    if isBlank then
      match stops.next? s.column with
      | none => { s.flush c with active := false }
      | some next =>
        if c = '\t' then
          let pending := if s.single then ['\t'] else []
          { ({ s with pending, single := false }).flush '\t' with
            column := next, afterBlank := true, active := true }
        else
          let column := s.column + 1
          if s.afterBlank ∧ column = next then
            let pending := if s.single then ['\t'] else []
            { ({ s with pending, single := false }).flush '\t' with column, afterBlank := true }
          else
            { s with
              column, pending := s.pending ++ [c], afterBlank := true
              single := s.single || column = next }
    else
      let column := if c = '\x08' then s.column - 1 else s.column + 1
      { s.flush c with column, afterBlank := false, active := whole }

def unexpandGrammar : Grammar :=
  ⟨"a", "t", "", [("all", 'a'), ("first-only", 'f'), ("tabs=", 't')]⟩

/-- Changes blanks into tabs. -/
def unexpand : Utility := fun env args => do
  let o := unexpandGrammar.read (withOption 't' args)
  match o.problem, optionStops o with
  | some problem, _ => refuse "unexpand" problem 1
  | none, .error problem =>
    warn "unexpand" problem
    return 1
  | none, .ok stops =>
    let whole := (o.has 'a' || o.has 't') && !o.has 'f'
    let filter := Filter.ofPieces ⟨[], 0, true, true, [], false⟩
      (fun s text =>
        let s := text.foldl (Unexpanding.step stops whole) s
        (s.done.reverse, { s with done := [] }))
      (fun s => s.pending)
    filter.run "unexpand" env.cwd o.rest

/-! ## Numbers of lines -/

/-- Which lines get a number. -/
inductive Numbering where
  | all
  | notEmpty
  | nothing
  | fitting (r : Regex)

/-- The lines that a style names. -/
def Numbering.ofStyle? (s : List Char) : Option Numbering :=
  match s with
  | ['a'] => some all
  | ['t'] => some notEmpty
  | ['n'] => some nothing
  | 'p' :: r => (Regex.ofText .basicEditing r).toOption.map fitting
  | _ => none

/-- Where a number stands in its column. -/
inductive Justification where
  | left
  | right
  | zeros

/-- How lines are numbered. -/
structure LineNumbers where
  header : Numbering
  body : Numbering
  footer : Numbering
  start : Int
  increment : Int
  width : Nat
  separator : List Char
  justification : Justification
  /-- How many empty lines count as one. -/
  joined : Nat
  /-- The two characters that begin marks of sections. -/
  mark : List Char
  keepsCount : Bool

/-- The state of numbering: which lines get numbers, the next number, and how many empty lines came
last. -/
structure NumberingState where
  numbering : Numbering
  next : Int
  empty : Nat

/-- A number in its column. -/
def LineNumbers.column (l : LineNumbers) (n : Int) : List Char :=
  let text := (toString n).toList
  let missing := l.width - text.length
  match l.justification with
  | .left => text ++ List.replicate missing ' '
  | .right => List.replicate missing ' ' ++ text
  | .zeros =>
    if n < 0 then '-' :: List.replicate missing '0' ++ text.drop 1
    else List.replicate missing '0' ++ text

/-- What becomes of one line. -/
def LineNumbers.step (l : LineNumbers) (s : NumberingState) (line : List Char) :
    List Char × NumberingState :=
  let restart := if l.keepsCount then s.next else l.start
  let mark := l.mark
  if !mark.isEmpty ∧ line = mark ++ mark ++ mark then
    ([], { s with numbering := l.header, next := restart })
  else if !mark.isEmpty ∧ line = mark ++ mark then
    ([], { s with numbering := l.body, next := restart })
  else if !mark.isEmpty ∧ line = mark then
    ([], { s with numbering := l.footer, next := restart })
  else
    let bare := List.replicate (l.width + l.separator.length) ' ' ++ line
    let numbered := l.column s.next ++ l.separator ++ line
    let (chosen, empty) := match s.numbering with
      | .all =>
        if line.isEmpty ∧ s.empty + 1 < l.joined then (false, s.empty + 1) else (true, 0)
      | .notEmpty => (!line.isEmpty, 0)
      | .nothing => (false, 0)
      | .fitting r => ((Regex.find? false r [] line).isSome, 0)
    if chosen then (numbered, { s with next := s.next + l.increment, empty })
    else (bare, { s with empty })

def nlGrammar : Grammar :=
  ⟨"p", "bdfhilnsvw", "", [("body-numbering=", 'b'), ("section-delimiter=", 'd'),
    ("footer-numbering=", 'f'), ("header-numbering=", 'h'), ("line-increment=", 'i'),
    ("join-blank-lines=", 'l'), ("number-format=", 'n'), ("no-renumber", 'p'),
    ("number-separator=", 's'), ("starting-line-number=", 'v'), ("number-width=", 'w')]⟩

/-- How options ask for lines to be numbered; the problem comes with whether the help is
mentioned. -/
def lineNumbersOf (o : Options) : Except (String × Bool) LineNumbers := do
  let style := fun (c : Char) (what : String) (usual : Numbering) =>
    match o.value? c with
    | none => .ok usual
    | some s =>
      match Numbering.ofStyle? s with
      | some n => .ok n
      | none => .error ("invalid " ++ what ++ " numbering style: " ++ quoted s, true)
  let number := fun (c : Char) (what : String) (usual : Int) =>
    match o.value? c with
    | none => .ok usual
    | some s =>
      match integer? s with
      | some n => .ok n
      | none => .error ("invalid " ++ what ++ ": " ++ quoted s, false)
  let positive := fun (c : Char) (what : String) (usual : Int) => do
    let n ← number c what usual
    if n < 1 then
      throw ("invalid " ++ what ++ ": " ++ quoted ((o.value? c).getD []) ++
        ": Numerical result out of range", false)
    return n.toNat
  let justification ← match (o.value? 'n').map String.ofList with
    | none | some "rn" => pure Justification.right
    | some "ln" => pure .left
    | some "rz" => pure .zeros
    | some s => throw ("invalid line numbering format: '" ++ s ++ "'", true)
  return {
    header := ← style 'h' "header" .nothing
    body := ← style 'b' "body" .notEmpty
    footer := ← style 'f' "footer" .nothing
    start := ← number 'v' "starting line number" 1
    increment := ← number 'i' "line number increment" 1
    width := ← positive 'w' "line number field width" 6
    separator := (o.value? 's').getD ['\t']
    justification := justification
    joined := ← positive 'l' "line number of blank lines" 1
    mark := match o.value? 'd' with
      | some [c] => [c, ':']
      | some mark => mark
      | none => ['\\', ':']
    keepsCount := o.has 'p' }

/-- Prints lines with numbers. -/
def nl : Utility := fun env args => do
  let o := nlGrammar.read args
  match o.problem, lineNumbersOf o with
  | some problem, _ => refuse "nl" problem 1
  | none, .error (problem, true) => refuse "nl" problem 1
  | none, .error (problem, false) =>
    warn "nl" problem
    return 1
  | none, .ok l =>
    let filter := Filter.ofLines '\n' false ⟨l.body, l.start, 0⟩ fun _ s line =>
      let (text, s) := l.step s line
      (text ++ ['\n'], s)
    filter.run "nl" env.cwd o.rest

end ProgramRepair.Utility
