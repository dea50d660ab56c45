import ProgramRepair.Utility.Errand
import ProgramRepair.Utility.Regex

/-!
# Sections of a file

`csplit` writes sections of a file to files of their own. A section ends in front of a line
with a number, or of the next line in which an expression is found, or some lines before or
behind that.
-/

namespace ProgramRepair.Utility

open Machine

namespace Sections

/-! ## Patterns -/

/-- How often a pattern is used again. -/
inductive Again where
  | times (n : Nat)
  | always

/-- Where a section ends. -/
inductive Border where
  /-- In front of the line with a number. -/
  | line (number : Nat)
  /-- Some lines behind one in which an expression is found. A section may be left out. -/
  | found (r : Regex) (offset : Int) (isLeftOut : Bool)

/-- A border with the argument that it was read from. -/
structure Pattern where
  border : Border
  again : Again
  argument : List Char

/-- A number with a sign that may be missing. -/
def offset? (s : List Char) : Option Int := if s.isEmpty then some 0 else integer? s

/-- The pattern that an argument between two signs stands for. -/
def foundPattern (sign : Char) (argument : List Char) : Except String Pattern := do
  let inner := argument.drop 1
  let behind := inner.reverse.takeWhile (· ≠ sign)
  if behind.length = inner.length then
    throw (shown argument ++ ": closing delimiter '" ++ shown [sign] ++ "' missing")
  let text := inner.take (inner.length - behind.length - 1)
  match offset? behind.reverse with
  | none => throw (quoted argument ++ ": integer expected after delimiter")
  | some offset =>
    match Regex.ofText .basicEditing text with
    | .ok r => return ⟨.found r offset (sign = '%'), .times 0, argument⟩
    | .error e => throw (quoted argument ++ ": invalid regular expression: " ++ e.message)

/-- How often an argument such as `{2}` says that a pattern is used again. -/
def againOf (argument : List Char) : Except String Again :=
  let inner := (argument.drop 1).dropLast
  if argument.getLast? ≠ some '\x7d' then
    .error (quoted argument ++ ": '\x7d' is required in repeat count")
  else if inner = ['*'] then .ok .always
  else
    match natural? inner with
    | some n => .ok (.times n)
    | none => .error (quoted argument ++ "\x7d: integer required between '\x7b' and '\x7d'")

/-- The patterns of arguments, and warnings. `last` is the number of the line before. -/
def patternsOf (last : Nat) : (fuel : Nat) → List (List Char) →
    Except (List String × String) (List Pattern × List String)
  | 0, _ => .ok ([], [])
  | _, [] => .ok ([], [])
  | fuel + 1, a :: rest => do
    let (first, last, warnings) ← (do
      match a with
      | '/' :: _ => return (← foundPattern '/' a, last, [])
      | '%' :: _ => return (← foundPattern '%' a, last, [])
      | _ =>
        match natural? a with
        | none => throw (quoted a ++ ": invalid pattern")
        | some 0 => throw (shown a ++ ": line number must be greater than zero")
        | some n =>
          if n < last then
            throw ("line number " ++ quoted a ++ " is smaller than preceding line number, " ++
              toString last)
          else
            let warnings := if n = last then
                ["warning: line number " ++ quoted a ++ " is the same as preceding line number"]
              else []
            return (⟨.line n, .times 0, a⟩, n, warnings)
      : Except String (Pattern × Nat × List String)).mapError fun e => ([], e)
    let (again, rest) ← match rest with
      | ('\x7b' :: s) :: rest => do
        let trimmed := if s.getLast? = some '\x7d' then '\x7b' :: s.dropLast else '\x7b' :: s
        let again ← (againOf ('\x7b' :: s)).mapError fun e =>
          (warnings, if e.startsWith (quoted ('\x7b' :: s) ++ "\x7d") then
            quoted trimmed ++ (e.drop (quoted ('\x7b' :: s)).length).toString else e)
        pure (again, rest)
      | _ => pure (Again.times 0, rest)
    match patternsOf last fuel rest with
    | .ok (more, others) => return ({ first with again } :: more, warnings ++ others)
    | .error (others, e) => throw (warnings ++ others, e)

/-! ## Cutting -/

/-- A file that is cut: its lines with their ends, how many of them are used up, how far it was
looked at, and the sections so far, the latest first. -/
structure State where
  lines : Array (List Char)
  used : Nat
  seen : Nat
  done : List (List Char)

namespace State

/-- Uses lines up for a section, which may be left out. -/
def take (s : State) (count : Nat) (isLeftOut : Bool) : State :=
  let text := (s.lines.toList.drop s.used).take count |>.flatten
  let used := min s.lines.size (s.used + count)
  { s with used, seen := max s.seen used, done := if isLeftOut then s.done else text :: s.done }

/-- Uses the line up at which a section ended. -/
def skip (s : State) (isAsked : Bool) : State :=
  if isAsked then
    let used := min s.lines.size (s.used + 1)
    { s with used, seen := max s.seen used }
  else s

end State

/-- How an attempt to end a section came out: it goes on, it ends with the last section, or it fails
with a message. -/
inductive Outcome where
  | next
  | finished
  | failed (message : String)

/-- What is said about the use of a pattern that fails. -/
def failing (p : Pattern) (turn : Nat) (what : String) : Outcome :=
  .failed (quoted p.argument ++ ": " ++ what ++
    if turn = 0 then "" else " on repetition " ++ toString turn)

/-- The number of the first line behind those seen in which an expression is found. -/
def State.search? (s : State) (r : Regex) : Option Nat :=
  let line := fun (i : Nat) =>
    let l := (s.lines[i]?).getD []
    if l.getLast? = some '\n' then l.dropLast else l
  ((List.range s.lines.size).drop s.seen).find? fun i => (Regex.find? false r [] (line i)).isSome

/-- Ends a section. With `skips` the line at which it ends belongs to no section. -/
def State.step (skips : Bool) (p : Pattern) (turn : Nat) (s : State) : State × Outcome :=
  let isOver := fun (s : State) => decide (s.lines.size ≤ s.seen)
  match p.border with
  | .line n =>
    let target := n * (turn + 1)
    if skips && isOver s then
      ({ s with done := [] :: s.done }, failing p turn "line number out of range")
    else if s.lines.size ≤ s.used then (s, .failed "input disappeared")
    else
      let count := target - 1 - s.used
      let next := s.take count false
      if s.used + count ≤ s.lines.size ∧ !(isOver next ∧ !skips) then (next.skip skips, .next)
      else (next, failing p turn "line number out of range")
  | .found r offset isLeftOut =>
    match s.search? r with
    | none =>
      let rest := s.take (s.lines.size - s.used) isLeftOut
      match p.again with
      | .always => (rest, .finished)
      | .times _ => (rest, failing p turn "match not found")
    | some i =>
      let border : Int := i + offset
      let seen := { s with seen := i + 1 }
      if border < s.used ∨ s.lines.size < border then
        let kept := if border < s.used then (if 0 ≤ offset then i - s.used else 0)
          else s.lines.size - s.used
        (seen.take kept isLeftOut,
          .failed (quoted p.argument ++ ": line number out of range"))
      else
        let next := seen.take (border.toNat - s.used) isLeftOut
        let seen := if 0 < offset then max next.seen (border.toNat + 1) else next.seen
        let next := { next with seen }
        (next.skip skips, .next)

/-- Uses a pattern again and again. -/
def State.steps (skips : Bool) (p : Pattern) : (fuel turn : Nat) → State → State × Outcome
  | 0, _, s => (s, .next)
  | fuel + 1, turn, s =>
    let isOn := match p.again with
      | .always => true
      | .times n => decide (turn ≤ n)
    if !isOn then (s, .next)
    else
      match s.step skips p turn with
      | (s, .next) => steps skips p fuel (turn + 1) s
      | result => result

/-- Cuts a file at borders. The result is the sections and what is wrong, if anything is. -/
def State.cutAll (skips : Bool) : List Pattern → State → List (List Char) × Option String
  | [], s => ((s.take (s.lines.size - s.used) false).done.reverse, none)
  | p :: rest, s =>
    let fuel := s.lines.size + 2 + match p.again with
      | .times n => n
      | .always => 0
    match s.steps skips p fuel 0 with
    | (s, .next) => cutAll skips rest s
    | (s, .finished) => (s.done.reverse, none)
    | (s, .failed message) => (s.done.reverse, some message)

/-! ## Names -/

/-- How numbers stand in names. -/
structure Numbers where
  before : List Char
  flags : List Char
  width : Nat
  precision : Option Nat
  conversion : Char
  after : List Char

/-- Reads how numbers stand in names. Two percent signs stand for one. -/
def numbersOf (s : List Char) : Except String Numbers := do
  let rec plain : List Char → List Char × List Char
    | '%' :: '%' :: s =>
      let (text, rest) := plain s
      ('%' :: text, rest)
    | '%' :: s => ([], '%' :: s)
    | c :: s =>
      let (text, rest) := plain s
      (c :: text, rest)
    | [] => ([], [])
  let (before, rest) := plain s
  match rest with
  | [] => throw "missing % conversion specification in suffix"
  | _ :: rest =>
    let flags := rest.takeWhile "-+ #0'".toList.contains
    let rest := rest.drop flags.length
    let width := rest.takeWhile Char.isDigit
    let rest := rest.drop width.length
    let (precision, rest) := match rest with
      | '.' :: rest =>
        let ds := rest.takeWhile Char.isDigit
        (some ((natural? ds).getD 0), rest.drop ds.length)
      | _ => (none, rest)
    match rest with
    | [] => throw "missing conversion specifier in suffix"
    | c :: rest =>
      if !"diuoxX".toList.contains c then
        throw ("invalid conversion specifier in suffix: " ++ shown [c])
      let (after, extra) := plain rest
      if !extra.isEmpty then throw "too many % conversion specifications in suffix"
      return ⟨before, flags, (natural? width).getD 0, precision, c, after⟩

/-- A number as it stands in a name. -/
def Numbers.text (f : Numbers) (n : Nat) : List Char :=
  let base := match f.conversion with
    | 'o' => 8
    | 'x' | 'X' => 16
    | _ => 10
  let ds := Nat.toDigits base n
  let ds := List.replicate ((f.precision.getD 1) - ds.length) '0' ++ ds
  let ds := if f.conversion = 'X' then ds.map Char.toUpper else ds
  let lead := if !f.flags.contains '#' ∨ n = 0 then []
    else match f.conversion with
      | 'o' => ['0']
      | 'x' => ['0', 'x']
      | 'X' => ['0', 'X']
      | _ => []
  let room := f.width - (lead.length + ds.length)
  let body :=
    if f.flags.contains '-' then lead ++ ds ++ List.replicate room ' '
    else if f.flags.contains '0' ∧ f.precision.isNone then lead ++ List.replicate room '0' ++ ds
    else List.replicate room ' ' ++ lead ++ ds
  f.before ++ body ++ f.after

/-! ## The program -/

def grammar : Grammar :=
  ⟨"ksqz", "bfn", "", [("suffix-format=", 'b'), ("prefix=", 'f'), ("keep-files", 'k'),
    ("digits=", 'n'), ("quiet", 'q'), ("silent", 's'), ("suppress-matched", '!'),
    ("elide-empty-files", 'z')]⟩

/-- How numbers stand in names, as options say it. -/
def namesOf (o : Options) : Except String Numbers := do
  let digits ← match o.value? 'n' with
    | none => pure 2
    | some s =>
      match natural? s with
      | some n => pure n
      | none => throw ("invalid number: " ++ quoted s)
  match o.value? 'b' with
  | some s => numbersOf s
  | none => return ⟨[], ['0'], digits, none, 'd', []⟩

/-- Writes sections to files and tells how large they are. With `isKept` they stay there. -/
def writeAll (o : Options) (names : Numbers) (cwd : Place) (isKept : Bool) :
    (number : Nat) → List (List Char) → Errands Unit
  | _, [] => return ()
  | number, text :: rest => do
    if o.has 'z' ∧ text.isEmpty then writeAll o names cwd isKept number rest
    else
      let path := (o.value? 'f').getD "xx".toList ++ names.text number
      let rights ← Errands.rights Kernel.askedMode
      if ← Errands.change (named path) fun d => do
          d.writeAt (← d.placeForWriting cwd (shown path)) rights (Text.bytesOfChars text) then
        if !(o.has 's' || o.has 'q') then Errands.tell (toString text.length)
        if !isKept then
          match (← Errands.disk).removeFile cwd (shown path) with
          | .ok d => Errands.setDisk d
          | .error _ => pure ()
        writeAll o names cwd isKept (number + 1) rest

/-- The lines of a text with their ends. -/
def wholeLines (text : List Char) : List (List Char) :=
  match (Text.cut '\n' text).reverse with
  | [] => []
  | last :: lines => (lines.reverse.map (· ++ ['\n'])) ++ if last.isEmpty then [] else [last]

end Sections

open Sections in
/-- Writes sections of a file to files of their own. -/
def csplit : Utility := fun env args => do
  let o := Sections.grammar.read args
  let fail := fun (message : String) => do
    warn "csplit" message
    return 1
  match o.problem, namesOf o, o.rest with
  | some problem, _, _ => refuse "csplit" problem 1
  | none, .error problem, _ => fail problem
  | none, .ok _, [] => refuse "csplit" "missing operand" 1
  | none, .ok _, [only] => refuse "csplit" ("missing operand after " ++ quoted only) 1
  | none, .ok names, path :: arguments =>
    match ← contents env.cwd path with
    | .error e =>
      fail (if e = .isDirectory then "read error: " ++ e.systemText
        else "cannot open " ++ inQuotes path ++ " for reading: " ++ e.systemText)
    | .ok text =>
      match patternsOf 0 (arguments.length + 1) arguments with
      | .error (warnings, problem) =>
        for w in warnings do warn "csplit" w
        fail problem
      | .ok (patterns, warnings) =>
        for w in warnings do warn "csplit" w
        let start : State := ⟨(wholeLines text).toArray, 0, 0, []⟩
        let (texts, problem) := start.cutAll (o.has '!') patterns
        let isKept := problem.isNone || o.has 'k'
        runErrand "csplit" do
          writeAll o names env.cwd isKept 0 texts
          match problem with
          | some message => Errands.complain message
          | none => pure ()

end ProgramRepair.Utility
