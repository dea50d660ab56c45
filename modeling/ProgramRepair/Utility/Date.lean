import ProgramRepair.Clock.Wording
import ProgramRepair.Utility.Quotation
import ProgramRepair.Utility.Input

/-!
# The date

`date` prints the current moment, or one that is given in words, in the way of a format.
-/

namespace ProgramRepair.Utility

open Machine

namespace DateRequest

def grammar : Grammar :=
  ⟨"Ru", "dfrs", "I", [("date=", 'd'), ("file=", 'f'), ("iso-8601?", 'I'), ("reference=", 'r'),
    ("rfc-822", 'R'), ("rfc-2822", 'R'), ("rfc-email", 'R'), ("rfc-3339=", '3'), ("set=", 's'),
    ("utc", 'u'), ("uct", 'u'), ("universal", 'u'), ("debug", '!')]⟩

/-- The formats of the options, and what is wrong with them. -/
def optionFormats (o : Options) : Except String (List String) := do
  let day := "%Y-%m-%d"
  let iso ← if !o.has 'I' then pure [] else do
    let f ← choose "--iso-8601" (singly [("hours", day ++ "T%H%:z"), ("minutes", day ++ "T%H:%M%:z"),
      ("date", day), ("seconds", day ++ "T%H:%M:%S%:z"), ("ns", day ++ "T%H:%M:%S,%N%:z")])
      ((o.value? 'I').getD "date".toList)
    pure [f]
  let strict ← match o.value? '3' with
    | none => pure []
    | some s => do
      let f ← choose "--rfc-3339" (singly [("date", day), ("seconds", day ++ " %H:%M:%S%:z"),
        ("ns", day ++ " %H:%M:%S.%N%:z")]) s
      pure [f]
  let mail := if o.has 'R' then ["%a, %d %b %Y %H:%M:%S %z"] else []
  return iso ++ strict ++ mail

/-- Where the moment comes from. -/
inductive Origin where
  | now
  | words (s : List Char)
  | file (path : List Char)
  /-- The lines of a file, each a moment in words. -/
  | lines (path : List Char)
  /-- A moment that the clock is to be set to. -/
  | set (s : List Char)

/-- A request that is understood: where the moment comes from, and the format. -/
abbrev Request := Origin × List Char

/-- What is asked for, or a message with whether a hint follows. -/
def requestOf (o : Options) : Except (String × Bool) Request := do
  let formats ← (optionFormats o).mapError fun m => (m, true)
  let origins := [(o.value? 'd').map Origin.words, (o.value? 'r').map Origin.file,
    (o.value? 'f').map Origin.lines].filterMap (·)
  if 1 < origins.length then
    throw ("the options to specify dates for printing are mutually exclusive", true)
  let origins := origins ++ ((o.value? 's').map Origin.set).toList
  if 1 < origins.length then
    throw ("the options to print and set the time may not be used together", true)
  let (formats, others) := match o.rest with
    | ('+' :: f) :: rest => (formats ++ [String.ofList f], rest)
    | rest => (formats, rest)
  if 1 < formats.length then throw ("multiple output formats specified", false)
  if 1 < o.rest.length then throw ("extra operand " ++ quoted ((o.rest[1]?).getD []), true)
  let format := match formats with
    | f :: _ => f.toList
    | [] => "%a %b %e %H:%M:%S %Z %Y".toList
  match others, origins with
  | [], origin :: _ => return (origin, format)
  | [], [] => return (.now, format)
  | a :: _, [] => return (.set ('?' :: a), format)
  | a :: _, _ :: _ =>
    throw ("the argument " ++ quoted a ++ " lacks a leading '+';\nwhen using an option to specify " ++
      "date(s), any non-option\nargument must be a format string beginning with '+'", true)

/-- A moment in the way of a format, with a line break. -/
def line (format : List Char) (n : Int) : List Char :=
  (Moment.ofNanoseconds n).format (format.length + 1) format ++ ['\n']

def invalid (s : List Char) : String := "invalid date " ++ quoted s

/-- The moment that digits such as `010203042020.05` stand for: the month, the day, the hour and the
minute, and perhaps the year and the second. -/
def digitsMoment? (now : Int) (s : List Char) : Option Int := do
  let ds := s.takeWhile Char.isDigit
  let second ← match s.drop ds.length with
    | [] => some 0
    | ['.', a, b] => natural? [a, b]
    | _ => none
  let part := fun (i : Nat) => (natural? ((ds.drop (2 * i)).take 2)).getD 0
  let year : Int ← match ds.length with
    | 8 => some (Moment.ofNanoseconds now).date.year
    | 10 => some (Moment.fullYear (part 4) 2)
    | 12 => some ((natural? (ds.drop 8)).getD 0 : Nat)
    | _ => none
  let date ← Moment.date? year (part 0) (part 1)
  let time ← Moment.timeOfDay? (part 2) (part 3) second 0
  return date.toDays * Moment.perDay * Moment.perSecond + time

/-- Prints the moments that lines say. -/
def printLines (now : Int) (format : List Char) (code : Nat) : List (List Char) → Work Nat
  | [] => return code
  | l :: rest =>
    match Moment.ofText? now l with
    | some n => do
      if ← tryPut "date" (line format n) then printLines now format code rest else return 1
    | none => do
      warn "date" (invalid l)
      printLines now format 1 rest

/-- Does what is asked for. -/
def serve (env : Surroundings) (origin : Origin) (format : List Char) : Work Nat := do
  let now ← Work.call (Kernel.askDisk (·.now))
  let set := fun (moment : Option Int) (s : List Char) =>
    match moment with
    | none => do
      warn "date" (invalid s)
      return 1
    | some n => do
      warn "date" "cannot set date: Operation not permitted"
      emit "date" (line format n) 1
  match origin with
  | .now => emit "date" (line format now) 0
  | .words s => printLines now format 0 [s]
  | .set ('?' :: s) => set (digitsMoment? now s) s
  | .set s => set (Moment.ofText? now s) s
  | .file path =>
    match ← Work.call (Kernel.askDisk fun d => d.find env.cwd (shown path)) with
    | .ok (_, e) => emit "date" (line format ((e.attributes?.map (·.changed)).getD now)) 0
    | .error e =>
      warn "date" (Filter.usualBlame path e)
      return 1
  | .lines path =>
    match ← contents env.cwd path with
    | .ok text => printLines now format 0 (linesOf text)
    | .error e =>
      warn "date" (Filter.usualBlame path e)
      return 1

end DateRequest

/-- Prints a moment. -/
def dateProgram : Utility := fun env args => do
  let o := DateRequest.grammar.read args
  match o.problem, DateRequest.requestOf o with
  | some problem, _ => refuse "date" problem 1
  | none, .error (problem, true) => refuse "date" problem 1
  | none, .error (problem, false) =>
    warn "date" problem
    return 1
  | none, .ok (origin, format) => DateRequest.serve env origin format

end ProgramRepair.Utility
