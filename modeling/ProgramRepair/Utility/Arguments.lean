import ProgramRepair.Text.CharClass
import ProgramRepair.Utility.Errand

/-!
# Command lines put together from input

Words are read from a text and become arguments of a command. An `Assembly` reads the
text one character after the other and holds the commands that are complete, so that
they can run while more text is still to come. Words stand between blanks, and quotes
and backslashes take the meaning of blanks away; with a delimiter nothing but that
delimiter ends a word.
-/

namespace ProgramRepair.Utility

/-- How words become commands. -/
structure ArgumentPlan where
  command : List (List Char)
  /-- The most words for a command. -/
  most : Option Nat
  /-- The most lines for a command. -/
  lines : Option Nat
  /-- The mark in whose place each line is put. -/
  mark : Option (List Char)
  delimiter : Option Char
  /-- The word that ends the input. -/
  lastWord : Option (List Char)
  /-- The most characters in a command, with one more for each word. -/
  room : Nat
  /-- Whether a command that gets too long is a mistake. -/
  strict : Bool
  /-- Whether the command runs also if there are no words. -/
  always : Bool

namespace ArgumentPlan

/-- The characters of some words, with one more for each of them. -/
def sizeOf (words : List (List Char)) : Nat := words.foldl (fun n w => n + w.length + 1) 0

/-- A text with another one in the place of a mark everywhere. -/
def withMark (mark new : List Char) : Nat → List Char → List Char
  | 0, s => s
  | _ + 1, [] => []
  | fuel + 1, c :: s =>
    match if mark.isEmpty then none else Text.dropLead? mark (c :: s) with
    | some rest => new ++ withMark mark new fuel rest
    | none => c :: withMark mark new fuel s

end ArgumentPlan

/-- Where in a text the reading of words has come to. -/
inductive WordPlace where
  | between
  | inside
  | quoted (sign : Char)
  | escaped
deriving DecidableEq, Repr

/-- What was read of a text, and the commands that came of it. -/
structure Assembly where
  plan : ArgumentPlan
  place : WordPlace
  /-- The current word, the latest first. -/
  word : List Char
  /-- Whether the current word has quotes, so that it is one even if it is empty. -/
  hasQuotes : Bool
  before : Option Char
  /-- The words for the current command, the latest first. -/
  words : List (List Char)
  size : Nat
  lines : Nat
  /-- The commands that are complete, the latest first. -/
  ready : List (List (List Char))
  /-- Whether a command was ever complete. -/
  used : Bool
  stopped : Bool
  problem : Option String

namespace Assembly

/-- Nothing was read yet. -/
def start (plan : ArgumentPlan) : Assembly :=
  ⟨plan, .between, [], false, none, [], ArgumentPlan.sizeOf plan.command, 0, [], false, false, none⟩

/-- Adds a complete command. -/
def add (a : Assembly) (command : List (List Char)) : Assembly :=
  { a with
    ready := command :: a.ready
    used := true
    words := []
    size := ArgumentPlan.sizeOf a.plan.command
    lines := 0 }

/-- Completes the current command. -/
def complete (a : Assembly) : Assembly := a.add (a.plan.command ++ a.words.reverse)

/-- Completes the current command if there are words for it. -/
def completeAny (a : Assembly) : Assembly := if a.words.isEmpty then a else a.complete

/-- Stops with a message, behind the commands before. -/
def fail (a : Assembly) (message : String) : Assembly := { a with problem := some message }

/-- Takes a word for the current command, or for the next one if there is no room. -/
def take (a : Assembly) (w : List Char) : Assembly :=
  let fits := fun (a : Assembly) => a.size + w.length + 1 ≤ a.plan.room
  let a := { a with word := [], hasQuotes := false }
  let isCounted := a.plan.most.isSome ∨ a.plan.lines.isSome
  if !fits a ∧ !a.words.isEmpty ∧ a.plan.strict ∧ isCounted then a.fail "argument list too long"
  else
    let a := if fits a then a else a.completeAny
    if !fits a then a.fail "argument line too long"
    else
      let a := { a with words := w :: a.words, size := a.size + w.length + 1 }
      if a.plan.most.any (· ≤ a.words.length) then a.complete else a

/-- Puts a line in the place of the mark. -/
def takeLine (a : Assembly) (mark line : List Char) : Assembly :=
  let a := { a with word := [], hasQuotes := false }
  match a.plan.command with
  | [] => a
  | name :: args =>
    a.add (name :: args.map fun arg => ArgumentPlan.withMark mark line (arg.length + 1) arg)

/-- Counts a line, and completes the current command if it has enough of them. -/
def countLine (a : Assembly) : Assembly :=
  let a := { a with lines := a.lines + 1 }
  if a.plan.lines.any (· ≤ a.lines) ∧ !a.words.isEmpty then a.complete else a

/-- Ends the current word, which may be the one that ends the input. -/
def endWord (a : Assembly) : Assembly :=
  let w := a.word.reverse
  if a.plan.lastWord = some w ∧ a.plan.delimiter.isNone then { a with word := [], stopped := true }
  else
    match a.plan.mark with
    | some mark => a.takeLine mark w
    | none => a.take w

/-- Whether a blank ends a word. -/
def isBlank (c : Char) : Bool := c = ' ' || c = '\t'

/-- Reads a character that is not quoted. -/
def feedBare (a : Assembly) (c : Char) : Assembly :=
  if c = '\n' then
    if a.word.isEmpty ∧ !a.hasQuotes then { a with place := .between }
    else
      let a := { a.endWord with place := .between }
      if a.before.any isBlank then a else a.countLine
  else if a.plan.mark.isNone ∧ isBlank c then { a.endWord with place := .between }
  else if c = '\\' then { a with place := .escaped }
  else if c = '\'' ∨ c = '"' then { a with place := .quoted c, hasQuotes := true }
  else { a with place := .inside, word := c :: a.word }

/-- Complains about quotes without an end. -/
def failQuote (a : Assembly) (sign : Char) : Assembly :=
  let kind := if sign = '"' then "double" else "single"
  a.completeAny.fail ("unmatched " ++ kind ++
    " quote; by default quotes are special to xargs unless you use the -0 option")

/-- Reads a character. -/
def feed (a : Assembly) (c : Char) : Assembly :=
  if a.stopped ∨ a.problem.isSome then a
  else
    match a.plan.delimiter with
    | some d =>
      if c = d then { a.endWord.countLine with place := .between }
      else { a with word := c :: a.word, place := .inside }
    | none =>
      let next := match a.place with
        | .between => if Text.isSpaceChar c then a else a.feedBare c
        | .inside => a.feedBare c
        | .quoted sign =>
          if c = '\n' then a.failQuote sign
          else if c = sign then { a with place := .inside }
          else { a with word := c :: a.word }
        | .escaped => { a with place := .inside, word := c :: a.word, hasQuotes := true }
      { next with before := some c }

/-- The end of the text. -/
def finish (a : Assembly) : Assembly :=
  let a :=
    if a.stopped ∨ a.problem.isSome then a
    else
      match a.place with
      | .quoted sign => a.failQuote sign
      | _ => if a.word.isEmpty then a else a.endWord
  if a.problem.isSome then a
  else if !a.words.isEmpty ∨ (a.plan.always ∧ !a.used ∧ a.plan.mark.isNone) then a.complete
  else a

end Assembly

/-! ## Options -/

namespace ArgumentPlan

/-- The standard room for a command. -/
def usualRoom : Nat := 131072

def grammar : Grammar :=
  ⟨"0rtxpo", "nILPsdEa", "ile", [("null", '0'), ("no-run-if-empty", 'r'), ("max-args=", 'n'),
    ("replace?", 'i'), ("max-lines?", 'l'), ("max-procs=", 'P'), ("max-chars=", 's'),
    ("delimiter=", 'd'), ("verbose", 't'), ("arg-file=", 'a'), ("eof?", 'e'), ("exit", 'x'),
    ("interactive", 'p'), ("open-tty", 'o')]⟩

/-- What is wrong with options. -/
inductive Problem where
  /-- To be followed by a hint. -/
  | usage (message : String)
  | plain (message : String)

/-- The number that an option is given. -/
def numberOf (o : Options) (c : Char) (least : Nat) : Except Problem (Option Nat) :=
  match o.value? c with
  | none => .ok none
  | some s =>
    match natural? s with
    | none =>
      .error (.usage ("invalid number \"" ++ shown s ++ "\" for -" ++ shown [c] ++ " option"))
    | some n =>
      if n < least then
        .error (.usage ("value " ++ shown s ++ " for -" ++ shown [c] ++ " option should be >= " ++
          toString least))
      else .ok (some n)

/-- The number in some base that digits stand for. -/
def inBase (base : Nat) (ds : List Char) : Nat :=
  ds.foldl (fun n d =>
    base * n + (if d.isDigit then d.toNat - '0'.toNat else d.toLower.toNat - 'a'.toNat + 10)) 0

/-- The character that an option for the delimiter stands for. -/
def delimiterOf (s : List Char) : Except Problem Char :=
  let escapes := [('a', '\x07'), ('b', '\x08'), ('f', '\x0c'), ('n', '\n'), ('r', '\x0d'),
    ('t', '\t'), ('v', '\x0b'), ('\\', '\\')]
  match s with
  | [c] => .ok c
  | '\\' :: 'x' :: ds => .ok (Char.ofNat (inBase 16 ds % 256))
  | '\\' :: c :: ds =>
    match escapes.lookup c with
    | some d => .ok d
    | none =>
      if (c :: ds).all fun d => '0' ≤ d && d ≤ '7' then .ok (Char.ofNat (inBase 8 (c :: ds) % 256))
      else
        .error (.plain ("Invalid escape sequence " ++ shown s ++
          " in input delimiter specification."))
  | s =>
    .error (.plain ("Invalid input delimiter specification " ++ shown s ++ ": the delimiter must " ++
      "be either a single character or an escape sequence starting with \\."))

/-- Ways to divide the input of which only the last one counts. -/
inductive Division where
  | words
  | lines
  | mark
deriving DecidableEq, Repr

/-- The way of an option, with the names that it has when it is passed over and when another one
is. -/
def divisionOf? : Char → Option (Division × String × String)
  | 'n' => some (.words, "--max-args", "--max-args/-n")
  | 'L' => some (.lines, "--max-lines", "-L")
  | 'l' => some (.lines, "--max-lines", "--max-lines/-l")
  | 'I' | 'i' => some (.mark, "--replace", "--replace/-I/-i")
  | _ => none

/-- The last way to divide among options in their order, and what is to be said about the others. -/
def division (single : Bool) :
    List Char → Option (Division × String) → List String → Option Division × List String
  | [], current, said => (current.map (·.1), said.reverse)
  | c :: rest, current, said =>
    match divisionOf? c with
    | none => division single rest current said
    | some (way, old, new) =>
      match current with
      | none => division single rest (some (way, old)) said
      | some (before, name) =>
        if before = way then division single rest (some (way, old)) said
        else if before = .mark ∧ way = .words ∧ single then division single rest current said
        else
          let message := "warning: options " ++ name ++ " and " ++ new ++
            " are mutually exclusive, ignoring previous " ++ name ++ " value"
          division single rest (some (way, old)) (message :: said)

/-- The plan that options ask for, and what is to be said about them. -/
def ofOptions (o : Options) : Except Problem (ArgumentPlan × List String) := do
  if let some problem := o.problem then throw (.usage problem)
  let most ← numberOf o 'n' 1
  let lines ← numberOf o 'L' 1
  let shortLines ← numberOf o 'l' 1
  let room ← numberOf o 's' 1
  discard <| numberOf o 'P' 0
  let delimiter ← match o.value? 'd' with
    | some s => some <$> delimiterOf s
    | none => pure (if o.has '0' then some '\x00' else none)
  let (way, said) := division (most = some 1) o.letters.reverse none []
  let lines := lines <|> shortLines <|> (if o.has 'l' then some 1 else none)
  let mark := (o.value? 'I' <|> o.value? 'i').getD ['\x7b', '\x7d']
  return ({
    command := if o.rest.isEmpty then ["echo".toList] else o.rest
    most := if way = some .words then most else none
    lines := if way = some .lines then lines else none
    mark := if way = some .mark then some mark else none
    delimiter
    lastWord := o.value? 'E' <|> o.value? 'e'
    room := (room.getD usualRoom)
    strict := o.has 'x'
    always := !o.has 'r' }, said)

/-- A word as it can be given to a shell. -/
def quotedIfNeeded (w : List Char) : List Char :=
  let isPlain := fun c : Char => c.isAlphanum || "%+,-./:@_]#~".toList.contains c || '\x7f' < c
  let leads := w.head?.any fun c => c = '#' || c = '~'
  if !w.isEmpty ∧ w.all isPlain ∧ !leads then w else (inQuotes w).toList

/-- A command as it is shown. -/
def shownCommand (command : List (List Char)) : List Char :=
  List.flatten ((command.map quotedIfNeeded).intersperse [' '])

end ArgumentPlan

end ProgramRepair.Utility
