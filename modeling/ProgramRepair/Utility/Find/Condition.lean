import ProgramRepair.Text.Pattern
import ProgramRepair.Utility.Details
import ProgramRepair.Utility.Regex

/-!
# Conditions on files, and printing what was found

A condition is built from tests and actions. A test asks something about a path and
what is there; an action does something with it and says whether that went well. Tests
ask nothing but the disk, so `Test.holds` is a function of it.

What was found is printed by a format, a text with directives for parts of a path and
for what the path leads to. A directive may be preceded by a width, which blanks fill
up, on the right with a minus sign and on the left without one.
-/

namespace ProgramRepair.Utility.Find

/-- How a number is compared with another one. -/
inductive Bound where
  | less
  | same
  | more
deriving DecidableEq, Repr

/-- Numbers above, below or at a given one. -/
structure Span where
  bound : Bound
  count : Nat
deriving DecidableEq, Repr

/-- Whether a number is in a span. -/
def Span.contains (s : Span) (n : Nat) : Bool :=
  match s.bound with
  | .less => n < s.count
  | .same => n = s.count
  | .more => s.count < n

/-- Which bits of a mode are asked for. -/
inductive ModeUse where
  | exact
  | all
  | any
deriving DecidableEq, Repr

/-- A question about a path and what is there. -/
inductive Test where
  | always (answer : Bool)
  | name (pattern : List Glyph) (ignoreCase : Bool)
  | path (pattern : List Glyph) (ignoreCase : Bool)
  | linkText (pattern : List Glyph) (ignoreCase : Bool)
  | regex (r : Regex) (ignoreCase : Bool)
  /-- Whether it is of one of some kinds; `other` asks about what a link leads to. -/
  | kind (letters : List Char) (other : Bool)
  | isEmpty
  | size (span : Span) (unit : Nat)
  | mode (how : ModeUse) (mode : Bool → Nat)
  /-- Whether the last change is later than a time. -/
  | laterThan (time : Int)
  /-- Whether the last change lies between two times, the second one included. -/
  | changedWithin (after upTo : Option Int)
  | nameCount (span : Span)
  | sameFile (p : Place)
  | allowed (r : Right)
  | owned (name : List Char)

/-- How a path is printed. -/
inductive Layout where
  /-- The path with a sign behind it. -/
  | plain (ending : Char)
  /-- A line of a long listing. -/
  | long
  | format (text : List Char)
deriving DecidableEq, Repr

/-- What is done with a path. -/
inductive Action where
  /-- Prints it, to a file or the standard output. -/
  | print (layout : Layout) (file : Option (List Char))
  /-- Runs a command for each path. -/
  | run (command : List (List Char)) (inDirectory : Bool)
  /-- Asks before a command is run. -/
  | ask (command : List (List Char)) (inDirectory : Bool)
  /-- Runs a command for many paths at once. Commands are told apart by their numbers. -/
  | runAll (number : Nat) (command : List (List Char)) (inDirectory : Bool)
  | delete
  | prune
  | quit
deriving DecidableEq, Repr

/-- Tests and actions put together. -/
inductive Condition where
  | test (t : Test)
  | action (a : Action)
  | negated (c : Condition)
  | both (a b : Condition)
  | either (a b : Condition)
  /-- Both in turn, and what the second one says. -/
  | inTurn (a b : Condition)

/-- Whether an action stands in the place of printing the path. -/
def Action.replacesPrinting : Action → Bool
  | prune | quit => false
  | _ => true

/-- What a path leads to, and how it was reached. -/
structure Visit where
  path : List Char
  /-- The path that the search began with. -/
  start : List Char
  place : Place
  entry : Entry
  depth : Nat

namespace Visit

/-- The path below the start. -/
def below (v : Visit) : List Char :=
  match v.path.drop v.start.length with
  | '/' :: rest => if v.start.getLast? = some '/' then '/' :: rest else rest
  | rest => rest

/-- The last name of the path. -/
def ownName (v : Visit) : List Char := lastName v.path

/-- The path of the directory that the last name is in. -/
def directory (v : Visit) : List Char :=
  let name := v.ownName
  if v.path.length ≤ name.length then ['.']
  else
    let path := (v.path.reverse.dropWhile (· = '/')).reverse
    match path.take (path.length - name.length - 1) with
    | [] => []
    | dir => dir

end Visit

/-- The letter of a kind. -/
def kindOf : Entry → Char
  | .file _ _ => 'f'
  | .directory _ => 'd'
  | .link _ => 'l'
  | .null => 'c'
  | .pipe _ => 'p'

/-- What a visit comes to when links are followed. -/
def Visit.followed (v : Visit) (d : Disk) : Entry :=
  match d.find [] (Disk.pathOf v.place) with
  | .ok (_, e) => e
  | .error _ => v.entry

/-- A pattern in which a backslash takes the meaning of the next character away. -/
def glyphs : List Char → List Glyph
  | '\\' :: c :: s => (c, true) :: glyphs s
  | c :: s => (c, false) :: glyphs s
  | [] => []

/-- Whether a pattern stands for a text. -/
def fits (pattern : List Glyph) (ignoreCase : Bool) (s : List Char) : Bool :=
  if ignoreCase then
    Pattern.fits (pattern.map fun (c, quoted) => (c.toLower, quoted)) (s.map Char.toLower)
  else Pattern.fits pattern s

/-- The last change of an entry. A link counts as made now. -/
def changeTime (d : Disk) (e : Entry) : Int := (e.attributes?.map (·.changed)).getD d.now

/-- Whether a test holds of a visit. -/
def Test.holds (d : Disk) (v : Visit) : Test → Bool
  | always answer => answer
  | name pattern ignoreCase => fits pattern ignoreCase v.ownName
  | path pattern ignoreCase => fits pattern ignoreCase v.path
  | linkText pattern ignoreCase =>
    match v.entry with
    | .link text => fits pattern ignoreCase (bytesChars text)
    | _ => false
  | regex r ignoreCase => (r.ends ignoreCase (.between [] v.path)).any (·.rest.isEmpty)
  | kind letters other => letters.contains (kindOf (if other then v.followed d else v.entry))
  | isEmpty =>
    match v.entry with
    | .file contents _ => contents.isEmpty
    | .directory _ => (d.children v.place).isEmpty
    | _ => false
  | size span unit => span.contains ((sizeOf v.entry + unit - 1) / unit)
  | mode how wanted =>
    let wanted := wanted v.entry.isDirectory
    let found := modeOf v.entry
    match how with
    | .exact => found = wanted
    | .all => found &&& wanted = wanted
    | .any => wanted = 0 || found &&& wanted ≠ 0
  | laterThan time => time < changeTime d v.entry
  | changedWithin after upTo =>
    let time := changeTime d v.entry
    after.all (· < time) && upTo.all (time ≤ ·)
  | nameCount span => span.contains (Utility.nameCount d v.place v.entry)
  | sameFile p =>
    p = v.place || (v.entry.number?.isSome && (d.lookup p).any fun e => e.number? = v.entry.number?)
  | allowed r => (v.followed d).allows r
  | owned who => ownerOf v.entry = who

/-! ## Printing -/

/-- The text of a directive; those of a time have a letter of their own in `part`. -/
def directive? (d : Disk) (v : Visit) (c part : Char) : Option (List Char) :=
  let e := v.entry
  let moment := Moment.ofNanoseconds (changeTime d e)
  match c with
  | 'p' => some v.path
  | 'f' => some v.ownName
  | 'h' => some v.directory
  | 'P' => some v.below
  | 'H' => some v.start
  | 'l' =>
    match e with
    | .link text => some (bytesChars text)
    | _ => some []
  | 'd' => some (digits v.depth)
  | 's' => some (digits (sizeOf e))
  | 'b' => some (digits (storedSize e / 512))
  | 'k' => some (digits (storedSize e / 1024))
  | 'm' => some (Nat.toDigits 8 (modeOf e))
  | 'M' => some (rightsText e)
  | 'y' => some [kindOf e]
  | 'Y' => some [match v.followed d with
      | .link _ => 'N'
      | e => kindOf e]
  | 'n' => some (digits (Utility.nameCount d v.place e))
  | 'u' | 'g' => some (ownerOf e)
  | 'U' | 'G' => some (if ownerOf e = systemName then ['0'] else digits userNumber)
  | 'i' | 'D' => some ['0']
  | 't' | 'a' | 'c' => some (moment.format 40 "%a %b %e %H:%M:%S.%N0 %Y".toList)
  | 'T' | 'A' | 'C' =>
    match part with
    | '@' =>
      some (moment.format 20 "%s.%N0".toList)
    | '+' => some (moment.format 40 "%Y-%m-%d+%H:%M:%S.%N0".toList)
    | 'S' => some (moment.format 20 "%S.%N0".toList)
    | 'T' | 'X' => some (moment.format 20 "%H:%M:%S.%N0".toList)
    | part => some (moment.format 40 ['%', part])
  | _ => none

/-- A text with blanks to a width, or zeros if it is a number, and cut off at another one. -/
def fitted (flags : List Char) (text : List Char) : List Char :=
  let number := flags.dropWhile fun c => !c.isDigit || c = '0'
  let width := number.takeWhile Char.isDigit
  let text := match flags.dropWhile (· ≠ '.') with
    | '.' :: ds => text.take ((natural? (ds.takeWhile Char.isDigit)).getD 0)
    | _ => text
  let zeros := flags.takeWhile fun c => !c.isDigit || c = '0'
  let sign := if zeros.contains '0' ∧ text.all Char.isDigit ∧ !flags.contains '-' then '0' else ' '
  let fill := List.replicate ((natural? width).getD 0 - text.length) sign
  if flags.contains '-' then text ++ fill else fill ++ text

/-- A format with what its directives say, and whether it was cut short. -/
def formatted (d : Disk) (v : Visit) : Nat → List Char → List Char
  | 0, _ => []
  | _ + 1, [] => []
  | fuel + 1, '\\' :: c :: s =>
    match c with
    | 'a' => '\x07' :: formatted d v fuel s
    | 'b' => '\x08' :: formatted d v fuel s
    | 'c' => []
    | 'f' => '\x0c' :: formatted d v fuel s
    | 'n' => '\n' :: formatted d v fuel s
    | 'r' => '\x0d' :: formatted d v fuel s
    | 't' => '\t' :: formatted d v fuel s
    | 'v' => '\x0b' :: formatted d v fuel s
    | '\\' => '\\' :: formatted d v fuel s
    | c =>
      let ds := ((c :: s).take 3).takeWhile fun c => '0' ≤ c && c ≤ '7'
      if ds.isEmpty then '\\' :: c :: formatted d v fuel s
      else
        let n := ds.foldl (fun n d => 8 * n + (d.toNat - '0'.toNat)) 0
        Char.ofNat (n % 256) :: formatted d v fuel ((c :: s).drop ds.length)
  | fuel + 1, '%' :: '%' :: s => '%' :: formatted d v fuel s
  | fuel + 1, '%' :: s =>
    let flags := s.takeWhile fun c => "-+ 0#.123456789".toList.contains c
    match s.drop flags.length with
    | [] => '%' :: s
    | c :: rest =>
      let timed := c = 'T' ∨ c = 'A' ∨ c = 'C'
      match directive? d v c (rest.head?.getD '@') with
      | some text => fitted flags text ++ formatted d v fuel (if timed then rest.tail else rest)
      | none => '%' :: flags ++ c :: formatted d v fuel rest
  | fuel + 1, c :: s => c :: formatted d v fuel s

/-- A line of a long listing. -/
def longLine (d : Disk) (v : Visit) : List Char :=
  let e := v.entry
  let target := match e with
    | .link text => " -> ".toList ++ bytesChars text
    | _ => []
  let column := fun (width : Nat) (s : List Char) => padLeft width s ++ [' ']
  let owner := ownerOf e ++ List.replicate (8 - (ownerOf e).length) ' ' ++ [' ']
  column 9 ['0'] ++ column 6 (digits (storedSize e / 1024)) ++ rightsText e ++ [' '] ++
    column 3 (digits (Utility.nameCount d v.place e)) ++ owner ++ owner ++
    column 8 (digits (sizeOf e)) ++ listedTime d.now (changeTime d e) ++ ' ' :: v.path ++ target ++ ['\n']

/-- The text of a visit in a layout. -/
def Layout.text (d : Disk) (v : Visit) : Layout → List Char
  | plain ending => v.path ++ [ending]
  | long => longLine d v
  | format f => formatted d v (f.length + 1) f

end ProgramRepair.Utility.Find
