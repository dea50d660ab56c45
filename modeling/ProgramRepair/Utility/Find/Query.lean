import ProgramRepair.Clock.Wording
import ProgramRepair.Utility.Find.Condition

/-!
# Reading conditions

The arguments after the paths are words: tests, actions and operators. `words` reads
them one after the other, and `Query.ofArguments` puts a condition together from the
words. Operators bind in the order `!`, `-a`, `-o`, `,`; between two words without an
operator an `-a` is understood. If no action stands in the place of it, whatever meets
the whole condition is printed.
-/

namespace ProgramRepair.Utility.Find

/-- An operator between two conditions. -/
inductive Joint where
  | inTurn
  | either
  | both
deriving DecidableEq, Repr

/-- How strongly an operator binds. -/
def Joint.strength : Joint → Nat
  | inTurn => 1
  | either => 2
  | both => 3

/-- How strongly a negation binds. -/
def negationStrength : Nat := 4

/-- The condition that an operator makes of two. -/
def Joint.apply : Joint → Condition → Condition → Condition
  | inTurn => .inTurn
  | either => .either
  | both => .both

/-- A word of a condition. -/
inductive Word where
  | condition (c : Condition)
  | negation (text : String)
  | joint (j : Joint) (text : String)
  | opening (understood : Bool)
  | closing (understood : Bool)

/-- What a search asks for. -/
structure Query where
  /-- Whether links are followed. -/
  follows : Bool
  /-- Whether the paths of the call are followed if they are links. -/
  followsStart : Bool
  /-- Whether what is in a directory comes before it. -/
  contentsFirst : Bool
  least : Nat
  most : Option Nat
  condition : Condition
  /-- The number of commands for many paths. -/
  commands : Nat
  /-- Complaints that keep nothing from going on. -/
  warnings : List String

/-! ## Words -/

/-- What is left of the arguments, and what was said in passing. -/
structure Reader where
  args : List (List Char)
  least : Nat
  most : Option Nat
  contentsFirst : Bool
  deletes : Bool
  prunes : Bool
  commands : Nat
  /-- How expressions are written, and whether in the way of an editor. -/
  dialect : Regex.Dialect
  editorSigns : Bool
  warnings : List String

/-- What conditions are read with: the disk, the directory and the time. -/
structure Circumstances where
  disk : Disk
  cwd : Place
  follows : Bool

abbrev Reading := ReaderT Circumstances (StateT Reader (Except String))

/-- A text in the quotes of most messages. -/
def ticked (s : List Char) : String := "\x60" ++ shown s ++ "'"

/-- Takes the next argument. -/
def take? : Reading (Option (List Char)) := do
  let r ← get
  match r.args with
  | [] => return none
  | a :: args =>
    set { r with args }
    return some a

/-- The argument of a word. -/
def argumentOf (word : String) : Reading (List Char) := do
  match ← take? with
  | some a => return a
  | none => throw ("missing argument to \x60" ++ word ++ "'")

/-- Complains about the argument of a word. -/
def badArgument (word : String) (a : List Char) : Reading α :=
  throw ("invalid argument " ++ ticked a ++ " to \x60" ++ word ++ "'")

/-- A span: a number with or without a sign in front. -/
def span? (s : List Char) : Option Span :=
  match s with
  | '+' :: ds => (natural? ds).map (⟨.more, ·⟩)
  | '-' :: ds => (natural? ds).map (⟨.less, ·⟩)
  | ds => (natural? ds).map (⟨.same, ·⟩)

/-- The span after a word. -/
def spanOf (word : String) : Reading Span := do
  let a ← argumentOf word
  match span? a with
  | some s => return s
  | none => badArgument word a

/-- A depth. -/
def depthOf (word : String) : Reading Nat := do
  let a ← argumentOf word
  match natural? a with
  | some n => return n
  | none =>
    throw ("Expected a positive decimal integer argument to " ++ word ++ ", but got " ++ quoted a)

/-- The pattern after a word. -/
def patternOf (word : String) : Reading (List Glyph) := do return glyphs (← argumentOf word)

/-- An expression of an editor, in which some signs stand without a backslash, in the basic way. -/
def fromEditor : List Char → List Char
  | '\\' :: c :: s =>
    (if c = '+' ∨ c = '?' ∨ c = '\x7b' ∨ c = '\x7d' then [c] else ['\\', c]) ++ fromEditor s
  | c :: s => (if c = '+' ∨ c = '?' then ['\\', c] else [c]) ++ fromEditor s
  | [] => []

/-- The expression after a word. -/
def regexOf (word : String) (ignoreCase : Bool) : Reading Test := do
  let a ← argumentOf word
  let r ← get
  let text := if r.editorSigns then fromEditor a else a
  match Regex.ofText r.dialect text with
  | .ok e => return .regex e ignoreCase
  | .error problem =>
    throw ("failed to compile regular expression '" ++ shown a ++ "': " ++ problem.message)

/-- The ways of writing expressions by name, and whether the extended one is meant. -/
def regexTypes : List (String × Bool) :=
  [("findutils-default", false), ("ed", false), ("emacs", false), ("gnu-awk", true), ("grep", false),
   ("posix-awk", true), ("awk", true), ("posix-basic", false), ("posix-egrep", true),
   ("egrep", true), ("posix-extended", true), ("posix-minimal-basic", false), ("sed", false)]

/-- The kinds that letters between commas stand for. -/
def kindsOf (word : String) : Nat → List Char → List Char → Reading (List Char)
  | 0, letters, _ => return letters
  | _ + 1, _, [] => throw ("Arguments to " ++ word ++ " should contain at least one letter")
  | fuel + 1, letters, c :: rest => do
    if !"bcdpflsD".toList.contains c then
      throw ("Unknown argument to " ++ word ++ ": " ++ shown [c])
    if letters.contains c then
      throw ("Duplicate file type '" ++ shown [c] ++ "' in the argument list to " ++ word ++ ".")
    match rest with
    | [] => return c :: letters
    | [','] => throw ("Last file type in list argument to " ++ word ++ " is missing, i.e., list is ending on: ','")
    | ',' :: rest => kindsOf word fuel (c :: letters) rest
    | _ => throw ("Must separate multiple arguments to " ++ word ++ " using: ','")

/-- The number of bytes that the unit of a size stands for. -/
def unitOf? : Char → Option Nat
  | 'b' => some 512
  | 'c' => some 1
  | 'w' => some 2
  | 'k' => some 1024
  | 'M' => some (1024 * 1024)
  | 'G' => some (1024 * 1024 * 1024)
  | _ => none

/-- The size after a word. -/
def sizeTest (word : String) : Reading Test := do
  let a ← argumentOf word
  match a.getLast? with
  | none => throw ("invalid null argument to " ++ word)
  | some last =>
    let (number, unit) := if last.isDigit then (a, 'b') else (a.dropLast, last)
    match unitOf? unit, span? number with
    | some unit, some span => return .size span unit
    | none, some _ => throw ("invalid " ++ word ++ " type " ++ ticked [last])
    | _, none => throw ("Invalid argument " ++ ticked a ++ " to " ++ word)

/-- The mode after a word. -/
def modeTest (word : String) : Reading Test := do
  let a ← argumentOf word
  let (how, text) := match a with
    | '-' :: text => (ModeUse.all, text)
    | '/' :: text => (ModeUse.any, text)
    | text => (ModeUse.exact, text)
  match modeChange? text with
  | some new => return .mode how fun isDirectory => new isDirectory 0 0
  | none => throw ("invalid mode " ++ quoted a)

/-- The last change of the file that an argument names. -/
def changeOf (a : List Char) : Reading Int := do
  let c ← read
  match (if c.follows then Disk.find else Disk.findEntry) c.disk c.cwd (shown a) with
  | .ok (_, e) => return changeTime c.disk e
  | .error e => throw (quoted a ++ ": " ++ e.systemText)

/-- The seconds of a minute and of a day. -/
def minute : Nat := 60

def day : Nat := 86400

/-- The age after a word in units of some seconds. A whole unit more is needed to be older than a
number of days, and an age in minutes counts from 1. -/
def ageTest (word : String) (unit : Nat) : Reading Test := do
  let a ← argumentOf word
  let now := (← read).disk.now
  match span? a with
  | none => badArgument word a
  | some ⟨bound, n⟩ =>
    let back := fun (units : Nat) => now - (units * unit : Nat) * Moment.perSecond
    let whole := if unit = day then 1 else 0
    match bound with
    | .less => return .changedWithin (some (back n - (if unit = day then Moment.perSecond else 0))) none
    | .more => return .changedWithin none (some (back (n + whole) - 1))
    | .same => return .changedWithin (some (back (n + whole))) (some (back (n + whole - 1)))

/-- The owner after a word. -/
def ownerTest (word : String) (what : String) : Reading Test := do
  let a ← argumentOf word
  if a = userName ∨ a = systemName then return .owned a
  else if a = ['0'] then return .owned systemName
  else if (natural? a).isSome then return .owned (if a = digits userNumber then userName else a)
  else throw (quoted a ++ " is not the name of " ++ what)

/-- The words of a command up to its end. -/
def commandWords (word : String) (mayEndWithAll : Bool) (before : List (List Char)) :
    List (List Char) → Reading (List (List Char) × Bool)
  | [] => throw ("missing argument to \x60" ++ word ++ "'")
  | [';'] :: rest => do
    modify fun r => { r with args := rest }
    return (before.reverse, false)
  | ['+'] :: rest =>
    if mayEndWithAll ∧ before.head? = some ['\x7b', '\x7d'] then do
      modify fun r => { r with args := rest }
      return (before.tail.reverse, true)
    else commandWords word mayEndWithAll (['+'] :: before) rest
  | a :: rest => commandWords word mayEndWithAll (a :: before) rest

/-- The command after a word. -/
def commandOf (word : String) (asks inDirectory : Bool) : Reading Action := do
  let r ← get
  let (command, all) ← commandWords word (!asks) [] r.args
  if command.isEmpty then throw ("invalid argument \x60;' to \x60" ++ word ++ "'")
  else if asks then return .ask command inDirectory
  else if all then
    if command.any fun a => a = ['\x7b', '\x7d'] then
      throw ("Only one instance of \x7b\x7d is supported with " ++ word ++ " ... +")
    modify fun r => { r with commands := r.commands + 1 }
    return .runAll r.commands command inDirectory
  else return .run command inDirectory

/-- Says something in passing. -/
def warnOf (message : String) : Reading Unit :=
  modify fun r => { r with warnings := r.warnings ++ ["warning: " ++ message] }

/-- Looks through a format for what it cannot mean. -/
def checkFormat : Nat → List Char → Reading Unit
  | 0, _ => return ()
  | _ + 1, [] => return ()
  | fuel + 1, '\\' :: c :: s => do
    if !"abcfnrtv\\01234567".toList.contains c then
      warnOf ("unrecognized escape \x60\\" ++ shown [c] ++ "'")
    checkFormat fuel s
  | fuel + 1, '%' :: s => do
    let flags := s.takeWhile fun c => "-+ 0#.123456789".toList.contains c
    match s.drop flags.length with
    | [] =>
      if flags.isEmpty then throw "error: % at end of format string"
    | c :: rest =>
      if !"pfhPHldsbkmMyYnuUgGtTaAcCiDFS%Z".toList.contains c then
        warnOf ("unrecognized format directive \x60%" ++ shown [c] ++ "'")
      checkFormat fuel (if "TAC".toList.contains c then rest.tail else rest)
  | fuel + 1, _ :: s => checkFormat fuel s

/-- The format after a word. -/
def formatOf (word : String) : Reading (List Char) := do
  let a ← argumentOf word
  checkFormat (a.length + 1) a
  return a

/-- The test that a word stands for, if it is one of those about times. -/
def timeTest? (word : String) : Reading (Option Test) := do
  match word with
  | "-newer" | "-anewer" | "-cnewer" => return some (.laterThan (← changeOf (← argumentOf word)))
  | "-mtime" | "-atime" | "-ctime" => return some (← ageTest word day)
  | "-mmin" | "-amin" | "-cmin" => return some (← ageTest word minute)
  | _ =>
    match Text.dropLead? "-newer".toList word.toList with
    | some [x, y] =>
      if !"amcB".toList.contains x ∨ !"aBmct".toList.contains y then
        throw ("invalid predicate \x60" ++ word ++ "'")
      let a ← argumentOf word
      if y = 't' then
        match Moment.ofText? (← read).disk.now a with
        | some t => return some (.laterThan t)
        | none => throw ("I cannot figure out how to interpret " ++ quoted a ++ " as a date or time")
      else return some (.laterThan (← changeOf a))
    | _ => return none

/-- The test that a word stands for. -/
def test? (word : String) : Reading (Option Test) := do
  match word with
  | "-true" | "-noleaf" | "-mount" | "-xdev" | "-warn" | "-nowarn" | "-daystart" | "-follow"
  | "-ignore_readdir_race" | "-noignore_readdir_race" => return some (.always true)
  | "-false" => return some (.always false)
  | "-name" => return some (.name (← patternOf word) false)
  | "-iname" => return some (.name (← patternOf word) true)
  | "-path" | "-wholename" => return some (.path (← patternOf word) false)
  | "-ipath" | "-iwholename" => return some (.path (← patternOf word) true)
  | "-lname" => return some (.linkText (← patternOf word) false)
  | "-ilname" => return some (.linkText (← patternOf word) true)
  | "-regex" => return some (← regexOf word false)
  | "-iregex" => return some (← regexOf word true)
  | "-type" =>
    let a ← argumentOf word
    return some (.kind (← kindsOf word (a.length + 1) [] a) false)
  | "-xtype" =>
    let a ← argumentOf word
    return some (.kind (← kindsOf word (a.length + 1) [] a) true)
  | "-empty" => return some .isEmpty
  | "-size" => return some (← sizeTest word)
  | "-perm" => return some (← modeTest word)
  | "-links" => return some (.nameCount (← spanOf word))
  | "-samefile" =>
    let a ← argumentOf word
    let c ← read
    match c.disk.findEntry c.cwd (shown a) with
    | .ok (p, _) => return some (.sameFile p)
    | .error e => throw (quoted a ++ ": " ++ e.systemText)
  | "-readable" => return some (.allowed .read)
  | "-writable" => return some (.allowed .write)
  | "-executable" => return some (.allowed .execute)
  | "-user" | "-uid" => return some (← ownerTest word "a known user")
  | "-group" | "-gid" => return some (← ownerTest word "an existing group")
  | "-nouser" | "-nogroup" => return some (.always false)
  | "-depth" | "-d" =>
    modify fun r => { r with contentsFirst := true }
    return some (.always true)
  | "-maxdepth" =>
    let n ← depthOf word
    modify fun r => { r with most := some n }
    return some (.always true)
  | "-mindepth" =>
    let n ← depthOf word
    modify fun r => { r with least := n }
    return some (.always true)
  | "-regextype" =>
    let a ← argumentOf word
    match regexTypes.lookup (shown a) with
    | some extended =>
      modify fun r => { r with
        dialect := if extended then .extendedSearch else .basic
        editorSigns := a = "findutils-default".toList ∨ a = "emacs".toList }
      return some (.always true)
    | none =>
      let names := ", ".intercalate (regexTypes.map fun (name, _) => "'" ++ name ++ "'")
      throw ("Unknown regular expression type " ++ quoted a ++ "; valid types are " ++ names ++ ".")
  | _ => timeTest? word

/-- The action that a word stands for. -/
def action? (word : String) : Reading (Option Action) := do
  match word with
  | "-print" => return some (.print (.plain '\n') none)
  | "-print0" => return some (.print (.plain '\x00') none)
  | "-printf" => return some (.print (.format (← formatOf word)) none)
  | "-ls" => return some (.print .long none)
  | "-fprint" => return some (.print (.plain '\n') (some (← argumentOf word)))
  | "-fprint0" => return some (.print (.plain '\x00') (some (← argumentOf word)))
  | "-fls" => return some (.print .long (some (← argumentOf word)))
  | "-fprintf" =>
    let file ← argumentOf word
    return some (.print (.format (← formatOf word)) (some file))
  | "-exec" => return some (← commandOf word false false)
  | "-execdir" => return some (← commandOf word false true)
  | "-ok" => return some (← commandOf word true false)
  | "-okdir" => return some (← commandOf word true true)
  | "-delete" =>
    modify fun r => { r with contentsFirst := true, deletes := true }
    return some .delete
  | "-prune" =>
    modify fun r => { r with prunes := true }
    return some .prune
  | "-quit" => return some .quit
  | _ => return none

/-- Whether an argument can be a word of a condition. At the beginning some cannot. -/
def isWord (atStart : Bool) (a : List Char) : Bool :=
  match a with
  | '-' :: _ :: _ => true
  | [')'] | [','] => !atStart
  | ['('] | ['!'] => true
  | _ => false

/-- Reads the next word. -/
def word (before : Option (List Char)) (a : List Char) : Reading Word := do
  let text := shown a
  match text with
  | "!" | "-not" => return .negation text
  | "(" => return .opening false
  | ")" => return .closing false
  | "," => return .joint .inTurn text
  | "-a" | "-and" => return .joint .both text
  | "-o" | "-or" => return .joint .either text
  | _ =>
    if !isWord false a then
      let c ← read
      let hint := match before with
        | some before =>
          if (c.disk.findEntry c.cwd text).toOption.isSome then
            "\nfind: possible unquoted pattern after predicate " ++ ticked before ++ "?"
          else ""
        | none => ""
      throw ("paths must precede expression: " ++ ticked a ++ hint)
    match ← test? text with
    | some t => return .condition (.test t)
    | none =>
      match ← action? text with
      | some action => return .condition (.action action)
      | none => throw ("unknown predicate " ++ ticked a)

/-- Reads all words. -/
def words (before : Option (List Char)) : Nat → Reading (List Word)
  | 0 => return []
  | fuel + 1 => do
    match ← take? with
    | none => return []
    | some a =>
      let w ← word before a
      return w :: (← words (some a) fuel)

/-! ## Conditions -/

/-- Whether a condition can end with a word. -/
def Word.ends : Word → Bool
  | condition _ | closing _ => true
  | _ => false

/-- Whether a condition can begin with a word. -/
def Word.begins : Word → Bool
  | condition _ | opening _ | negation _ => true
  | _ => false

/-- The words with the operators that are understood. -/
def completed : List Word → List Word
  | a :: b :: rest =>
    if a.ends ∧ b.begins then a :: .joint .both "-a" :: completed (b :: rest)
    else a :: completed (b :: rest)
  | ws => ws

/-- Whether a word stands in the place of printing. -/
def Word.replacesPrinting : Word → Bool
  | condition (.action a) => a.replacesPrinting
  | _ => false

/-- The words with printing behind them if nothing stands in its place. -/
def withPrinting (ws : List Word) : List Word :=
  let printing := Word.condition (.action (.print (.plain '\n') none))
  if ws.isEmpty then [printing]
  else if ws.any Word.replacesPrinting then completed ws
  else [.opening true] ++ completed ws ++ [.closing true, .joint .both "-a", printing]

abbrev Joining := StateT (List Word) (Except String)

/-- Takes the next word. -/
def next? : Joining (Option Word) := do
  match ← get with
  | [] => return none
  | w :: ws =>
    set ws
    return some w

/-- Complains about a closing parenthesis in the place of a condition. -/
def misplacedClosing (before : Option Word) (understood : Bool) : String :=
  match before, understood with
  | some (.negation text), false | some (.joint _ text), false =>
    "expected an expression between '" ++ text ++ "' and ')'"
  | some (.negation text), true | some (.joint _ text), true =>
    "expected an expression after '" ++ text ++ "'"
  | _, _ => "invalid expression; you have too many ')'"

mutual

/-- The condition up to an operator that does not bind more strongly than `limit`. -/
def joined : Nat → (limit : Nat) → (before : Option Word) → Joining Condition
  | 0, _, _ => throw "invalid expression"
  | fuel + 1, limit, before => do
    let first ← single fuel before
    continued fuel limit first
termination_by structural fuel => fuel

/-- A condition without an operator around it. -/
def single : Nat → (before : Option Word) → Joining Condition
  | 0, _ => throw "invalid expression"
  | fuel + 1, before => do
    match ← next? with
    | none => throw "invalid expression"
    | some (.condition c) => return c
    | some (.negation text) => return .negated (← joined fuel negationStrength (some (.negation text)))
    | some (.joint _ text) =>
      throw ("invalid expression; you have used a binary operator '" ++ text ++
        "' with nothing before it.")
    | some (.closing understood) => throw (misplacedClosing before understood)
    | some (.opening understood) =>
      match ← get with
      | [] | .closing true :: _ =>
        throw ("invalid expression; expected to find a ')' but didn't see one. " ++
          "Perhaps you need an extra predicate after '('")
      | .closing false :: _ => throw "invalid expression; empty parentheses are not allowed."
      | _ =>
        let inside ← joined fuel 0 (some (.opening understood))
        match ← next? with
        | some (.closing _) => return inside
        | _ =>
          throw ("invalid expression; I was expecting to find a ')' somewhere " ++
            "but did not see one.")
termination_by structural fuel => fuel

/-- What a condition becomes by the operators behind it. -/
def continued : Nat → (limit : Nat) → Condition → Joining Condition
  | 0, _, _ => throw "invalid expression"
  | fuel + 1, limit, first => do
    match ← get with
    | .joint j text :: rest =>
      if limit < j.strength then
        set rest
        let second ← joined fuel j.strength (some (.joint j text))
        continued fuel limit (j.apply first second)
      else return first
    | _ => return first
termination_by structural fuel => fuel

end

/-- The condition that words stand for. -/
def conditionOf (ws : List Word) : Except String Condition := do
  let ws := withPrinting ws
  let (c, rest) ← joined (4 * ws.length + 4) 0 none ws
  match rest with
  | [] => return c
  | _ => throw "you have too many ')'"

/-- What the arguments after the paths ask for. -/
def Query.ofArguments (c : Circumstances) (followsStart : Bool) (args : List (List Char)) :
    Except String Query := do
  let start : Reader := ⟨args, 0, none, false, false, false, 0, .basic, true, []⟩
  let (ws, r) ← (words none (args.length + 1)).run c |>.run start
  if r.deletes ∧ r.prunes then
    throw ("The -delete action automatically turns on -depth, but -prune does nothing when -depth " ++
      "is in effect.  If you want to carry on anyway, just explicitly use the -depth option.")
  return ⟨c.follows, followsStart, r.contentsFirst, r.least, r.most, ← conditionOf ws, r.commands,
    r.warnings⟩

end ProgramRepair.Utility.Find
