import ProgramRepair.Text.Pattern
import ProgramRepair.Utility.Quotation
import ProgramRepair.Utility.Details

/-!
# Forms of listings

How a listing looks and what is in it, as the options of a call say it. Where options
contradict each other the last one counts.
-/

namespace ProgramRepair.Utility.Listing

/-! ## Choices -/

/-- How the names are laid out. -/
inductive Layout where
  | single
  | down
  | across
  | commas
  | long
deriving DecidableEq

/-- How names are quoted. -/
inductive Quoting where
  | literal
  | shell (always escaping : Bool)
  | letters (always : Bool)
  | backslashes
  | single
deriving DecidableEq

/-- Which signs for the kind of an entry stand behind names. -/
inductive Signs where
  | none
  | slash
  | kinds
  | all
deriving DecidableEq

/-- Which names are listed. -/
inductive Reach where
  | visible
  /-- All but the names of the directory itself and the one above it. -/
  | almost
  | all
deriving DecidableEq

/-- What names are ordered by. -/
inductive Key where
  | nothing
  | name
  | time
  | size
  | ending
  | version
  | width
deriving DecidableEq

/-- How sizes are printed. -/
inductive SizeForm where
  /-- In units of some bytes, with what stands behind the number. -/
  | units (n : Nat) (letters : List Char)
  /-- In few digits with a letter. -/
  | short (base : Nat)

/-- How a listing looks and what is in it. -/
structure Form where
  layout : Layout
  /-- The width of lines, or 0 if there is no end to them. -/
  width : Nat
  tab : Nat
  quoting : Quoting
  /-- Whether characters that cannot be printed are replaced. -/
  hides : Bool
  signs : Signs
  inodes : Bool
  blocks : Bool
  blockForm : SizeForm
  sizeForm : SizeForm
  owner : Bool
  group : Bool
  author : Bool
  numbers : Bool
  /-- The formats of times that are near and of those that are not. -/
  times : List Char × List Char
  reach : Reach
  ignored : List (List Char)
  key : Key
  reverse : Bool
  directoriesFirst : Bool
  recursive : Bool
  /-- Whether directories are listed themselves. -/
  plain : Bool
  colored : Bool
  lineEnd : Char
  /-- Whether all links are followed, or those in arguments, or those of them to directories. -/
  followsAll : Bool
  followsGiven : Bool
  followsToDirectories : Bool

/-! ## Options -/

def grammar : Grammar :=
  ⟨"1aAbBcCdDfFgGhHiklLmnNopqQrRsStuUvxXZ", "wIT", "",
    [("all", 'a'), ("almost-all", 'A'), ("author", '@'), ("escape", 'b'), ("block-size=", 'K'),
      ("ignore-backups", 'B'), ("color?", 'E'), ("directory", 'd'), ("classify?", 'F'),
      ("file-type", 'e'), ("format=", 'M'), ("full-time", 'V'), ("group-directories-first", 'y'),
      ("no-group", 'G'), ("human-readable", 'h'), ("si", '%'), ("dereference-command-line", 'H'),
      ("dereference-command-line-symlink-to-dir", 'j'), ("hide=", 'J'), ("indicator-style=", 'Y'),
      ("inode", 'i'), ("ignore=", 'I'), ("kibibytes", 'k'), ("dereference", 'L'),
      ("numeric-uid-gid", 'n'), ("literal", 'N'), ("hide-control-chars", 'q'),
      ("show-control-chars", '&'), ("quote-name", 'Q'), ("quoting-style=", '"'), ("reverse", 'r'),
      ("recursive", 'R'), ("size", 's'), ("sort=", '='), ("time=", '\''), ("time-style=", '+'),
      ("tabsize=", 'T'), ("width=", 'w'), ("context", 'Z'), ("zero", '0')]⟩

/-- What is wrong with the options, and whether a hint follows. -/
abbrev Problem := String × Bool

/-- The choice that the value of an option names, if it was given. -/
def chosen (o : Options) (letter : Char) (what : String) (choices : List (List String × α)) :
    Except Problem (Option α) :=
  (o.value? letter).mapM fun s => (choose ("--" ++ what) choices s).mapError fun p => (p, true)

/-- When something is done that depends on the output, which is no screen here. -/
def occasions : List (List String × Bool) :=
  [(["always", "yes", "force"], true), (["never", "no", "none"], false),
   (["auto", "tty", "if-tty"], false)]

def layouts : List (List String × Layout) :=
  [(["verbose", "long"], .long), (["commas"], .commas), (["horizontal", "across"], .across),
   (["vertical"], .down), (["single-column"], .single)]

def quotings : List (List String × Quoting) :=
  [(["literal"], .literal), (["shell"], .shell false false), (["shell-always"], .shell true false),
   (["shell-escape"], .shell false true), (["shell-escape-always"], .shell true true),
   (["c"], .letters true), (["c-maybe"], .letters false), (["escape"], .backslashes),
   (["locale"], .single), (["clocale"], .letters true)]

def keys : List (List String × Key) :=
  [(["none"], .nothing), (["time"], .time), (["size"], .size), (["extension"], .ending),
   (["version"], .version), (["width"], .width)]

def signChoices : List (List String × Signs) :=
  [(["none"], .none), (["slash"], .slash), (["file-type"], .kinds), (["classify"], .all)]

def timeChoices : List (List String × Unit) :=
  [(["atime", "access", "use"], ()), (["ctime", "status"], ()),
   (["mtime", "modification"], ()), (["birth", "creation"], ())]

/-- The last of some letters that was given. -/
def lastOf (o : Options) (letters : String) : Option Char := o.letters.find? letters.toList.contains

/-- The layout after an option. -/
def nextLayout (named : Layout) (before : Layout) : Char → Layout
  | 'C' => .down
  | 'x' => .across
  | 'm' => .commas
  | 'l' | 'g' | 'o' | 'n' | 'V' => .long
  | '1' | '0' => if before = .long then .long else .single
  | 'f' => if before = .long then .single else before
  | 'M' => named
  | _ => before

/-- The key after an option. -/
def nextKey (named : Key) (before : Key) : Char → Key
  | 'U' | 'f' => .nothing
  | 't' => .time
  | 'S' => .size
  | 'X' => .ending
  | 'v' => .version
  | '=' => named
  | _ => before

/-- The quoting after an option. -/
def nextQuoting (named : Quoting) (before : Quoting) : Char → Quoting
  | 'b' => .backslashes
  | 'Q' => .letters true
  | 'N' | '0' => .literal
  | '"' => named
  | _ => before

/-- The signs after an option. -/
def nextSigns (named : Signs) (classifies : Bool) (before : Signs) : Char → Signs
  | 'p' => .slash
  | 'e' => .kinds
  | 'F' => if classifies then .all else before
  | 'Y' => named
  | _ => before

/-- The formats of times that a style stands for. -/
def timeStyle (s : List Char) : Except Problem (List Char × List Char) :=
  let plain := fun (s : List Char) => if "posix-".toList.isPrefixOf s then s.drop 6 else s
  let both := fun (f : String) => (f.toList, f.toList)
  match s with
  | '+' :: f =>
    match Text.cut '\n' f with
    | [old, near] => .ok (near, old)
    | _ => .ok (f, f)
  | s =>
    match String.ofList (plain s) with
    | "full-iso" => .ok (both "%Y-%m-%d %H:%M:%S.%N %z")
    | "long-iso" => .ok (both "%Y-%m-%d %H:%M")
    | "iso" => .ok ("%m-%d %H:%M".toList, "%Y-%m-%d ".toList)
    | "locale" => .ok ("%b %e %H:%M".toList, "%b %e  %Y".toList)
    | _ =>
      .error ("invalid argument " ++ quoted s ++ " for 'time style'\nValid arguments are:\n" ++
        "  - [posix-]full-iso\n  - [posix-]long-iso\n  - [posix-]iso\n  - [posix-]locale\n" ++
        "  - +FORMAT (e.g., +%H:%M) for a 'date'-style format", true)

/-- The form of sizes in blocks that a text names. -/
def blockSize (s : List Char) : Except Problem SizeForm :=
  match String.ofList s with
  | "human-readable" => .ok (.short 1024)
  | "si" => .ok (.short 1000)
  | _ =>
    let isUnit := s.head?.any fun c => !c.isDigit
    match sized? (if isUnit then '1' :: s else s) with
    | some (n + 1) => .ok (.units (n + 1) (if isUnit then s else []))
    | _ => .error ("invalid --block-size argument " ++ quoted s, false)

/-- The beginnings of the names of terminals that have colors. -/
def terminals : List String :=
  ["Eterm", "alacritty", "ansi", "color", "con", "cygwin", "dtterm", "foot", "gnome", "hurd",
   "jfbterm", "konsole", "kterm", "linux", "mach-color", "mlterm", "putty", "rxvt", "screen", "st",
   "terminator", "tmux", "vt100", "xterm"]

/-- Whether colors are known to be shown. -/
def hasColors (env : Surroundings) : Bool :=
  let value := fun (name : String) => (env.bindings.lookup name.toList).getD []
  let term := value "TERM"
  !(value "COLORTERM").isEmpty || terminals.any fun t => t.toList.isPrefixOf term

/-- The form that options ask for. -/
def formOf (env : Surroundings) (o : Options) : Except Problem Form := do
  let number := fun (what : String) (usual : Nat) (letter : Char) (setting : String) =>
    match o.value? letter with
    | some s =>
      match natural? s with
      | some n => Except.ok n
      | none => .error (("invalid " ++ what ++ ": " ++ quoted s, false) : Problem)
    | none => .ok (((env.bindings.lookup setting.toList).bind natural?).getD usual)
  let width ← number "line width" 80 'w' "COLUMNS"
  let tab ← number "tab size" 8 'T' "TABSIZE"
  let named ← chosen o 'M' "format" layouts
  let quoting ← chosen o '"' "quoting-style" quotings
  let usualQuoting := ((env.bindings.lookup "QUOTING_STYLE".toList).bind fun s =>
    (choose "--quoting-style" quotings s).toOption).getD .literal
  let key ← chosen o '=' "sort" keys
  let signs ← chosen o 'Y' "indicator-style" signChoices
  let colored ← chosen o 'E' "color" occasions
  let classifies ← chosen o 'F' "classify" occasions
  let _ ← chosen o '\'' "time" timeChoices
  let given := o.letters.reverse
  let layout := given.foldl (nextLayout (named.getD .single)) .single
  let signs := given.foldl (nextSigns (signs.getD .none) (classifies.getD true)) .none
  let style := (o.value? '+').getD
    (if o.has 'V' then "full-iso".toList
    else (env.bindings.lookup "TIME_STYLE".toList).getD "locale".toList)
  let times ← if layout = .long then timeStyle style else pure ([], [])
  let size ← (o.value? 'K').mapM blockSize
  let short := match lastOf o "h%K" with
    | some 'h' => some (SizeForm.short 1024)
    | some '%' => some (.short 1000)
    | some _ => size
    | none => none
  let reach := match lastOf o "aAf" with
    | some 'A' => if o.has 'f' then Reach.all else .almost
    | some _ => .all
    | none => .visible
  let isLong := layout = .long
  return {
    layout, width, tab, signs, times, reach
    quoting := given.foldl (nextQuoting (quoting.getD .literal)) usualQuoting
    hides := lastOf o "q&0" = some 'q'
    inodes := o.has 'i'
    blocks := o.has 's'
    blockForm := short.getD (.units 1024 [])
    sizeForm := short.getD (.units 1 [])
    owner := !o.has 'g'
    group := !(o.has 'G' || o.has 'o')
    author := o.has '@'
    numbers := o.has 'n'
    ignored := o.valuesOf 'I' ++ (if reach = .visible then o.valuesOf 'J' else []) ++
      (if o.has 'B' then [['*', '~'], ['.', '*', '~']] else [])
    key := given.foldl (nextKey (key.getD .name)) .name
    reverse := o.has 'r'
    directoriesFirst := o.has 'y'
    recursive := o.has 'R'
    plain := o.has 'd'
    colored := !o.has '0' && o.has 'E' && colored.getD true && hasColors env
    lineEnd := if o.has '0' then '\x00' else '\n'
    followsAll := o.has 'L'
    followsGiven := o.has 'H' || o.has 'L'
    followsToDirectories := o.has 'j' || !(o.has 'd' || isLong || signs = .all) }

end ProgramRepair.Utility.Listing
