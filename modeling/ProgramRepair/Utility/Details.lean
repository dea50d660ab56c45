import ProgramRepair.Clock.Calendar
import ProgramRepair.Utility.Mode

/-!
# Details of files

What files have besides contents, and programs that print it.
-/

namespace ProgramRepair.Utility

open Machine

/-! ## Attributes -/

/-- The name of the one who uses the disk. -/
def userName : List Char := "user".toList

/-- The number of the user and of the user's group. -/
def userNumber : Nat := 1000

/-- The name of the one to whom the system belongs. -/
def systemName : List Char := "root".toList

/-- The letter of the kind of an entry. -/
def kindLetter : Entry → Char
  | .file _ _ => '-'
  | .directory _ => 'd'
  | .link _ => 'l'
  | .null => 'c'
  | .pipe _ => 'p'

/-- The mode of an entry. -/
def modeOf (e : Entry) : Nat :=
  match e with
  | .link _ => 0o777
  | .null => 0o666
  | e => (e.attributes?.map (·.mode)).getD 0

/-- The size of an entry. -/
def sizeOf (e : Entry) : Nat :=
  match e with
  | .file contents _ => contents.length
  | .directory _ => 4096
  | .link text => text.utf8ByteSize
  | .null | .pipe _ => 0

/-- The bytes of the blocks that an entry takes on the disk. The text of a short link takes none. -/
def storedSize (e : Entry) : Nat :=
  match e with
  | .link text => if text.utf8ByteSize < 60 then 0 else 4096
  | e => (sizeOf e + 4095) / 4096 * 4096

/-- To whom an entry belongs. -/
def ownerOf (e : Entry) : List Char :=
  if e.attributes?.all (·.own) then userName else systemName

/-- The number of names of what is at a place. -/
def nameCount (d : Disk) (p : Place) (e : Entry) : Nat :=
  match e with
  | .directory _ =>
    2 + ((d.children p).filter fun name =>
      (d.lookup (p ++ [name])).any Entry.isDirectory).length
  | e =>
    match e.number? with
    | some n => (d.entries.filter fun entry => entry.2.number? = some n).length
    | none => 1

/-- The last change of an entry. -/
def changedOf (e : Entry) : Int := (e.attributes?.map (·.changed)).getD 0

/-- The kind and the rights of an entry in letters. -/
def rightsText (e : Entry) : List Char := kindLetter e :: modeLetters (modeOf e)

/-! ## Places -/

/-- Prints the place of the current directory. -/
def pwd : Utility := fun env _ =>
  emit "pwd" (bytesChars (Disk.pathOf env.cwd) ++ ['\n']) 0

/-! ## Details -/

/-- What kind of thing an entry is, in words. -/
def kindText (e : Entry) : String :=
  match e with
  | .file [] _ => "regular empty file"
  | .file _ _ => "regular file"
  | .directory _ => "directory"
  | .link _ => "symbolic link"
  | .null => "character special file"
  | .pipe _ => "fifo"

/-- What a directive of a format says about an entry. -/
def detail (d : Disk) (path : List Char) (p : Place) (e : Entry) (c : Char) : List Char :=
  let owner := if ownerOf e = systemName then ['0'] else digits userNumber
  let time := (Moment.ofNanoseconds (changedOf e)).format 40 "%Y-%m-%d %H:%M:%S.%N %z".toList
  match c with
  | 'n' => path
  | 'N' =>
    bytesChars (match e with
      | .link text => inQuotes path ++ " -> " ++ inQuotes (bytesChars text)
      | _ => inQuotes path)
  | 's' => digits (sizeOf e)
  | 'b' => digits (storedSize e / 512)
  | 'B' => digits 512
  | 'o' => digits 4096
  | 'a' => Nat.toDigits 8 (modeOf e)
  | 'A' => rightsText e
  | 'F' => (kindText e).toList
  | 'h' => digits (nameCount d p e)
  | 'U' | 'G' => ownerOf e
  | 'u' | 'g' => owner
  | 'x' | 'y' | 'z' => time
  | 'X' | 'Y' | 'Z' => (toString ((changedOf e).fdiv Moment.perSecond)).toList
  | '%' => ['%']
  | _ => ['?']

/-- A format with what its directives say. -/
def details (d : Disk) (path : List Char) (p : Place) (e : Entry) : Nat → List Char → List Char
  | 0, _ => []
  | _ + 1, [] => []
  | fuel + 1, '%' :: c :: s => detail d path p e c ++ details d path p e fuel s
  | fuel + 1, c :: s => c :: details d path p e fuel s

/-- The format of `stat` when none is given. -/
def usualDetails : List Char :=
  ("  File: %N\n  Size: %s\tBlocks: %b\tIO Block: %o\t%F\n" ++
    "Access: (%a/%A)  Uid: ( %u/ %U)   Gid: ( %g/ %G)\nModify: %y").toList

def statGrammar : Grammar :=
  ⟨"Lft", "c", "", [("format=", 'c'), ("printf=", 'p'), ("dereference", 'L'), ("terse", 't')]⟩

/-- The characters that escapes in a format stand for. -/
def unescapeFormat : List Char → List Char
  | '\\' :: 'n' :: s => '\n' :: unescapeFormat s
  | '\\' :: 't' :: s => '\t' :: unescapeFormat s
  | '\\' :: '\\' :: s => '\\' :: unescapeFormat s
  | c :: s => c :: unescapeFormat s
  | [] => []

/-- Prints what files have besides contents. -/
def stat : Utility := fun env args => do
  let o := statGrammar.read args
  match o.problem, o.rest with
  | some problem, _ => refuse "stat" problem 1
  | none, [] => refuse "stat" "missing operand" 1
  | none, paths =>
    let d ← Work.call (Kernel.askDisk id)
    let find := if o.has 'L' then Disk.find else Disk.findEntry
    let format := match o.value? 'p', o.value? 'c' with
      | some f, _ => unescapeFormat f
      | none, some f => f ++ ['\n']
      | none, none => usualDetails ++ ['\n']
    let results := paths.map fun path => (path, find d env.cwd (shown path))
    for (path, r) in results do
      match r with
      | .error e => warn "stat" ("cannot statx " ++ inQuotes path ++ ": " ++ e.systemText)
      | .ok _ => pure ()
    let texts := results.filterMap fun (path, r) =>
      r.toOption.map fun (p, e) => details d path p e (format.length + 1) format
    emit "stat" texts.flatten (if texts.length = paths.length then 0 else 1)

/-! ## Sizes and times in few letters -/

/-- A size in few digits with the letter of a unit, each of which is `base` times the one before. -/
def humanSize (base : Nat) (n : Nat) : List Char :=
  let rec go (units : List Char) (tenths : Nat) : List Char :=
    match units with
    | [] => digits (tenths / 10)
    | u :: rest =>
      if tenths < 100 then digits (tenths / 10) ++ '.' :: digits (tenths % 10) ++ [u]
      else if tenths < 10 * base then digits ((tenths + 9) / 10) ++ [u]
      else go rest ((tenths + base - 1) / base)
  let units := [if base = 1000 then 'k' else 'K', 'M', 'G', 'T']
  if n < base then digits n else go units ((n * 10 + base - 1) / base)

/-- The time in a long listing; one that is not near has a year instead of a time of day. -/
def listedTime (now changed : Int) : List Char :=
  let m := Moment.ofNanoseconds changed
  let near := 15778476 * Moment.perSecond
  let isNear := now - near < changed ∧ changed ≤ now
  m.format 20 (if isNear then "%b %e %H:%M" else "%b %e  %Y").toList

end ProgramRepair.Utility
