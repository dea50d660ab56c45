import ProgramRepair.Shell.Assign
import ProgramRepair.Shell.Builtin.Variables

/-!
# Input in the extended language

The commands that read a line, some characters or all lines into variables and
arrays.
-/

namespace ProgramRepair.Shell.Builtin

open Machine

/-- How a line is read. -/
structure Reading where
  /-- Whether backslashes mean nothing. -/
  raw : Bool
  /-- The array that gets the fields. -/
  array : Option (List Char)
  /-- The character that ends the line. -/
  delimiter : Char
  /-- The most characters that are read. -/
  limit : Option Nat
  /-- Whether exactly that many characters are read, whatever they are. -/
  exact : Bool
  fd : Nat

/-- The way to read a line if nothing is said about it. -/
def Reading.standard : Reading := ⟨false, none, '\n', none, false, 0⟩

/-- How `read` is to be used. -/
def readUsage : String :=
  "[-ers] [-a array] [-d delim] [-i text] [-n nchars] [-N nchars] [-p prompt] [-t timeout] " ++
    "[-u fd] [name ...]"

/-- The way of reading with the value of an option. -/
def Reading.withValue (r : Reading) (option : Char) (value : List Char) : Reading :=
  match option with
  | 'a' => { r with array := some value }
  | 'd' => { r with delimiter := value.head?.getD '\x00' }
  | 'n' => { r with limit := some (Sh.digitsNumber value) }
  | 'N' => { r with limit := some (Sh.digitsNumber value), exact := true }
  | 'u' => { r with fd := Sh.digitsNumber value }
  | _ => r

/-- Takes options off arguments. The error is a letter that is no option. -/
def Reading.options (r : Reading) :
    (count : Nat) → List (List Char) → Except Char (Reading × List (List Char))
  | 0, args => .ok (r, args)
  | _ + 1, [] => .ok (r, [])
  | _ + 1, ['-', '-'] :: rest => .ok (r, rest)
  | count + 1, ('-' :: c :: cs) :: rest =>
    let more := if cs.isEmpty then rest else ('-' :: cs) :: rest
    if c = 'r' then options { r with raw := true } count more
    else if c = 's' ∨ c = 'e' then options r count more
    else if "adinNptu".toList.contains c then
      match cs, rest with
      | [], value :: rest => options (r.withValue c value) count rest
      | [], [] => .ok (r, [])
      | value, rest => options (r.withValue c value) count rest
    else .error c
  | _ + 1, args => .ok (r, args)

/-- Reads the characters of a line. The value is whether it was ended as it should be. -/
def Reading.marks (r : Reading) (before : List Mark) (escaped : Bool) : Nat → Sh (List Mark × Bool)
  | 0 => Sh.work .forever
  | count + 1 => do
    if r.limit.any (· ≤ before.length) then return (before.reverse, true)
    else
      match ← Sh.call (Kernel.read r.fd 1) with
      | .ok [] | .error _ => return (before.reverse, false)
      | .ok (b :: _) =>
        let c := Char.ofNat b.toNat
        if c = r.delimiter ∧ !r.exact ∧ !escaped then return (before.reverse, true)
        else if c = '\x00' then marks r before escaped count
        else if escaped then
          if c = '\n' then marks r before false count
          else marks r ((c, true) :: before) false count
        else if c = '\\' ∧ !r.raw then marks r before true count
        else marks r ((c, false) :: before) false count

/-- The fields of a line. -/
def lineFields (separators : List Char) (line : List Mark) : List (List Char) :=
  let atoms := line.map fun (c, escaped) => Atom.char c escaped !escaped
  (splitFields separators atoms).map Pattern.plain

/-- Reads a line into variables or an array. -/
def readInto : Builtin := fun _ args => do
  match Reading.options .standard (4 * args.length + args.flatten.length) args with
  | .error c => Sh.blameOption c readUsage
  | .ok (r, names) =>
    match names.find? fun name => !isName (Arithmetic.leadingTarget .extended name).1.name with
    | some name =>
      Sh.complain ("\x60" ++ pathText name ++ "': not a valid identifier")
      return 1
    | none =>
      let (line, complete) ← r.marks [] false Work.patience
      let separators := (← get).separators
      let plain := line.map (·.1)
      match r.array, names with
      | some array, _ =>
        let fields := (lineFields separators line).map fun text => (none, false, text)
        modify fun s => s.setValue array (.array [])
        Sh.assignList array false fields
      | none, [] => assignRead "REPLY".toList plain
      | none, names =>
        let values := if r.exact then plain :: List.replicate names.length []
          else distribute separators names.length line
        for (name, value) in names.zip values do assignRead name value
      return if complete then 0 else 1
where
  /-- Sets a variable or an element to what was read. -/
  assignRead (name value : List Char) : Sh Unit := do
    match Arithmetic.leadingTarget .extended name with
    | (⟨name, some key⟩, _) => discard <| Sh.assignElement name key false value
    | (⟨name, none⟩, _) => discard <| Sh.assignText name false value

/-! ## All lines -/

/-- How lines are read into an array. -/
structure LineReading where
  trims : Bool
  delimiter : Char
  most : Option Nat
  skipped : Nat
  origin : Nat
  fd : Nat

/-- Takes options off arguments. -/
def LineReading.options (r : LineReading) : List (List Char) → LineReading × List (List Char)
  | ['-', 't'] :: rest => options { r with trims := true } rest
  | ['-', 'd'] :: value :: rest => options { r with delimiter := value.head?.getD '\x00' } rest
  | ['-', 'n'] :: value :: rest =>
    let n := Sh.digitsNumber value
    options { r with most := if n = 0 then none else some n } rest
  | ['-', 's'] :: value :: rest => options { r with skipped := Sh.digitsNumber value } rest
  | ['-', 'O'] :: value :: rest => options { r with origin := Sh.digitsNumber value } rest
  | ['-', 'u'] :: value :: rest => options { r with fd := Sh.digitsNumber value } rest
  | ('-' :: 't' :: c :: cs) :: rest => options { r with trims := true } (('-' :: c :: cs) :: rest)
  | ['-', '-'] :: rest => (r, rest)
  | rest => (r, rest)
termination_by args => args.flatten.length + args.length
decreasing_by all_goals simp +arith

/-- The lines of a text, each with the character that ends it. -/
def delimited (delimiter : Char) : List Char → List (List Char)
  | [] => []
  | c :: rest =>
    if c = delimiter then [c] :: delimited delimiter rest
    else
      match delimited delimiter rest with
      | [] => [[c]]
      | line :: lines => (c :: line) :: lines

/-- Reads lines into an array. -/
def mapfile : Builtin := fun _ args => do
  let (r, names) := LineReading.options ⟨false, '\n', none, 0, 0, 0⟩ args
  let name := names.head?.getD "MAPFILE".toList
  let bytes := (← Sh.work (Work.readAll r.fd)).toOption.getD []
  let lines := (delimited r.delimiter (Text.charsOfBytes bytes)).drop r.skipped
  let lines := match r.most with
    | some n => lines.take n
    | none => lines
  let lines := if r.trims then
      lines.map fun line => if line.getLast? = some r.delimiter then line.dropLast else line
    else lines
  let numbered := ((List.range lines.length).map (· + r.origin)).zip lines
  modify fun s => s.setValue name (.array numbered)
  return 0

end ProgramRepair.Shell.Builtin
