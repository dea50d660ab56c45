import ProgramRepair.Shell.Builtin.Basic
import ProgramRepair.Shell.Program

/-!
# Printing, conditions and directories

The commands of the shell that print, that check conditions, and that have to do
with the current directory and with the limits of processes.
-/

namespace ProgramRepair.Shell.Builtin

open Machine

/-- Succeeds. -/
def succeed : Builtin := fun _ _ => return 0

/-- Fails. -/
def fail : Builtin := fun _ _ => return 1

/-- Prints its arguments. -/
def echo : Builtin := fun _ args => Sh.output (Utility.echoText args) 0

/-- Prints arguments by a format. -/
def printf : Builtin := fun _ args => do
  match args with
  | ['-', '-'] :: format :: args => print format args
  | [] | [['-', '-']] => Sh.blame "usage: printf format [arg ...]"
  | format :: args =>
    match format with
    | '-' :: c :: _ => Sh.blame ("Illegal option -" ++ pathText [c])
    | _ => print format args
where
  /-- Prints and complains about the arguments that do not fit. -/
  print (format : List Char) (args : List (List Char)) : Sh Nat := do
    let p := Utility.printfText .shell format args
    for c in p.complaints do Sh.complain c
    match p.fatal with
    | some message =>
      discard <| Sh.output p.text 0
      Sh.blame message
    | none => Sh.output p.text (if p.complaints.isEmpty then 0 else 1)

/-- Checks a condition. -/
def test : Builtin := fun _ args => do
  let cwd := (← get).cwd
  let d ← Sh.call (Kernel.askDisk id)
  match Utility.Condition.holds d cwd args with
  | .ok b => return if b then 0 else 1
  | .error message => Sh.blame message

/-- Checks a condition that ends with a bracket. -/
def bracket : Builtin := fun run args =>
  match args.reverse with
  | [']'] :: rest => test run rest.reverse
  | _ => Sh.blame "missing ]"

/-! ## Directories -/

/-- Prints the current directory. -/
def pwd : Builtin := fun _ _ => do
  Sh.output (byteChars (Disk.pathOf (← get).cwd) ++ ['\n']) 0

/-- Sets a variable that programs get too. -/
def setExported (name value : List Char) : Sh Unit :=
  modify fun s =>
    let new : Variable := ⟨some (.text value), true, s.isReadOnly name, .plain⟩
    { s with bindings := State.assign name new s.bindings }

/-- Goes to another directory. -/
def cd : Builtin := fun _ args => do
  let s ← get
  let args := args.filter fun a => a ≠ ['-', 'P'] && a ≠ ['-', 'L'] && a ≠ ['-', '-']
  let target := match args with
    | [] => (s.valueOf? "HOME".toList).getD []
    | ['-'] :: _ => (s.valueOf? "OLDPWD".toList).getD []
    | a :: _ => a
  if target.isEmpty then return 0
  else
    match ← Sh.call (Kernel.askDisk fun d => d.find s.cwd (pathText target)) with
    | .ok (place, .directory _) =>
      let old := byteChars (Disk.pathOf s.cwd)
      modify fun s => { s with cwd := place }
      setExported "OLDPWD".toList old
      setExported "PWD".toList (byteChars (Disk.pathOf place))
      match args with
      | ['-'] :: _ => Sh.output (byteChars (Disk.pathOf place) ++ ['\n']) 0
      | _ => return 0
    | _ => Sh.blame ("can't cd to " ++ pathText target)

/-! ## Limits -/

/-- The rights that new files get, in letters. -/
def maskLetters (mask : Nat) : List Char :=
  let group := fun (name : Char) (place : Nat) =>
    [name, '='] ++ ([('r', 4), ('w', 2), ('x', 1)].filterMap fun (c, bit) =>
      if mask / (bit * place) % 2 = 1 then none else some c)
  group 'u' 64 ++ ',' :: group 'g' 8 ++ ',' :: group 'o' 1

/-- How a text in letters changes the rights that new files get. -/
def rightsChange? (s : List Char) : Option (Nat → Nat) :=
  if s.isEmpty then some id
  else if s.contains 't' then none
  else
    let clauses := if s.getLast? = some ',' then s.dropLast else s
    (Utility.modeChange? clauses).map fun new rights => new (rights &&& 0o111 ≠ 0) 0 rights

/-- The first part of a text in letters that the extended language does not take, and whether an
operator is missing there. -/
def wrongRight? (s : List Char) : Option (Char × Bool) :=
  (Text.cut ',' s).findSome? fun clause =>
    match clause.dropWhile "ugoa".toList.contains with
    | [] => some (' ', true)
    | op :: rest =>
      if "+-=".toList.contains op then
        (rest.dropWhile "rwxX".toList.contains).head?.map fun c => (c, false)
      else some (op, true)

/-- Changes which rights new files do not get. -/
def setMask (a : List Char) : Sh Nat := do
  let isExtended := (← get).isExtended
  let change := fun (mask : Nat) => do
    Sh.call (Kernel.setMask (mask &&& 0o777))
    return 0
  if a.head?.any Char.isDigit then
    let n := a.foldl (fun n d => 8 * n + (d.toNat - '0'.toNat)) 0
    let isOctal := a.all fun c => '0' ≤ c ∧ c ≤ '7'
    if isOctal && (n < 0o10000 || !isExtended) then change n
    else
      Sh.blameIn ("Illegal number: " ++ pathText a) (pathText a ++ ": octal number out of range")
  else
    let wrong? := if isExtended then wrongRight? a else none
    match wrong?, rightsChange? a with
    | none, some new =>
      let mask ← Sh.call Kernel.mask
      change (0o777 - (new (0o777 - mask) &&& 0o777))
    | wrong?, _ =>
      let (c, isOperator) := wrong?.getD (' ', true)
      Sh.blameIn ("Illegal mode: " ++ pathText a)
        ("\x60" ++ String.ofList [c] ++ "': invalid symbolic mode " ++
          (if isOperator then "operator" else "character"))

/-- Prints or changes which rights new files do not get. -/
def umask : Builtin := fun _ args => do
  let isExtended := (← get).isExtended
  let options := args.takeWhile Sh.isOption
  let letters := (options.filter (· ≠ ['-', '-'])).flatMap (·.drop 1)
  let rest := args.drop options.length
  let wrong? := letters.find? fun c => c ≠ 'S' && !(isExtended && c = 'p')
  match wrong?, rest with
  | some c, _ =>
    if isExtended then Sh.blameOption c "[-p] [-S] [mode]"
    else Sh.blame ("Illegal option -" ++ pathText [c])
  | none, a :: _ =>
    let status ← setMask a
    if status = 0 && isExtended && letters.contains 'S' then display letters
    else return status
  | none, [] => display letters
where
  /-- Prints the rights, in the form that is asked for. -/
  display (letters : List Char) : Sh Nat := do
    let mask ← Sh.call Kernel.mask
    let isLetters := letters.contains 'S'
    let text := if isLetters then maskLetters mask else Utility.modeDigits mask
    let lead := if !letters.contains 'p' then "" else if isLetters then "umask -S " else "umask "
    Sh.output (lead.toList ++ text ++ ['\n']) 0

/-- Prints how much of something processes may use. -/
def ulimit : Builtin := fun _ args =>
  if args.all Sh.isOption then Sh.output "unlimited\n".toList 0 else return 0

/-- Prints how much time was used. -/
def times : Builtin := fun _ _ =>
  Sh.output "0m0.000000s 0m0.000000s\n0m0.000000s 0m0.000000s\n".toList 0

end ProgramRepair.Shell.Builtin
