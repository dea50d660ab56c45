import ProgramRepair.Utility.Details

/-!
# Names of the system and its user

Programs that say on which system they run and for whom. Nothing else than the system
itself is known about the machine.
-/

namespace ProgramRepair.Utility

open Machine

/-! ## The system -/

/-- The names of the system by the letters of options, in the order in which they are printed. -/
def systemNames : List (Char × String) :=
  [('s', "Linux"), ('n', "localhost"), ('r', "6.1.0"), ('v', "#1 SMP"), ('m', "x86_64"),
   ('p', "x86_64"), ('i', "x86_64"), ('o', "GNU/Linux")]

/-- The name that a letter stands for. -/
def systemText (c : Char) : List Char := ((systemNames.lookup c).getD "").toList

def unameGrammar : Grammar :=
  ⟨"asnrvmpio", "", "", [("all", 'a'), ("kernel-name", 's'), ("nodename", 'n'),
    ("kernel-release", 'r'), ("kernel-version", 'v'), ("machine", 'm'), ("processor", 'p'),
    ("hardware-platform", 'i'), ("operating-system", 'o')]⟩

/-- Ends with a complaint about a word too many. -/
def refuseExtra (program : String) (extra : List Char) : Work Nat :=
  refuse program ("extra operand " ++ quoted extra) 1

/-- Prints names of the system. -/
def uname : Utility := fun _ args => do
  let o := unameGrammar.read args
  match o.problem, o.rest with
  | some problem, _ => refuse "uname" problem 1
  | none, extra :: _ => refuseExtra "uname" extra
  | none, [] =>
    let letters :=
      if o.has 'a' then "snrvmo".toList
      else if o.letters.isEmpty then ['s']
      else (systemNames.map (·.1)).filter o.has
    emit "uname" (List.flatten ((letters.map systemText).intersperse [' ']) ++ ['\n']) 0

/-- A program without options that prints one line. -/
def factProgram (program : String) (line : List Char) : Utility := fun _ args => do
  let o := (⟨"", "", "", []⟩ : Grammar).read args
  match o.problem, o.rest with
  | some problem, _ => refuse program problem 1
  | none, extra :: _ => refuseExtra program extra
  | none, [] => emit program (line ++ ['\n']) 0

/-- Prints the kind of the machine. -/
def arch : Utility := factProgram "arch" (systemText 'm')

/-- Prints the name of the machine. -/
def hostname : Utility := fun _ _ => emit "hostname" (systemText 'n' ++ ['\n']) 0

/-- Prints how many processors there are. -/
def nproc : Utility := fun _ args => do
  let o := (⟨"", "", "", [("all", 'a'), ("ignore=", 'i')]⟩ : Grammar).read args
  match o.problem, o.rest with
  | some problem, _ => refuse "nproc" problem 1
  | none, extra :: _ => refuseExtra "nproc" extra
  | none, [] => emit "nproc" ['1', '\n'] 0

/-- Says that the standard input is no terminal. -/
def tty : Utility := fun _ args => do
  let o := (⟨"s", "", "", [("silent", 's'), ("quiet", 's')]⟩ : Grammar).read args
  match o.problem, o.rest with
  | some problem, _ => refuse "tty" problem 2
  | none, extra :: _ => refuse "tty" ("extra operand " ++ quoted extra) 2
  | none, [] => if o.has 's' then return 1 else emit "tty" "not a tty\n".toList 1

/-- Makes sure that everything is on the disk, where it is anyway. -/
def sync : Utility := fun env args => do
  let o := (⟨"df", "", "", [("data", 'd'), ("file-system", 'f')]⟩ : Grammar).read args
  match o.problem with
  | some problem => refuse "sync" problem 1
  | none => go env.cwd 0 o.rest
where
  /-- Goes from file to file. -/
  go (cwd : Place) (code : Nat) : List (List Char) → Work Nat
    | [] => return code
    | path :: rest => do
      match ← Work.call (Kernel.askDisk fun d => d.find cwd (shown path)) with
      | .ok _ => go cwd code rest
      | .error e =>
        warn "sync" ("error opening " ++ inQuotes path ++ ": " ++ e.systemText)
        go cwd 1 rest

/-! ## The user -/

/-- Prints the name of the user. -/
def whoami : Utility := factProgram "whoami" userName

def idGrammar : Grammar :=
  ⟨"agGnruzZ", "", "", [("group", 'g'), ("groups", 'G'), ("name", 'n'), ("real", 'r'), ("user", 'u'),
    ("zero", 'z')]⟩

/-- Prints the numbers and names of the user. -/
def idProgram : Utility := fun _ args => do
  let o := idGrammar.read args
  let choices := ['u', 'g', 'G'].filter o.has
  let known := [userName, digits userNumber]
  match o.problem with
  | some problem => refuse "id" problem 1
  | none =>
    if 1 < choices.length then
      warn "id" "cannot print \"only\" of more than one choice"
      return 1
    else if choices.isEmpty && (o.has 'n' || o.has 'r') then
      warn "id" "cannot print only names or real IDs in default format"
      return 1
    else
      match o.rest.find? fun name => !known.contains name && name ≠ systemName with
      | some name =>
        warn "id" (inQuotes name ++ ": no such user")
        return 1
      | none =>
        let isSystem := o.rest.head? = some systemName
        let number := if isSystem then ['0'] else digits userNumber
        let name := if isSystem then systemName else userName
        let text :=
          if choices.isEmpty then
            let pair := fun (label : String) => label.toList ++ number ++ ['('] ++ name ++ [')']
            pair "uid=" ++ pair " gid=" ++ pair " groups="
          else if o.has 'n' then name
          else number
        emit "id" (text ++ ['\n']) 0

/-- Prints the groups of the user. -/
def groupsProgram : Utility := fun _ _ => emit "groups" (userName ++ ['\n']) 0

/-- Says that nobody has logged in. -/
def logname : Utility := fun _ _ => do
  warn "logname" "no login name"
  return 1

/-- Prints who has logged in, which is nobody. -/
def nobody : Utility := fun _ _ => return 0

end ProgramRepair.Utility
