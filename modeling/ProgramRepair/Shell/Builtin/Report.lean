import ProgramRepair.Shell.Builtin.Control
import ProgramRepair.Shell.Builtin.Declaration
import ProgramRepair.Shell.Builtin.Values
import ProgramRepair.Shell.Check

/-!
# Printing, conditions and options in the extended language

The commands that print, that check conditions, that go to another directory and
that have to do with options and arguments, as the extended language has them.
-/

namespace ProgramRepair.Shell.Builtin.Extended

open Machine

/-! ## Printing -/

/-- Prints its arguments; escapes are only replaced if that is asked for. -/
def echo : Builtin := fun _ args => do
  let escapes := (← get).settings.contains "xpg_echo"
  Sh.output (Utility.plainEchoText .shell true escapes args) 0

/-- How `printf` is to be used. -/
def printfUsage : String := "[-v var] format [arguments]"

/-- Prints arguments by a format, or sets a variable to what would be printed. -/
def printf : Builtin := fun _ args => do
  match args with
  | ['-', 'v'] :: name :: rest => print (some name) rest
  | rest => print none rest
where
  /-- Prints and complains about the arguments that do not fit. -/
  print (name? : Option (List Char)) (args : List (List Char)) : Sh Nat := do
    let args := match args with
      | ['-', '-'] :: rest => rest
      | rest => rest
    match args with
    | [] => Sh.showUsage printfUsage
    | format :: args =>
      match format with
      | '-' :: c :: _ => Sh.blameOption c printfUsage
      | _ =>
        let p := Utility.printfText .extendedShell format args
        for c in p.complaints ++ p.fatal.toList do Sh.complain c
        let status := if p.complaints.isEmpty ∧ p.fatal.isNone then 0 else 1
        match name?.map (Arithmetic.leadingTarget .extended) with
        | some (⟨name, some key⟩, _) =>
          discard <| Sh.assignElement name key false p.text
          return status
        | some (⟨name, none⟩, _) =>
          discard <| Sh.assignText name false p.text
          return status
        | none => Sh.output p.text status

/-! ## Conditions -/

/-- What is wrong with a condition, by the number of its arguments. -/
def conditionProblem (args : List (List Char)) (message : String) : String :=
  match Text.dropLead? "Illegal number: ".toList message.toList with
  | some word => String.ofList word ++ ": integer expression expected"
  | none =>
    match args with
    | [_] => message
    | [a, _] => pathText a ++ ": unary operator expected"
    | [_, b, _] => pathText b ++ ": binary operator expected"
    | _ => "too many arguments"

/-- Checks a condition. -/
def test : Builtin := fun _ args => do
  match args with
  | [['-', 'v'], name] => return if ← Sh.isSet name then 0 else 1
  | [a, ['-', 'n', 't'], b] => return if ← Sh.compareFiles a "-nt".toList b then 0 else 1
  | [a, ['-', 'o', 't'], b] => return if ← Sh.compareFiles a "-ot".toList b then 0 else 1
  | [['!'], ['-', 'v'], name] => return if ← Sh.isSet name then 1 else 0
  | args =>
    let cwd := (← get).cwd
    let d ← Sh.call (Kernel.askDisk id)
    match Utility.Condition.holds d cwd args with
    | .ok b => return if b then 0 else 1
    | .error message =>
      Sh.complain (conditionProblem args message)
      return 2

/-- Checks a condition that ends with a bracket. -/
def bracket : Builtin := fun run args => do
  match args.reverse with
  | [']'] :: rest => test run rest.reverse
  | _ =>
    Sh.complain "missing \x60]'"
    return 2

/-! ## Directories -/

/-- Goes to another directory. -/
def cd : Builtin := fun _ args => do
  let s ← get
  let args := args.filter fun a => a ≠ ['-', 'P'] && a ≠ ['-', 'L'] && a ≠ ['-', '-']
  match args with
  | [] =>
    match s.valueOf? "HOME".toList with
    | some home => goTo false home
    | none => blame "HOME not set"
  | [['-']] =>
    match s.valueOf? "OLDPWD".toList with
    | some old => goTo true old
    | none => blame "OLDPWD not set"
  | [a] => goTo false a
  | _ => blame "too many arguments"
where
  /-- Complains. -/
  blame (message : String) : Sh Nat := do
    Sh.complain message
    return 1
  /-- Goes to a directory, and prints it if that is asked for. -/
  goTo (prints : Bool) (target : List Char) : Sh Nat := do
    let s ← get
    if target.isEmpty then return 0
    else
      match ← Sh.call (Kernel.askDisk fun d => d.find s.cwd (pathText target)) with
      | .ok (place, .directory _) =>
        modify fun s => { s with cwd := place }
        setExported "OLDPWD".toList (byteChars (Disk.pathOf s.cwd))
        setExported "PWD".toList (byteChars (Disk.pathOf place))
        if prints then Sh.output (byteChars (Disk.pathOf place) ++ ['\n']) 0 else return 0
      | .ok _ => blame (pathText target ++ ": Not a directory")
      | .error e => blame (pathText target ++ ": " ++ e.systemText)

/-- Directories in one line, with the home directory as a tilde. -/
def directoryLine (s : State) : List Char :=
  let home := (s.valueOf? "HOME".toList).getD []
  let shown := fun (path : List Char) =>
    match if home.isEmpty then none else Text.dropLead? home path with
    | some [] => ['~']
    | some ('/' :: rest) => '~' :: '/' :: rest
    | _ => path
  let all := byteChars (Disk.pathOf s.cwd) :: s.directories
  List.flatten ((all.map shown).intersperse [' ']) ++ ['\n']

/-- Goes to a directory and remembers the current one. -/
def pushDirectory : Builtin := fun run args => do
  let s ← get
  let here := byteChars (Disk.pathOf s.cwd)
  let (target?, left) := match args, s.directories with
    | a :: _, all => (some a, here :: all)
    | [], top :: rest => (some top, here :: rest)
    | [], [] => (none, [])
  match target? with
  | none =>
    Sh.complain "no other directory"
    return 1
  | some target =>
    let status ← cd run [target]
    if status = 0 then
      modify fun s => { s with directories := left }
      Sh.output (directoryLine (← get)) 0
    else return status

/-- Goes back to the directory that was remembered last. -/
def popDirectory : Builtin := fun run _ => do
  match (← get).directories with
  | [] =>
    Sh.complain "directory stack empty"
    return 1
  | top :: rest =>
    let status ← cd run [top]
    if status = 0 then
      modify fun s => { s with directories := rest }
      Sh.output (directoryLine (← get)) 0
    else return status

/-- Prints the remembered directories. -/
def showDirectories : Builtin := fun _ _ => do Sh.output (directoryLine (← get)) 0

/-! ## Options and arguments -/

/-- The options of the extended language in the order of their names, with their letters. -/
def optionTable : List (String × Option Char) :=
  [("allexport", some 'a'), ("braceexpand", some 'B'), ("emacs", some 'E'), ("errexit", some 'e'),
   ("errtrace", none), ("functrace", none), ("hashall", some 'h'), ("histexpand", some 'H'),
   ("history", none), ("ignoreeof", none), ("interactive-comments", none), ("keyword", some 'k'),
   ("monitor", some 'm'), ("noclobber", some 'C'), ("noexec", some 'n'), ("noglob", some 'f'),
   ("nolog", none), ("notify", some 'b'), ("nounset", some 'u'), ("onecmd", some 't'),
   ("physical", some 'P'), ("pipefail", none), ("posix", none), ("privileged", some 'p'),
   ("verbose", some 'v'), ("vi", none), ("xtrace", some 'x')]

/-- Whether an option is on. -/
def isOptionOn (s : State) (name : String) : Bool :=
  let fixed := ["braceexpand", "hashall", "interactive-comments"]
  fixed.contains name || s.settings.contains name || ((optionTable.lookup name).bind id).any s.isOn

/-- The letters that can be options. -/
def letters : List Char := "abefhkmnptuvxBCEHPTlr".toList

/-- How `set` is to be used. -/
def setUsage : String := "[-abefhkmnptuvxBCEHPT] [-o option-name] [--] [-] [arg ...]"

/-- Switches an option by its name. -/
def switchNamed (on : Bool) (name : List Char) : Sh Nat := do
  let text := String.ofList name
  match optionTable.lookup text with
  | some (some letter) =>
    modify fun s => s.withOption letter on
    return 0
  | some none =>
    switchSetting on text
    return 0
  | none =>
    Sh.complain (pathText name ++ ": invalid option name")
    return 2

/-- The lines about all options. -/
def optionLines (s : State) (asCommands : Bool) : List Char :=
  optionTable.flatMap fun (name, _) =>
    let on := isOptionOn s name
    if asCommands then ("set " ++ (if on then "-" else "+") ++ "o " ++ name ++ "\n").toList
    else settingLine name on

/-- Sets options and arguments one after the other. -/
def setAll : List (List Char) → Sh Nat
  | [] => return 0
  | ['-', '-'] :: rest => arguments rest
  | ['-'] :: rest => do
    modify fun s => (s.withOption 'x' false).withOption 'v' false
    if rest.isEmpty then return 0 else arguments rest
  | a@(sign :: c :: cs) :: rest =>
    if sign = '-' ∨ sign = '+' then do
      let named := (c :: cs).contains 'o'
      let flags := (c :: cs).filter (· ≠ 'o')
      match flags.find? fun c => !letters.contains c with
      | some c =>
        Sh.complain (pathText [sign, c] ++ ": invalid option")
        Sh.showUsage setUsage
      | none =>
        modify fun s => flags.foldl (fun s c => s.withOption c (sign = '-')) s
        match named, rest with
        | true, [] => do Sh.output (optionLines (← get) (sign = '+')) 0
        | true, name :: rest => do
          match ← switchNamed (sign = '-') name with
          | 0 => setAll rest
          | status => return status
        | false, rest => setAll rest
    else arguments (a :: rest)
  | rest => arguments rest
where
  /-- Replaces the arguments. -/
  arguments (args : List (List Char)) : Sh Nat := do
    modify fun s => { s with arguments := args, optionOffset := 0 }
    return 0

/-- Sets options and arguments, or lists all variables. -/
def set : Builtin := fun _ args => do
  if args.isEmpty then Sh.output (listedVariables (← get).bindings) 0 else setAll args

/-- Reads one option of the arguments. -/
def getopts : Builtin := fun run args => do
  if args.length < 2 then Sh.showUsage "optstring name [arg ...]" else Builtin.getopts run args

/-! ## Names -/

/-- Makes names short for texts, or prints what they are short for. -/
def nameAliases : Builtin := fun _ args => do
  let line := fun (name text : List Char) =>
    "alias ".toList ++ name ++ '=' :: quotedForm text ++ ['\n']
  let aliases := (← get).aliases
  match args.filter (· ≠ ['-', 'p']) with
  | [] =>
    let sorted := aliases.mergeSort fun a b => !(b.1 < a.1)
    Sh.output (sorted.flatMap fun (name, text) => line name text) 0
  | args => forEach (one line) args 0
where
  /-- Takes one argument. -/
  one (line : List Char → List Char → List Char) (a : List Char) : Sh Nat := do
    let name := a.takeWhile (· ≠ '=')
    if name.length < a.length then
      modify fun s => { s with aliases := State.assign name (a.drop (name.length + 1)) s.aliases }
      return 0
    else
      match (← get).aliases.lookup a with
      | some text => Sh.output (line a text) 0
      | none =>
        Sh.complain (pathText a ++ ": not found")
        return 1

/-- Makes names stand for themselves again. -/
def unalias : Builtin := fun _ args => do
  match args with
  | ['-', 'a'] :: _ =>
    modify fun s => { s with aliases := [] }
    return 0
  | args => forEach (fun name => do
    if ((← get).aliases.lookup name).isSome then
      modify fun s => { s with aliases := s.aliases.filter (·.1 ≠ name) }
      return 0
    else
      Sh.complain (pathText name ++ ": not found")
      return 1) args 0

/-- Looks programs up. -/
def hash : Builtin := fun _ args => do
  let s ← get
  let names := args.filter fun a => a.head? ≠ some '-'
  if args.isEmpty then Sh.output "hash: hash table empty\n".toList 0
  else
    forEach (fun name => do
      let searchPath := (s.valueOf? "PATH".toList).getD []
      match ← Sh.work (findProgram s.cwd searchPath name) with
      | (_, .missing) | (_, .denied) =>
        Sh.complain (pathText name ++ ": not found")
        return 1
      | _ => return 0) names 0

end ProgramRepair.Shell.Builtin.Extended
