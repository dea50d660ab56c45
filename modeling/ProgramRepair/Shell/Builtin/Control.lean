import ProgramRepair.Shell.Builtin.Course
import ProgramRepair.Shell.Builtin.Variables

/-!
# The course of commands in the extended language

The commands that leave loops, functions and the shell, that carry out other
text, and that have to do with signals and processes, as the extended language
has them: mistakes are complained about and do not end the shell.
-/

namespace ProgramRepair.Shell.Builtin

open Machine

namespace Extended

/-- The number that an argument stands for, if it is a whole number. -/
def number? (s : List Char) : Option Int :=
  match s with
  | '-' :: ds => (Sh.countOf? ds).map fun n => -(n : Int)
  | '+' :: ds => (Sh.countOf? ds).map fun n => (n : Int)
  | ds => (Sh.countOf? ds).map fun n => (n : Int)

/-- The status that a number stands for. -/
def statusOfNumber (n : Int) : Nat := (n % 256).toNat

/-- Says that an argument has to be a number. -/
def blameNumber (a : List Char) : Sh Unit :=
  Sh.complain (pathText a ++ ": numeric argument required")

/-! ## Leaving -/

/-- Leaves loops in the way that `flow` says. -/
def leaveLoops (flow : Nat → Flow) : Builtin := fun _ args => do
  let loops := (← get).loops
  if loops = 0 then
    Sh.complain "only meaningful in a \x60for', \x60while', or \x60until' loop"
    return 0
  else
    match args.head?.map fun a => (a, number? a) with
    | some (a, none) =>
      blameNumber a
      Sh.setStatus 128
      Sh.leave .exited
    | some (a, some n) =>
      if n ≤ 0 then
        Sh.complain (pathText a ++ ": loop count out of range")
        Sh.setStatus 1
        Sh.leave (.broken loops)
      else leaveMany (min n.toNat loops)
    | none => leaveMany 1
where
  /-- Leaves some loops. -/
  leaveMany (n : Nat) : Sh Nat := do
    Sh.setStatus 0
    Sh.leave (flow n)

/-- Leaves a function or a script. -/
def leaveFunction : Builtin := fun _ args => do
  let s ← get
  if s.calls = 0 ∧ s.sources = 0 then
    Sh.complain "can only \x60return' from a function or sourced script"
    return 2
  else
    match args.head?.map fun a => (a, number? a) with
    | some (a, none) =>
      blameNumber a
      Sh.setStatus 2
    | some (_, some n) => Sh.setStatus (statusOfNumber n)
    | none => pure ()
    Sh.leave .returned

/-- Ends the shell. -/
def leaveShell : Builtin := fun _ args => do
  match args.head?.map fun a => (a, number? a) with
  | some (a, none) =>
    blameNumber a
    Sh.setStatus 2
    Sh.leave .exited
  | some (_, some n) =>
    if 1 < args.length then
      Sh.complain "too many arguments"
      return 1
    else
      Sh.setStatus (statusOfNumber n)
      Sh.leave .exited
  | none => Sh.leave .exited

/-- Drops arguments. -/
def shift : Builtin := fun _ args => do
  match args.head?.map fun a => (a, number? a) with
  | some (a, none) =>
    blameNumber a
    return 1
  | some (a, some n) =>
    if n < 0 then
      Sh.complain (pathText a ++ ": shift count out of range")
      return 1
    else drop n.toNat
  | none => drop 1
where
  /-- Drops that many arguments if there are so many. -/
  drop (n : Nat) : Sh Nat := do
    if (← get).arguments.length < n then return 1
    else
      modify fun s => { s with arguments := s.arguments.drop n }
      return 0

/-! ## Other text and programs -/

/-- Carries out text under a name for messages about mistakes in it. A mistake gives up the text. -/
def carryOutNamed (run : Runner) (name : List Char) (text : List Char) : Sh Nat := do
  let outer := (← get).textName
  modify fun s => { s with textName := some name }
  let r ← Sh.attempt (carryOut run text)
  modify fun s => { s with textName := outer }
  match r with
  | .ok status => return status
  | .error .misread => return (← get).status
  | .error f => Sh.leave f

/-- Carries out its arguments as a script. -/
def eval : Builtin := fun run args =>
  carryOutNamed run "eval".toList (List.flatten (args.intersperse [' ']))

/-- Carries out a script in the shell itself, with arguments of its own if there are any. -/
def source : Builtin := fun run args => do
  match args with
  | [] =>
    Sh.complain "filename argument required"
    Sh.showUsage "filename [arguments]"
  | name :: arguments =>
    let s ← get
    let dirs := if name.contains '/' then [] else searchEntries ((s.valueOf? "PATH".toList).getD [])
    let found? ← Sh.call <| Kernel.askDisk fun d => dirs.findSome? fun dir =>
      let path := if dir = [] then name else dir ++ '/' :: name
      match d.find s.cwd (pathText path) with
      | .ok (_, .file _ _) => some path
      | _ => none
    let path := found?.getD name
    match ← Sh.call (Kernel.askDisk fun d => d.read s.cwd (pathText path)) with
    | .error .isDirectory =>
      Sh.complain (pathText path ++ ": is a directory")
      return 1
    | .error e =>
      Sh.complainPlainly (pathText path ++ ": " ++ e.systemText)
      return 1
    | .ok bytes =>
      modify fun s => { s with
        sources := s.sources + 1
        name := path
        textName := none
        arguments := if arguments.isEmpty then s.arguments else arguments }
      let r ← Sh.attempt (carryOut run (Text.charsOfBytes bytes))
      modify fun t => { t with
        sources := s.sources
        name := s.name
        textName := s.textName
        line := s.line
        arguments := if arguments.isEmpty then t.arguments else s.arguments }
      match r with
      | .ok status => return status
      | .error .returned | .error .misread => return (← get).status
      | .error f => Sh.leave f

/-- Puts a program in the place of the shell. -/
def exec : Builtin := fun run args => do
  let args := match args with
    | ['-', 'a'] :: _ :: rest => rest
    | ['-', '-'] :: rest => rest
    | rest => rest
  match args with
  | [] => return 0
  | name :: args =>
    let s ← get
    let searchPath := (s.valueOf? "PATH".toList).getD []
    match ← Sh.work (findProgram s.cwd searchPath name) with
    | (_, .missing) =>
      let reason := if name.contains '/' then ": No such file or directory" else ": not found"
      give (pathText name ++ reason) missingCode
    | (_, .denied) => give (pathText name ++ ": Permission denied") deniedCode
    | (path, found) =>
      let name := match found with
        | .script _ _ => path
        | _ => name
      Sh.becomeProgram (launch run launchDepth found name ⟨s.cwd, s.environment⟩ args)
where
  /-- Ends the shell because there is no such program. -/
  give (message : String) (status : Nat) : Sh Nat := do
    Sh.complain message
    Sh.setStatus status
    Sh.leave .exited

/-! ## Signals -/

/-- The numbers of the events for which there are actions besides signals. -/
def eventNumber? (name : List Char) : Option Nat :=
  match String.ofList (name.map Char.toUpper) with
  | "DEBUG" => some signalLimit
  | "ERR" => some failureTrap
  | "RETURN" => some (failureTrap + 1)
  | text => signalNumber? (if text.startsWith "SIG" then name.drop 3 else name)

/-- The name of a signal or an event. -/
def eventName (n : Nat) : String :=
  if n = 0 then "EXIT"
  else if n = signalLimit then "DEBUG"
  else if n = failureTrap then "ERR"
  else if n = failureTrap + 1 then "RETURN"
  else "SIG" ++ signalName n

/-- The lines that list the actions for signals. -/
def trapLines (s : State) (wanted : Nat → Bool) : List Char :=
  let sorted := (s.traps.filter fun t => wanted t.1).mergeSort fun a b => a.1 ≤ b.1
  sorted.flatMap fun (n, action) =>
    "trap -- ".toList ++ quotedForm action ++ (" " ++ eventName n ++ "\n").toList

/-- Arranges an action for signals and events that are named. -/
def arrangeAll (action : Option (List Char)) : List (List Char) → Nat → Sh Nat
  | [], status => return status
  | name :: rest, status => do
    match eventNumber? name with
    | none =>
      Sh.complain (pathText name ++ ": invalid signal specification")
      arrangeAll action rest 1
    | some n =>
      if n < signalLimit then arrange n action
      else
        modify fun s =>
          let others := s.traps.filter (·.1 ≠ n)
          { s with traps := match action with
            | some a => (n, a) :: others
            | none => others }
      arrangeAll action rest status

/-- Arranges what happens on signals and events, or lists it. -/
def trap : Builtin := fun run args => do
  let s ← get
  match args with
  | [] | [['-', 'p']] => Sh.output (trapLines s fun _ => true) 0
  | ['-', 'p'] :: names =>
    let numbers := names.filterMap eventNumber?
    Sh.output (trapLines s numbers.contains) 0
  | ['-', 'l'] :: _ => kill run [['-', 'l']]
  | ['-', '-'] :: rest => plainly rest
  | rest => plainly rest
where
  /-- Arranges actions without options. -/
  plainly : List (List Char) → Sh Nat
    | [] => return 0
    | [name] => arrangeAll none [name] 0
    | action :: names =>
      if action.all Char.isDigit && !action.isEmpty then arrangeAll none (action :: names) 0
      else arrangeAll (if action = ['-'] then none else some action) names 0

/-- The names of signals in columns. -/
def signalTable : List Char :=
  let names := (List.range 32).drop 1 ++ (List.range 31).map (· + 34)
  let name := fun (n : Nat) =>
    if n = 16 then "SIGSTKFLT"
    else if n < 32 then "SIG" ++ (signalName n)
    else if n = 34 then "SIGRTMIN"
    else if n = 64 then "SIGRTMAX"
    else if n < 50 then "SIGRTMIN+" ++ toString (n - 34)
    else "SIGRTMAX-" ++ toString (64 - n)
  let number := fun (n : Nat) => (if n < 10 then " " else "") ++ toString n ++ ") "
  let cells := names.zip (List.range names.length)
  cells.flatMap fun (n, i) =>
    let last := i + 1 = names.length
    (number n ++ name n ++ (if last then "\t\n" else if i % 5 = 4 then "\n" else "\t")).toList

/-- How `kill` is to be used. -/
def killUsage : String :=
  "[-s sigspec | -n signum | -sigspec] pid | jobspec ... or kill -l [sigspec]"

/-- Sends a signal to one process after the other. -/
def sendAll (n : Nat) : List (List Char) → Nat → Sh Nat
  | [], status => return status
  | target :: rest, status => do
    match number? target with
    | none =>
      let message := if target.head? = some '%' then ": no such job"
        else ": arguments must be process or job IDs"
      Sh.complain (pathText target ++ message)
      sendAll n rest 1
    | some pid =>
      let receiver := if pid ≤ 0 then none else some pid.toNat
      match ← Sh.call (Kernel.signal receiver n) with
      | .ok () => sendAll n rest status
      | .error e =>
        Sh.complain ("(" ++ pathText target ++ ") - " ++ e.systemText)
        sendAll n rest 1

/-- Sends a signal, or says what signals there are. -/
def kill : Builtin := fun _ args => do
  match args with
  | [] => Sh.showUsage killUsage
  | [['-', 'l']] | [['-', 'L']] => Sh.output signalTable 0
  | ['-', 'l'] :: names =>
    Sh.output (names.flatMap fun a => match Sh.countOf? a with
      | some n => (signalName (if 128 < n then n - 128 else n)).toList ++ ['\n']
      | none => numeral ((eventNumber? a).getD 0) ++ ['\n']) 0
  | ['-', 's'] :: name :: targets | ['-', 'n'] :: name :: targets => send name targets
  | ['-', '-'] :: targets => sendAll 15 targets 0
  | ('-' :: name) :: targets => send name targets
  | targets => sendAll 15 targets 0
where
  /-- Sends a signal that is named. -/
  send (name : List Char) (targets : List (List Char)) : Sh Nat := do
    match eventNumber? name with
    | some n => if targets.isEmpty then Sh.showUsage killUsage else sendAll n targets 0
    | none =>
      Sh.complain (pathText name ++ ": invalid signal specification")
      return 1

/-- Waits for processes that are named. -/
def waitFor : List (List Char) → Nat → Sh Nat
  | [], status => return status
  | a :: rest, _ => do
    match Sh.countOf? a with
    | none =>
      if a.head? = some '%' then
        Sh.complain (pathText a ++ ": no such job")
        waitFor rest missingCode
      else
        Sh.complain ("\x60" ++ pathText a ++ "': not a pid or valid job spec")
        waitFor rest 1
    | some pid =>
      if (← get).children.contains pid then waitFor rest (← waitEach true 1 [pid] missingCode)
      else
        Sh.complain ("pid " ++ pathText a ++ " is not a child of this shell")
        waitFor rest missingCode

/-- Waits for processes in the background: all, single ones or the next that ends. -/
def wait : Builtin := fun run args => do
  match args with
  | [] => Builtin.wait run []
  | ['-', 'n'] :: rest =>
    let s ← get
    let pids := if rest.isEmpty then s.children else rest.filterMap Sh.countOf?
    if pids.isEmpty then return missingCode else waitEach true 1 pids missingCode
  | args => waitFor args 0

end Extended

end ProgramRepair.Shell.Builtin
