import ProgramRepair.Shell.Builtin.Basic
import ProgramRepair.Shell.Program

/-!
# The course of commands, processes and signals

The commands of the shell that leave loops, functions and the shell, that carry
out other text as commands, that put a program in the place of the shell, and
that have to do with processes and signals.
-/

namespace ProgramRepair.Shell.Builtin

open Machine

/-! ## Leaving -/

/-- The number of loops that an argument asks for. -/
def loopCount (args : List (List Char)) : Sh Nat := do
  let n ← Sh.countArgument 1 args
  if n = 0 then Sh.failShell ("Illegal number: " ++ pathText (args.head?.getD [])) 2
  else return min n (← get).loops

/-- Leaves loops. -/
def leaveLoop : Builtin := fun _ args => do
  let n ← loopCount args
  if n = 0 then return 0
  else
    Sh.setStatus 0
    Sh.leave (.broken n)

/-- Goes on with the next round of a loop. -/
def nextRound : Builtin := fun _ args => do
  let n ← loopCount args
  if n = 0 then return 0
  else
    Sh.setStatus 0
    Sh.leave (.continued n)

/-- Leaves a function or a script. -/
def leaveFunction : Builtin := fun _ args => do
  let status ← Sh.countArgument (← get).status args
  Sh.setStatus status
  Sh.leave .returned

/-- Ends the shell. -/
def leaveShell : Builtin := fun _ args => do
  let status ← Sh.countArgument (← get).status args
  Sh.setStatus status
  Sh.leave .exited

/-! ## Other text and programs -/

/-- Carries out text. The status of no commands at all is 0. -/
def carryOut (run : Runner) (text : List Char) : Sh Nat := do
  if text.all fun c => c = ' ' || c = '\t' || c = '\n' then return 0
  else
    Sh.runText run text
    return (← get).status

/-- Carries out its arguments as a script. -/
def eval : Builtin := fun run args =>
  carryOut run (List.flatten (args.intersperse [' ']))

/-- Carries out a script in the shell itself. -/
def source : Builtin := fun run args => do
  match args with
  | [] => return 0
  | name :: _ =>
    let s ← get
    let path ←
      if name.contains '/' then pure name
      else
        let dirs := searchEntries ((s.valueOf? "PATH".toList).getD [])
        let found ← Sh.call <| Kernel.askDisk fun d => dirs.findSome? fun dir =>
          let path := if dir = [] then name else dir ++ '/' :: name
          match d.find s.cwd (pathText path) with
          | .ok (_, .file _ _) => some path
          | _ => none
        match found with
        | some path => pure path
        | none => Sh.failShell (pathText name ++ ": not found") 2
    match ← Sh.call (Kernel.askDisk fun d => d.read s.cwd (pathText path)) with
    | .error e =>
      let reason := if e = .notFound ∨ e = .notDirectory then "No such file" else e.systemText
      Sh.failShell ("cannot open " ++ pathText path ++ ": " ++ reason) 2
    | .ok bytes =>
      modify fun s => { s with commandName := some path }
      match ← Sh.attempt (carryOut run (Text.charsOfBytes bytes)) with
      | .error .returned => return (← get).status
      | r => Sh.resume r

/-- Puts a program in the place of the shell. -/
def exec : Builtin := fun run args => do
  match args with
  | [] => return 0
  | name :: args =>
    let s ← get
    let searchPath := (s.valueOf? "PATH".toList).getD []
    match ← Sh.work (findProgram s.cwd searchPath name) with
    | (_, .missing) => Sh.failShell (pathText name ++ ": not found") missingCode
    | (_, .denied) => Sh.failShell (pathText name ++ ": Permission denied") deniedCode
    | (path, found) =>
      let name := match found with
        | .script _ _ => path
        | _ => name
      Sh.becomeProgram (launch run launchDepth found name ⟨s.cwd, s.environment⟩ args)

/-! ## Signals -/

/-- The lines that list the actions for signals. -/
def trapListing (s : State) : List Char :=
  let sorted := s.traps.mergeSort fun a b => a.1 ≤ b.1
  sorted.flatMap fun (n, action) =>
    "trap -- ".toList ++ Sh.quotedText action ++ (" " ++ signalName n ++ "\n").toList

/-- Arranges an action for a signal. -/
def arrange (n : Nat) (action : Option (List Char)) : Sh Unit := do
  modify fun s =>
    let others := s.traps.filter (·.1 ≠ n)
    { s with traps := match action with
      | some a => (n, a) :: others
      | none => others }
  if n ≠ 0 then
    Sh.call <| Kernel.handle n <| action.map fun a =>
      if a.isEmpty then Handling.ignored else .caught

/-- Arranges an action for signals that are named, up to the first that does not exist. -/
def arrangeAll (action : Option (List Char)) : List (List Char) → Sh Nat
  | [] => return 0
  | name :: rest => do
    match signalNumber? name with
    | none =>
      discard <| Sh.print 2 ("trap: ".toList ++ name ++ ": bad trap\n".toList)
      return 1
    | some n =>
      arrange n action
      arrangeAll action rest

/-- Arranges what happens on signals, or lists it. -/
def trap : Builtin := fun _ args => do
  let args := match args with
    | ['-', '-'] :: rest => rest
    | args => args
  match args with
  | [] => Sh.output (trapListing (← get)) 0
  | [name] => arrangeAll none [name]
  | action :: names =>
    if action.all Char.isDigit && !action.isEmpty then arrangeAll none (action :: names)
    else arrangeAll (if action = ['-'] then none else some action) names

/-! ## Processes -/

/-- Waits for processes to end, or for a signal. -/
def waitEach (report : Bool) : (count : Nat) → List Pid → Nat → Sh Nat
  | 0, _, status => return status
  | count + 1, pids, status => do
    match ← Sh.call (Kernel.awaitOrSignal pids) with
    | some (pid, e) =>
      if report then Sh.report e
      modify fun s => { s with children := s.children.filter (· ≠ pid) }
      waitEach report count (pids.filter (· ≠ pid)) (if report then statusOf e else status)
    | none =>
      match ← Sh.call fun pid k => some ((k.holder pid).pending, k) with
      | n :: _ => return 128 + n
      | [] => return if report then missingCode else status

/-- Waits for single processes one after the other. -/
def waitFor : List (List Char) → Nat → Sh Nat
  | [], status => return status
  | a :: rest, _ => do
    match a with
    | '%' :: _ => Sh.blame ("No such job: " ++ pathText a)
    | a =>
      match Sh.countOf? a with
      | none => Sh.blame ("Illegal number: " ++ pathText a)
      | some pid => waitFor rest (← waitEach true 1 [pid] missingCode)

/-- Waits for processes in the background. -/
def wait : Builtin := fun _ args => do
  match args with
  | [] =>
    let pids := (← get).children
    let status ← waitEach false pids.length pids 0
    modify fun s => { s with children := [] }
    return status
  | args => waitFor args 0

/-- How `kill` is to be used. -/
def killUsage : String :=
  "Usage: kill [-s sigspec | -signum | -sigspec] [pid | job]... or\nkill -l [exitstatus]"

/-- The names of signals, or of the one that an exit status stands for. -/
def signalListing : List (List Char) → Sh Nat
  | [] =>
    let names := "0" :: (signalNames.drop 1 ++ ["32", "33"]) ++
      (["RTMIN"] ++ (List.range 15).map (fun i => "RTMIN+" ++ toString (i + 1)) ++
        (List.range 14).map (fun i => "RTMAX-" ++ toString (14 - i)) ++ ["RTMAX"])
    Sh.output (names.flatMap fun n => n.toList ++ ['\n']) 0
  | a :: rest =>
    match Sh.countOf? a with
    | none => Sh.blame ("Illegal number: " ++ pathText a)
    | some n =>
      let n := if 128 < n then n - 128 else n
      if 0 < n ∧ n < signalLimit then do
        let status ← Sh.output ((signalName n).toList ++ ['\n']) 0
        if rest.isEmpty then return status else signalListing rest
      else Sh.blame ("invalid signal number or exit status: " ++ pathText a)

/-- Sends a signal to one process after the other. -/
def sendAll (n : Nat) : List (List Char) → Nat → Sh Nat
  | [], status => return status
  | target :: rest, status => do
    let (group, ds) := match target with
      | '-' :: ds => (true, ds)
      | ds => (false, ds)
    match target, Sh.countOf? ds with
    | '%' :: _, _ => Sh.blame ("No such job: " ++ pathText target)
    | _, none => Sh.blame ("Illegal number: " ++ pathText target)
    | _, some pid =>
      let receiver := if group ∨ pid = 0 then none else some pid
      match ← Sh.call (Kernel.signal receiver n) with
      | .ok () => sendAll n rest status
      | .error e =>
        Sh.complain (e.systemText ++ "\n")
        sendAll n rest 1

/-- Sends a signal. -/
def kill : Builtin := fun _ args => do
  match args with
  | ['-', 'l'] :: rest => signalListing rest
  | ['-', 's'] :: rest =>
    match rest with
    | [] => Sh.blame "No arg for -s option"
    | name :: targets =>
      match signalNumber? name with
      | none => Sh.blame ("invalid signal number or name: " ++ pathText name)
      | some n => send n targets
  | ['-', '-'] :: targets => send 15 targets
  | ('-' :: name) :: targets =>
    match signalNumber? name with
    | some n => send n targets
    | none =>
      if name.all Char.isDigit then Sh.blame ("invalid signal number or name: " ++ pathText name)
      else Sh.blame ("Illegal option -" ++ pathText (name.take 1))
  | targets => send 15 targets
where
  /-- Sends a signal to processes, of which there has to be one. -/
  send (n : Nat) (targets : List (List Char)) : Sh Nat :=
    match targets with
    | ['-', '-'] :: targets => sendAll n targets 0
    | [] => Sh.blame killUsage
    | targets => sendAll n targets 0

end ProgramRepair.Shell.Builtin
