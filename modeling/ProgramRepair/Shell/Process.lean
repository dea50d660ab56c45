import ProgramRepair.Shell.Expand

/-!
# Scripts, processes and signals

A shell carries out scripts line by line, starts copies of itself and programs,
and waits for them. Signals that it catches are looked at between two commands.
Whatever carries out single commands is a parameter here, the `Runner`.
-/

namespace ProgramRepair.Shell

open Machine

/-- How commands are carried out. With `final` the shell has nothing more to do after the command,
so that a program can take its place. -/
abbrev Runner := (final : Bool) → Command → Sh Unit

/-! ## Signals by name -/

/-- The names of signals from number 0 on, which stands for the end of the shell. -/
def signalNames : List String :=
  ["EXIT", "HUP", "INT", "QUIT", "ILL", "TRAP", "ABRT", "BUS", "FPE", "KILL", "USR1", "SEGV", "USR2",
   "PIPE", "ALRM", "TERM", "16", "CHLD", "CONT", "STOP", "TSTP", "TTIN", "TTOU", "URG", "XCPU",
   "XFSZ", "VTALRM", "PROF", "WINCH", "IO", "PWR", "SYS"]

/-- The first number that is too large for a signal. -/
def signalLimit : Nat := 65

/-- The number under which an action for failures is kept. -/
def failureTrap : Nat := signalLimit + 1

/-- The name of a signal. -/
def signalName (n : Nat) : String := (signalNames[n]?).getD (toString n)

/-- The number of a signal that is given by name or number. -/
def signalNumber? (s : List Char) : Option Nat :=
  if s ≠ [] ∧ s.all Char.isDigit then
    let n := s.foldl (fun n d => 10 * n + (d.toNat - '0'.toNat)) 0
    if n < signalLimit then some n else none
  else signalNames.findIdx? (· = String.ofList (s.map Char.toUpper))

/-- What a signal that ends a process is called in messages. -/
def signalText : Nat → String
  | 1 => "Hangup"
  | 2 => "Interrupt"
  | 3 => "Quit"
  | 4 => "Illegal instruction"
  | 5 => "Trace/breakpoint trap"
  | 6 => "Aborted"
  | 7 => "Bus error"
  | 8 => "Floating point exception"
  | 9 => "Killed"
  | 10 => "User defined signal 1"
  | 11 => "Segmentation fault"
  | 12 => "User defined signal 2"
  | 13 => "Broken pipe"
  | 14 => "Alarm clock"
  | 15 => "Terminated"
  | 16 => "Stack fault"
  | 24 => "CPU time limit exceeded"
  | 25 => "File size limit exceeded"
  | 26 => "Virtual timer expired"
  | 27 => "Profiling timer expired"
  | 29 => "I/O possible"
  | 30 => "Power failure"
  | 31 => "Bad system call"
  | n => if n < 34 then "Unknown signal " ++ toString n else "Real-time signal " ++ toString (n - 34)

/-- The status that an ending stands for. -/
def statusOf : Ending → Nat
  | .exited code => code % 256
  | .signalled n => 128 + n

namespace State

/-- Whether the shell catches no signal and has no action for its end. -/
def isUntrapped (s : State) : Bool := s.traps.all fun (_, action) => action.isEmpty

/-- The state of a copy of the shell. It has no processes of its own, and only what is ignored
stays arranged for signals. -/
def copied (s : State) : State :=
  { s with traps := s.traps.filter (fun (_, action) => action.isEmpty), children := [] }

end State

namespace Sh

/-! ## Scripts -/

/-- Ends the shell with what is said about a mistake in a script. -/
def failSyntax (e : SyntaxError) : Sh α := do
  modify fun s => { s with line := e.line }
  let s ← get
  match s.dialect with
  | .common => failShell ("Syntax error: " ++ e.problem.message) 2
  | .extended =>
    let lead := s.name ++ ": ".toList ++ (match s.textName with
      | some name => name ++ ": ".toList
      | none => []) ++ "line ".toList ++ numeral e.line ++ ": ".toList
    for line in e.lines do discard <| print 2 (lead ++ line ++ ['\n'])
    setStatus 2
    leave .misread

/-- Carries out what is left of a script, at most some number of lines. -/
def runScript (run : Runner) : Nat → Script → Sh Unit
  | 0, _ => work .forever
  | lines + 1, script => do
    match Parser.nextLine { script with aliases := (← get).aliases } with
    | .error e => failSyntax e
    | .ok (none, _) => return ()
    | .ok (some c, rest) =>
      modify fun s => { s with
        documents := rest.documents ++ s.documents
        nextDocument := rest.nextDocument }
      match ← attempt (run false c) with
      | .ok () | .error .discarded => runScript run lines { rest with documents := [] }
      | .error f => leave f

/-- Carries out a text as a script. -/
def runText (run : Runner) (text : List Char) : Sh Unit := do
  let s ← get
  let ended := text.getLast? = some '\n'
  let text := if s.isExtended && !ended then text ++ ['\n'] else text
  runScript run Work.patience (Script.ofText s.dialect text 1 s.nextDocument [])

/-- Lets an instant pass and carries out the actions for signals that have come. -/
def checkSignals (run : Runner) : Sh Unit := do
  for n in ← call Kernel.takePending do
    let s ← get
    match s.traps.lookup n with
    | some action =>
      if !action.isEmpty then
        runText run action
        modify fun t => { t with status := s.status, line := s.line }
    | none => pure ()

/-- Carries out the action for the end of the shell. The value is the exit code. -/
def finish (run : Runner) : Sh Nat := do
  let s ← get
  match s.traps.lookup 0 with
  | some action =>
    set { s with traps := s.traps.filter (·.1 ≠ 0), commandName := none, textName := none }
    match ← attempt (runText run action) with
    | .error .exited => return (← get).status % 256
    | _ => return s.status % 256
  | none => return s.status % 256

/-- The work of a process that is a shell from some state on. -/
def toWork (run : Runner) (s : State) (m : Sh Unit) : Work Nat := fun next =>
  let whole : Sh Nat := do
    discard <| attempt m
    finish run
  whole s fun
    | .ok code, _ => next code
    | .error _, s => next (s.status % 256)

/-! ## Processes -/

/-- Starts a copy of the shell. -/
def spawnCopy (run : Runner) (m : Sh Unit) : Sh Pid := do
  let s ← get
  work (.spawn (toWork run s.copied m))

/-- Complains about a signal that ended a process, except those by which processes are ended in
the course of things. -/
def report : Ending → Sh Unit
  | .exited _ => return ()
  | .signalled n => do
    if n ≠ 2 ∧ n ≠ 13 then discard <| print 2 ((signalText n).toList ++ ['\n'])

/-- Waits for a number of processes. The value is what became of them, the latest first. -/
def awaitEach (pids : List Pid) (ended : List (Pid × Nat)) : (count : Nat) → Sh (List (Pid × Nat))
  | 0 => return ended
  | count + 1 => do
    match ← call (Kernel.awaitAny pids) with
    | none => return ended
    | some (pid, e) =>
      report e
      awaitEach (pids.filter (· ≠ pid)) ((pid, statusOf e) :: ended) count

/-- Waits for the processes of a job. The value is the status of each. -/
def awaitAll (pids : List Pid) : Sh (List Nat) := do
  let ended ← awaitEach pids [] pids.length
  return pids.map fun pid => (ended.lookup pid).getD 127

/-- Waits for the processes of a job. Its status is that of the last one. -/
def awaitJob (pids : List Pid) : Sh Nat := do
  return (← awaitAll pids).getLast?.getD 127

/-- The status of a pipeline: that of its last stage or, if the options say so, of the last stage
that has failed. -/
def pipelineStatus (s : State) (statuses : List Nat) : Nat :=
  let last := statuses.getLast?.getD 127
  if s.settings.contains "pipefail" then (statuses.reverse.find? (· ≠ 0)).getD last else last

/-- Remembers the status of each stage of a pipeline. -/
def rememberStages (statuses : List Nat) : Sh Unit := do
  if (← get).isExtended then
    modify fun s => s.setValue "PIPESTATUS".toList (.ofList (statuses.map numeral))

/-- Makes the work of a program the rest of what the process does. -/
def becomeProgram (program : Work Nat) : Sh α := work do
  Work.call Kernel.prepare
  Work.exit ((← program) % 256)

/-- Runs a program and waits for its end. -/
def runProgram (final : Bool) (program : Work Nat) : Sh Unit := do
  if final && (← get).isUntrapped then becomeProgram program
  else
    let pid ← work <| .spawn do
      Work.call Kernel.prepare
      program
    setStatus (← awaitJob [pid])

/-! ## Descriptors -/

/-- Moves what a descriptor stands for to another one. -/
def moveDescriptor (fd target : Nat) : Sh Unit := do
  if fd ≠ target then
    discard <| call (Kernel.duplicate fd target)
    call (Kernel.close fd)

/-- A text without the line breaks at its end. -/
def withoutFinalBreaks (text : List Char) : List Char :=
  (text.reverse.dropWhile (· = '\n')).reverse

/-- The output of a command, which runs in a copy of the shell. -/
def captureOutput (run : Runner) (body : Command) : Sh (List Char) := do
  let (reader, writer) ← call Kernel.pipe
  let pid ← spawnCopy run do
    modify fun s => { s with tested := false, level := if s.isExtended then s.level + 1 else 0 }
    call (Kernel.close reader)
    moveDescriptor writer 1
    match body, (← get).isExtended with
    | .simple line [] [] [r@(.file 0 .input _)], true => copyInput line r
    | _, _ => run true body
  call (Kernel.close writer)
  let bytes ← work (Work.readAll reader)
  call (Kernel.close reader)
  let status ← awaitJob [pid]
  modify fun s => { s with status, outputStatus := some status }
  let text := (Text.charsOfBytes (bytes.toOption.getD [])).filter (· ≠ '\x00')
  return withoutFinalBreaks text
where
  /-- Carries out a redirection alone, which stands for the contents of the file. -/
  copyInput (line : Nat) (r : Redirection) : Sh Unit :=
    run true (.simple line [] [[.text "cat".toList false]] [r])

/-- The number of the first descriptor for a file through which a command runs; the next ones are
below it. -/
def highestChannel : Nat := 63

/-- Starts a command that is read or else written through a file. The value is the path of the
file. -/
def openChannel (run : Runner) (reads : Bool) (body : Command) : Sh (List Char) := do
  let (reader, writer) ← call Kernel.pipe
  let (kept, given, target) := if reads then (reader, writer, 1) else (writer, reader, 0)
  discard <| spawnCopy run do
    modify fun s => { s with tested := false, channels := [] }
    call (Kernel.close kept)
    moveDescriptor given target
    run true body
  call (Kernel.close given)
  let fd := ((← get).channels.head?.getD (highestChannel + 1)) - 1
  moveDescriptor kept fd
  modify fun s => { s with channels := fd :: s.channels }
  return "/dev/fd/".toList ++ numeral fd

/-- Closes the files through which commands run, except those in `before`. -/
def closeChannels (before : List Nat) : Sh Unit := do
  for fd in (← get).channels do
    if !before.contains fd then call (Kernel.close fd)
  modify fun s => { s with channels := before }

/-- How the commands in words are carried out. -/
def outputOf (run : Runner) : Capturer := ⟨captureOutput run, openChannel run⟩

/-- Arranges that the process ignores what a terminal sends. With `silent` it has nothing to
read. -/
def detach (silent : Bool) : Sh Unit := do
  let cwd := (← get).cwd
  modify fun s => { s with tested := false }
  call (Kernel.handle 2 (some .ignored))
  call (Kernel.handle 3 (some .ignored))
  if silent then
    call (Kernel.close 0)
    discard <| Course.openFile cwd "/dev/null" .reading

/-- Starts the stages of a pipeline, the first of which reads from `input` if that is given. -/
def startStages (run : Runner) (background : Bool) (input : Option Nat) :
    List Command → Sh (List Pid)
  | [] => return []
  | stage :: rest => do
    let ends ← if rest.isEmpty then pure none else some <$> call Kernel.pipe
    let pid ← spawnCopy run do
      if background then detach input.isNone
      match ends with
      | some (reader, _) => call (Kernel.close reader)
      | none => pure ()
      match input with
      | some fd => moveDescriptor fd 0
      | none => pure ()
      match ends with
      | some (_, writer) => moveDescriptor writer 1
      | none => pure ()
      run true stage
    match input with
    | some fd => call (Kernel.close fd)
    | none => pure ()
    match ends with
    | some (_, writer) => call (Kernel.close writer)
    | none => pure ()
    return pid :: (← startStages run background (ends.map (·.1)) rest)

end Sh

end ProgramRepair.Shell
