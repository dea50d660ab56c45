import ProgramRepair.Shell.Process
import ProgramRepair.Utility.Arguments
import ProgramRepair.Utility.Catalogue
import ProgramRepair.Utility.Find
import ProgramRepair.Utility.PatternAction

/-!
# Programs

How a program is found by its name, and what the programs do that run other
programs: the shell itself, `env`, `timeout`, `nohup`, `xargs` and `find`. A file that may
be executed is a script for the program that its first line names, or else for
the shell.
-/

namespace ProgramRepair.Shell

open Machine

/-! ## Finding -/

/-- The directory of the programs of the system. -/
def binaries : Place := ["usr", "bin"]

/-- The programs of the system that run other programs. -/
def runners : List String :=
  ["sh", "dash", "bash", "env", "timeout", "nohup", "setsid", "nice", "xargs", "find", "kill",
   "which", "awk", "mawk"]

/-- The names of all programs of the system. -/
def systemPrograms : List String := Utility.catalogue.map (·.1) ++ runners

/-- The words after the sign `#!` in the first line of a script. -/
def interpreter? (contents : Bytes) : Option (List Char × List (List Char)) :=
  match Text.charsOfBytes (contents.take 256) with
  | '#' :: '!' :: line =>
    let blank := fun c : Char => c = ' ' || c = '\t'
    let line := (line.takeWhile (· ≠ '\n')).dropWhile blank
    let path := line.takeWhile fun c => !blank c
    let argument := ((line.drop path.length).dropWhile blank).reverse.dropWhile blank |>.reverse
    if path.isEmpty then none else some (path, if argument.isEmpty then [] else [argument])
  | _ => none

/-- What a path of a program leads to. -/
inductive Found where
  /-- A program of the system. -/
  | system (name : String)
  | script (path : List Char) (contents : Bytes)
  /-- Something that cannot be executed. -/
  | denied
  | missing

/-- What a path leads to. -/
def Found.atPath (d : Disk) (cwd : Place) (path : List Char) : Found :=
  match d.find cwd (pathText path) with
  | .ok (p, .file contents a) =>
    if !a.allows .execute then denied
    else if p.dropLast = binaries then system (p.getLast?.getD "")
    else
      match interpreter? contents with
      | some (interpreter, _) =>
        if (d.find cwd (pathText interpreter)).toOption.isSome then script path contents else missing
      | none => script path contents
  | .ok _ => denied
  | .error .notFound => missing
  | .error .notDirectory => missing
  | .error _ => denied

/-- The texts between colons. -/
def searchEntries (path : List Char) : List (List Char) := Text.cut ':' path

/-- The first regular file with a name in the directories of a search path, or else what stands in
the way. -/
def Found.inDirectories (d : Disk) (cwd : Place) (name : List Char) :
    List (List Char) → List Char × Found
  | [] => (name, missing)
  | dir :: rest =>
    let path := if dir = [] then name else dir ++ '/' :: name
    match d.find cwd (pathText path) with
    | .ok (_, .file _ _) => (path, atPath d cwd path)
    | .ok _ =>
      match inDirectories d cwd name rest with
      | (path, missing) => (path, denied)
      | r => r
    | .error _ => inDirectories d cwd name rest

/-- What a name of a program stands for. -/
def Found.ofName (d : Disk) (cwd : Place) (searchPath name : List Char) : List Char × Found :=
  if name.contains '/' then (name, atPath d cwd name)
  else inDirectories d cwd name (searchEntries searchPath)

/-- Where programs are searched if nothing is said about it. -/
def defaultSearchPath : List Char :=
  "/usr/local/sbin:/usr/local/bin:/usr/sbin:/usr/bin:/sbin:/bin".toList

/-- Where a process searches for programs. -/
def searchPathOf (bindings : List (List Char × List Char)) : List Char :=
  (bindings.lookup "PATH".toList).getD defaultSearchPath

/-- What a name stands for now. -/
def findProgram (cwd : Place) (searchPath name : List Char) : Work (List Char × Found) :=
  .call (Kernel.askDisk fun d => Found.ofName d cwd searchPath name)

/-- The exit code for a program that is not there. -/
def missingCode : Nat := 127

/-- The exit code for a program that cannot be executed. -/
def deniedCode : Nat := 126

/-! ## Programs that run programs -/

/-- How the work of a program that was found begins: with its name, its surroundings and its
arguments. -/
abbrev Launcher := Found → (name : List Char) → Surroundings → List (List Char) → Work Nat

/-- Runs the program that a name stands for, or complains. -/
def launchByName (launch : Launcher) (program what : String) (env : Surroundings)
    (name : List Char) (args : List (List Char)) : Work Nat := do
  let shown := match program with
    | "nohup" => Utility.inQuotes name
    | "setsid" => pathText name
    | _ => Utility.quoted name
  let found ← if name.isEmpty then pure (name, Found.missing) else
    findProgram env.cwd (searchPathOf env.bindings) name
  match found with
  | (_, .missing) =>
    Utility.warn program (what ++ shown ++ ": No such file or directory")
    if program = "env" ∧ name.any Text.isSpaceChar then
      Utility.warn program "use -[v]S to pass options in shebang lines"
    return missingCode
  | (_, .denied) =>
    Utility.warn program (what ++ shown ++ ": Permission denied")
    return deniedCode
  | (_, found) => launch found name env args

/-- Starts a process for the program that a name stands for. -/
def spawnByName (launch : Launcher) (program what : String) (env : Surroundings) (name : List Char)
    (args : List (List Char)) : Work Pid :=
  .spawn (launchByName launch program what env name args)

/-- Takes variables in front of a command. -/
def takeAssignments (bindings : List (List Char × List Char)) :
    List (List Char) → List (List Char × List Char) × List (List Char)
  | [] => (bindings, [])
  | a :: rest =>
    if a.contains '=' then
      let name := a.takeWhile (· ≠ '=')
      takeAssignments (State.assign name (a.drop (name.length + 1)) bindings) rest
    else (bindings, a :: rest)

/-- Runs a program with other variables. -/
def envProgram (launch : Launcher) : Utility := fun env args =>
  let g : Utility.Grammar := ⟨"i0v", "uC", "", [("ignore-environment", 'i'), ("null", '0'),
    ("unset=", 'u'), ("chdir=", 'C'), ("debug", 'v')]⟩
  let o := g.readLeading args
  match o.problem with
  | some problem => Utility.refuse "env" problem 125
  | none =>
    let (bare, rest) := match o.rest with
      | ['-'] :: rest => (true, rest)
      | rest => (o.has 'i', rest)
    let bindings := if bare then [] else env.bindings
    let bindings := bindings.filter fun (name, _) => !(o.valuesOf 'u').contains name
    command { env with bindings } rest
where
  /-- Runs what follows the options. -/
  command (env : Surroundings) (args : List (List Char)) : Work Nat :=
    match takeAssignments env.bindings args with
    | (bindings, []) =>
      Utility.emit "env" (Utility.unlines (bindings.map fun (n, v) => n ++ '=' :: v)) 0
    | (bindings, name :: rest) => launchByName launch "env" "" { env with bindings } name rest

/-- The exit code of a process that has ended. -/
def codeOfEnding (e : Option (Pid × Ending)) : Nat :=
  match e with
  | some (_, e) => statusOf e
  | none => missingCode

/-- The number of the signal that ends every process. -/
def killSignal : Nat := System.killSignal

/-- Runs a program that is ended by a signal after some time. -/
def timeoutProgram (launch : Launcher) : Utility := fun env args => do
  let g : Utility.Grammar := ⟨"fv", "ks", "", [("foreground", 'f'), ("kill-after=", 'k'),
    ("signal=", 's'), ("verbose", 'v'), ("preserve-status", 'p')]⟩
  let o := g.readLeading args
  let signal? := match o.value? 's' with
    | some name => signalNumber? name
    | none => some 15
  match o.rest, signal? with
  | span :: name :: rest, some signal =>
    if let some problem := o.problem then return ← Utility.refuse "timeout" problem 125
    match Utility.span? span with
    | none => Utility.refuse "timeout" ("invalid time interval " ++ Utility.quoted span) 125
    | some nanoseconds =>
      let child ← spawnByName launch "timeout" "failed to run command " env name rest
      if nanoseconds = 0 then return codeOfEnding (← .call (Kernel.awaitAny [child]))
      else
        match ← awaitWithin child nanoseconds with
        | some ending => return codeOfEnding ending
        | none =>
          discard <| Work.call (Kernel.signal (some child) signal)
          match (o.value? 'k').bind Utility.span? with
          | none => discard <| Work.call (Kernel.awaitAny [child])
          | some more =>
            match ← awaitWithin child more with
            | some _ => pure ()
            | none => killAll child
          if signal = killSignal then killAll child
          return 124
  | _, none =>
    let name := (o.value? 's').getD []
    Utility.refuse "timeout" (Utility.quoted name ++ ": invalid signal") 125
  | _, _ =>
    match o.problem with
    | some problem => Utility.refuse "timeout" problem 125
    | none => Utility.hint "timeout" 125
where
  /-- Waits for a process to end within some time. -/
  awaitWithin (child : Pid) (nanoseconds : Nat) : Work (Option (Option (Pid × Ending))) := do
    let watcher ← .spawn do
      for fd in [0, 1, 2] do Work.call (Kernel.close fd)
      Work.sleep nanoseconds
      return 0
    match ← Work.call (Kernel.awaitAny [child, watcher]) with
    | some (pid, e) =>
      if pid = child then
        discard <| Work.call (Kernel.signal (some watcher) killSignal)
        return some (some (pid, e))
      else return none
    | none => return some none
  /-- Kills a process and the one that asks for it. -/
  killAll (child : Pid) : Work Unit := do
    discard <| Work.call (Kernel.signal (some child) killSignal)
    discard <| Work.call (Kernel.awaitAny [child])
    discard <| Work.call (Kernel.signal (some (← Work.call Kernel.self)) killSignal)

/-- Reads words until there are no more commands, and runs each command when it is complete; `code`
is the exit code so far. -/
def runArguments (launch : Launcher) (env : Surroundings) (traced asks : Bool) (fd : Nat) :
    (times : Nat) → Utility.Assembly → (code : Nat) → Work Nat
  | 0, _, code => return code
  | times + 1, a, code => do
    let bytes ← if a.stopped then pure [] else do
      pure ((← Work.call (Kernel.read fd Work.blockSize)).toOption.getD [])
    let atEnd := bytes.isEmpty
    let a := (Text.charsOfBytes bytes).foldl Utility.Assembly.feed a
    let a := if atEnd then a.finish else a
    match ← runCalls a.ready.reverse code with
    | .error code => return code
    | .ok code =>
      match a.problem with
      | some problem =>
        Utility.warn "xargs" problem
        return 1
      | none =>
        if atEnd then return code
        else runArguments launch env traced asks fd times { a with ready := [] } code
where
  /-- Runs one command after the other. An exit code of its own ends everything. -/
  runCalls : List (List (List Char)) → Nat → Work (Except Nat Nat)
    | [], code => return .ok code
    | [] :: rest, code => runCalls rest code
    | (name :: args) :: rest, code => do
      let line := Utility.ArgumentPlan.shownCommand (name :: args)
      if asks then
        discard <| Work.write 2 (Text.bytesOfChars line)
        Utility.warn "xargs" "failed to open /dev/tty for reading: No such device or address"
        return .error 1
      if traced then discard <| Work.write 2 (Text.bytesOfChars (line ++ ['\n']))
      match ← findProgram env.cwd (searchPathOf env.bindings) name with
      | (_, .missing) =>
        Utility.warn "xargs" (pathText name ++ ": No such file or directory")
        return .error missingCode
      | (_, .denied) =>
        Utility.warn "xargs" (pathText name ++ ": Permission denied")
        return .error deniedCode
      | (_, found) =>
        let child ← .spawn do
          -- the input is for words only
          match ← Work.openFile [] "/dev/null" .reading with
          | .ok null =>
            discard <| Work.call (Kernel.duplicate null 0)
            if null ≠ 0 then Work.call (Kernel.close null)
          | .error _ => pure ()
          launch found name env args
        match ← .call (Kernel.awaitAny [child]) with
        | some (_, .exited 0) => runCalls rest code
        | some (_, .exited 255) =>
          Utility.warn "xargs" (pathText name ++ ": exited with status 255; aborting")
          return .error 124
        | some (_, .signalled n) =>
          Utility.warn "xargs" (pathText name ++ ": terminated by signal " ++ toString n)
          return .error 125
        | _ => runCalls rest 123

/-- Runs a program with the words of the standard input or of a file as arguments. -/
def xargsProgram (launch : Launcher) : Utility := fun env args => do
  let o := Utility.ArgumentPlan.grammar.readLeading args
  match Utility.ArgumentPlan.ofOptions o with
  | .error (.usage problem) => Utility.refuse "xargs" problem 1
  | .error (.plain problem) =>
    Utility.warn "xargs" problem
    return 1
  | .ok (plan, said) =>
    for message in said do Utility.warn "xargs" message
    let run := fun fd => runArguments launch env (o.has 't') (o.has 'p') fd Work.patience (.start plan) 0
    match o.value? 'a' with
    | none => run 0
    | some file =>
      match ← Work.openFile env.cwd (pathText file) .reading with
      | .ok fd => run fd
      | .error e =>
        Utility.warn "xargs" ("Cannot open input file " ++ Utility.quoted file ++ ": " ++ e.systemText)
        return 1

/-- Runs a command that `find` has put together. -/
def callForFind (launch : Launcher) : Utility.Find.Caller := fun env command => do
  match command with
  | [] => return missingCode
  | name :: args =>
    let child ← spawnByName launch "find" "" env name args
    return codeOfEnding (← .call (Kernel.awaitAny [child]))

/-- Prints where programs are. -/
def whichProgram : Utility := fun env args => do
  let found ← args.mapM fun name => findProgram env.cwd (searchPathOf env.bindings) name
  let paths := found.filterMap fun
    | (path, .system _) | (path, .script _ _) => some path
    | _ => none
  Utility.emit "which" (Utility.unlines paths) (if paths.length = args.length then 0 else 1)

/-- Sends a signal to processes. -/
def killProgram : Utility := fun _ args => do
  let (number, targets) := match args with
    | ['-', 's'] :: name :: rest => (signalNumber? name, rest)
    | ('-' :: name) :: rest => (signalNumber? name, rest)
    | rest => (some 15, rest)
  match number with
  | none =>
    Utility.warn "kill" "unknown signal"
    return 1
  | some n => sendAll n targets 0
where
  /-- Sends the signal to one process after the other. -/
  sendAll (n : Nat) : List (List Char) → Nat → Work Nat
    | [], code => return code
    | target :: rest, code => do
      match Utility.natural? target with
      | none =>
        Utility.warn "kill" ("failed to parse argument: " ++ Utility.quoted target)
        sendAll n rest 1
      | some pid =>
        match ← Work.call (Kernel.signal (some pid) n) with
        | .ok () => sendAll n rest code
        | .error e =>
          Utility.warn "kill" ("(" ++ pathText target ++ "): " ++ e.systemText)
          sendAll n rest 1

/-! ## The shell as a program -/

/-- The options of the shell: their names and letters in the order in which they are listed. -/
def optionNames : List (String × Option Char) :=
  [("errexit", some 'e'), ("noglob", some 'f'), ("ignoreeof", some 'I'), ("interactive", some 'i'),
   ("monitor", some 'm'), ("noexec", some 'n'), ("stdin", some 's'), ("xtrace", some 'x'),
   ("verbose", some 'v'), ("vi", some 'V'), ("emacs", some 'E'), ("noclobber", some 'C'),
   ("allexport", some 'a'), ("notify", some 'b'), ("nounset", some 'u'), ("privileged", some 'p'),
   ("nolog", none), ("debug", none)]

/-- The letters of the options. -/
def optionLetters : List Char := optionNames.filterMap (·.2)

/-- Switches an option on or off. -/
def State.withOption (s : State) (letter : Char) (on : Bool) : State :=
  { s with options := if on then letter :: s.options.filter (· ≠ letter)
      else s.options.filter (· ≠ letter) }

namespace Sh

/-- Switches options. -/
def switchOptions (on : Bool) : List Char → Sh Unit
  | [] => return ()
  | c :: cs => do
    let s ← get
    if optionLetters.contains c ∨ (s.isExtended ∧ "hBHkPTlr".toList.contains c) then
      modify fun s => s.withOption c on
    else if s.isExtended then
      discard <| print 2 (s.name ++ ": ".toList ++ [if on then '-' else '+', c] ++
        ": invalid option\n".toList)
      setStatus 2
      leave .exited
    else failShell ("Illegal option " ++ (if on then "-" else "+") ++ String.ofList [c]) 2
    switchOptions on cs

/-- Switches an option by its name. -/
def switchNamed (on : Bool) (name : List Char) : Sh Unit := do
  match optionNames.lookup (String.ofList name) with
  | some (some letter) => modify fun s => s.withOption letter on
  | some none => return ()
  | none =>
    if (← get).isExtended then
      if name = "pipefail".toList then
        modify fun s => { s with settings := if on then ["pipefail"] else [] }
      else
        let s ← get
        discard <| print 2 (s.name ++ ": line 0: ".toList ++ s.name ++ ": ".toList ++ name ++
          ": invalid option name\n".toList)
        setStatus 2
        leave .exited
    else failShell ("Illegal option " ++ (if on then "-" else "+") ++ "o " ++ pathText name) 2

/-- Reads the options with which a shell is called. The value is whether commands are given as an
argument, and what follows the options. -/
def startOptions (commands : Bool) : List (List Char) → Sh (Bool × List (List Char))
  | ['-'] :: rest => return (commands, rest)
  | ['-', '-'] :: rest => return (commands, rest)
  | (sign :: cs) :: rest => do
    if (← get).isExtended ∧ sign = '-' ∧ cs.head? = some '-' then startOptions commands rest
    else if sign = '-' ∨ sign = '+' then
      let named := cs.contains 'o'
      let letters := cs.filter fun c => c ≠ 'c' && c ≠ 'o' && c ≠ 'l'
      switchOptions (sign = '-') letters
      let commands := commands || (sign = '-' && cs.contains 'c')
      match named, rest with
      | true, name :: rest =>
        switchNamed (sign = '-') name
        startOptions commands rest
      | _, rest => startOptions commands rest
    else return (commands, (sign :: cs) :: rest)
  | rest => return (commands, rest)

/-- Carries out what a shell is called for. -/
def startShell (run : Runner) (args : List (List Char)) : Sh Unit := do
  modify fun s => { s with line := 0 }
  let (commands, rest) ← startOptions false args
  if commands then
    match rest with
    | [] =>
      if (← get).isExtended then
        discard <| print 2 ((← get).name ++ ": -c: option requires an argument\n".toList)
        setStatus 2
        leave .exited
      else failShell "-c requires an argument" 2
    | text :: rest =>
      modify fun s =>
        let s := { s with textName := some "-c".toList, settings := "commands" :: s.settings }
        match rest with
        | name :: arguments => { s with line := 1, name, arguments }
        | [] => { s with line := 1 }
      runText run text
  else
    match rest with
    | path :: arguments =>
      if (← get).isOn 's' then
        modify fun s => { s with line := 1, arguments := rest }
        readScript
      else
        let cwd := (← get).cwd
        match ← call (Kernel.askDisk fun d => d.read cwd (pathText path)) with
        | .ok bytes =>
          modify fun s => { s with line := 1, name := path, arguments }
          runText run (Text.charsOfBytes bytes)
        | .error .isDirectory =>
          if (← get).isExtended then
            modify fun s => { s with name := path }
            giveUp (pathText path ++ ": Is a directory") deniedCode
          else return ()
        | .error e =>
          if (← get).isExtended then
            let status := if e = .notFound then missingCode else deniedCode
            giveUp (pathText path ++ ": " ++ e.systemText) status
          else failShell ("cannot open " ++ pathText path ++ ": No such file") 2
    | [] =>
      modify fun s => { s with line := 1 }
      readScript
where
  /-- Ends the shell because of its script. -/
  giveUp (message : String) (status : Nat) : Sh Unit := do
    discard <| print 2 ((← get).name ++ byteChars (": " ++ message ++ "\n"))
    setStatus status
  /-- Carries out what comes from the standard input. -/
  readScript : Sh Unit := do
    match ← work (Work.readAll 0) with
    | .ok bytes => runText run (Text.charsOfBytes bytes)
    | .error _ => return ()

end Sh

/-- The variables that a shell, started by the process `parent`, sets for itself. -/
def ownVariables (parent : Pid) (s : State) : State :=
  let s := s.setVariable "PPID".toList (numeral parent)
  let s := if (s.valueOf? "PATH".toList).isSome then s
    else s.setVariable "PATH".toList defaultSearchPath
  let s := { s with bindings := s.bindings.filter fun (name, _) => name ≠ "IFS".toList }
  let pwd : Variable := ⟨some (.text (byteChars (Disk.pathOf s.cwd))), true, false, .plain⟩
  let s := { s with bindings := State.assign "PWD".toList pwd s.bindings }
  (s.setVariable "IFS".toList [' ', '\t', '\n']).setVariable "OPTIND".toList ['1']

/-- What stands in front of commands that are read and of those that are printed. Nobody is asked for
commands, but the variables are there. -/
def promptVariables (s : State) : State :=
  let missing := [("PS1", "$ "), ("PS2", "> "), ("PS4", "+ ")].filter fun (name, _) =>
    (s.valueOf? name.toList).isNone
  missing.foldl (fun s (name, value) => s.setVariable name.toList value.toList) s

/-- More variables that a shell of the extended language sets for itself. -/
def extendedVariables (s : State) : State :=
  let level := ((s.valueOf? "SHLVL".toList).bind Utility.natural?).getD 0
  let version := "5.2.15(1)-release".toList
  let parts := ["5", "2", "15", "1", "release", "x86_64-pc-linux-gnu"].map String.toList
  let texts : List (String × List Char) :=
    [("BASH", "/usr/bin/bash".toList), ("BASH_VERSION", version), ("OSTYPE", "linux-gnu".toList),
     ("HOSTTYPE", "x86_64".toList), ("MACHTYPE", "x86_64-pc-linux-gnu".toList),
     ("PS4", ['+', ' '])]
  let s := texts.foldl (fun s (name, value) => s.setVariable name.toList value) s
  let s := s.setValue "BASH_VERSINFO".toList (.ofList parts)
  let shown : Variable := ⟨some (.text (numeral (level + 1))), true, false, .plain⟩
  { s with bindings := State.assign "SHLVL".toList shown s.bindings }

/-- A shell as a program. -/
def shellProgram (run : Runner) (d : Dialect) (name : List Char) : Utility := fun env args => do
  let pid ← Work.call Kernel.self
  let parent ← Work.call Kernel.parent
  let s := ownVariables parent (State.start d name [] env.cwd pid env.bindings)
  let s := match d with
    | .common => promptVariables s
    | .extended => extendedVariables s
  Sh.toWork run s (Sh.startShell run args)

/-- Carries out a command line for a program. -/
def commandLine (run : Runner) (env : Surroundings) (command : List Char) : Work Nat :=
  shellProgram run .common "/bin/sh".toList env ["-c".toList, command]

/-! ## Launching -/

/-- The work of a program that was found. Programs that run programs are nested at most `depth`
times. -/
def launch (run : Runner) : (depth : Nat) → Launcher
  | 0, _, _, _, _ => return deniedCode
  | depth + 1, found, name, env, args => do
    match found with
    | .missing => return missingCode
    | .denied => return deniedCode
    | .script path contents =>
      match interpreter? contents with
      | none => shellProgram run .common name env (path :: args)
      | some (interpreter, arguments) =>
        match ← findProgram env.cwd [] interpreter with
        | (_, .missing) => return missingCode
        | (_, .denied) => return deniedCode
        | (_, found) => launch run depth found interpreter env (arguments ++ path :: args)
    | .system program =>
      Work.call (Kernel.setTitle name)
      match Utility.program? program with
      | some utility => utility env args
      | none =>
        match program with
        | "env" => envProgram (launch run depth) env args
        | "timeout" => timeoutProgram (launch run depth) env args
        | "xargs" => xargsProgram (launch run depth) env args
        | "nohup" =>
          if args.isEmpty then Utility.refuse "nohup" "missing operand" 125
          else
            Work.call (Kernel.handle 1 (some .ignored))
            follow depth "nohup" "failed to run command " env args
        | "setsid" => follow depth "setsid" "failed to execute " env args
        | "nice" =>
          match args with
          | ['-', 'n'] :: _ :: args => follow depth "nice" "" env args
          | args => follow depth "nice" "" env args
        | "kill" => killProgram env args
        | "awk" | "mawk" => Utility.awk (commandLine run) env args
        | "which" => whichProgram env args
        | "find" => Utility.find (callForFind (launch run depth)) env args
        | "bash" => shellProgram run .extended name env args
        | _ => shellProgram run .common name env args
where
  /-- Runs the program that the arguments begin with. -/
  follow (depth : Nat) (program what : String) (env : Surroundings) : List (List Char) → Work Nat
    | [] => return 0
    | name :: args => launchByName (launch run depth) program what env name args

/-- Programs that run programs are nested less deeply than this. -/
def launchDepth : Nat := 1000

end ProgramRepair.Shell
