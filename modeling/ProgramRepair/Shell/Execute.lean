import ProgramRepair.Command.Capture
import ProgramRepair.Shell.Assign
import ProgramRepair.Shell.Builtin.Catalogue
import ProgramRepair.Shell.Check
import ProgramRepair.Shell.Redirect

/-!
# Carrying out commands

`Sh.perform` says for each kind of command what it means, in terms of a `Runner`
for the commands that it is put together from. `evaluate` ties the knot: a runner
that can go down to a given depth.

A command line is run by a shell of its own on a disk that has the programs of
the system, and its output is captured.
-/

namespace ProgramRepair.Shell

open Machine

namespace Sh

/-! ## Words and assignments -/

/-- An argument that is an assignment. The elements of an array are left out. -/
def expandAssignment (capture : Capturer) (a : Assignment) : Sh (List Char) := do
  let key ← match a.key with
    | some key => do pure ('[' :: (← expandText capture key) ++ [']'])
    | none => pure []
  match a.value with
  | [.list _] => return a.name ++ key
  | value =>
    let sign := if a.adds then ['+', '='] else ['=']
    return a.name ++ key ++ sign ++ (← expandValue capture value)

/-- The words of a command as arguments, and the arrays that are to be assigned after it. -/
def expandArguments (capture : Capturer) (words : List Word) :
    Sh (List (List Char) × List Assignment) := do
  match words with
  | [] => return ([], [])
  | first :: rest =>
    let s ← get
    let assigning := (plainText? first).any fun text =>
      (Builtin.assigning s.dialect).contains (String.ofList text)
    if assigning then
      let name ← expandFields capture first
      let assignments := rest.filterMap (Assignment.ofWord? s.dialect)
      let arguments ← rest.mapM fun w =>
        match Assignment.ofWord? s.dialect w with
        | some a => do return [← expandAssignment capture a]
        | none => expandFields capture w
      let arrays := assignments.filter fun a => match a.value with
        | [.list _] => true
        | _ => false
      return (name ++ arguments.flatten, arrays)
    else return (← expandAll capture words, [])

/-- Gives a variable back what it was. -/
def restoreVariable (name : List Char) (old : Option Variable) : Sh Unit :=
  modify fun s => { s with bindings := match old with
    | some v => State.assign name v s.bindings
    | none => s.bindings.filter (·.1 ≠ name) }

/-- Gives variables back what they were. -/
def restoreAll : List (List Char × Option Variable) → Sh Unit
  | [] => return ()
  | (name, old) :: rest => do
    restoreVariable name old
    restoreAll rest

/-- Carries out assignments one after the other; with `exported` the variables are handed on to
programs. The value is what was assigned. -/
def assignAll (capture : Capturer) (exported : Bool) :
    List Assignment → Sh (List (List Char × List Char))
  | [] => return []
  | a :: rest => do
    let value ← assign capture a
    if exported then Builtin.mark a.name fun v => { v with exported := true }
    return (a.name, value) :: (← assignAll capture exported rest)

/-- Where the commands that are carried out are printed. -/
def traceDescriptor (kept : Kept) : Nat := ((kept.lookup 2).bind id).getD 2

/-- Prints a simple command before it is carried out, if the options say so. -/
def trace (capture : Capturer) (kept : Kept) (pairs : List (List Char × List Char))
    (args : List (List Char)) : Sh Unit := do
  let joined := fun (words : List (List Char)) => List.flatten (words.intersperse [' '])
  let isExtended := (← get).isExtended
  if isExtended then
    let set := pairs.map fun (name, value) =>
      let isList := value.head? = some '(' && value.getLast? = some ')'
      name ++ '=' :: (if value.isEmpty || isList then value else readable value)
    let called := if args.isEmpty then [] else [joined (args.map readable)]
    traceLines capture (traceDescriptor kept) (set ++ called)
  else
    let set := pairs.map fun (name, value) => name ++ '=' :: value
    traceLines capture (traceDescriptor kept) [joined (set ++ args)]

/-! ## Simple commands -/

/-- How deeply functions may call each other. -/
def maxCalls : Nat := 1000

/-- Calls a function. -/
def callFunction (run : Runner) (name : List Char) (body : Command) (args : List (List Char)) :
    Sh Unit := do
  let s ← get
  if maxCalls ≤ s.calls then
    failShell ("Maximum function recursion depth (" ++ toString maxCalls ++ ") reached") 2
  else
    set { s with
      arguments := args
      calls := s.calls + 1
      loops := 0
      locals := [] :: s.locals
      callers := name :: s.callers }
    let r ← attempt (run false body)
    restoreAll ((← get).locals.head?.getD [])
    modify fun t => { t with
      arguments := s.arguments
      calls := s.calls
      loops := s.loops
      locals := s.locals
      callers := s.callers }
    match r with
    | .error .returned => return ()
    | r => resume r

/-- Calls a command of the shell itself. -/
def callBuiltin (run : Runner) (b : Builtin) (name : List Char) (args : List (List Char)) :
    Sh Unit := do
  let outer := (← get).commandName
  modify fun s => { s with commandName := some name }
  let r ← attempt (b run args)
  modify fun s => { s with commandName := outer }
  match r with
  | .ok status => setStatus status
  | .error .discarded => setStatus 1
  | .error e => leave e

/-- Calls a program. -/
def callProgram (run : Runner) (final : Bool) (name : List Char) (args : List (List Char)) :
    Sh Unit := do
  let s ← get
  let searchPath := (s.valueOf? "PATH".toList).getD []
  match ← work (findProgram s.cwd searchPath name) with
  | (_, .missing) =>
    let plain := if name.isEmpty then ": Permission denied" else pathText name ++ ": not found"
    let reason := if name.contains '/' then ": No such file or directory" else ": command not found"
    complainPlainly (← inDialect plain (pathText name ++ reason))
    setStatus missingCode
  | (_, .denied) =>
    let isDirectory ← call (Kernel.askDisk fun d => match d.find s.cwd (pathText name) with
      | .ok (_, .directory _) => true
      | _ => false)
    let reason := if isDirectory then ": Is a directory" else ": Permission denied"
    complainPlainly (pathText name ++ (← inDialect ": Permission denied" reason))
    setStatus (if name.isEmpty then missingCode else deniedCode)
  | (path, found) =>
    let name := match found with
      | .script _ _ => path
      | _ => name
    runProgram final (launch run launchDepth found name ⟨s.cwd, s.environment⟩ args)

/-- Calls what a name stands for. Prefixes by which functions are passed over are taken off first,
at most as many as there are arguments. -/
def dispatch (run : Runner) (final : Bool) : (plainly : Bool) → List (List Char) → Sh Unit
  | _, [] => setStatus 0
  | plainly, name :: args => do
    match meaningOf (← get) plainly name with
    | .builtin =>
      match args with
      | [] => setStatus 0
      | name :: args =>
        match meaningOf (← get) true name with
        | .special b | .ordinary b => callBuiltin run b name args
        | .program | .function _ =>
          callBuiltin run (fun _ _ => do
            complain (pathText name ++ ": not a shell builtin")
            return 1) "builtin".toList args
        | _ => dispatch run final true (name :: args)
    | .special b | .ordinary b => callBuiltin run b name args
    | .function body => callFunction run name body args
    | .program => callProgram run final name args
    | .describing =>
      let isExtended := (← get).isExtended
      callBuiltin run (fun _ args => do
        if isExtended then describeNames args else describeAll true args 0) name args
    | .plainly =>
      match args with
      | ['-', 'v'] :: names =>
        callBuiltin run (fun _ _ => describeAll false (names.take 1) 0) name args
      | ['-', 'V'] :: names =>
        callBuiltin run (fun _ _ => describeAll true (names.take 1) 0) name args
      | ['-', 'p'] :: rest => dispatch run final true rest
      | ['-', '-'] :: rest => dispatch run final true rest
      | rest =>
        match rest with
        | ('-' :: c :: _) :: _ =>
          callBuiltin run (fun _ _ => blame ("Illegal option -" ++ pathText [c])) name args
        | rest => dispatch run final true rest

/-- Carries out the action for failures after a failure that nobody looks at, and ends the shell if
the options say so. -/
def checkFailure (run : Runner) : Sh Unit := do
  let s ← get
  if s.status ≠ 0 && !s.tested then
    match s.traps.lookup failureTrap with
    | some action =>
      if s.callers.isEmpty && !action.isEmpty then
        set { s with tested := true }
        runText run action
        modify fun t => { t with status := s.status, line := s.line, tested := s.tested }
    | none => pure ()
    if s.isOn 'e' then leave .exited

/-- Whether a redirection that fails ends the shell for a command, and variables that are set in
front of the command stay set. -/
def isSpecialName (d : Dialect) (name : List Char) : Bool :=
  d = .common && (Builtin.special.lookup (String.ofList name)).isSome

/-- Carries out a simple command. -/
def simple (run : Runner) (final : Bool) (line : Nat) (assignments words : List Word)
    (rs : List Redirection) : Sh Unit := do
  modify fun s => { s with
    line
    outputStatus := none
    commandName := if s.isExtended then none else s.commandName }
  let channels := (← get).channels
  let capture := outputOf run
  let (args, arrays) ← expandArguments capture words
  let d := (← get).dialect
  let assignments := assignments.filterMap (Assignment.ofWord? d)
  let name := args.head?.getD []
  match ← redirect capture (name ≠ "exec".toList) rs with
  | none =>
    failRedirection
    if isSpecialName d name then leave .exited
  | some kept =>
    let stays := args.isEmpty || isSpecialName d name
    let s ← get
    let old := assignments.map fun a => (a.name, s.bindings.lookup a.name)
    let r ← attempt do
      let pairs ← assignAll capture (!stays) assignments
      trace capture kept pairs args
      if args.isEmpty then setStatus ((← get).outputStatus.getD 0)
      else dispatch run (final && channels = (← get).channels) false args
      for a in arrays do discard <| assign capture a
    if !stays then restoreAll old.reverse
    giveBack kept
    closeChannels channels
    resume r

/-- Carries out a condition or a calculation, whose value is its status. -/
def decide (run : Runner) (line : Nat) (rs : List Redirection) (m : Sh Nat) : Sh Unit := do
  modify fun s => { s with line }
  withRedirections (outputOf run) rs do setStatus (← m)
  checkFailure run

/-! ## Loops -/

/-- What a loop does after a round. -/
inductive AfterRound where
  | next
  | stop
  | leave (f : Flow)

/-- What follows from how a round went. -/
def afterRound : Except Flow Unit → AfterRound
  | .ok () => .next
  | .error (.broken 0) | .error (.broken 1) => .stop
  | .error (.broken (n + 2)) => .leave (.broken (n + 1))
  | .error (.continued 0) | .error (.continued 1) => .next
  | .error (.continued (n + 2)) => .leave (.continued (n + 1))
  | .error f => .leave f

/-- Carries out a computation as a loop. -/
def asLoop (m : Sh Unit) : Sh Unit := do
  let outer := (← get).loops
  modify fun s => { s with loops := outer + 1 }
  let r ← attempt m
  modify fun s => { s with loops := outer }
  resume r

/-- The rounds of a loop with a condition; `status` is the status of the round before. -/
def whileRounds (run : Runner) (untilTrue : Bool) (test body : Command) : Nat → Nat → Sh Unit
  | 0, _ => work .forever
  | rounds + 1, status => do
    checkSignals run
    match afterRound (← attempt (tested (run false test))) with
    | .stop => return ()
    | .leave f => leave f
    | .next =>
      let holds := (← get).status = 0
      if holds = untilTrue then setStatus status
      else
        match afterRound (← attempt (run false body)) with
        | .next => whileRounds run untilTrue test body rounds (← get).status
        | .stop => return ()
        | .leave f => leave f

/-- The rounds of a loop over values; `head` is how it is printed. -/
def forRounds (run : Runner) (head name : List Char) (body : Command) : List (List Char) → Sh Unit
  | [] => return ()
  | value :: rest => do
    if (← get).isExtended then traceLines (outputOf run) 2 [head]
    setVariable name value
    checkSignals run
    match afterRound (← attempt (run false body)) with
    | .next => forRounds run head name body rest
    | .stop => return ()
    | .leave f => leave f

/-- The value of an expression in double parentheses, if it has one. -/
def expressionValue (run : Runner) (e : Word) : Sh (Option Int) := do
  inCommand "((".toList (do numberOf (← expandText (outputOf run) e))

/-- The rounds of a loop that goes on while an expression is not zero. An expression that is left out
counts as one that is not. -/
def countRounds (run : Runner) (test step : Word) (body : Command) : Nat → Sh Unit
  | 0 => work .forever
  | rounds + 1 => do
    checkSignals run
    let isBlank := test.all fun
      | .text s _ => s.all fun c => c = ' ' || c = '\t' || c = '\n'
      | _ => false
    let n? ← if isBlank then pure (some 1) else expressionValue run test
    match n? with
    | none => setStatus 1
    | some 0 => return ()
    | some _ =>
      match afterRound (← attempt (run false body)) with
      | .next =>
        discard <| expressionValue run step
        countRounds run test step body rounds
      | .stop => return ()
      | .leave f => leave f

/-! ## All commands -/

/-- Whether a text fits one of some patterns. -/
def fitsAny (capture : Capturer) (text : List Char) : List Word → Sh Bool
  | [] => return false
  | w :: rest => do
    if fitsCase (← get) (← expandPattern capture w) text then return true
    else fitsAny capture text rest

/-- Carries out the arms that a text fits. With `entered` the first arm is carried out whatever its
patterns are; `any` says whether there was an arm before. -/
def throughArms (run : Runner) (final : Bool) (text : List Char) :
    (entered any : Bool) → List (List Word × Command × AfterArm) → Sh Unit
  | _, any, [] => do if !any then setStatus 0
  | entered, any, (patterns, body, after) :: rest => do
    if entered || (← fitsAny (outputOf run) text patterns) then
      match body, after with
      | .nothing, .leave => setStatus 0
      | body, .leave => run final body
      | body, .fallThrough => do
        run false body
        throughArms run final text true true rest
      | body, .resume => do
        run false body
        throughArms run final text false true rest
    else throughArms run final text false any rest

/-- Carries out the command of a subshell in the place of this process or in a copy of it. -/
def inSubshell (run : Runner) (final : Bool) (rs : List Redirection) (body : Command) : Sh Unit := do
  let whole : Sh Unit := do
    match ← redirect (outputOf run) false rs with
    | none => failRedirection
    | some _ => run true body
  if final && (← get).isUntrapped then whole
  else
    let pid ← spawnCopy run whole
    setStatus (← awaitJob [pid])

/-- Starts a command in the background. -/
def inBackground (run : Runner) (c : Command) : Sh Unit := do
  let pids ← match c with
    | .pipeline stages => startStages run true none stages
    | c => do
      let pid ← spawnCopy run do
        detach true
        run true c
      pure [pid]
  modify fun s => { s with
    children := s.children ++ pids
    lastBackground := pids.getLast? <|> s.lastBackground
    status := 0 }

/-- What a command means, where `run` carries out the commands that it is put together from. -/
def perform (run : Runner) (final : Bool) : Command → Sh Unit
  | .nothing => return ()
  | .simple line assignments words rs => do
    simple run final line assignments words rs
    rememberStages [(← get).status]
    checkSignals run
    checkFailure run
  | .pipeline stages => do
    let pids ← startStages run false none stages
    let statuses ← awaitAll pids
    setStatus (pipelineStatus (← get) statuses)
    rememberStages statuses
    checkSignals run
    checkFailure run
  | .negation c => do
    tested (run false c)
    modify fun s => { s with status := if s.status = 0 then 1 else 0 }
  | .both a b => do
    tested (run false a)
    if (← get).status = 0 then run final b
  | .either a b => do
    tested (run false a)
    if (← get).status ≠ 0 then run final b
  | .sequence a b => do
    run false a
    run final b
  | .background c => do
    inBackground run c
    checkSignals run
  | .subshell line body rs => do
    modify fun s => { s with line }
    inSubshell run final rs body
    checkSignals run
    checkFailure run
  | .group body rs => withRedirections (outputOf run) rs (run (final && rs.isEmpty) body)
  | .conditional test body other rs =>
    withRedirections (outputOf run) rs do
      let final := final && rs.isEmpty
      tested (run false test)
      if (← get).status = 0 then run final body
      else
        match other with
        | .nothing => setStatus 0
        | other => run final other
  | .repetition untilTrue test body rs =>
    withRedirections (outputOf run) rs <|
      asLoop (whileRounds run untilTrue test body Work.patience 0)
  | .iteration line name words body rs =>
    withRedirections (outputOf run) rs do
      modify fun s => { s with line }
      let values ← match words with
        | some words => expandAll (outputOf run) words
        | none => do pure (← get).arguments
      setStatus 0
      let head := "for ".toList ++ name ++ " in".toList ++ values.flatMap fun v => ' ' :: readable v
      asLoop (forRounds run head name body values)
  | .selection line word arms rs =>
    withRedirections (outputOf run) rs do
      modify fun s => { s with line }
      let text ← expandText (outputOf run) word
      if (← get).isExtended then traceLines (outputOf run) 2 ["case ".toList ++ readable text ++ " in".toList]
      throughArms run (final && rs.isEmpty) text false false arms
  | .calculation line e rs =>
    decide run line rs do
      let n? ← inCommand "((".toList do
        let text ← expandText (outputOf run) e
        traceLines (outputOf run) 2 ["(( ".toList ++ text ++ " ))".toList]
        numberOf text
      return if n?.any (· ≠ 0) then 0 else 1
  | .condition line c rs =>
    decide run line rs do
      match ← inCommand "[[".toList (check (outputOf run) c) with
      | some (some b) => return if b then 0 else 1
      | some none => return undecidable
      | none => return 1
  | .counting line start test step body rs =>
    withRedirections (outputOf run) rs do
      modify fun s => { s with line }
      discard <| expressionValue run start
      setStatus 0
      asLoop (countRounds run test step body Work.patience)
  | .definition name body => do
    modify fun s => { s with functions := State.assign name body s.functions, status := 0 }

end Sh

/-- Carries out commands that are nested at most `depth` times, unless the options say that they are
only read. -/
def evaluate : (depth : Nat) → Runner
  | 0, _, _ => Sh.work .forever
  | depth + 1, final, c => do
    if (← get).isOn 'n' then return ()
    else Sh.perform (evaluate depth) final c

/-- Commands are nested less deeply than this. -/
def commandDepth : Nat := Nat.pow 10 9

/-! ## Command lines -/

/-- The variables that a shell finds when it starts. -/
def startVariables : List (List Char × List Char) :=
  [("HOME".toList, "/root".toList), ("PATH".toList, defaultSearchPath)]

/-- The task of a shell that carries out a command line. -/
def commandTask (command : List Char) (cwd : Place) : Task :=
  let text := byteChars (String.ofList command)
  Work.task (shellProgram (evaluate commandDepth) .common "sh".toList ⟨cwd, startVariables⟩
    ["-c".toList, text])

/-- Runs command lines. -/
def execute : Executor := capture commandTask

/-- The time at which a disk is handed over, in nanoseconds since 1970. -/
def startTime : Int := 1767225600 * Nat.pow 10 9

/-- A disk with nothing on it but the system. -/
def systemDisk : Disk where
  entries :=
    let directory := Entry.directory Disk.systemAttributes
    [(["tmp"], .directory { Disk.systemAttributes with mode := 0o1777 }), (["root"], directory),
     (["dev"], directory), (["dev", "null"], .null), (["dev", "zero"], .null),
     (["dev", "full"], .null), (["dev", "random"], .null), (["dev", "urandom"], .null),
     (["bin"], .link "usr/bin"), (["usr"], directory),
     (binaries, directory)] ++
      systemPrograms.map fun name => (binaries ++ [name], .file [] Disk.systemAttributes)
  nameless := []
  nextNumber := 0
  now := startTime

end ProgramRepair.Shell
