import ProgramRepair.Shell.Builtin.Input
import ProgramRepair.Shell.Builtin.Report

/-!
# The commands of the shell by name

A name stands for a special command of the shell, a function, an ordinary command
of the shell or a program, in this order. In the extended language no command is
special, so that functions come first.
-/

namespace ProgramRepair.Shell

open Machine

namespace Builtin

/-- The special commands. Variables that are set in front of them stay set. -/
def special : List (String × Builtin) :=
  [(":", succeed), (".", source), ("break", leaveLoop), ("continue", nextRound), ("eval", eval),
   ("exec", exec), ("exit", leaveShell), ("export", exportVariables),
   ("readonly", readOnlyVariables), ("return", leaveFunction), ("set", set), ("shift", shift),
   ("times", times), ("trap", trap), ("unset", unset)]

/-- Commands that matter only to a person at a terminal. -/
def idle : Builtin := fun _ _ => return 0

/-- The ordinary commands. -/
def ordinary : List (String × Builtin) :=
  [("[", bracket), ("alias", nameAliases), ("cd", cd), ("chdir", cd), ("echo", echo), ("false", fail),
   ("getopts", getopts), ("hash", idle), ("jobs", idle), ("kill", kill), ("local", localVariables),
   ("printf", printf), ("pwd", pwd), ("read", read), ("test", test), ("true", succeed),
   ("ulimit", ulimit), ("umask", umask), ("unalias", unalias), ("wait", wait)]

/-- The commands that the extended language has or has in another way. -/
def extended : List (String × Builtin) :=
  [(".", Extended.source), ("source", Extended.source), ("[", Extended.bracket),
   ("alias", Extended.nameAliases), ("break", Extended.leaveLoops .broken), ("cd", Extended.cd),
   ("continue", Extended.leaveLoops .continued), ("declare", declare), ("typeset", declare),
   ("disown", idle), ("echo", Extended.echo), ("eval", Extended.eval), ("exec", Extended.exec),
   ("exit", Extended.leaveShell), ("export", declareWith 'x'), ("getopts", Extended.getopts),
   ("hash", Extended.hash), ("kill", Extended.kill), ("let", calculate), ("local", declareOwn),
   ("mapfile", mapfile), ("pushd", Extended.pushDirectory), ("popd", Extended.popDirectory),
   ("dirs", Extended.showDirectories), ("readarray", mapfile), ("printf", Extended.printf), ("read", readInto),
   ("readonly", declareWith 'r'), ("return", Extended.leaveFunction), ("set", Extended.set),
   ("shift", Extended.shift), ("shopt", shopt), ("test", Extended.test), ("trap", Extended.trap),
   ("unalias", Extended.unalias), ("unset", forget), ("wait", Extended.wait)]

/-- Commands whose arguments can be assignments, which are not split into fields. -/
def assigning : Dialect → List String
  | .common => ["export", "readonly", "local"]
  | .extended => Parser.declarations

end Builtin

/-- What a name of a command stands for. -/
inductive Meaning where
  | special (b : Builtin)
  | function (body : Command)
  | ordinary (b : Builtin)
  /-- The command `command`, which passes over functions. -/
  | plainly
  /-- The command `type`. -/
  | describing
  /-- The command `builtin`, which passes over functions and programs. -/
  | builtin
  | program

/-- What a name stands for in the common language. -/
def commonMeaning (s : State) (passFunctions : Bool) (name : List Char) : Meaning :=
  let text := String.ofList name
  match Builtin.special.lookup text with
  | some b => .special b
  | none =>
    match if passFunctions then none else s.functions.lookup name with
    | some body => .function body
    | none =>
      if text = "command" then .plainly
      else if text = "type" then .describing
      else
        match Builtin.ordinary.lookup text with
        | some b => .ordinary b
        | none => .program

/-- What a name stands for in the extended language. -/
def extendedMeaning (s : State) (passFunctions : Bool) (name : List Char) : Meaning :=
  match if passFunctions then none else s.functions.lookup name with
  | some body => .function body
  | none =>
    match Builtin.extended.lookup (String.ofList name) with
    | some b => .ordinary b
    | none =>
      if name = "builtin".toList then .builtin else
      match commonMeaning s true name with
      | .special b => .ordinary b
      | meaning => if name = "chdir".toList then .program else meaning

/-- What a name stands for. -/
def meaningOf (s : State) : (passFunctions : Bool) → (name : List Char) → Meaning :=
  match s.dialect with
  | .common => commonMeaning s
  | .extended => extendedMeaning s

namespace Sh

/-- A description of what a name stands for, if it stands for something. -/
def description? (verbose : Bool) (name : List Char) : Sh (Option (List Char)) := do
  let s ← get
  let say := fun (what : String) =>
    some (if verbose then name ++ (" is " ++ what).toList else name)
  if s.dialect.keywords.contains (String.ofList name) then return say "a shell keyword"
  else if let some text := s.aliases.lookup name then
    if verbose ∧ s.isExtended then
      return some (name ++ " is aliased to \x60".toList ++ text ++ ['\''])
    else if verbose then return say ("an alias for " ++ pathText text)
    else return some ("alias ".toList ++ name ++ '=' :: quotedText text)
  else
    match meaningOf s false name with
    | .special _ => return say "a special shell builtin"
    | .function _ => return say (if s.isExtended then "a function" else "a shell function")
    | .ordinary _ | .plainly | .describing | .builtin => return say "a shell builtin"
    | .program =>
      let searchPath := (s.valueOf? "PATH".toList).getD []
      match ← work (findProgram s.cwd searchPath name) with
      | (_, .missing) => return none
      | (path, .denied) =>
        if name.contains '/' then return none
        else return some (if verbose then name ++ " is ".toList ++ path else path)
      | (path, _) => return some (if verbose then name ++ " is ".toList ++ path else path)

/-- Describes names. -/
def describeAll (verbose : Bool) : List (List Char) → Nat → Sh Nat
  | [], status => return status
  | name :: rest, status => do
    match ← description? verbose name with
    | some text =>
      let done ← output (text ++ ['\n']) 0
      describeAll verbose rest (if done = 0 then status else done)
    | none =>
      if (← get).isExtended then
        if verbose then complain (pathText name ++ ": not found")
        describeAll verbose rest 1
      else
        if verbose then discard <| output (name ++ ": not found\n".toList) 0
        describeAll verbose rest missingCode

/-- The kind of what a name stands for, or the path of its program, in the extended language. -/
def kindOf (option : Char) (name : List Char) : Sh Nat := do
  let s ← get
  let searchPath := (s.valueOf? "PATH".toList).getD []
  let path? ← match ← work (findProgram s.cwd searchPath name) with
    | (_, .missing) | (_, .denied) => pure none
    | (path, _) => pure (some path)
  let word? : Option String :=
    if s.dialect.keywords.contains (String.ofList name) then some "keyword"
    else if (s.aliases.lookup name).isSome then some "alias"
    else
      match meaningOf s false name with
      | .function _ => some "function"
      | .special _ | .ordinary _ | .plainly | .describing | .builtin => some "builtin"
      | .program => none
  match option, word?, path? with
  | 't', some word, _ => output (word ++ "\n").toList 0
  | 't', none, some _ => output "file\n".toList 0
  | 'p', none, some path | 'P', _, some path => output (path ++ ['\n']) 0
  | 'p', some _, _ => return 0
  | _, _, _ => return 1

/-- Describes names in the extended language. -/
def describeNames : List (List Char) → Sh Nat
  | ['-', 't'] :: names => Builtin.forEach (kindOf 't') names 0
  | ['-', 'p'] :: names => Builtin.forEach (kindOf 'p') names 0
  | ['-', 'P'] :: names => Builtin.forEach (kindOf 'P') names 0
  | ['-', 'a'] :: names => describeAll true names 0
  | ['-', '-'] :: names => describeAll true names 0
  | names => describeAll true names 0

end Sh

end ProgramRepair.Shell
