import ProgramRepair.Shell.Builtin.Basic
import ProgramRepair.Shell.Program

/-!
# Variables, arguments and options

The commands of the shell that set variables and say what is special about them,
that change its arguments and options, and that read a line into variables.
-/

namespace ProgramRepair.Shell.Builtin

open Machine

/-! ## Variables -/

/-- The parts of an argument such as `x=1`. -/
def splitAssignment (a : List Char) : List Char × Option (List Char) :=
  let name := a.takeWhile (· ≠ '=')
  (name, (a.drop name.length).tail?)

/-- Changes what is known about a variable besides its value. -/
def mark (name : List Char) (change : Variable → Variable) : Sh Unit :=
  modify fun s =>
    let old := (s.bindings.lookup name).getD .unset
    { s with bindings := State.assign name (change old) s.bindings }

/-- Sets and marks the variables that are named. -/
def markAll (change : Variable → Variable) : List (List Char) → Sh Nat
  | [] => return 0
  | a :: rest => do
    let (name, value) := splitAssignment a
    if !isName name then Sh.failShell (pathText name ++ ": bad variable name") 2
    match value with
    | some value => Sh.setVariable name value
    | none => pure ()
    mark name change
    markAll change rest

/-- The lines that list variables. -/
def listing (lead : String) (bindings : List (List Char × Variable)) : List Char :=
  let sorted := bindings.mergeSort fun a b => !(b.1 < a.1)
  sorted.flatMap fun (name, v) =>
    lead.toList ++ name ++ (match v.text? with
      | some value => '=' :: Sh.quotedText value
      | none => []) ++ ['\n']

/-- Marks variables, or lists those that are marked. -/
def markOrList (lead : String) (isMarked : Variable → Bool) (change : Variable → Variable) :
    Builtin := fun _ args => do
  match args with
  | [] | [['-', 'p']] =>
    Sh.output (listing lead ((← get).bindings.filter fun (_, v) => isMarked v)) 0
  | args => markAll change (args.filter (· ≠ ['-', '-']))

/-- Hands variables on to programs. -/
def exportVariables : Builtin :=
  markOrList "export " (·.exported) fun v => { v with exported := true }

/-- Protects variables. -/
def readOnlyVariables : Builtin :=
  markOrList "readonly " (·.readOnly) fun v => { v with readOnly := true }

/-- Makes variables the function's own. -/
def localVariables : Builtin := fun _ args => do
  if (← get).locals.isEmpty then Sh.failShell "not in a function" 2
  else
    for a in args do
      let (name, value) := splitAssignment a
      if !isName name then Sh.failShell (pathText name ++ ": bad variable name") 2
      modify fun s =>
        match s.locals with
        | [] => s
        | scope :: outer =>
          if (scope.lookup name).isSome then s
          else { s with locals := ((name, s.bindings.lookup name) :: scope) :: outer }
      match value with
      | some value => Sh.setVariable name value
      | none => pure ()
    return 0

/-- Forgets variables or functions. -/
def unset : Builtin := fun _ args => do
  let (functions, names) := match args with
    | ['-', 'f'] :: names => (true, names)
    | ['-', 'v'] :: names => (false, names)
    | names => (false, names)
  for name in names do
    if functions then
      modify fun s => { s with functions := s.functions.filter (·.1 ≠ name) }
    else
      if !isName name then Sh.failShell (pathText name ++ ": bad variable name") 2
      if (← get).isReadOnly name then Sh.failShell (pathText name ++ ": is read only") 2
      modify fun s => { s with bindings := s.bindings.filter (·.1 ≠ name) }
  return 0

/-! ## Arguments and options -/

/-- Drops arguments. -/
def shift : Builtin := fun _ args => do
  let n ← Sh.countArgument 1 args
  if (← get).arguments.length < n then Sh.failShell "can't shift that many" 2
  else
    modify fun s => { s with arguments := s.arguments.drop n }
    return 0

/-- The list of all options. -/
def optionTable (s : State) : List Char :=
  "Current option settings\n".toList ++ optionNames.flatMap fun (name, letter) =>
    let on := letter.any s.isOn
    (name ++ String.ofList (List.replicate (16 - name.length) ' ')).toList ++
      (if on then "on\n".toList else "off\n".toList)

/-- The commands that bring the options back. -/
def optionCommands (s : State) : List Char :=
  optionNames.flatMap fun (name, letter) =>
    let on := letter.any s.isOn
    ("set " ++ (if on then "-" else "+") ++ "o " ++ name ++ "\n").toList

/-- Takes options off the arguments of `set`. The value is what is left, if arguments are to be
replaced. -/
def setOptions : List (List Char) → Sh (Option (List (List Char)))
  | [] => return none
  | a :: rest => do
    match a with
    | ['-', '-'] => return some rest
    | ['-'] =>
      modify fun s => (s.withOption 'x' false).withOption 'v' false
      return if rest.isEmpty then none else some rest
    | ['-', 'o'] | ['+', 'o'] =>
      match rest with
      | [] =>
        let s ← get
        discard <| Sh.output (if a = ['-', 'o'] then optionTable s else optionCommands s) 0
        return none
      | name :: rest =>
        Sh.switchNamed (a = ['-', 'o']) name
        setOptions rest
    | sign :: letters =>
      if (sign = '-' ∨ sign = '+') ∧ letters ≠ [] then
        match letters.reverse, rest with
        | 'o' :: _, name :: rest =>
          Sh.switchOptions (sign = '-') (letters.filter (· ≠ 'o'))
          Sh.switchNamed (sign = '-') name
          setOptions rest
        | _, rest =>
          Sh.switchOptions (sign = '-') letters
          setOptions rest
      else return some (a :: rest)
    | [] => return some (a :: rest)

/-- Sets options and arguments, or lists all variables. -/
def set : Builtin := fun _ args => do
  if args.isEmpty then
    Sh.output (listing "" ((← get).bindings.filter fun (_, v) => v.value.isSome)) 0
  else
    match ← setOptions args with
    | some arguments => modify fun s => { s with arguments, optionOffset := 0 }
    | none => pure ()
    return 0

/-- What reading one option has found. -/
inductive OptionFound where
  | finished
  | plain (letter : Char)
  | withValue (letter : Char) (value : List Char)
  | unknown (letter : Char)
  | valueMissing (letter : Char)

/-- The next option among arguments, from the position of an argument and the offset in it, and the
position and the offset after it. -/
def nextOption (letters : List Char) (args : List (List Char)) (position offset : Nat) :
    OptionFound × Nat × Nat :=
  match args[position]? with
  | none => (.finished, position, 0)
  | some a =>
    let offset := if offset = 0 ∨ a.length ≤ offset then 1 else offset
    match a with
    | ['-', '-'] => (.finished, position + 1, 0)
    | '-' :: _ :: _ =>
      match a.drop offset with
      | [] => (.finished, position, 0)
      | c :: rest =>
        let after := if rest.isEmpty then (position + 1, 0) else (position, offset + 1)
        match letters.dropWhile (· ≠ c) with
        | [] => (.unknown c, after)
        | _ :: ':' :: _ =>
          if !rest.isEmpty then (.withValue c rest, position + 1, 0)
          else
            match args[position + 1]? with
            | some value => (.withValue c value, position + 2, 0)
            | none => (.valueMissing c, position + 1, 0)
        | _ => if c = ':' then (.unknown c, after) else (.plain c, after)
    | _ => (.finished, position, 0)

/-- Reads one option of the arguments. -/
def getopts : Builtin := fun _ args => do
  match args with
  | letters :: target :: given =>
    let s ← get
    let args := if given.isEmpty then s.arguments else given
    let index := ((s.valueOf? "OPTIND".toList).bind Sh.countOf?).getD 1
    let silent := letters.head? = some ':'
    let (found, position, offset) := nextOption letters args (index - 1) s.optionOffset
    modify fun s => { s with optionOffset := offset }
    let setValue := Sh.setVariable "OPTARG".toList
    let problem := fun (common extended : String) (option : List Char) =>
      (if s.isExtended then s.name ++ extended.toList else common.toList) ++ option ++ ['\n']
    Sh.setVariable "OPTIND".toList (toString (position + 1)).toList
    let (name, status) ← match found with
      | .finished => pure ('?', 1)
      | .plain c => do
        setValue []
        pure (c, 0)
      | .withValue c value => do
        setValue value
        pure (c, 0)
      | .unknown c =>
        if silent then do
          setValue [c]
          pure ('?', 0)
        else do
          discard <| Sh.print 2 (problem "Illegal option -" ": illegal option -- " [c])
          modify fun s => { s with bindings := s.bindings.filter (·.1 ≠ "OPTARG".toList) }
          pure ('?', 0)
      | .valueMissing c =>
        if silent then do
          setValue [c]
          pure (':', 0)
        else do
          discard <| Sh.print 2 (problem "No arg for -" ": option requires an argument -- "
            (if s.isExtended then [c] else c :: " option".toList))
          modify fun s => { s with bindings := s.bindings.filter (·.1 ≠ "OPTARG".toList) }
          pure ('?', 0)
    Sh.setVariable target [name]
    return status
  | _ => Sh.blame "Usage: getopts optstring var [arg]"

/-! ## Reading -/

/-- A character of a line and whether a backslash stood before it. -/
abbrev Mark := Char × Bool

/-- Reads a line from the standard input. The value is whether it has a line break. -/
def readLine (raw : Bool) (before : List Mark) (escaped : Bool) : Nat → Sh (List Mark × Bool)
  | 0 => Sh.work .forever
  | count + 1 => do
    match ← Sh.call (Kernel.read 0 1) with
    | .ok [] | .error _ => return (before.reverse, false)
    | .ok (b :: _) =>
      let c := Char.ofNat b.toNat
      if c = '\x00' then readLine raw before escaped count
      else if escaped then
        if c = '\n' then readLine raw before false count
        else readLine raw ((c, true) :: before) false count
      else if c = '\\' ∧ !raw then readLine raw before true count
      else if c = '\n' then return (before.reverse, true)
      else readLine raw ((c, false) :: before) false count

/-- Whether a character separates values and whether it is a blank. -/
def separates (separators : List Char) (m : Mark) : Bool := !m.2 && separators.contains m.1

def separatesBlankly (separators : List Char) (m : Mark) : Bool :=
  separates separators m && (m.1 = ' ' || m.1 = '\t' || m.1 = '\n')

/-- The values of some variables: one field for each, and the last one gets all that is left. -/
def distribute (separators : List Char) : (names : Nat) → List Mark → List (List Char)
  | 0, _ => []
  | 1, line =>
    let line := line.dropWhile (separatesBlankly separators)
    let trimmed := line.reverse.dropWhile (separatesBlankly separators)
    let single := match trimmed with
      | m :: rest =>
        let before := rest.dropWhile (separatesBlankly separators)
        if separates separators m && !before.any (separates separators) then before else trimmed
      | [] => []
    [single.reverse.map (·.1)]
  | names + 2, line =>
    let line := line.dropWhile (separatesBlankly separators)
    let field := line.takeWhile fun m => !separates separators m
    let rest := (line.drop field.length).dropWhile (separatesBlankly separators)
    let rest := match rest with
      | m :: more => if separates separators m then more else rest
      | [] => []
    field.map (·.1) :: distribute separators (names + 1) rest

/-- Reads a line into variables. -/
def read : Builtin := fun _ args => do
  let (raw, names) := options args false
  match names.find? fun name => !isName name, names with
  | some name, _ => Sh.blame (pathText name ++ ": bad variable name")
  | none, [] => Sh.blame "arg count"
  | none, names =>
    let (line, complete) ← readLine raw [] false Work.patience
    let values := distribute (← get).separators names.length line
    for (name, value) in names.zip values do Sh.setVariable name value
    return if complete then 0 else 1
where
  /-- Whether backslashes mean nothing, and the names of the variables. A prompt is for a terminal
  only. -/
  options : List (List Char) → Bool → Bool × List (List Char)
    | ['-', 'r'] :: rest, _ => options rest true
    | ['-', 'p'] :: _ :: rest, raw => options rest raw
    | ['-', '-'] :: rest, raw => (raw, rest)
    | rest, raw => (raw, rest)

/-! ## Aliases -/

/-- The place of a name in the order in which aliases are listed: they are spread over places by the
sum of their characters, of which the first counts for more. -/
def aliasPlace : List Char → Nat
  | [] => 0
  | c :: cs => cs.foldl (fun n c => n + c.toNat) (17 * c.toNat) % 39

/-- Says what a name is short for. -/
def aliasText (name text : List Char) : List Char := name ++ '=' :: Sh.quotedText text ++ ['\n']

/-- Makes names short for texts, or prints what they are short for. -/
def nameAliases : Builtin := fun _ args => do
  let aliases := (← get).aliases
  if args.isEmpty then
    let sorted := aliases.mergeSort fun a b => aliasPlace a.1 ≤ aliasPlace b.1
    Sh.output (sorted.flatMap fun (name, text) => aliasText name text) 0
  else go args 0
where
  /-- Takes one argument after the other. -/
  go : List (List Char) → Nat → Sh Nat
    | [], status => return status
    | a :: rest, status => do
      let name := a.takeWhile (· ≠ '=')
      if !name.isEmpty ∧ name.length < a.length then
        modify fun s => { s with
          aliases := State.assign name (a.drop (name.length + 1)) s.aliases }
        go rest status
      else
        match (← get).aliases.lookup a with
        | some text =>
          discard <| Sh.output (aliasText a text) 0
          go rest status
        | none =>
          discard <| Sh.print 2 ("alias: ".toList ++ a ++ " not found\n".toList)
          go rest 1

/-- Makes names stand for themselves again. -/
def unalias : Builtin := fun _ args => do
  match args with
  | ['-', 'a'] :: _ =>
    modify fun s => { s with aliases := [] }
    return 0
  | args => go args 0
where
  /-- Takes one name after the other. -/
  go : List (List Char) → Nat → Sh Nat
    | [], status => return status
    | name :: rest, status => do
      let known := ((← get).aliases.lookup name).isSome
      modify fun s => { s with aliases := s.aliases.filter (·.1 ≠ name) }
      if !known then discard <| Sh.print 2 ("unalias: ".toList ++ name ++ " not found\n".toList)
      go rest (if known then status else 1)

end ProgramRepair.Shell.Builtin
