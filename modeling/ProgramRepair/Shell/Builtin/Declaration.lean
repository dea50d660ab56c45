import ProgramRepair.Shell.Assign
import ProgramRepair.Shell.Builtin.Variables

/-!
# Declarations

The commands of the extended language that declare variables, arrays and tables,
say what is special about them, print them and forget them.
-/

namespace ProgramRepair.Shell.Builtin

open Machine

/-! ## Printing -/

/-- A text in double quotes. -/
def doubleQuoted (s : List Char) : List Char :=
  '"' :: s.flatMap (fun c => if "$\x60\"\\".toList.contains c then ['\\', c] else [c]) ++ ['"']

/-- The escape of a character that cannot be printed. -/
def escaped? : Char → Option (List Char)
  | '\n' => some ['\\', 'n']
  | '\t' => some ['\\', 't']
  | '\x0d' => some ['\\', 'r']
  | '\x07' => some ['\\', 'a']
  | '\x08' => some ['\\', 'b']
  | '\x0b' => some ['\\', 'v']
  | '\x0c' => some ['\\', 'f']
  | '\x1b' => some ['\\', 'E']
  | c =>
    if c.toNat < 32 ∨ 127 ≤ c.toNat then
      let ds := Nat.toDigits 8 c.toNat
      some ('\\' :: List.replicate (3 - ds.length) '0' ++ ds)
    else none

/-- A text with its escapes in single quotes. -/
def escapedForm (s : List Char) : List Char :=
  "$'".toList ++ s.flatMap (fun c => match escaped? c with
    | some e => e
    | none => if c = '\'' ∨ c = '\\' then ['\\', c] else [c]) ++ ['\'']

/-- A value as declarations show it. -/
def shownText (s : List Char) : List Char :=
  if s.any fun c => (escaped? c).isSome then escapedForm s else doubleQuoted s

/-- The elements of an array or a table as declarations show them. -/
def shownElements (v : Value) : List Char :=
  let each := v.pairs.map fun (k, s) =>
    let key := Value.keyText k
    let key := if key.all fun c => isNameChar c then key else doubleQuoted key
    '[' :: key ++ "]=".toList ++ shownText s
  let all := List.flatten (each.intersperse [' '])
  '(' :: all ++ (if v.isTable && !each.isEmpty then [' ', ')'] else [')'])

/-- The letters for what is special about a variable. -/
def attributeLetters (v : Variable) : List Char :=
  (match v.value with
    | some (.array _) => ['a']
    | some (.table _) => ['A']
    | _ => []) ++
  (if v.form = .number then ['i'] else []) ++ (if v.readOnly then ['r'] else []) ++
  (if v.exported then ['x'] else []) ++
  (match v.form with
    | .lower => ['l']
    | .upper => ['u']
    | _ => [])

/-- The declaration of a variable. -/
def declarationOf (name : List Char) (v : Variable) : List Char :=
  let letters := attributeLetters v
  "declare -".toList ++ (if letters.isEmpty then ['-'] else letters) ++ ' ' :: name ++
    (match v.value with
      | some (.text s) => '=' :: shownText s
      | some elements => '=' :: shownElements elements
      | none => []) ++ ['\n']

/-- Variables in the order of their names. -/
def sorted (bindings : List (List Char × Variable)) : List (List Char × Variable) :=
  bindings.mergeSort fun a b => !(b.1 < a.1)

/-- The declarations of variables. -/
def declarations (bindings : List (List Char × Variable)) : List Char :=
  (sorted bindings).flatMap fun (name, v) => declarationOf name v

/-- A value as the list of all variables shows it. -/
def listedText (s : List Char) : List Char :=
  if s.any fun c => (escaped? c).isSome then escapedForm s
  else if !s.isEmpty && s.all fun c => isNameChar c || "%+,-./:=@".toList.contains c then s
  else if s.isEmpty then [] else quotedForm s

/-- All variables with their values, each in a line. -/
def listedVariables (bindings : List (List Char × Variable)) : List Char :=
  (sorted bindings).flatMap fun (name, v) =>
    match v.value with
    | some (.text s) => name ++ '=' :: listedText s ++ ['\n']
    | some elements => name ++ '=' :: shownElements elements ++ ['\n']
    | none => []

/-! ## Declaring -/

/-- What a declaration asks for. -/
structure Declaration where
  /-- Letters of attributes that are given or taken away. -/
  given : List Char
  taken : List Char
  prints : Bool
  /-- Whether functions are meant, with their bodies or without. -/
  functions : Bool
  isGlobal : Bool
deriving Inhabited

/-- How `declare` is to be used. -/
def declareUsage : String :=
  "[-aAfFgiIlnrtux] [name[=value] ...] or declare -p [-aAfFilnrtux] [name ...]"

/-- Takes one letter of an option. -/
def Declaration.addLetter (d : Declaration) (on : Bool) (c : Char) : Option Declaration :=
  if !on then some { d with taken := c :: d.taken }
  else if c = 'p' then some { d with prints := true }
  else if c = 'f' ∨ c = 'F' then some { d with functions := true }
  else if c = 'g' then some { d with isGlobal := true }
  else if "aAilrtuxnI".toList.contains c then some { d with given := c :: d.given }
  else none

/-- Takes options off arguments. The error is a letter that is no option. -/
def Declaration.read (d : Declaration) :
    List (List Char) → Except Char (Declaration × List (List Char))
  | [] => .ok (d, [])
  | ['-', '-'] :: rest => .ok (d, rest)
  | (sign :: c :: cs) :: rest =>
    if sign = '-' ∨ sign = '+' then do
      let d ← (c :: cs).foldlM (fun d c => match Declaration.addLetter d (sign = '-') c with
        | some d => .ok d
        | none => .error c) d
      read d rest
    else .ok (d, (sign :: c :: cs) :: rest)
  | rest => .ok (d, rest)

/-- Makes a variable the function's own. -/
def makeOwn (name : List Char) : Sh Unit :=
  modify fun s =>
    match s.locals with
    | [] => s
    | scope :: outer =>
      if (scope.lookup name).isSome then s
      else { s with
        locals := ((name, s.bindings.lookup name) :: scope) :: outer
        bindings := s.bindings.filter (·.1 ≠ name) }

/-- A variable with attributes given or taken away. -/
def Declaration.applyTo (d : Declaration) (v : Variable) : Variable :=
  let v := if d.given.contains 'a' then
      { v with value := some (match v.value with
        | some (.text s) => .array [(0, s)]
        | some value => value
        | none => .array []) }
    else v
  let v := if d.given.contains 'A' then
      { v with value := some (match v.value with
        | some (.table entries) => .table entries
        | _ => .table []) }
    else v
  let v := if d.given.contains 'i' then { v with form := .number } else v
  let v := if d.given.contains 'l' then { v with form := .lower } else v
  let v := if d.given.contains 'u' then { v with form := .upper } else v
  let v := if d.given.contains 'x' then { v with exported := true } else v
  let v := if d.taken.contains 'x' then { v with exported := false } else v
  if d.taken.any "ilu".toList.contains then { v with form := .plain } else v

/-- An argument such as `x=1`, `x+=1` or `x[1]=2`. -/
structure Declared where
  name : List Char
  key : Option (List Char)
  /-- The value, and whether it is added. -/
  value : Option (Bool × List Char)

/-- Takes an argument apart. -/
def Declared.ofText (a : List Char) : Declared :=
  let name := a.takeWhile fun c => c ≠ '=' && c ≠ '+' && c ≠ '['
  let (key, rest) := match a.drop name.length with
    | '[' :: more =>
      match Arithmetic.closeKey? 0 more with
      | some (key, rest) => (some key, rest)
      | none => (none, '[' :: more)
    | rest => (none, rest)
  match rest with
  | [] => ⟨name, key, none⟩
  | '=' :: value => ⟨name, key, some (false, value)⟩
  | '+' :: '=' :: value => ⟨name, key, some (true, value)⟩
  | _ => ⟨a, none, none⟩

/-- Declares one variable. -/
def Declaration.declareOne (d : Declaration) (ownFirst : Bool) (a : List Char) : Sh Nat := do
  let x := Declared.ofText a
  if !isName x.name then
    Sh.complain ("\x60" ++ pathText a ++ "': not a valid identifier")
    return 1
  else
    if ownFirst then makeOwn x.name
    mark x.name d.applyTo
    match x.value, x.key with
    | some (adds, value), none => discard <| Sh.assignText x.name adds value
    | some (adds, value), some key => discard <| Sh.assignElement x.name key adds value
    | none, _ => pure ()
    if d.given.contains 'r' then mark x.name fun v => { v with readOnly := true }
    return 0

/-- Prints the declarations of single variables. -/
def printDeclarations : List (List Char) → Nat → Sh Nat
  | [], status => return status
  | name :: rest, status => do
    match (← get).bindings.lookup name with
    | some v =>
      discard <| Sh.output (declarationOf name v) 0
      printDeclarations rest status
    | none =>
      Sh.complain (pathText name ++ ": not found")
      printDeclarations rest 1

/-- Carries out something for each argument; the status is the last one that is not 0. -/
def forEach (m : List Char → Sh Nat) : List (List Char) → Nat → Sh Nat
  | [], status => return status
  | a :: rest, status => do
    let new ← m a
    forEach m rest (if new = 0 then status else new)

/-- The names of functions. -/
def functionNames (lead : String) (names : List (List Char)) : Sh Nat := do
  let s ← get
  if names.isEmpty then
    let all := (s.functions.map (·.1)).mergeSort fun a b => !(b < a)
    Sh.output (all.flatMap fun name => lead.toList ++ name ++ ['\n']) 0
  else
    let known := names.filter fun name => (s.functions.lookup name).isSome
    Sh.output (known.flatMap fun name => name ++ ['\n'])
      (if known.length = names.length then 0 else 1)

/-- Declares variables. -/
def declare : Builtin := fun _ args => do
  let s ← get
  match Declaration.read default args with
  | .error c => Sh.blameOption c declareUsage
  | .ok (d, names) =>
    if d.functions then functionNames "declare -f " names
    else if d.prints then
      if names.isEmpty then Sh.output (declarations s.bindings) 0
      else printDeclarations names 0
    else if names.isEmpty then
      if d.given.isEmpty then Sh.output (listedVariables s.bindings) 0
      else
        let fits := fun (v : Variable) => d.given.all (attributeLetters v).contains
        Sh.output (declarations (s.bindings.filter fun (_, v) => fits v)) 0
    else forEach (d.declareOne (!s.locals.isEmpty && !d.isGlobal)) names 0

/-- Declares variables of a function. -/
def declareOwn : Builtin := fun run args => do
  if (← get).locals.isEmpty then
    Sh.complain "can only be used in a function"
    return 1
  else declare run args

/-- Gives variables an attribute, or lists those that have it. -/
def declareWith (letter : Char) : Builtin := fun _ args => do
  let s ← get
  let isNegated := args.any (· = ['-', 'n'])
  let names := args.filter fun a => a.head? ≠ some '-'
  let start : Declaration := default
  let d := if isNegated then { start with taken := [letter] } else { start with given := [letter] }
  if names.isEmpty then
    Sh.output (declarations (s.bindings.filter fun (_, v) => (attributeLetters v).contains letter)) 0
  else if args.any (· = ['-', 'f']) then return 0
  else forEach (d.declareOne false) names 0

/-- Forgets variables, elements or functions. -/
def forget : Builtin := fun _ args => do
  let (kind, names) := match args with
    | ['-', 'f'] :: names => (some true, names)
    | ['-', 'v'] :: names => (some false, names)
    | names => (none, names)
  forEach (one kind) names 0
where
  /-- Forgets what a name stands for. -/
  one (kind : Option Bool) (name : List Char) : Sh Nat := do
    let s ← get
    let x := Declared.ofText name
    let known := (s.bindings.lookup x.name).isSome
    if kind = some true ∨ (kind = none ∧ !known) then
      modify fun s => { s with functions := s.functions.filter (·.1 ≠ name) }
      return 0
    else if s.isReadOnly x.name then
      Sh.complain (pathText x.name ++ ": cannot unset: readonly variable")
      return 1
    else
      match x.key with
      | none =>
        modify fun s => { s with bindings := s.bindings.filter fun v => v.1 ≠ x.name }
      | some key =>
        match ← Sh.keyOf? x.name key, Sh.wholeValue? s x.name with
        | some k, some v => modify fun s => s.setValue x.name (v.erase k)
        | _, _ => pure ()
      return 0

/-- Calculates expressions. The status says whether the last one is not zero. -/
def calculate : Builtin := fun _ args => do
  match args with
  | [] =>
    Sh.complain "expression expected"
    return 1
  | args => go args 0
where
  /-- Calculates one after the other. -/
  go : List (List Char) → Int → Sh Nat
    | [], n => return if n = 0 then 1 else 0
    | a :: rest, _ => do go rest (← Sh.numberOf a)

/-! ## Options by name -/

/-- The further options by name, and whether they are on from the start. -/
def settingNames : List (String × Bool) :=
  [("autocd", false), ("checkhash", false), ("checkwinsize", true), ("cmdhist", true),
   ("dotglob", false), ("expand_aliases", false), ("extglob", false), ("failglob", false),
   ("globstar", false), ("inherit_errexit", false), ("lastpipe", false), ("nocaseglob", false),
   ("nocasematch", false), ("nullglob", false), ("sourcepath", true), ("xpg_echo", false)]

/-- Whether a further option is on. -/
def isSettingOn (s : State) (name : String) : Bool :=
  s.settings.contains name || (settingNames.lookup name = some true && !s.settings.contains ("no " ++ name))

/-- Switches a further option. -/
def switchSetting (on : Bool) (name : String) : Sh Unit :=
  modify fun s =>
    let others := s.settings.filter fun n => n ≠ name && n ≠ "no " ++ name
    { s with settings := if on then name :: others else ("no " ++ name) :: others }

/-- A further option and whether it is on, in a line. -/
def settingLine (name : String) (on : Bool) : List Char :=
  (name ++ String.ofList (List.replicate (15 - name.length) ' ') ++ "\t" ++
    (if on then "on" else "off") ++ "\n").toList

/-- Switches further options or says which are on. -/
def shopt : Builtin := fun _ args => do
  let flags := (args.takeWhile Sh.isOption).flatMap (·.drop 1)
  let names := args.dropWhile Sh.isOption
  match flags.find? fun c => !"pqsuo".toList.contains c with
  | some c => Sh.blameOption c "[-pqsu] [-o] [optname ...]"
  | none =>
    if names.isEmpty then
      let s ← get
      let all := settingNames.filter fun (name, _) =>
        if flags.contains 's' then isSettingOn s name
        else if flags.contains 'u' then !isSettingOn s name
        else true
      Sh.output (all.flatMap fun (name, _) => settingLine name (isSettingOn s name)) 0
    else forEach (one flags) names 0
where
  /-- Switches or shows one option. -/
  one (flags : List Char) (name : List Char) : Sh Nat := do
    let s ← get
    let text := String.ofList name
    let known := flags.contains 'o' || (settingNames.lookup text).isSome
    if !known then
      Sh.complain (pathText name ++ ": invalid shell option name")
      return 1
    else if flags.contains 's' ∨ flags.contains 'u' then
      switchSetting (flags.contains 's') text
      return 0
    else
      let on := if flags.contains 'o' then
          s.settings.contains text || ((optionNames.lookup text).bind id).any s.isOn
        else isSettingOn s text
      let status := if on then 0 else 1
      if flags.contains 'q' then return status
      else if flags.contains 'p' then
        Sh.output ("shopt ".toList ++ (if on then "-s " else "-u ").toList ++ name ++ ['\n']) status
      else Sh.output (settingLine text on) status

end ProgramRepair.Shell.Builtin
