import ProgramRepair.Utility.Errand

/-!
# Modes

The rights that a file or a directory gives to its owner, to the owner's group and to
others: how they are written, in digits and in letters, and how they are changed.
-/

namespace ProgramRepair.Utility

open Machine

/-! ## Modes in letters -/

/-- The rights of a mode that belong to a class of users. -/
def classBits (who : List Char) : Nat :=
  let has := fun c => who.isEmpty || who.contains c || who.contains 'a'
  (if has 'u' then 0o4700 else 0) + (if has 'g' then 0o2070 else 0) +
    (if has 'o' then 0o1007 else 0)

/-- The bits that a letter stands for, in a mode as it is now. -/
def letterBits (isDirectory : Bool) (mode : Nat) (letter : Char) : Nat :=
  match letter with
  | 'r' => 0o444
  | 'w' => 0o222
  | 'x' => 0o111
  | 'X' => if isDirectory ∨ mode &&& 0o111 ≠ 0 then 0o111 else 0
  | 'u' => mode / 64 % 8 * 0o111
  | 'g' => mode / 8 % 8 * 0o111
  | 'o' => mode % 8 * 0o111
  | 's' => 0o6000
  | 't' => 0o1000
  | _ => 0

/-- A part of a symbolic mode: the classes of users, and operators with their letters. -/
abbrev ModeClause := List Char × List (Char × List Char)

/-- The operators of a clause. -/
def modeOperators : Nat → List Char → Option (List (Char × List Char))
  | 0, _ => none
  | fuel + 1, s =>
    match s with
    | [] => some []
    | op :: rest =>
      if op = '+' ∨ op = '-' ∨ op = '=' then
        let letters := rest.takeWhile fun c => "rwxXstugo".toList.contains c
        (modeOperators fuel (rest.drop letters.length)).map fun more => (op, letters) :: more
      else none

/-- The clauses of a symbolic mode. -/
def modeClauses? (s : List Char) : Option (List ModeClause) :=
  (Text.cut ',' s).mapM fun clause =>
    let who := clause.takeWhile fun c => "ugoa".toList.contains c
    match modeOperators (clause.length + 1) (clause.drop who.length) with
    | some [] | none => none
    | some operators => some (who, operators)

/-- The mode after an operator. -/
def applyOperator (isDirectory : Bool) (mask : Nat) (who : List Char) (mode : Nat)
    (operator : Char × List Char) : Nat :=
  let (op, letters) := operator
  let bits := letters.foldl (fun n c => n ||| letterBits isDirectory mode c) 0
  let reach := classBits who
  let bits := (bits &&& reach) - (if who.isEmpty then bits &&& reach &&& mask else 0)
  let kept := if isDirectory then 0o6000 else 0
  match op with
  | '+' => mode ||| bits
  | '-' => mode - (mode &&& bits)
  | _ => (mode - (mode &&& (reach - (reach &&& kept)))) ||| bits

/-- How a mode changes, if the text of a new one makes sense. -/
def modeChange? (s : List Char) : Option ((isDirectory : Bool) → (mask mode : Nat) → Nat) :=
  if s ≠ [] ∧ s.all fun c => '0' ≤ c ∧ c ≤ '7' then
    let n := s.foldl (fun n d => 8 * n + (d.toNat - '0'.toNat)) 0
    if n < 0o10000 then some fun _ _ _ => n else none
  else
    (modeClauses? s).map fun clauses isDirectory mask mode =>
      clauses.foldl (fun mode (who, operators) =>
        operators.foldl (applyOperator isDirectory mask who) mode) mode

/-- The letters of a mode. Where the last right of a class has a special meaning too, another letter
stands for both. -/
def modeLetters (mode : Nat) : List Char :=
  let isSet := fun (bit : Nat) => mode / bit % 2 = 1
  let group := fun (place special : Nat) (both : Char) =>
    [if isSet (4 * place) then 'r' else '-', if isSet (2 * place) then 'w' else '-',
      if isSet special then (if isSet place then both else both.toUpper)
      else if isSet place then 'x' else '-']
  group 64 0o4000 's' ++ group 8 0o2000 's' ++ group 1 0o1000 't'

/-- Four octal digits of a mode. -/
def modeDigits (mode : Nat) : List Char :=
  let ds := Nat.toDigits 8 mode
  List.replicate (4 - ds.length) '0' ++ ds

/-! ## Changing modes -/

/-- Changes the mode of what is at a place. -/
def changeMode (o : Options) (new : (isDirectory : Bool) → (mask mode : Nat) → Nat)
    (path : List Char) (p : Place) : Errands Unit := do
  let s ← get
  match s.disk.lookup p with
  | some e =>
    match e.attributes? with
    | none => return ()
    | some a =>
      if !a.own then
        Errands.complain ("changing permissions of " ++ inQuotes path ++ ": Operation not permitted")
      else
        let mode := new e.isDirectory s.mask a.mode
        Errands.setDisk (s.disk.setMode p mode)
        let described := fun (m : Nat) => shown (modeDigits m ++ " (".toList ++ modeLetters m ++ [')'])
        if mode ≠ a.mode then
          if o.has 'v' ∨ o.has 'c' then
            Errands.tell ("mode of " ++ inQuotes path ++ " changed from " ++ described a.mode ++ " to " ++
              described mode)
        else if o.has 'v' then
          Errands.tell ("mode of " ++ inQuotes path ++ " retained as " ++ described mode)
  | none => return ()

/-- The options of `chmod`; what begins with a minus sign may be a mode. -/
def chmodGrammar : Grammar :=
  ⟨"Rvfc", "", "", [("recursive", 'R'), ("verbose", 'v'), ("silent", 'f'), ("quiet", 'f'),
    ("changes", 'c'), ("reference=", '=')]⟩

/-- Changes what may be done with files. -/
def chmod : Utility := fun env args => do
  let isMode := fun a : List Char =>
    a.head? = some '-' && 1 < a.length && (a.drop 1).all fun c => "rwxXstugoa,=+-01234567".toList.contains c
  let o := chmodGrammar.read (args.filter fun a => !isMode a)
  let given := (args.filter isMode) ++ o.rest
  match o.problem, given with
  | some problem, _ => refuse "chmod" problem 1
  | none, [] => refuse "chmod" "missing operand" 1
  | none, [mode] => refuse "chmod" ("missing operand after " ++ quoted mode) 1
  | none, mode :: paths =>
    match modeChange? mode with
    | none => refuse "chmod" ("invalid mode: " ++ quoted mode) 1
    | some new =>
      runErrand "chmod" <| paths.forM fun path => do
        match (← Errands.disk).find env.cwd (shown path) with
        | .error e =>
          if !o.has 'f' then
            Errands.complain ("cannot access " ++ inQuotes path ++ ": " ++ e.systemText)
        | .ok (p, _) =>
          changeMode o new path p
          if o.has 'R' then
            for q in (← Errands.disk).descendants p do
              changeMode o new
                (inDirectory path (bytesChars ("/".intercalate (q.drop p.length)))) q

end ProgramRepair.Utility
