import ProgramRepair.Utility.PatternAction.Evaluate
import ProgramRepair.Utility.PatternAction.Parser

/-!
# Programs for records

`awk` carries out the rules of a program for the records of its inputs: those for
the start first, then all that fit for record after record, and those for the end
when there are no more records or the program asks for it.
-/

namespace ProgramRepair.Utility

open Machine PatternAction

namespace PatternAction.Run

/-- The fuel for what a rule does. -/
def fuel : Nat := Work.patience

/-- Carries out an action, or prints the record. -/
def act (shell : Commander) (action : Option (List Statement)) : Run Unit :=
  match action with
  | some body => statements shell fuel body
  | none => statement shell fuel (.print [] none)

/-- Carries out the rules of a kind. -/
def actAll (shell : Commander) (isMeant : Pattern → Bool) : Run Unit := do
  for r in (← get).program.rules do
    if isMeant r.pattern then act shell r.action

/-- Whether a rule is meant for the current record; `number` is the number of the rule. -/
def selects (shell : Commander) (number : Nat) : Pattern → Run Bool
  | .start | .finish => return false
  | .always => return true
  | .condition e => return (← eval shell fuel e).isTrue
  | .range first last => do
    let isOpen := (← get).openRanges.contains number
    let begins ← if isOpen then pure true else do pure (← eval shell fuel first).isTrue
    if !begins then return false
    else
      let ends := (← eval shell fuel last).isTrue
      modify fun s =>
        let others := s.openRanges.filter (· ≠ number)
        { s with openRanges := if ends then others else number :: others }
      return true

/-- Carries out the rules that are meant for the current record, the first of which has some
number. -/
def rules (shell : Commander) (number : Nat) : List Rule → Run Unit
  | [] => return ()
  | r :: rest => do
    if ← selects shell number r.pattern then act shell r.action
    rules shell (number + 1) rest

/-- Carries out the rules for all records that are left. -/
def records (shell : Commander) : Nat → Run Unit
  | 0 => work .forever
  | times + 1 => do
    work (.sleep statementTime)
    match ← nextInput Work.patience with
    | none => return ()
    | some record =>
      setRecord record
      match ← attempt (rules shell 0 (← get).program.rules) with
      | .ok () | .error .nextRecord => records shell times
      | .error .nextFile =>
        closeInput
        records shell times
      | .error e => leave e

/-- Whether a program does something with records. -/
def readsRecords (p : Program) : Bool :=
  p.rules.any fun r =>
    match r.pattern with
    | .start => false
    | _ => true

/-- Carries out the whole program. -/
def whole (shell : Commander) : Run Unit := do
  let isStart := fun
    | Pattern.start => true
    | _ => false
  let isFinish := fun
    | Pattern.finish => true
    | _ => false
  let r ← attempt do
    actAll shell isStart
    if readsRecords (← get).program then records shell Work.patience
  let r ← match r with
    | .ok () | .error .exited => attempt (actAll shell isFinish)
    | r => pure r
  -- what is left to be written is written even after a mistake
  let closed ← attempt closeAll
  match r, closed with
  | .error .failed, _ | _, .error _ => leave .failed
  | _, _ => return ()
where
  /-- Writes what is waiting; commands are waited for first. -/
  closeAll : Run Unit := do
    for (name, d) in (← get).drains do discard <| closeDrain name d
    flushAll

end PatternAction.Run

namespace PatternAction

/-- The variables that a program begins with. -/
def startGlobals : Std.HashMap String Binding :=
  [("FS", Value.text [' ']), ("OFS", .text [' ']), ("RS", .text ['\n']), ("ORS", .text ['\n']),
   ("SUBSEP", .text ['\x1c']), ("CONVFMT", .text "%.6g".toList), ("OFMT", .text "%.6g".toList),
   ("NR", .number .zero), ("FNR", .number .zero), ("FILENAME", .text []),
   ("RSTART", .number .zero), ("RLENGTH", .number (-.one))].foldl
    (fun globals (name, v) => globals.insert name (.scalar v)) {}

/-- The table of the variables of the surroundings. -/
def environmentTable (bindings : List (List Char × List Char)) : Table :=
  bindings.foldl (fun t (name, value) =>
    let (_, t) := t.find (.text name) name
    t.set name (.input value)) .empty

/-- The table of the arguments, which are counted from 0 on. -/
def argumentTable (args : List (List Char)) : Table :=
  (args.foldl (fun (t, n) a =>
    let (_, t) := Table.find t (.number (.ofNat n)) (digits n)
    (t.set (digits n) (.input a), n + 1)) ((.empty, 0) : Table × Nat)).1

/-- The state at the start. -/
def State.start (program : Program) (surroundings : Surroundings) (args : List (List Char)) : State :=
  { program
    surroundings
    globals := ((startGlobals.insert "ENVIRON" (.table 0)).insert "ARGV" (.table 1)).insert
      "ARGC" (.scalar (.number (.ofNat args.length)))
    locals := []
    tables := Std.HashMap.ofList [(0, environmentTable surroundings.bindings),
      (1, argumentTable args)]
    nextTable := 2
    record := []
    fields := #[]
    isSplit := false
    isStale := false
    input := none
    nextArgument := 1
    hasNamed := false
    inlets := []
    drains := []
    standard := ⟨1, none, [], 0⟩
    patterns := {}
    openRanges := []
    seed := .zero
    chance := 0
    exitCode := 0 }

/-- What a program is called with. -/
structure Call where
  separator : Option (List Char)
  assignments : List (List Char)
  files : List (List Char)
  rest : List (List Char)

/-- Reads options. -/
def Call.read (c : Call) : List (List Char) → Except String Call
  | [] => return c
  | ('-' :: '-' :: []) :: rest => return { c with rest }
  | ('-' :: letter :: value) :: rest =>
    if letter = 'F' ∨ letter = 'v' ∨ letter = 'f' ∨ letter = 'W' then do
      let add := fun (v : List Char) =>
        match letter with
        | 'F' => { c with separator := some v }
        | 'v' => { c with assignments := c.assignments ++ [v] }
        | 'f' => { c with files := c.files ++ [v] }
        | _ => c
      match value, rest with
      | [], [] => throw ("option -" ++ shown [letter] ++ " lacks argument")
      | [], v :: rest => (add v).read rest
      | v, rest => (add v).read rest
    else throw ("not an option: " ++ shown ('-' :: letter :: value))
  | rest => return { c with rest }

/-- The text of a program in files. -/
def programText (cwd : Place) : List (List Char) → Work (Except String (List Char))
  | [] => return .ok []
  | path :: rest => do
    match ← contents cwd path with
    | .error e => return .error ("cannot open \"" ++ shown path ++ "\" (" ++ e.systemText ++ ")")
    | .ok text => return (← programText cwd rest).map (text ++ '\n' :: ·)

end PatternAction

/-- Carries out a program for records. -/
def awk (shell : Commander) : Utility := fun env args => do
  let complain := fun (message : String) => do
    warn "awk" message
    return Run.mistakeCode
  match Call.read ⟨none, [], [], []⟩ args with
  | .error message => complain message
  | .ok call =>
    match ← programText env.cwd call.files with
    | .error message => complain message
    | .ok text =>
      let (text, rest) := match call.files, call.rest with
        | [], text :: rest => (text, rest)
        | _, rest => (text, rest)
      if call.files.isEmpty ∧ call.rest.isEmpty then
        discard <| Work.write 2 (Text.bytesOf
          "Usage: mawk [Options] [Program] [file ...]\n")
        return 0
      else
        match Program.ofText text with
        | .error message => complain message
        | .ok program =>
          match call.assignments.find? fun a => (Run.assignment? a).isNone with
          | some a => complain ("improper assignment: -v " ++ shown a)
          | none =>
            let start := State.start program env ("awk".toList :: rest)
            let run : PatternAction.Run Unit := do
              match call.separator with
              | some sep =>
                Run.setGlobal "FS" (.text (unquoted (sep.length + 1) sep))
              | none => pure ()
              for a in call.assignments do
                match Run.assignment? a with
                | some (name, value) => Run.assign name value
                | none => pure ()
              Run.whole shell
            let (_, s) ← run.toWork start
            return s.exitCode

end ProgramRepair.Utility
