import ProgramRepair.Machine.Task
import ProgramRepair.Utility.PatternAction.Fields
import ProgramRepair.Utility.PatternAction.Value

/-!
# The state of a program of patterns and actions

Variables and tables, the record with its fields, and the files and commands that
records come from and texts go to. The fields of a record are found when they are
asked for, and the record is put together again when one of them was changed.
-/

namespace ProgramRepair.Utility.PatternAction

open Machine

/-! ## State -/

/-- What a name of a variable stands for. -/
inductive Binding where
  | scalar (v : Value)
  /-- Nothing yet; if it is used as a table, it is the one with this number. -/
  | open_ (table : Nat)
  | table (number : Nat)

/-- Where records come from. -/
structure Inlet where
  fd : Nat
  /-- The process that writes, if it is a command. -/
  pid : Option Pid
  /-- What was read and not used yet. -/
  rest : List Char
  ended : Bool

/-- Where texts go to. -/
structure Drain where
  fd : Nat
  /-- The process that reads, if it is a command. -/
  pid : Option Pid
  /-- What was not written yet, in reverse order, and its size. -/
  waiting : List (List Char)
  size : Nat

/-- The state of a program that is carried out. -/
structure State where
  program : Program
  surroundings : Surroundings
  globals : Std.HashMap String Binding
  /-- The parameters of the function that is carried out. -/
  locals : List (Name × Binding)
  tables : Std.HashMap Nat Table
  nextTable : Nat
  record : List Char
  fields : Array Value
  /-- Whether the fields belong to the record. -/
  isSplit : Bool
  /-- Whether a field was changed after the record was put together. -/
  isStale : Bool
  /-- The input that the rules are carried out for. -/
  input : Option Inlet
  /-- The next argument that may name an input. -/
  nextArgument : Nat
  /-- Whether an argument has named an input. -/
  hasNamed : Bool
  inlets : List (List Char × Inlet)
  drains : List (List Char × Drain)
  standard : Drain
  patterns : Std.HashMap String Regex
  /-- The ranges that are open, by the numbers of their rules. -/
  openRanges : List Nat
  seed : Binary64
  chance : Nat
  exitCode : Nat

/-- How an action leaves its course. -/
inductive Flow where
  | broken
  | continued
  | returned (v : Value)
  | nextRecord
  | nextFile
  | exited
  /-- The whole program ends because of a mistake. -/
  | failed

/-- What carries out command lines. -/
abbrev Commander := Surroundings → (command : List Char) → Work Nat

/-- A computation of a program. -/
abbrev Run (α : Type) : Type 1 := Course State Flow α

namespace Run

export Course (leave attempt resume work call)

/-! ## Messages -/

/-- The name of the program in messages. -/
def programName : String := "awk"

/-- The exit code after a mistake. -/
def mistakeCode : Nat := 2

/-- Gives up with a message. -/
def giveUp (message : String) : Run α := do
  work (warn programName message)
  modify fun s => { s with exitCode := mistakeCode }
  leave .failed

/-- The value of a variable that no function hides. -/
def global (s : State) (name : String) : Value :=
  match s.globals[name]? with
  | some (.scalar v) => v
  | _ => .unset

/-- A variable that no function hides, as a text. -/
def globalText (s : State) (name : String) : List Char :=
  (global s name).toText "%.6g".toList

/-- Gives up with a message that says where in the input that was. -/
def fail (message : String) : Run α := do
  let s ← get
  let place := "\n\tFILENAME=\"" ++ shown (globalText s "FILENAME") ++ "\" FNR=" ++
    shown (globalText s "FNR") ++ " NR=" ++ shown (globalText s "NR")
  giveUp ("run time error: " ++ message ++ place)

/-! ## Variables -/

/-- The format of numbers that are used as texts. -/
def numberFormat : Run (List Char) := return globalText (← get) "CONVFMT"

/-- A value as a text. -/
def textOf (v : Value) : Run (List Char) := do
  match v with
  | .text s | .input s => return s
  | v => return v.toText (← numberFormat)

/-- What a name stands for. -/
def binding (name : Name) : Run Binding := do
  let s ← get
  match s.locals.lookup name with
  | some b => return b
  | none => return (s.globals[String.ofList name]?).getD (.scalar .unset)

/-- Makes a name stand for something else. -/
def bind (name : Name) (b : Binding) : Run Unit :=
  modify fun s =>
    if (s.locals.lookup name).isSome then
      { s with locals := s.locals.map fun (n, old) => if n = name then (n, b) else (n, old) }
    else { s with globals := s.globals.insert (String.ofList name) b }

/-- Sets a variable that no function hides. -/
def setGlobal (name : String) (v : Value) : Run Unit :=
  modify fun s => { s with globals := s.globals.insert name (.scalar v) }

/-- Makes an empty table. -/
def newTable : Run Nat :=
  modifyGet fun s => (s.nextTable, { s with nextTable := s.nextTable + 1 })

/-- The table that a name stands for, which is made if there is none. -/
def tableOf (name : Name) : Run Nat := do
  match ← binding name with
  | .table id => return id
  | .open_ id =>
    bind name (.table id)
    modify fun s =>
      if s.tables.contains id then s else { s with tables := s.tables.insert id .empty }
    return id
  | .scalar .unset =>
    let id ← newTable
    bind name (.table id)
    modify fun s => { s with tables := s.tables.insert id .empty }
    return id
  | .scalar _ => giveUp ("line 1: illegal reference to variable " ++ shown name)

/-- Asks a table something, and keeps what it becomes. -/
def withTable (id : Nat) (f : Table → α × Table) : Run α :=
  modifyGet fun s =>
    let t := (s.tables[id]?).getD .empty
    -- the table leaves the state while it changes
    let s := { s with tables := s.tables.erase id }
    let (a, t) := f t
    (a, { s with tables := s.tables.insert id t })

/-! ## Records -/

/-- The expression that a text stands for. -/
def patternFor (text : List Char) : Run Regex := do
  match (← get).patterns[String.ofList text]? with
  | some r => return r
  | none =>
    match patternOf text with
    | .ok r =>
      modify fun s => { s with patterns := s.patterns.insert (String.ofList text) r }
      return r
    | .error message => fail message

/-- The separator that a text stands for. -/
def separatorFor (text : List Char) : Run Separator := do
  if text.length ≤ 1 then return (Separator.ofText text).toOption.getD .blanks
  else return .pattern (← patternFor text)

/-- Puts the record together if a field was changed. -/
def join : Run (List Char) := do
  let s ← get
  if !s.isStale then return s.record
  else
    let format ← numberFormat
    let texts := s.fields.toList.map (·.toText format)
    let record := List.flatten (texts.intersperse (globalText s "OFS"))
    modify fun s => { s with record, isStale := false }
    return record

/-- Finds the fields of the record. -/
def split : Run Unit := do
  let s ← get
  if !s.isSplit then
    let sep ← separatorFor (globalText s "FS")
    let fields := (splitFields sep s.record).map Value.input
    modify fun s => { s with fields := fields.toArray, isSplit := true }

/-- The number of fields. -/
def fieldCount : Run Nat := do
  split
  return (← get).fields.size

/-- Sets the record. -/
def setRecord (text : List Char) : Run Unit :=
  modify fun s => { s with record := text, fields := #[], isSplit := false, isStale := false }

/-- A field by its number. -/
def field (n : Nat) : Run Value := do
  if n = 0 then return .input (← join)
  else
    split
    return ((← get).fields[n - 1]?).getD .unset

/-- Changes the number of fields. -/
def setFieldCount (n : Nat) : Run Unit := do
  split
  modify fun s =>
    let fields := (s.fields.toList.take n).toArray
    let missing := n - fields.size
    { s with fields := fields ++ Array.replicate missing .unset, isStale := true }

/-- Sets a field. -/
def setField (n : Nat) (v : Value) : Run Unit := do
  if n = 0 then setRecord (← textOf v)
  else
    split
    let size := (← get).fields.size
    if size < n then setFieldCount n
    modify fun s => { s with fields := s.fields.setIfInBounds (n - 1) v, isStale := true }

/-- The largest number of a field. -/
def fieldLimit : Nat := 10000000

/-- The number of a field. -/
def fieldNumber (v : Value) : Run Nat := do
  let n := truncated v.toNumber
  if n < 0 then fail ("negative field index $" ++ toString n)
  else return min n.toNat fieldLimit

/-- The value of a variable. -/
def valueOf (name : Name) : Run Value := do
  if name = "NF".toList then return .number (.ofNat (← fieldCount))
  else
    match ← binding name with
    | .scalar v => return v
    | .open_ _ => return .unset
    | .table _ => giveUp ("line 1: illegal reference to array " ++ shown name)

/-- Sets a variable. -/
def setVariable (name : Name) (v : Value) : Run Unit := do
  if name = "NF".toList then
    let n := truncated v.toNumber
    if n < 0 then fail "negative value assigned to NF" else setFieldCount n.toNat
  else
    if name = "FS".toList then split
    match ← binding name with
    | .table _ => giveUp ("line 1: illegal reference to array " ++ shown name)
    | _ => bind name (.scalar v)

/-! ## Output -/

/-- What is said about a file that cannot be written to. -/
def closeProblem (name : List Char) (e : Disk.Error) : String :=
  "close failed on file \"" ++ shown name ++ "\" (" ++ e.systemText ++ ")"

/-- The name of the standard output. -/
def standardName : List Char := "/dev/stdout".toList

/-- Writes what is waiting. -/
def flushDrain (name : List Char) (d : Drain) : Run Drain := do
  let text := d.waiting.reverse.flatten
  if text.isEmpty then return d
  else
    match ← work (Work.write d.fd (Text.bytesOfChars text)) with
    | .ok () => return { d with waiting := [], size := 0 }
    | .error e =>
      modify fun s => { s with
        standard := if name = standardName then { s.standard with waiting := [] } else s.standard }
      giveUp (closeProblem name e)

/-- Adds a text to a drain, which is written when there is enough of it. -/
def putDrain (name : List Char) (d : Drain) (text : List Char) : Run Drain := do
  let d := { d with waiting := text :: d.waiting, size := d.size + text.length }
  if Kernel.pieceSize ≤ d.size then flushDrain name d else return d

/-- Prints to the standard output. -/
def putStandard (text : List Char) : Run Unit := do
  let d ← putDrain standardName (← get).standard text
  modify fun s => { s with standard := d }

/-- Writes all that is waiting. -/
def flushAll : Run Unit := do
  let d ← flushDrain standardName (← get).standard
  modify fun s => { s with standard := d }
  for (name, drain) in (← get).drains do
    let drain ← flushDrain name drain
    modify fun s => { s with drains := s.drains.map fun (n, d) => (n, if n = name then drain else d) }

/-- The descriptors that a command does not get. -/
def ownDescriptors (s : State) : List Nat :=
  s.inlets.map (·.2.fd) ++ s.drains.map (·.2.fd) ++ (s.input.map (·.fd)).toList

/-- Starts a command with a descriptor in the place of another one. -/
def start (shell : Commander) (command : List Char) (given : Option (Nat × Nat))
    (unused : List Nat) : Run Pid := do
  let s ← get
  let unused := unused ++ (ownDescriptors s).filter (3 ≤ ·)
  work <| .spawn do
    match given with
    | some (fd, target) => discard <| Work.call (Kernel.duplicate fd target)
    | none => pure ()
    for fd in unused do Work.call (Kernel.close fd)
    shell s.surroundings command

/-- What the ending of a command counts as. -/
def endingValue : Option (Pid × Machine.Ending) → Nat
  | some (_, .exited code) => code
  | some (_, .signalled n) => 256 + n
  | none => 0

/-- Waits for a command. -/
def await (pid : Pid) : Run Nat := return endingValue (← call (Kernel.awaitAny [pid]))

/-- The drain with a name, which is opened if it is not. -/
def drainFor (shell : Commander) (outlet : Outlet) (name : List Char) : Run Drain := do
  match (← get).drains.lookup name with
  | some d => return d
  | none =>
    match outlet with
    | .file append =>
      let cwd := (← get).surroundings.cwd
      match ← Course.openFile cwd (shown name) (if append then .appending else .writing) with
      | .ok fd => return ⟨fd, none, [], 0⟩
      | .error e =>
        giveUp ("cannot open \"" ++ shown name ++ "\" for output (" ++ e.systemText ++ ")")
    | .command =>
      flushAll
      let (r, w) ← call Kernel.pipe
      let pid ← start shell name (some (r, 0)) [r, w]
      call (Kernel.close r)
      return ⟨w, some pid, [], 0⟩

/-- Prints a text. -/
def putText (shell : Commander) (sink : Option (Outlet × List Char)) (text : List Char) : Run Unit := do
  match sink with
  | none => putStandard text
  | some (outlet, name) =>
    let isFile : Bool := outlet ≠ .command
    if isFile && (name = standardName || name = ['-']) then putStandard text
    else if isFile && name = "/dev/stderr".toList then
      discard <| work (Work.write 2 (Text.bytesOfChars text))
    else
      let d ← drainFor shell outlet name
      let others := (← get).drains.filter (·.1 ≠ name)
      let d ← putDrain name d text
      modify fun s => { s with drains := (name, d) :: others }

/-- Closes a drain. -/
def closeDrain (name : List Char) (d : Drain) : Run Nat := do
  modify fun s => { s with drains := s.drains.filter (·.1 ≠ name) }
  let d ← flushDrain name d
  call (Kernel.close d.fd)
  match d.pid with
  | some pid => await pid
  | none => return 0

/-- Closes a source of records. -/
def closeInlet (name : List Char) (i : Inlet) : Run Nat := do
  modify fun s => { s with inlets := s.inlets.filter (·.1 ≠ name) }
  if i.fd ≠ 0 then call (Kernel.close i.fd)
  match i.pid with
  | some pid => await pid
  | none => return 0

/-- Closes what has a name. -/
def closeNamed (name : List Char) : Run Int := do
  let s ← get
  match s.drains.lookup name, s.inlets.lookup name with
  | some d, _ => return (← closeDrain name d)
  | none, some i => return (← closeInlet name i)
  | none, none => return -1

/-! ## Input -/

/-- Takes the next record. -/
def take (ending : Ending) (i : Inlet) : Nat → Work (Except Disk.Error (Option (List Char) × Inlet))
  | 0 => .forever
  | times + 1 => do
    let ready := i.ended || !ending.needsAll
    match if ready then nextRecord? ending i.ended i.rest else none with
    | some (record, rest) => return .ok (some record, { i with rest })
    | none =>
      if i.ended then return .ok (none, i)
      else
        match ← Work.call (Kernel.read i.fd Kernel.pieceSize) with
        | .ok [] => take ending { i with ended := true } times
        | .ok bytes => take ending { i with rest := i.rest ++ Text.charsOfBytes bytes } times
        | .error e => return .error e

/-- What stands behind records now. -/
def recordEnding : Run Ending := do
  let text := globalText (← get) "RS"
  if text.length ≤ 1 then return (Ending.ofText text).toOption.getD (.char '\n')
  else return .pattern (← patternFor text)

/-- Takes the next record of a source. -/
def takeRecord (i : Inlet) : Run (Option (List Char) × Inlet) := do
  match ← work (take (← recordEnding) i Work.patience) with
  | .ok r => return r
  | .error e => giveUp ("read error (" ++ e.systemText ++ ")")

/-- An assignment that an argument is. -/
def assignment? (arg : List Char) : Option (Name × List Char) :=
  let name := arg.takeWhile isNameChar
  match arg.drop name.length with
  | '=' :: value => if name.head?.any isNameStart then some (name, value) else none
  | _ => none

/-- Carries out an assignment that an argument is. -/
def assign (name : Name) (value : List Char) : Run Unit :=
  setVariable name (.input (unquoted (value.length + 1) value))

/-- Opens the next input that the arguments name. -/
def openInput : Nat → Run (Option Inlet)
  | 0 => return none
  | fuel + 1 => do
    let s ← get
    let count := (truncated (global s "ARGC").toNumber).toNat
    if count ≤ s.nextArgument then
      if s.hasNamed then return none
      else
        modify fun s => { s with hasNamed := true }
        setGlobal "FILENAME" (.text ['-'])
        return some ⟨0, none, [], false⟩
    else
      modify fun s => { s with nextArgument := s.nextArgument + 1 }
      let key := digits s.nextArgument
      let id ← tableOf "ARGV".toList
      let arg ← withTable id fun t => (t.get key, t)
      let arg ← textOf arg
      match assignment? arg with
      | some (name, value) =>
        assign name value
        openInput fuel
      | none =>
        if arg.isEmpty then openInput fuel
        else
          modify fun s => { s with hasNamed := true }
          setGlobal "FNR" (.number .zero)
          if arg = ['-'] ∨ arg = "/dev/stdin".toList then
            setGlobal "FILENAME" (.text arg)
            return some ⟨0, none, [], false⟩
          else
            match ← Course.openFile s.surroundings.cwd (shown arg) .reading with
            | .ok fd =>
              setGlobal "FILENAME" (.text arg)
              return some ⟨fd, none, [], false⟩
            | .error e =>
              giveUp ("cannot open \"" ++ shown arg ++ "\" (" ++ e.systemText ++ ")")

/-- Leaves the input that is open. -/
def closeInput : Run Unit := do
  match (← get).input with
  | some i => if i.fd ≠ 0 then call (Kernel.close i.fd)
  | none => pure ()
  modify fun s => { s with input := none }

/-- Adds one to a variable. -/
def countUp (name : String) : Run Unit := do
  let n := (global (← get) name).toNumber
  setGlobal name (.number (n + .one))

/-- The next record of the input that the rules are carried out for. -/
def nextInput : Nat → Run (Option (List Char))
  | 0 => return none
  | fuel + 1 => do
    match (← get).input with
    | none =>
      match ← openInput (fuel + 1) with
      | none => return none
      | some i =>
        modify fun s => { s with input := some i }
        nextInput fuel
    | some i =>
      match ← takeRecord i with
      | (some record, i) =>
        modify fun s => { s with input := some i }
        countUp "NR"
        countUp "FNR"
        return some record
      | (none, _) =>
        closeInput
        nextInput fuel

/-- The next record of an input that is opened under a name. There is no value if it cannot be
opened. -/
def nextOf (name : List Char) (opened : Run (Option Inlet)) :
    Run (Option (Option (List Char))) := do
  let inlet ← match (← get).inlets.lookup name with
    | some i => pure (some i)
    | none => opened
  match inlet with
  | none => return none
  | some i =>
    let (record, i) ← takeRecord i
    modify fun s => { s with inlets := (name, i) :: s.inlets.filter (·.1 ≠ name) }
    return some record

/-- Opens a file for records. -/
def openFile (name : List Char) : Run (Option Inlet) := do
  if name = ['-'] ∨ name = "/dev/stdin".toList then return some ⟨0, none, [], false⟩
  else
    match ← Course.openFile (← get).surroundings.cwd (shown name) .reading with
    | .ok fd => return some ⟨fd, none, [], false⟩
    | .error _ => return none

/-- Starts a command for records. -/
def openCommand (shell : Commander) (command : List Char) : Run (Option Inlet) := do
  flushAll
  let (r, w) ← call Kernel.pipe
  let pid ← start shell command (some (w, 1)) [r, w]
  call (Kernel.close w)
  return some ⟨r, some pid, [], false⟩

end Run

end ProgramRepair.Utility.PatternAction
