import ProgramRepair.Machine.Task
import ProgramRepair.Machine.System
import ProgramRepair.Shell.Parser
import ProgramRepair.Shell.Value
import ProgramRepair.Text.Pattern

/-!
# The state of a shell

What a shell knows between two commands, and the kind of computation that its
commands are. A computation has a value or leaves the course of commands: out of
a loop, a function or the shell itself.
-/

namespace ProgramRepair.Shell

open Machine

/-! ## Text -/

/-- Characters that stand for bytes as the text of a path. -/
def pathText (cs : List Char) : String :=
  if cs.all (·.toNat < 0x80) then String.ofList cs
  else String.ofList (Text.decodeLossy (Text.bytesOfChars cs))

/-- A text as characters that stand for its bytes. -/
def byteChars (s : String) : List Char :=
  if s.toList.all (·.toNat < 0x80) then s.toList else Text.charsOfBytes (Text.bytesOf s)

/-! ## State -/

/-- The state of a shell. -/
structure State where
  dialect : Dialect
  bindings : List (List Char × Variable)
  /-- The name that the shell goes by in messages. -/
  name : List Char
  arguments : List (List Char)
  functions : List (List Char × Command)
  aliases : Aliases
  /-- The letters of the options that are on. -/
  options : List Char
  /-- Further options that are on, by name. -/
  settings : List String
  /-- The status of the last command. -/
  status : Nat
  cwd : Place
  /-- Actions for signals, with 0 for the end of the shell; an empty action ignores a signal. -/
  traps : List (Nat × List Char)
  shellPid : Pid
  lastBackground : Option Pid
  /-- Processes in the background that may still run. -/
  children : List Pid
  /-- Input that stands in scripts, by number. -/
  documents : List (Nat × Word)
  nextDocument : Nat
  line : Nat
  /-- How many loops the current command is in. -/
  loops : Nat
  /-- How many functions the current command is in. -/
  calls : Nat
  /-- What variables were before functions made them their own, the innermost function first. -/
  locals : List (List (List Char × Option Variable))
  /-- Whether somebody looks at the status of the current command. -/
  tested : Bool
  /-- The status of the last command whose output became part of a word. -/
  outputStatus : Option Nat
  /-- Directories to go back to, the latest first. -/
  directories : List (List Char)
  /-- Where the reading of grouped options stands in its argument. -/
  optionOffset : Nat
  /-- The command of the shell itself that is carried out, which messages name. -/
  commandName : Option (List Char)
  /-- From which the next number by chance is made. -/
  seed : Nat
  /-- Descriptors of files through which commands run that words of the current command name. -/
  channels : List Nat
  /-- The names of the functions that the current command is in, the innermost first. -/
  callers : List (List Char)
  /-- How many words the shell stands in whose commands it carries out. -/
  level : Nat
  /-- How many scripts that were called by name the current command is in. -/
  sources : Nat
  /-- What messages about the text that is carried out begin with. -/
  textName : Option (List Char)

namespace State

/-- The value of a variable. -/
def valueOf? (s : State) (name : List Char) : Option (List Char) :=
  (s.bindings.lookup name).bind (·.text?)

/-- A list of pairs with one value replaced or added. -/
def assign [BEq κ] (key : κ) (value : α) : List (κ × α) → List (κ × α)
  | [] => [(key, value)]
  | (k, v) :: rest => if k == key then (key, value) :: rest else (k, v) :: assign key value rest

/-- Whether an option is on. -/
def isOn (s : State) (option : Char) : Bool := s.options.contains option

/-- Sets a variable without looking whether that is allowed. -/
def setVariable (s : State) (name value : List Char) : State :=
  let old := (s.bindings.lookup name).getD .unset
  let exported := old.exported || s.isOn 'a'
  let value := some (Value.withText old.value value)
  { s with bindings := assign name { old with value, exported } s.bindings }

/-- Gives a variable a value as a whole without looking whether that is allowed. -/
def setValue (s : State) (name : List Char) (value : Value) : State :=
  let old := (s.bindings.lookup name).getD .unset
  { s with bindings := assign name { old with value := some value } s.bindings }

/-- Whether the shell understands the extended language. -/
def isExtended (s : State) : Bool := s.dialect = .extended

/-- Whether a variable must not be changed. -/
def isReadOnly (s : State) (name : List Char) : Bool :=
  (s.bindings.lookup name).any (·.readOnly)

/-- The characters that separate fields. -/
def separators (s : State) : List Char := (s.valueOf? "IFS".toList).getD [' ', '\t', '\n']

/-- The variables that programs get. -/
def environment (s : State) : List (List Char × List Char) :=
  s.bindings.filterMap fun (name, v) =>
    if v.exported then v.text?.map fun value => (name, value) else none

/-- A shell in a directory with some variables. -/
def start (dialect : Dialect) (name : List Char) (arguments : List (List Char)) (cwd : Place)
    (pid : Pid) (environment : List (List Char × List Char)) : State where
  dialect := dialect
  bindings := environment.map fun (name, value) => (name, ⟨some (.text value), true, false, .plain⟩)
  name := name
  arguments := arguments
  functions := []
  aliases := []
  options := []
  settings := []
  status := 0
  cwd := cwd
  traps := []
  shellPid := pid
  lastBackground := none
  children := []
  documents := []
  nextDocument := 0
  line := 1
  loops := 0
  calls := 0
  locals := []
  tested := false
  outputStatus := none
  directories := []
  optionOffset := 0
  commandName := none
  seed := pid
  channels := []
  callers := []
  level := 0
  sources := 0
  textName := none

/-- What messages of a shell begin with: its name and the number of the line. -/
def lead (s : State) : List Char :=
  let number := numeral s.line
  match s.dialect with
  | .common => s.name ++ ": ".toList ++ number ++ ": ".toList
  | .extended =>
    let isGiven := s.settings.contains "commands" && !s.callers.isEmpty
    (if isGiven then "environment".toList else s.name) ++ ": line ".toList ++ number ++ ": ".toList

end State

/-! ## Computations -/

/-- How a computation leaves the course of commands. -/
inductive Flow where
  /-- Out of this many loops. -/
  | broken (loops : Nat)
  /-- To the next round of a loop, out of this many loops inside it. -/
  | continued (loops : Nat)
  /-- Out of the function. -/
  | returned
  /-- Out of the shell. -/
  | exited
  /-- To the next line of the script. -/
  | discarded
  /-- Out of a script that cannot be read. -/
  | misread
deriving DecidableEq, Repr

/-- A computation of a shell. -/
abbrev Sh (α : Type) : Type 1 := Course State Flow α

namespace Sh

export Course (leave attempt resume work call tick)

def setStatus (n : Nat) : Sh Unit := modify fun s => { s with status := n }

/-- Runs a computation while somebody looks at its status. -/
def tested (m : Sh α) : Sh α := do
  let before := (← get).tested
  modify fun s => { s with tested := true }
  let r ← attempt m
  modify fun s => { s with tested := before }
  resume r

/-! ## Output -/

/-- Writes text to a descriptor. -/
def print (fd : Nat) (text : List Char) : Sh (Except Disk.Error Unit) :=
  work (.write fd (Text.bytesOfChars text))

/-- Writes a message with the name of the shell, the number of the line and the name of the command
of the shell that is carried out. -/
def complain (message : String) : Sh Unit := do
  let s ← get
  let command := match s.commandName with
    | some name => name ++ [':', ' ']
    | none => []
  discard <| print 2 (s.lead ++ command ++ byteChars message ++ ['\n'])

/-- Writes a message in which the extended language names no command of the shell. -/
def complainPlainly (message : String) : Sh Unit := do
  let s ← get
  if s.isExtended then discard <| print 2 (s.lead ++ byteChars message ++ ['\n'])
  else complain message

/-- Chooses what fits the language of the shell. -/
def inDialect (common extended : α) : Sh α := do
  return if (← get).isExtended then extended else common

/-- Ends the shell with a message. -/
def failShell (message : String) (status : Nat) : Sh α := do
  complain message
  setStatus status
  leave .exited

/-- Ends the shell with a message about a word that cannot be expanded. -/
def failWord (common extended : String) (status : Nat) : Sh α := do
  if (← get).isExtended then
    complainPlainly extended
    setStatus (if (← get).settings.contains "commands" then status else 1)
  else
    complain common
    setStatus 2
  leave .exited

/-- Ends the shell with a message or, in the extended language, only the current line. -/
def failLine (common extended : String) : Sh α := do
  if (← get).isExtended then
    complain extended
    setStatus 1
    leave .discarded
  else failShell common 2

/-! ## Variables -/

/-- Says that a variable must not be changed. -/
def failReadOnly (name : String) : Sh α := do
  let s ← get
  if s.isExtended then
    let declares := s.commandName.any fun c => ["declare", "local"].contains (String.ofList c)
    if declares then complain (name ++ ": readonly variable")
    else complainPlainly (name ++ ": readonly variable")
    setStatus 1
    leave .discarded
  else failShell (name ++ ": is read only") 2

/-- Sets an element of an array or a table, which must not be protected. -/
def setElement (name : List Char) (key : Key) (value : List Char) : Sh Unit := do
  let s ← get
  if s.isReadOnly name then
    let name := String.ofList name
    failReadOnly name
  else
    let old := ((s.bindings.lookup name).bind (·.value)).getD (.array [])
    set (s.setValue name (old.insert key value))

/-- Sets a variable, which must not be protected. -/
def setVariable (name value : List Char) : Sh Unit := do
  if (← get).isReadOnly name then
    let name := String.ofList name
    failReadOnly name
  else modify fun s => s.setVariable name value

end Sh

end ProgramRepair.Shell
