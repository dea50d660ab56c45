import ProgramRepair.Text.Lines
import ProgramRepair.Utility.Quotation

/-!
# Errands

Programs that change the disk go on errands: they go from path to path, tell what they
have done, complain where something cannot be done, and go on. On the way they may ask
the user. Between two questions nobody else has the disk. What is told is printed at
the end, and complaints come at once.
-/

namespace ProgramRepair.Utility

/-! ## Parts of paths

A path as a text: its last name, the directory in front of that, and the directories
that it goes through.
-/

/-- A text without the slashes at its end. -/
def withoutSlashes (path : List Char) : List Char := (path.reverse.dropWhile (· = '/')).reverse

/-- The last name of a path. -/
def lastName (path : List Char) : List Char :=
  let s := withoutSlashes path
  if s.isEmpty then path.take 1 else (s.reverse.takeWhile (· ≠ '/')).reverse

/-- The directory part of a path. -/
def directoryName (path : List Char) : List Char :=
  let s := (path.reverse.dropWhile (· = '/')).dropWhile (· ≠ '/')
  match (s.dropWhile (· = '/')).reverse with
  | [] => if s.isEmpty ∧ path.head? ≠ some '/' then ['.'] else ['/']
  | s => s

/-- A path with a name behind it. -/
def inDirectory (path name : List Char) : List Char :=
  (if path.getLast? = some '/' then path else path ++ ['/']) ++ name

/-- The paths of the directories that a path goes through, and the path itself. -/
def pathStages (path : List Char) : List (List Char) :=
  let names := (Text.cut '/' path).filter (· ≠ [])
  let lead := if path.head? = some '/' then ['/'] else []
  (List.range names.length).map fun n =>
    lead ++ List.flatten ((names.take (n + 1)).intersperse ['/'])

/-- Whether a name stands for a directory itself or for the one that it is in. -/
def isDots (name : List Char) : Bool := name = ['.'] || name = ['.', '.']

/-! ## Errands -/

open Machine

/-- What has come of an errand so far. -/
structure Errand where
  disk : Disk
  /-- The rights that new files do not get. -/
  mask : Nat
  /-- What was told, the latest first. -/
  told : List String
  /-- The messages since the last question, the latest first. -/
  notes : List String
  /-- How often there was something to complain about. -/
  failures : Nat

/-- Where an errand has come to: its end, or something that has to be done before it goes on. -/
inductive Progress where
  | finished (s : Errand)
  | asking (question : String) (s : Errand) (next : Bool → Errand → Progress)
  | reading (descriptor : Nat) (s : Errand) (next : Except Disk.Error Bytes → Errand → Progress)
  | writing (descriptor : Nat) (bytes : Bytes) (s : Errand)
    (next : Except Disk.Error Unit → Errand → Progress)

/-- What has come of the errand so far. -/
def Progress.errand : Progress → Errand
  | finished s | asking _ s _ | reading _ s _ | writing _ _ s _ => s

/-- A part of an errand: it is done before what follows with its value. -/
def Errands (α : Type) : Type := (α → Errand → Progress) → Errand → Progress

namespace Errands

instance : Monad Errands where
  pure a := fun next => next a
  bind m f := fun next => m fun a => f a next

instance : MonadStateOf Errand Errands where
  get := fun next s => next s s
  set s := fun next _ => next () s
  modifyGet f := fun next s => next (f s).1 (f s).2

def disk : Errands Disk := do return (← get).disk

def setDisk (d : Disk) : Errands Unit := modify fun s => { s with disk := d }

def tell (line : String) : Errands Unit := modify fun s => { s with told := line :: s.told }

/-- Prints a message that is no complaint. -/
def remark (message : String) : Errands Unit :=
  modify fun s => { s with notes := message :: s.notes }

def complain (message : String) : Errands Unit := do
  remark message
  modify fun s => { s with failures := s.failures + 1 }

/-- Asks a question that can be answered with yes. -/
def ask (question : String) : Errands Bool := fun next s => .asking question s next

/-- Reads all that comes from a descriptor. -/
def readAll (descriptor : Nat) : Errands (Except Disk.Error Bytes) := fun next s =>
  .reading descriptor s next

/-- Writes to a descriptor. -/
def write (descriptor : Nat) (bytes : Bytes) : Errands (Except Disk.Error Unit) := fun next s =>
  .writing descriptor bytes s next

/-- Does something. The value is whether there was nothing to complain about. -/
def succeeds (m : Errands Unit) : Errands Bool := do
  let before := (← get).failures
  m
  return (← get).failures = before

/-- Changes the disk or complains. The value is whether it was changed. -/
def change (what : String) (f : Disk → Except Disk.Error Disk) : Errands Bool := do
  match f (← disk) with
  | .ok d =>
    setDisk d
    return true
  | .error e =>
    complain (what ++ ": " ++ e.systemText)
    return false

/-- The rights that are left of those that a program asks for. -/
def rights (mode : Nat) : Errands Nat := do return mode - (mode &&& (← get).mask)

/-- Says when something was last changed. -/
def setChanged (p : Place) (time : Int) : Errands Unit := do
  setDisk ((← disk).setAttributes p fun a => { a with changed := time })

end Errands

/-! ## Going on an errand -/

/-- The size of the pieces in which answers are read. -/
def answerSize : Nat := 4096

/-- The next line that is typed, where `left` was read before, and what is left after it. -/
def answerLine (left : List Char) : Nat → Work (List Char × List Char)
  | 0 => .forever
  | times + 1 => do
    if left.contains '\n' then
      return (left.takeWhile (· ≠ '\n'), (left.dropWhile (· ≠ '\n')).drop 1)
    else
      match ← Work.call (Kernel.read 0 answerSize) with
      | .ok [] | .error _ => return (left, [])
      | .ok bytes => answerLine (left ++ Text.charsOfBytes bytes) times

/-- Whether a line means yes. -/
def isYes (line : List Char) : Bool := line.head?.any fun c => c = 'y' || c = 'Y'

/-- Goes on with an errand of which there is something told and some failures so far. -/
def converse (program : String) (left : List Char) (told : List String) (failures : Nat)
    (go : Errand → Progress) : Nat → Work Nat
  | 0 => .forever
  | times + 1 => do
    let progress ← Work.call fun pid k =>
      let p := go ⟨k.disk, (k.holder pid).mask, told, [], failures⟩
      some (p, { k with disk := p.errand.disk })
    let s := progress.errand
    for note in s.notes.reverse do warn program note
    match progress with
    | .finished _ =>
      Work.call (Kernel.unread 0 left.length)
      let text := s.told.reverse.flatMap fun line => bytesChars line ++ ['\n']
      emit program text (if s.failures = 0 then 0 else 1)
    | .asking question _ next => do
      let name ← ownName program
      discard <| Work.write 2 (Text.bytesOf (name ++ ": " ++ question ++ "? "))
      let (line, left) ← answerLine left Work.patience
      converse program left s.told s.failures (next (isYes line)) times
    | .reading fd _ next => do
      let bytes ← Work.readAll fd
      converse program left s.told s.failures (next bytes) times
    | .writing fd bytes _ next => do
      let result ← Work.write fd bytes
      converse program left s.told s.failures (next result) times

/-- Runs an errand and prints what has come of it. The exit code says whether there were
complaints. -/
def runErrand (program : String) (errand : Errands Unit) : Work Nat :=
  converse program [] [] 0 (errand fun _ s => .finished s) Work.patience

end ProgramRepair.Utility
