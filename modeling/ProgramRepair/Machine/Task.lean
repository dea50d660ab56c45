import ProgramRepair.Machine.Kernel

/-!
# Tasks

A task is what a process has still to do: it ends, or it makes a call, sleeps or
starts another process and goes on with what it learns from that. Between two of
these steps any other process may run. `Work` is for writing tasks in order: a
computation that hands its value to the rest of the task.
-/

namespace ProgramRepair.Machine

/-- What a process has still to do. -/
inductive Task : Type 1 where
  /-- End with an exit code. -/
  | done (code : Nat)
  /-- Make a call, as soon as it can be answered. -/
  | call {α : Type} (operation : Call α) (next : α → Task)
  /-- Let time pass. -/
  | sleep (nanoseconds : Nat) (next : Unit → Task)
  /-- Start another process, which gets a copy of all descriptors. -/
  | spawn (child : Unit → Task) (next : Pid → Task)

/-- A computation by a process with a value of type `α`. -/
def Work (α : Type) : Type 1 := (α → Task) → Task

namespace Work

instance : Monad Work where
  pure a := fun k => k a
  bind m f := fun k => m fun a => f a k

/-- Makes a call. -/
def call (operation : Call α) : Work α := fun k => .call operation k

/-- Ends the process. -/
def exit (code : Nat) : Work α := fun _ => .done code

/-- Lets time pass. -/
def sleep (nanoseconds : Nat) : Work Unit := fun k => .sleep nanoseconds k

/-- Starts another process. -/
def spawn (child : Work Nat) : Work Pid := fun k => .spawn (fun _ => child .done) k

/-- Waits for something that never happens. -/
def forever : Work α := fun k => .call (fun _ _ => none) k

/-- Opens a file. A named pipe is open once both of its ends are. -/
def openFile (cwd : Place) (path : String) (mode : Kernel.Mode) : Work (Except Disk.Error Nat) := do
  match ← call (Kernel.openFile cwd path mode) with
  | .ok (fd, isEnd) =>
    if isEnd then call (Kernel.meet fd)
    return .ok fd
  | .error e => return .error e

/-- The task of a computation of an exit code. -/
def task (m : Work Nat) : Task := m .done

/-- How often a loop in a process goes round before it counts as endless. No process comes that
far before its deadline. -/
def patience : Nat := Nat.pow 10 12

/-! ## Whole inputs and outputs -/

/-- The size of the pieces in which bytes are read. -/
def blockSize : Nat := 65536

/-- Writes bytes until none are left, or up to the first failure. -/
def writeRest (fd : Nat) : Nat → Bytes → Work (Except Disk.Error Unit)
  | 0, _ => forever
  | times + 1, bytes => do
    if bytes.isEmpty then return .ok ()
    else
      match ← call (Kernel.write fd bytes) with
      | .ok rest => writeRest fd times rest
      | .error e => return .error e

/-- Writes some bytes. -/
def write (fd : Nat) (bytes : Bytes) : Work (Except Disk.Error Unit) :=
  writeRest fd patience bytes

/-- Reads pieces until there are no more; those before, the latest first, are in `before`. -/
def readPieces (fd : Nat) (before : List Bytes) : Nat → Work (Except Disk.Error (List Bytes))
  | 0 => forever
  | times + 1 => do
    match ← call (Kernel.read fd blockSize) with
    | .ok [] => return .ok before
    | .ok bytes => readPieces fd (bytes :: before) times
    | .error e => return .error e

/-- Reads all that is to come. -/
def readAll (fd : Nat) : Work (Except Disk.Error Bytes) := do
  return (← readPieces fd [] patience).map fun latestFirst => latestFirst.reverse.flatten

end Work

/-! ## Courses of action

A process that carries out a program of some language has a state besides its
task, and may leave the course that it is on: out of a loop, a function or all of
it. A `Course` is a computation of such a process. It has a value or leaves, and
in both cases it hands on the state.
-/

/-- A computation with a state of type `σ` that can be left in ways of type `ε`. -/
def Course (σ ε α : Type) : Type 1 := σ → (Except ε α → σ → Task) → Task

namespace Course

variable {σ ε α : Type}

instance : Monad (Course σ ε) where
  pure a := fun s k => k (.ok a) s
  bind m f := fun s k => m s fun r s =>
    match r with
    | .ok a => f a s k
    | .error e => k (.error e) s

instance : MonadStateOf σ (Course σ ε) where
  get := fun s k => k (.ok s) s
  set s := fun _ k => k (.ok ()) s
  modifyGet f := fun s k =>
    let (a, s) := f s
    k (.ok a) s

/-- Leaves the course. -/
def leave (e : ε) : Course σ ε α := fun s k => k (.error e) s

/-- Takes a course and says how it went. -/
def attempt (m : Course σ ε α) : Course σ ε (Except ε α) := fun s k => m s fun r s => k (.ok r) s

/-- Goes on as a course went. -/
def resume (r : Except ε α) : Course σ ε α := fun s k => k r s

/-- Work of the process. -/
def work (m : Work α) : Course σ ε α := fun s k => m fun a => k (.ok a) s

/-- Makes a call. -/
def call (operation : Call α) : Course σ ε α := work (.call operation)

/-- Opens a file. -/
def openFile (cwd : Place) (path : String) (mode : Kernel.Mode) :
    Course σ ε (Except Disk.Error Nat) := work (Work.openFile cwd path mode)

/-- Lets the time of an instant pass. -/
def tick : Course σ ε Unit := call fun _ k => some ((), k)

/-- The work that a course is from some state on. -/
def toWork (m : Course σ ε α) (s : σ) : Work (Except ε α × σ) := fun next =>
  m s fun r s => next (r, s)

end Course

end ProgramRepair.Machine
