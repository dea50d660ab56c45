import ProgramRepair.Command.Basic
import ProgramRepair.Machine.System

/-!
# Captured output

The output of a command is read while the command runs. Reading goes on until
the command has ended and both outputs are closed, or until the deadline; then
whatever is left of the command is killed and the outputs are read to their ends
for a short time of grace. `Capture.step` says what each event changes and `ofRun`
lists the events of a run in their order.
-/

namespace ProgramRepair

open Machine

namespace Capture

/-- What can happen while output is read. -/
inductive Event where
  | chunk (port : Port) (bytes : Bytes)
  | endOfOutput (port : Port)
  | ended (e : Ending)
  | deadline
  | graceOver
deriving DecidableEq, Repr

/-- Where reading has come. -/
inductive Stage where
  | reading
  /-- Everything is killed, and the rest is read. -/
  | draining
  | finished
deriving DecidableEq, Repr

/-- What was read so far, the latest chunk first. -/
structure State where
  stage : Stage
  stdout : List Bytes
  stderr : List Bytes
  stdoutOpen : Bool
  stderrOpen : Bool
  /-- How the command ended, if it did so before its deadline. -/
  ending : Option Ending
deriving DecidableEq, Repr

/-- Nothing was read yet. -/
def start : State := ⟨.reading, [], [], true, true, none⟩

/-- Adds a chunk to one of the outputs, unless that is closed. -/
def State.add (s : State) (port : Port) (bytes : Bytes) : State :=
  match port with
  | .stdout => if s.stdoutOpen then { s with stdout := bytes :: s.stdout } else s
  | .stderr => if s.stderrOpen then { s with stderr := bytes :: s.stderr } else s

/-- Closes one of the outputs. -/
def State.close (s : State) (port : Port) : State :=
  match port with
  | .stdout => { s with stdoutOpen := false }
  | .stderr => { s with stderrOpen := false }

/-- Goes on to the next stage when there is nothing more to read. -/
def State.settle (s : State) : State :=
  let closed := !s.stdoutOpen && !s.stderrOpen
  match s.stage with
  | .reading => if closed && s.ending.isSome then { s with stage := .finished } else s
  | .draining => if closed then { s with stage := .finished } else s
  | .finished => s

/-- What an event changes. -/
def step (s : State) (e : Event) : State :=
  match s.stage, e with
  | .finished, _ => s
  | _, .chunk port bytes => s.add port bytes
  | _, .endOfOutput port => (s.close port).settle
  | .reading, .ended e => State.settle { s with ending := some e }
  | .draining, .ended _ => s
  | .reading, .deadline => { s with stage := .draining }
  | .draining, .deadline => s
  | .reading, .graceOver => s
  | .draining, .graceOver => { s with stage := .finished }

/-- The exit code of a command that was not ended by a signal. -/
def codeOf : Ending → Option Int
  | .exited code => some code
  | .signalled _ => none

/-- Bytes as text. -/
def textOf (latestFirst : List Bytes) : String :=
  String.ofList (Text.decodeLossy latestFirst.reverse.flatten)

/-- The output of a command that was read. -/
def State.output (s : State) (elapsed : Duration) : CommandOutput where
  stdout := textOf s.stdout
  stderr := textOf s.stderr
  returnCode := s.ending.bind codeOf
  timedOut := s.ending.isNone
  elapsed := elapsed

/-- The events of a run, in order. -/
def ofRun (s : System) : List Event :=
  let chunks := s.kernel.seen.reverse.map fun (_, port, bytes) => Event.chunk port bytes
  let ending := (s.mainEnding.map fun (_, e) => Event.ended e).toList
  let closing := [Event.endOfOutput .stdout, Event.endOfOutput .stderr]
  if s.isOver then chunks ++ ending ++ closing
  else chunks ++ ending ++ [.deadline] ++ closing ++ [.graceOver]

end Capture

/-- The first number of nanoseconds after which there is no deadline any more. -/
def deadlineLimit : Nat := (Nat.pow 2 63 - Nat.pow 2 20) * Duration.perSecond

/-- Runs the task of a command line on a machine until its deadline. The task is made for the
place of the directory. -/
def capture (taskOf : List Char → Place → Task) : Executor := fun command cwd timeout here disk =>
  if deadlineLimit ≤ timeout.nanoseconds then .error .deadlineRange
  else if '\x00' ∈ command.toList ∨ '\x00' ∈ cwd.toList then .ok (.error .nulInCommand, disk)
  else
    match disk.find here cwd with
    | .error e => .ok (.error e, disk)
    | .ok (place, .directory _) =>
      let s := System.run timeout.nanoseconds disk (taskOf command.toList place)
      let elapsed := if s.isOver then ⟨s.kernel.clock⟩ else timeout
      let out := ((Capture.ofRun s).foldl Capture.step Capture.start).output elapsed
      .ok (.ok out, { s.kernel.disk with nameless := [] })
    | .ok _ => .ok (.error .notDirectory, disk)

end ProgramRepair
