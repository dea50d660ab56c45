import ProgramRepair.Machine.Task

/-!
# A machine that runs processes

Time on the machine is counted, not measured: every call takes an instant, the
start of a process a little longer, a write as long as it has bytes, and sleep as
long as it says. The next step
is taken by the process whose time comes first. One whose call cannot be
answered waits until another process has done something. A run ends at its
deadline, or when its first process has ended and no process can write to a port
any more.
-/

namespace ProgramRepair.Machine

/-- A process and when it goes on. -/
structure Process : Type 1 where
  pid : Pid
  /-- The time of its next step. -/
  wake : Nat
  /-- Whether it has to wait for another process to do something. -/
  waiting : Bool
  /-- Whether a signal has stopped it. -/
  stopped : Bool
  task : Task

/-- A machine. -/
structure System : Type 1 where
  kernel : Kernel
  processes : List Process
  /-- How the first process ended, and when. -/
  mainEnding : Option (Nat × Ending)

namespace System

/-- The time that a call takes. -/
def instant : Nat := 4000

/-- The time that it takes to start a process. -/
def startTime : Nat := 200000

/-- The first process. -/
def mainPid : Pid := 100

/-! ## Endings and signals -/

/-- Ends a process: what it holds is closed. -/
def finish (s : System) (pid : Pid) (e : Ending) : System :=
  let k := s.kernel
  let k := { k with
    holders := unassign pid k.holders
    endings := assign pid e k.endings }
  { s with
    kernel := k.dropUnheld
    processes := s.processes.filter (·.pid ≠ pid)
    mainEnding := if pid = mainPid then some (k.clock, e) else s.mainEnding }

/-- Signals that are passed over unless the process has arranged something. -/
def harmless : List Nat := [17, 18, 23, 28]

/-- Signals that stop a process. -/
def stopping : List Nat := [19, 20, 21, 22]

/-- The number of the signal that ends a process whatever it has arranged. -/
def killSignal : Nat := 9

/-- The number of the signal that stops a process whatever it has arranged. -/
def stopSignal : Nat := 19

/-- The number of the signal that lets a stopped process go on. -/
def continueSignal : Nat := 18

/-- Marks a process as stopped or not. -/
def setStopped (s : System) (pid : Pid) (stopped : Bool) : System :=
  { s with processes := s.processes.map fun p => if p.pid = pid then { p with stopped } else p }

/-- What a signal does to a process. -/
def deliver (s : System) (pid : Pid) (number : Nat) : System :=
  if number = 0 ∨ !s.kernel.isAlive pid then s
  else
    let s := if number = continueSignal then s.setStopped pid false else s
    let h := s.kernel.holder pid
    let handling :=
      if number = killSignal ∨ number = stopSignal then none else h.handlings.lookup number
    match handling with
    | some .ignored => s
    | some .caught =>
      { s with kernel := s.kernel.setHolder pid { h with pending := h.pending ++ [number] } }
    | none =>
      if number ∈ harmless then s
      else if number ∈ stopping then s.setStopped pid true
      else s.finish pid (.signalled number)

/-- Delivers the signals that are on their way. -/
def deliverPosted (s : System) : System :=
  let posted := s.kernel.posted
  if posted.isEmpty then s
  else
    posted.foldl (fun s (pid, number) => s.deliver pid number)
      { s with kernel := { s.kernel with posted := [] } }

/-! ## Steps -/

/-- The process whose time comes first among those that can go on. -/
def next? (s : System) : Option Process :=
  (s.processes.filter fun p => !p.waiting && !p.stopped).foldl (fun best p =>
    match best with
    | none => some p
    | some b => if p.wake < b.wake then some p else best) none

/-- Puts a process back with what it has still to do. -/
def update (s : System) (p : Process) : System :=
  { s with processes := s.processes.map fun q => if q.pid = p.pid then p else q }

/-- Something has happened: whoever waited looks again. -/
def wakeAll (s : System) : System :=
  { s with processes := s.processes.map fun p =>
      if p.waiting then { p with waiting := false, wake := max p.wake s.kernel.clock } else p }

/-- Starts a process as a copy of another, which ignores the same signals and catches none. -/
def start (s : System) (p : Process) (child : Unit → Task) (next : Pid → Task) : System :=
  let k := s.kernel
  let pid := k.fresh
  let h := k.holder p.pid
  let k := { k with
    fresh := pid + 1
    holders := k.holders ++ [(pid, {
      descriptors := h.descriptors
      handlings := h.handlings.filter fun (_, handling) => handling = .ignored
      pending := []
      title := h.title
      mask := h.mask
      parent := p.pid })] }
  let s := { s with kernel := k }
  let s := s.update { p with task := next pid, wake := p.wake + instant }
  { s with processes := s.processes ++ [⟨pid, p.wake + startTime, false, false, child ()⟩] }

/-- Sets the clock. -/
def setClock (k : Kernel) (clock : Nat) : Kernel :=
  { k with clock, disk := { k.disk with now := k.origin + clock } }

/-- The next step of a process. -/
def step (s : System) (p : Process) : System :=
  let s := { s with kernel := setClock s.kernel (max s.kernel.clock p.wake) }
  match p.task with
  | .done code => (s.finish p.pid (.exited code)).wakeAll
  | .sleep span next => s.update { p with task := next (), wake := p.wake + span }
  | .spawn child next => s.start p child next
  | .call operation next =>
    match operation p.pid s.kernel with
    | none => s.update { p with waiting := true }
    | some (a, kernel) =>
      let s := { s with kernel := { kernel with effort := 0 } }
      let s := s.update { p with task := next a, wake := p.wake + instant + kernel.effort }
      s.deliverPosted.wakeAll

/-- Whether there is nothing more to come that can be seen. -/
def isOver (s : System) : Bool :=
  s.mainEnding.isSome && !s.kernel.holds fun c =>
    match c with
    | .port _ => true
    | _ => false

/-- Runs until the deadline or until it is over, at most some number of steps. -/
def runSteps (deadline : Nat) : Nat → System → System
  | 0, s => s
  | steps + 1, s =>
    if s.isOver then s
    else
      match s.next? with
      | none => s
      | some p => if deadline < p.wake then s else runSteps deadline steps (s.step p)

/-- More steps than there can be before the deadline with a thousand processes at a time. -/
def stepLimit (deadline : Nat) : Nat := 4000 * (deadline / instant + 1)

/-- A machine with a first process that reads nothing and writes to the ports. -/
def boot (disk : Disk) (task : Task) : System :=
  let holder : Holder := ⟨[(0, 0), (1, 1), (2, 2)], [], [], defaultMask, [], keeperPid⟩
  { kernel := {
      disk := disk
      channels := [(0, .null), (1, .port .stdout), (2, .port .stderr)]
      pipes := []
      named := []
      holders := [(mainPid, holder)]
      endings := []
      posted := []
      seen := []
      fresh := mainPid + 1
      clock := 0
      origin := disk.now
      effort := 0 }
    processes := [⟨mainPid, 0, false, false, task⟩]
    mainEnding := none }

/-- The machine at the end of a run. -/
def run (deadline : Nat) (disk : Disk) (task : Task) : System :=
  runSteps deadline (stepLimit deadline) (boot disk task)

end System

end ProgramRepair.Machine
