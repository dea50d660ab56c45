import ProgramRepair.Disk.Access
import ProgramRepair.Text.Lines

/-!
# The state that processes share

Processes share a disk, the channels that they have open, and what they send to
each other: bytes through pipes, and signals. A channel is named by descriptors,
one table of them for each process. A pipe has ended for its reader when no
process can write to it any more, and a write into a pipe that no process can
read from raises a signal. What reaches the two ports is what an observer of the
whole machine sees.

A call by a process is a function that may say "not yet": it is then tried again
when something has happened.
-/

namespace ProgramRepair.Machine

/-- The number of a process. -/
abbrev Pid := Nat

/-- The outputs that are seen from outside. -/
inductive Port where
  | stdout
  | stderr
deriving DecidableEq, Repr

/-- How a process ends. -/
inductive Ending where
  | exited (code : Nat)
  | signalled (signal : Nat)
deriving DecidableEq, Repr

/-- What a process has arranged for a signal. -/
inductive Handling where
  | ignored
  /-- The process looks for it when it has time. -/
  | caught
deriving DecidableEq, Repr

/-- What a descriptor can stand for. -/
inductive Channel where
  | port (p : Port)
  | reader (pipe : Nat)
  | writer (pipe : Nat)
  /-- Both ends of a pipe. -/
  | duplex (pipe : Nat)
  /-- A file, named by its number, that is read or written from some offset on. -/
  | file (number offset : Nat)
  /-- A file that is written at its end. -/
  | appended (number : Nat)
  /-- A directory, which has nothing to read or write. -/
  | directory
  /-- Nothing to read, and room for everything. -/
  | null
  /-- Zeros without end. -/
  | zeros
  /-- Zeros without end, and room for nothing. -/
  | full
  /-- Bytes without end that seem to come by chance; the next one is made from the number. -/
  | chance (number : Nat)
deriving DecidableEq, Repr

/-- Whether a channel is an end of a pipe that can be read from. -/
def Channel.readsFrom (pipe : Nat) (c : Channel) : Bool := c = .reader pipe || c = .duplex pipe

/-- Whether a channel is an end of a pipe that can be written to. -/
def Channel.writesTo (pipe : Nat) (c : Channel) : Bool := c = .writer pipe || c = .duplex pipe

/-- What belongs to one process. -/
structure Holder where
  /-- The descriptors and the channels that they stand for. -/
  descriptors : List (Nat × Nat)
  handlings : List (Nat × Handling)
  /-- The signals that the process has yet to look at. -/
  pending : List Nat
  /-- The rights that new files do not get. -/
  mask : Nat
  /-- What the program was called by. -/
  title : List Char
  /-- The process that has started this one. -/
  parent : Pid
deriving Repr, Inhabited

/-- The rights that new files do not get unless a process says so. -/
def defaultMask : Nat := 0o022

/-- The process that looks after those whose parents are not known. -/
def keeperPid : Pid := 1

/-- The shared state. -/
structure Kernel where
  disk : Disk
  channels : List (Nat × Channel)
  /-- The bytes in each pipe, as they were written. -/
  pipes : List (Nat × List Bytes)
  /-- The pipes of the numbers that names for pipes have on the disk. -/
  named : List (Nat × Nat)
  holders : List (Pid × Holder)
  /-- How processes ended that nobody has waited for yet. -/
  endings : List (Pid × Ending)
  /-- Signals that are on their way. -/
  posted : List (Pid × Nat)
  /-- What has reached the ports and when, the latest first. -/
  seen : List (Nat × Port × Bytes)
  /-- The first number that is not in use for a channel, a pipe or a process. -/
  fresh : Nat
  /-- The time since the start. -/
  clock : Nat
  /-- The time of day at the start. -/
  origin : Int
  /-- The time that the latest call takes longer than others. -/
  effort : Nat
deriving Repr, Inhabited

/-- A list of pairs with one value replaced or added. -/
def assign (key : Nat) (value : α) : List (Nat × α) → List (Nat × α)
  | [] => [(key, value)]
  | (k, v) :: rest => if k = key then (key, value) :: rest else (k, v) :: assign key value rest

/-- A list of pairs without a key. -/
def unassign (key : Nat) (pairs : List (Nat × α)) : List (Nat × α) :=
  pairs.filter fun pair => pair.1 ≠ key

/-- A call by a process: its answer and the state after it, or none if it has to wait. -/
abbrev Call (α : Type) := Pid → Kernel → Option (α × Kernel)

namespace Kernel

/-! ## Descriptors -/

def holder (k : Kernel) (pid : Pid) : Holder := (k.holders.lookup pid).getD ⟨[], [], [], defaultMask, [], keeperPid⟩

def setHolder (k : Kernel) (pid : Pid) (h : Holder) : Kernel :=
  { k with holders := assign pid h k.holders }

/-- The channel of a descriptor with its number. -/
def channelOf (k : Kernel) (pid : Pid) (fd : Nat) : Option (Nat × Channel) := do
  let id ← (k.holder pid).descriptors.lookup fd
  return (id, ← k.channels.lookup id)

/-- Whether some process holds a channel of this kind. -/
def holds (k : Kernel) (kind : Channel → Bool) : Bool :=
  k.holders.any fun (_, h) =>
    h.descriptors.any fun (_, id) => (k.channels.lookup id).any kind

/-- The least descriptor that is free and no less than `low`. -/
def freeDescriptor (h : Holder) (low : Nat) : Nat :=
  ((List.range (h.descriptors.length + 1)).map (low + ·)).find? (fun fd =>
    (h.descriptors.lookup fd).isNone) |>.getD low

/-- Opens a channel for a process under the least free descriptor. -/
def openChannel (k : Kernel) (pid : Pid) (c : Channel) : Nat × Kernel :=
  let h := k.holder pid
  let fd := freeDescriptor h 0
  let k := { k with channels := assign k.fresh c k.channels, fresh := k.fresh + 1 }
  (fd, k.setHolder pid { h with descriptors := assign fd (k.fresh - 1) h.descriptors })

/-- Forgets channels that no process holds. -/
def dropUnheld (k : Kernel) : Kernel :=
  let held := k.holders.flatMap fun (_, h) => h.descriptors.map (·.2)
  { k with channels := k.channels.filter fun (id, _) => held.contains id }

/-! ## Calls on descriptors -/

/-- The most bytes that a pipe holds before its writers wait. -/
def pipeCapacity : Nat := 65536

/-- Takes bytes out of a pipe. -/
def takeFrom (limit : Nat) : List Bytes → Bytes × List Bytes
  | [] => ([], [])
  | chunk :: rest =>
    match chunk.drop limit with
    | [] =>
      if chunk.length = limit then (chunk, rest)
      else
        let (more, rest) := takeFrom (limit - chunk.length) rest
        (chunk ++ more, rest)
    | left => (chunk.take limit, left :: rest)

/-- The time that it takes to write a byte, or to make one up. -/
def byteTime : Nat := 100

/-- The number from which the next byte by chance is made. -/
def nextChance (n : Nat) : Nat :=
  (6364136223846793005 * n + 1442695040888963407) % Nat.pow 2 64

/-- As many bytes by chance as are asked for, and the number for the next one. -/
def chanceBytes (n : Nat) : (count : Nat) → Bytes × Nat
  | 0 => ([], n)
  | count + 1 =>
    let (bytes, last) := chanceBytes (nextChance n) count
    (UInt8.ofNat (n / Nat.pow 2 56) :: bytes, last)

/-- Reads at most `limit` bytes; no bytes mean that there will be no more. -/
def read (fd limit : Nat) : Call (Except Disk.Error Bytes) := fun pid k =>
  match k.channelOf pid fd with
  | none => some (.error .badDescriptor, k)
  | some (id, c) =>
    match c with
    | .null => some (.ok [], k)
    | .zeros | .full =>
      some (.ok (List.replicate limit 0), { k with effort := byteTime * limit })
    | .chance number =>
      let (bytes, number) := chanceBytes number limit
      some (.ok bytes, { k with
        effort := byteTime * limit
        channels := assign id (.chance number) k.channels })
    | .directory => some (.error .isDirectory, k)
    | .file number offset =>
      match k.disk.numbered? number with
      | some (contents, _) =>
        let bytes := (contents.drop offset).take limit
        let c := Channel.file number (offset + bytes.length)
        some (.ok bytes, { k with channels := assign id c k.channels })
      | none => some (.ok [], k)
    | .reader pipe | .duplex pipe =>
      match takeFrom limit ((k.pipes.lookup pipe).getD []) with
      | ([], _) => if k.holds (·.writesTo pipe) then none else some (.ok [], k)
      | (bytes, rest) => some (.ok bytes, { k with pipes := assign pipe rest k.pipes })
    | .port _ | .writer _ | .appended _ => some (.error .badDescriptor, k)

/-- Goes back so that bytes which were read come once more, where that is possible. -/
def unread (fd count : Nat) : Call Unit := fun pid k =>
  match k.channelOf pid fd with
  | some (id, .file number offset) =>
    some ((), { k with channels := assign id (.file number (offset - count)) k.channels })
  | _ => some ((), k)

/-- The number of the signal for a write that nobody can read. -/
def pipeSignal : Nat := 13

/-- The contents of a file after bytes were written at an offset. -/
def overwrite (contents : Bytes) (offset : Nat) (bytes : Bytes) : Bytes :=
  contents.take offset ++ List.replicate (offset - contents.length) 0 ++ bytes ++
    contents.drop (offset + bytes.length)

/-- The size of the pieces in which bytes go into pipes and to the ports. -/
def pieceSize : Nat := 4096

/-- Writes bytes. The answer is what is left of them, because a pipe or a port takes only a piece. -/
def write (fd : Nat) (bytes : Bytes) : Call (Except Disk.Error Bytes) := fun pid k =>
  let taking := fun (count : Nat) => { k with effort := byteTime * count }
  match k.channelOf pid fd with
  | none => some (.error .badDescriptor, k)
  | some (id, c) =>
    match c with
    | .null | .zeros | .chance _ => some (.ok [], taking bytes.length)
    | .full => some (.error .noSpace, k)
    | .port p =>
      let piece := bytes.take pieceSize
      let k := taking piece.length
      some (.ok (bytes.drop pieceSize), { k with seen := (k.clock, p, piece) :: k.seen })
    | .file number offset =>
      let k := taking bytes.length
      match k.disk.numbered? number with
      | some (contents, a) =>
        let a := { a with changed := k.disk.stamp }
        some (.ok [], { k with
          disk := k.disk.setNumbered number (overwrite contents offset bytes) a
          channels := assign id (.file number (offset + bytes.length)) k.channels })
      | none => some (.ok [], k)
    | .appended number =>
      let k := taking bytes.length
      match k.disk.numbered? number with
      | some (contents, a) =>
        let a := { a with changed := k.disk.stamp }
        some (.ok [], { k with disk := k.disk.setNumbered number (contents ++ bytes) a })
      | none => some (.ok [], k)
    | .writer pipe | .duplex pipe =>
      let chunks := (k.pipes.lookup pipe).getD []
      if !k.holds (·.readsFrom pipe) then
        some (.error .brokenPipe, { k with posted := k.posted ++ [(pid, pipeSignal)] })
      else if pipeCapacity ≤ chunks.foldl (fun n c => n + c.length) 0 then none
      else
        let piece := bytes.take pieceSize
        let k := taking piece.length
        some (.ok (bytes.drop pieceSize),
          { k with pipes := assign pipe (chunks ++ [piece]) k.pipes })
    | .reader _ | .directory => some (.error .badDescriptor, k)

/-- Whether what is read from a descriptor would be written behind it into the same file. -/
def feedsItself (source target : Nat) : Call Bool := fun pid k =>
  let answer : Bool := match k.channelOf pid source, k.channelOf pid target with
    | some (_, .file n here), some (_, .file m there) => n = m && here < there
    | some (_, .file n here), some (_, .appended m) =>
      n = m && here < ((k.disk.numbered? m).map fun (contents, _) => contents.length).getD 0
    | _, _ => false
  some (answer, k)

/-- Makes a pipe and opens its two ends. -/
def pipe : Call (Nat × Nat) := fun pid k =>
  let name := k.fresh
  let k := { k with fresh := k.fresh + 1, pipes := assign k.fresh [] k.pipes }
  let (r, k) := k.openChannel pid (.reader name)
  let (w, k) := k.openChannel pid (.writer name)
  some ((r, w), k)

/-- Closes a descriptor. -/
def close (fd : Nat) : Call Unit := fun pid k =>
  let h := k.holder pid
  some ((), (k.setHolder pid { h with descriptors := unassign fd h.descriptors }).dropUnheld)

/-- Makes `target` stand for what `fd` stands for. -/
def duplicate (fd target : Nat) : Call (Except Disk.Error Unit) := fun pid k =>
  let h := k.holder pid
  match h.descriptors.lookup fd with
  | none => some (.error .badDescriptor, k)
  | some id => some (.ok (), k.setHolder pid { h with descriptors := assign target id h.descriptors })

/-- The least descriptor for channels that are set aside. -/
def asideLow : Nat := 1000

/-- Keeps what a descriptor stands for under another one, out of the way. -/
def setAside (fd : Nat) : Call (Option Nat) := fun pid k =>
  let h := k.holder pid
  match h.descriptors.lookup fd with
  | none => some (none, k)
  | some id =>
    let aside := freeDescriptor h asideLow
    some (some aside, k.setHolder pid { h with descriptors := assign aside id h.descriptors })

/-- Gives a descriptor back what was set aside; it is closed if that was nothing. -/
def putBack (fd : Nat) (aside : Option Nat) : Call Unit := fun pid k =>
  let h := k.holder pid
  let descriptors := match aside with
    | none => unassign fd h.descriptors
    | some aside =>
      match h.descriptors.lookup aside with
      | some id => assign fd id (unassign aside h.descriptors)
      | none => unassign fd h.descriptors
  some ((), (k.setHolder pid { h with descriptors }).dropUnheld)

/-- Prepares a process for a program: what was set aside is closed, and signals are not caught any
more. -/
def prepare : Call Unit := fun pid k =>
  let h := k.holder pid
  let descriptors := h.descriptors.filter fun (fd, _) => fd < asideLow
  let handlings := h.handlings.filter fun (_, handling) => handling = .ignored
  some ((), (k.setHolder pid { h with descriptors, handlings, pending := [] }).dropUnheld)

/-! ## Files -/

/-- The directory of devices. -/
def devices : Place := ["dev"]

/-- The channel of a device. What comes by chance depends on `seed`. -/
def device? (seed : Nat) (p : Place) : Option Channel :=
  if p = devices ++ ["null"] then some .null
  else if p = devices ++ ["zero"] then some .zeros
  else if p = devices ++ ["full"] then some .full
  else if p = devices ++ ["random"] ∨ p = devices ++ ["urandom"] then
    some (.chance (nextChance (nextChance seed)))
  else none

/-- The descriptor that a path names, such as `/dev/stdout` or `/dev/fd/3`. -/
def descriptorNamed? (path : String) : Option Nat :=
  match path with
  | "/dev/stdin" => some 0
  | "/dev/stdout" => some 1
  | "/dev/stderr" => some 2
  | _ => (Text.dropLead? "/dev/fd/".toList path.toList).bind fun ds =>
    if ds ≠ [] ∧ ds.all Char.isDigit then (String.ofList ds).toNat? else none

/-- How a file is opened. -/
inductive Mode where
  | reading
  /-- Emptied first, or made new. -/
  | writing
  /-- Made new if there is none. -/
  | appending
  /-- Read and written without being emptied. -/
  | updating
deriving DecidableEq, Repr

/-- The mode of a new file for which a program asks for some rights. -/
def newMode (h : Holder) (mode : Nat) : Nat := mode - (mode &&& h.mask)

/-- The rights that a program asks for when it makes a file. -/
def askedMode : Nat := 0o666

/-- The pipe of a number on the disk. It has nothing in it when nobody has it open. -/
def namedPipe (k : Kernel) (n : Nat) : Nat × Kernel :=
  match k.named.lookup n with
  | some pipe =>
    if k.holds fun c => c.readsFrom pipe || c.writesTo pipe then (pipe, k)
    else (pipe, { k with pipes := assign pipe [] k.pipes })
  | none => (k.fresh, { k with
      fresh := k.fresh + 1
      pipes := assign k.fresh [] k.pipes
      named := assign n k.fresh k.named })

/-- The channel for a file at a path, which has the given mode if it is new. -/
def channelFor (k : Kernel) (cwd : Place) (path : String) (mode : Mode) (rights : Nat) :
    Except Disk.Error (Channel × Kernel) := do
  let p ← match mode with
    | .reading => (·.1) <$> k.disk.find cwd path
    | _ => k.disk.placeForWriting cwd path
  let disk ← match k.disk.lookup p with
    | none =>
      k.disk.demandNames p
      pure (k.disk.put p (.file [] (k.disk.newAttributes rights)))
    | some e =>
      if (mode = .reading ∨ mode = .updating) ∧ !e.allows .read then throw .permissionDenied
      if mode ≠ .reading ∧ e.isDirectory then throw .isDirectory
      if mode ≠ .reading ∧ !e.allows .write then throw .permissionDenied
      match mode, e with
      | .writing, .file _ a => pure (k.disk.setFile p [] { a with changed := k.disk.stamp })
      | _, .link _ => throw .tooManyLinks
      | _, _ => pure k.disk
  match disk.lookup p with
  | some .null => return ((device? (k.clock + k.fresh) p).getD .null, { k with disk })
  | some (.directory _) => return (.directory, { k with disk })
  | some (.pipe _) =>
    let (n, disk) := (disk.number p).getD (0, disk)
    let (pipe, k) := { k with disk }.namedPipe n
    return (match mode with
      | .reading => .reader pipe
      | .updating => .duplex pipe
      | _ => .writer pipe, k)
  | _ =>
    match disk.number p with
    | some (n, disk) =>
      return (if mode = .appending then .appended n else .file n 0, { k with disk })
    | none => throw .notFound

/-- Opens a file. The value also says whether somebody else has to have it open too. -/
def openFile (cwd : Place) (path : String) (mode : Mode) :
    Call (Except Disk.Error (Nat × Bool)) :=
  fun pid k =>
    match (descriptorNamed? path).bind fun fd => (k.holder pid).descriptors.lookup fd with
    | some id =>
      let h := k.holder pid
      let fd := freeDescriptor h 0
      some (.ok (fd, false), k.setHolder pid { h with descriptors := assign fd id h.descriptors })
    | none =>
      match k.channelFor cwd path mode (newMode (k.holder pid) askedMode) with
      | .ok (c, k) =>
        let isEnd : Bool := match c with
          | .reader _ | .writer _ => true
          | _ => false
        let (fd, k) := k.openChannel pid c
        some (.ok (fd, isEnd), k)
      | .error e => some (.error e, k)

/-- Waits until somebody has the other end of a pipe open. -/
def meet (fd : Nat) : Call Unit := fun pid k =>
  let isMet : Bool := match k.channelOf pid fd with
    | some (_, .reader pipe) => k.holds (·.writesTo pipe) || (k.pipes.lookup pipe).getD [] ≠ []
    | some (_, .writer pipe) => k.holds (·.readsFrom pipe)
    | _ => true
  if isMet then some ((), k) else none

/-- Asks the disk. -/
def askDisk (f : Disk → α) : Call α := fun _ k => some (f k.disk, k)

/-- The rights that new files of the process do not get. -/
def mask : Call Nat := fun pid k => some ((k.holder pid).mask, k)

/-- Changes which rights new files of the process do not get. -/
def setMask (mask : Nat) : Call Unit := fun pid k =>
  some ((), k.setHolder pid { k.holder pid with mask })

/-- The process that has started this one. -/
def parent : Call Pid := fun pid k => some ((k.holder pid).parent, k)

/-- What the program of the process was called by. -/
def title : Call (List Char) := fun pid k => some ((k.holder pid).title, k)

/-- Says what the program of the process is called by. -/
def setTitle (title : List Char) : Call Unit := fun pid k =>
  some ((), k.setHolder pid { k.holder pid with title })

/-- Changes the disk. -/
def changeDisk (f : Disk → Except Disk.Error Disk) : Call (Except Disk.Error Unit) := fun _ k =>
  match f k.disk with
  | .ok disk => some (.ok (), { k with disk })
  | .error e => some (.error e, k)

/-! ## Processes -/

def self : Call Pid := fun pid k => some (pid, k)

/-- Whether a process has not ended yet. -/
def isAlive (k : Kernel) (pid : Pid) : Bool := (k.holders.lookup pid).isSome

/-- Waits for one of some processes to end. There is no answer if none of them is known. -/
def awaitAny (children : List Pid) : Call (Option (Pid × Ending)) := fun _ k =>
  match k.endings.find? fun (pid, _) => children.contains pid with
  | some (pid, e) => some (some (pid, e), { k with endings := unassign pid k.endings })
  | none => if children.any k.isAlive then none else some (none, k)

/-- Waits for one of some processes to end or for a signal to look at. -/
def awaitOrSignal (children : List Pid) : Call (Option (Pid × Ending)) := fun pid k =>
  if (k.holder pid).pending.isEmpty then awaitAny children pid k else some (none, k)

/-- Sends a signal to a process, or to all of them. -/
def signal (target : Option Pid) (number : Nat) : Call (Except Disk.Error Unit) := fun _ k =>
  match target with
  | some pid =>
    if k.isAlive pid ∨ (k.endings.lookup pid).isSome then
      some (.ok (), { k with posted := k.posted ++ [(pid, number)] })
    else some (.error .noProcess, k)
  | none =>
    some (.ok (), { k with posted := k.posted ++ k.holders.map fun (pid, _) => (pid, number) })

/-- Arranges what happens on a signal. -/
def handle (number : Nat) (handling : Option Handling) : Call Unit := fun pid k =>
  let h := k.holder pid
  let handlings := match handling with
    | some x => assign number x h.handlings
    | none => unassign number h.handlings
  some ((), k.setHolder pid { h with handlings })

/-- Takes the signals that wait to be looked at. -/
def takePending : Call (List Nat) := fun pid k =>
  let h := k.holder pid
  if h.pending.isEmpty then some ([], k)
  else some (h.pending, k.setHolder pid { h with pending := [] })

end Kernel

end ProgramRepair.Machine
