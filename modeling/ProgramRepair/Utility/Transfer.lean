import ProgramRepair.Utility.Errand

/-!
# Copies block by block

`dd` copies its input to its output in blocks of a size, counts the blocks, and can leave
some of them out, put them at a place further on, and change what is in them.
-/

namespace ProgramRepair.Utility

open Machine

namespace Transfer

/-! ## Requests -/

/-- How much is copied or passed over: blocks or bytes. -/
structure Amount where
  count : Nat
  inBytes : Bool

/-- What is asked for. -/
structure Request where
  input : Option (List Char)
  output : Option (List Char)
  inputBlock : Nat
  outputBlock : Nat
  /-- The size of all blocks, which are then written as they are read. -/
  block : Option Nat
  count : Option Amount
  skip : Amount
  seek : Amount
  conversions : List String
  inputFlags : List String
  outputFlags : List String
  status : String

/-- What is wrong with an operand, and whether a hint follows. -/
abbrev Problem := String × Bool

/-- The number that a text stands for, with units and signs for products. -/
def amount? (s : List Char) : Option Amount := do
  let factor? := fun (f : List Char) => do
    let ds := f.takeWhile Char.isDigit
    let n ← natural? ds
    match f.drop ds.length with
    | ['c'] | ['B'] => some n
    | ['w'] => some (2 * n)
    | unit => return n * (← sized? ('1' :: unit))
  let factors ← (Text.cut 'x' s).mapM factor?
  let isBytes := s.getLast? = some 'B' && s.dropLast.getLast?.any Char.isDigit
  return ⟨factors.foldl (· * ·) 1, isBytes⟩

/-- An amount that an operand has. -/
def amountFor (s : List Char) : Except Problem Amount :=
  match amount? s with
  | some a => .ok a
  | none => .error ("invalid number: " ++ quoted s, false)

/-- A size of blocks, which cannot be 0. -/
def sizeFor (s : List Char) : Except Problem Nat := do
  match (← amountFor s).count with
  | 0 => throw ("invalid number: " ++ quoted s, false)
  | n => return n

/-- The words of a list, each of which must be known. -/
def wordsFor (what : String) (known : List String) (before : List String) (s : List Char) :
    Except Problem (List String) := do
  let words := (Text.cut ',' s).map String.ofList
  match words.find? fun w => !known.contains w with
  | some w => throw ("invalid " ++ what ++ ": " ++ quoted w.toList, true)
  | none => return before ++ words

def conversionNames : List String :=
  ["ascii", "ebcdic", "ibm", "block", "unblock", "lcase", "ucase", "sparse", "swab", "noerror",
   "nocreat", "excl", "notrunc", "sync", "fdatasync", "fsync"]

def flagNames : List String :=
  ["append", "direct", "directory", "dsync", "sync", "nonblock", "noatime", "nocache", "noctty",
   "nofollow", "fullblock", "count_bytes", "skip_bytes", "seek_bytes", "text", "binary"]

/-- Takes an operand into a request. -/
def Request.add (r : Request) (operand : List Char) : Except Problem Request := do
  let name := operand.takeWhile (· ≠ '=')
  let value := operand.drop (name.length + 1)
  let unknown : Problem := ("unrecognized operand " ++ quoted operand, true)
  if name.length = operand.length then throw unknown
  match String.ofList name with
  | "if" => return { r with input := some value }
  | "of" => return { r with output := some value }
  | "ibs" => return { r with inputBlock := ← sizeFor value }
  | "obs" => return { r with outputBlock := ← sizeFor value }
  | "bs" => return { r with block := some (← sizeFor value) }
  | "cbs" => do
    discard (sizeFor value)
    return r
  | "count" => return { r with count := some (← amountFor value) }
  | "skip" | "iseek" => return { r with skip := ← amountFor value }
  | "seek" | "oseek" => return { r with seek := ← amountFor value }
  | "conv" =>
    return { r with conversions := ← wordsFor "conversion" conversionNames r.conversions value }
  | "iflag" =>
    return { r with inputFlags := ← wordsFor "input flag" flagNames r.inputFlags value }
  | "oflag" =>
    return { r with outputFlags := ← wordsFor "output flag" flagNames r.outputFlags value }
  | "status" =>
    let status := String.ofList value
    if ["none", "noxfer", "progress"].contains status then return { r with status }
    else throw ("invalid status level: " ++ quoted value, true)
  | _ => throw unknown

/-- A request for nothing special. -/
def Request.usual : Request :=
  ⟨none, none, 512, 512, none, none, ⟨0, false⟩, ⟨0, false⟩, [], [], [], ""⟩

/-- The request that operands make. -/
def requestOf (operands : List (List Char)) : Except Problem Request := do
  let r ← operands.foldlM Request.add Request.usual
  let both := fun (a b : String) => r.conversions.contains a && r.conversions.contains b
  for (a, b) in [("lcase", "ucase"), ("excl", "nocreat")] do
    if both a b then throw ("cannot combine " ++ a ++ " and " ++ b, false)
  let r := match r.block with
    | some n => { r with inputBlock := n, outputBlock := n }
    | none => r
  let inBytes := fun (a : Amount) (isFlag : Bool) => { a with inBytes := a.inBytes || isFlag }
  return { r with
    count := r.count.map fun a => inBytes a (r.inputFlags.contains "count_bytes")
    skip := inBytes r.skip (r.inputFlags.contains "skip_bytes")
    seek := inBytes r.seek (r.outputFlags.contains "seek_bytes") }

/-- An amount in bytes, with the size of a block. -/
def Amount.bytes (a : Amount) (block : Nat) : Nat := if a.inBytes then a.count else a.count * block

/-! ## Blocks -/

/-- Bytes with each two of them exchanged. -/
def swapped : Bytes → Bytes
  | a :: b :: rest => b :: a :: swapped rest
  | rest => rest

/-- What is written for a block that was read. -/
def Request.convert (r : Request) (block : Bytes) : Bytes :=
  let does := r.conversions.contains
  let block :=
    if does "sync" then block ++ List.replicate (r.inputBlock - block.length) 0 else block
  let block := if does "swab" then swapped block else block
  let map := fun (f : Char → Char) => block.map fun b => (f (Char.ofNat b.toNat)).toNat.toUInt8
  if does "lcase" then map Char.toLower else if does "ucase" then map Char.toUpper else block

/-- The blocks that were read and written, whole ones and parts. -/
structure Tally where
  readWhole : Nat
  readPart : Nat
  writtenWhole : Nat
  writtenPart : Nat
  bytes : Nat

/-- Counts a block that was read. -/
def Tally.noteRead (t : Tally) (whole : Bool) : Tally :=
  if whole then { t with readWhole := t.readWhole + 1 } else { t with readPart := t.readPart + 1 }

/-- Counts a block that was written. -/
def Tally.noteWritten (t : Tally) (size : Nat) (whole : Bool) : Tally :=
  let t := { t with bytes := t.bytes + size }
  if whole then { t with writtenWhole := t.writtenWhole + 1 }
  else { t with writtenPart := t.writtenPart + 1 }

/-- A number of bytes in a unit, with one digit behind the point if there is one in front of it. -/
def inUnit (n unit : Nat) (name : String) : String :=
  let tenths := (20 * n + unit) / (2 * unit)
  if tenths < 100 then toString (tenths / 10) ++ "." ++ toString (tenths % 10) ++ " " ++ name
  else toString ((2 * n + unit) / (2 * unit)) ++ " " ++ name

/-- A number of bytes in the largest unit that is not larger; each unit is `base` times the one
before, and the first is `unit`. -/
def scaled (base n : Nat) (unit : Nat) : List String → String
  | [] => toString n
  | [name] => inUnit n unit name
  | name :: rest =>
    if n < unit * base then inUnit n unit name else scaled base n (unit * base) rest

/-- What is said about a copy that took some nanoseconds. -/
def Tally.report (t : Tally) (status : String) (time : Nat) : String :=
  let records := toString t.readWhole ++ "+" ++ toString t.readPart ++ " records in\n" ++
    toString t.writtenWhole ++ "+" ++ toString t.writtenPart ++ " records out\n"
  let larger := [(1000, ["kB", "MB", "GB", "TB"]), (1024, ["KiB", "MiB", "GiB", "TiB"])].filterMap
    fun (base, units) => if t.bytes < base then none else some (scaled base t.bytes base units)
  let sizes := toString t.bytes ++ (if t.bytes = 1 then " byte" else " bytes") ++
    if larger.isEmpty then "" else " (" ++ String.intercalate ", " larger ++ ")"
  let time := max 1 (time / 1000)
  let parts := (toString (1000000 + time)).drop 1
  let speed := t.bytes * 1000000 / time
  let speed := if speed < 1000 then toString speed ++ " B" else scaled 1000 speed 1000 ["kB", "MB", "GB"]
  if status = "none" then ""
  else if status = "noxfer" then records
  else records ++ sizes ++ " copied, 0." ++ parts ++ " s, " ++ speed ++ "/s\n"

/-- Reads a block, until it is whole if that is asked for. -/
def readBlock (fd size : Nat) (isWhole : Bool) (before : Bytes) :
    Nat → Work (Except Disk.Error Bytes)
  | 0 => .forever
  | times + 1 => do
    match ← Work.call (Kernel.read fd size) with
    | .error e => return .error e
    | .ok [] => return .ok before
    | .ok bytes =>
      let block := before ++ bytes
      if isWhole ∧ bytes.length < size then
        readBlock fd (size - bytes.length) isWhole block times
      else return .ok block

/-- Writes blocks of a size, and returns what is left; with `all` the rest too. -/
def writeBlocks (fd size : Nat) (all : Bool) (t : Tally) (bytes : Bytes) :
    Nat → Work (Except Disk.Error (Tally × Bytes))
  | 0 => return .ok (t, bytes)
  | times + 1 => do
    if bytes.isEmpty ∨ (bytes.length < size ∧ !all) then return .ok (t, bytes)
    else
      let block := bytes.take size
      match ← Work.write fd block with
      | .error e => return .error e
      | .ok () =>
        let t := t.noteWritten block.length (block.length = size)
        writeBlocks fd size all t (bytes.drop size) times

/-- How a copy ended: the blocks, and what is to be complained about. -/
abbrev Outcome := Tally × Option String

/-- Copies blocks; `left` is how many bytes are still to be read and `rest` what was not written. -/
def copyBlocks (r : Request) (source target : Nat) (left : Option Nat) (t : Tally) (rest : Bytes) :
    Nat → Work Outcome
  | 0 => .forever
  | times + 1 => do
    let readError := fun (e : Disk.Error) =>
      "error reading " ++ inQuotes (r.input.getD "standard input".toList) ++ ": " ++ e.systemText
    let writeError := fun (e : Disk.Error) =>
      "error writing " ++ inQuotes (r.output.getD "standard output".toList) ++ ": " ++ e.systemText
    let finish := fun (t : Tally) (problem : Option String) => do
      match ← writeBlocks target r.outputBlock true t rest (rest.length + 1) with
      | .ok (t, _) => return ((t, problem) : Outcome)
      | .error e => return (t, problem <|> some (writeError e))
    let size := match left with
      | some n => min r.inputBlock n
      | none => r.inputBlock
    if size = 0 then finish t none
    else
      match ← readBlock source size (r.inputFlags.contains "fullblock") [] times with
      | .error e => finish t (some (readError e))
      | .ok [] => finish t none
      | .ok block =>
        let t := t.noteRead (block.length = r.inputBlock)
        let left := left.map fun n => if (r.count.map (·.inBytes)).getD false
          then n - block.length else n - r.inputBlock
        let block := r.convert block
        if r.block.isSome then
          match ← Work.write target block with
          | .ok () =>
            let t := t.noteWritten block.length (block.length = r.outputBlock)
            copyBlocks r source target left t rest times
          | .error e => return (t, some (writeError e))
        else
          match ← writeBlocks target r.outputBlock false t (rest ++ block)
              ((rest ++ block).length + 1) with
          | .ok (t, rest) => copyBlocks r source target left t rest times
          | .error e => return (t, some (writeError e))

/-! ## Files -/

/-- Passes over bytes. The result says whether there were enough. -/
def passOver (fd : Nat) (count : Nat) : Nat → Work Bool
  | 0 => .forever
  | times + 1 => do
    if count = 0 then return true
    else
      match ← Work.call (Kernel.read fd (min count Work.blockSize)) with
      | .ok [] => return false
      | .ok bytes => passOver fd (count - bytes.length) times
      | .error _ => return false

/-- Makes the output ready, with the place where it begins. -/
def prepareOutput (r : Request) (env : Surroundings) (path : List Char) (offset : Nat) :
    Work (Except Disk.Error Unit) := do
  let does := r.conversions.contains
  let d ← Work.call (Kernel.askDisk id)
  match d.find env.cwd (shown path) with
  | .ok (_, .file old _) =>
    if does "excl" then return .error .alreadyExists
    else
      let contents := if does "notrunc" then old ++ List.replicate (offset - old.length) 0
        else old.take offset ++ List.replicate (offset - old.length) 0
      if does "notrunc" && offset ≤ old.length then return .ok ()
      else Work.call (Kernel.changeDisk fun d => do
        d.writeAt (← d.placeForWriting env.cwd (shown path)) 0 contents)
  | .error .notFound =>
    if does "nocreat" then return .error .notFound
    else
      let rights := Kernel.askedMode - (Kernel.askedMode &&& (← Work.call Kernel.mask))
      Work.call (Kernel.changeDisk fun d => do
        d.writeAt (← d.placeForWriting env.cwd (shown path)) rights (List.replicate offset 0))
  | _ => return .ok ()

/-- Copies from one descriptor to another and says how much that was. -/
def copy (r : Request) (source target : Nat) : Work Nat := do
  let start ← Work.call (Kernel.askDisk (·.now))
  if !(← passOver source (r.skip.bytes r.inputBlock) Work.patience) then
    warn "dd" (named (r.input.getD "standard input".toList) ++ ": cannot skip to specified offset")
  let left := r.count.map fun a => a.bytes r.inputBlock
  let (t, problem) ← copyBlocks r source target left ⟨0, 0, 0, 0, 0⟩ [] Work.patience
  match problem with
  | some message => warn "dd" message
  | none => pure ()
  let time ← Work.call (Kernel.askDisk (·.now))
  discard <| Work.write 2 (Text.bytesOf (t.report r.status (time - start).toNat))
  return if problem.isSome then 1 else 0

/-- Complains about a file that cannot be opened. -/
def failOpen (path : List Char) (e : Disk.Error) : Work Nat := do
  warn "dd" ("failed to open " ++ inQuotes path ++ ": " ++ e.systemText)
  return 1

/-- Opens the output and copies to it. -/
def toOutput (r : Request) (env : Surroundings) (source : Nat) : Work Nat := do
  match r.output with
  | none => copy r source 1
  | some path =>
    let offset := r.seek.bytes r.outputBlock
    match ← prepareOutput r env path offset with
    | .error e => failOpen path e
    | .ok () =>
      let mode : Kernel.Mode := if r.outputFlags.contains "append" then .appending else .updating
      let done ← withFile env.cwd path mode fun target => do
        discard (passOver target offset Work.patience)
        return .ok (← copy r source target)
      match done with
      | .ok code => return code
      | .error e => failOpen path e

end Transfer

/-- Copies the input block by block. -/
def dd : Utility := fun env args => do
  let o := (⟨"", "", "", []⟩ : Grammar).read args
  match o.problem, Transfer.requestOf o.rest with
  | some problem, _ | none, .error (problem, true) => refuse "dd" problem 1
  | none, .error (problem, false) =>
    warn "dd" problem
    return 1
  | none, .ok r =>
    match r.input with
    | none => Transfer.toOutput r env 0
    | some path =>
      let done ← withFile env.cwd path .reading fun source => do
        return .ok (← Transfer.toOutput r env source)
      match done with
      | .ok code => return code
      | .error e => Transfer.failOpen path e

end ProgramRepair.Utility
