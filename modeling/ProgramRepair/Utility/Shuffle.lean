import ProgramRepair.Utility.Errand
import ProgramRepair.Utility.Input

/-!
# Lines in an order by chance

`shuf` prints lines, its arguments or the numbers of a range in an order that bytes of
chance decide. Chance that is left over from one choice is used for the next.
-/

namespace ProgramRepair.Utility

open Machine

namespace Shuffle

/-! ## Choices by chance -/

/-- Chance that is left: a number that is evenly spread over those up to `most`. -/
structure Chance where
  number : Nat
  most : Nat

/-- How many bytes are needed so that there are at least as many numbers as wanted. -/
def bytesNeeded (wanted : Nat) : (fuel most : Nat) → Nat
  | 0, _ => 0
  | fuel + 1, most =>
    if wanted ≤ most then 0 else 1 + bytesNeeded wanted fuel (most * 256 + 255)

/-- More chance with some bytes. -/
def Chance.add (c : Chance) (bytes : Bytes) : Chance :=
  bytes.foldl (fun c b => ⟨c.number * 256 + b.toNat, c.most * 256 + 255⟩) c

/-- A choice of a number below `choices`, or the chance that is left if it decided nothing. -/
def Chance.choose (c : Chance) (choices : Nat) : Option Nat × Chance :=
  let highest := choices - 1
  if c.most = highest then (some c.number, ⟨0, 0⟩)
  else
    let excess := c.most - highest
    let unusable := excess % choices
    let result := c.number % choices
    if c.number ≤ c.most - unusable then
      (some result, ⟨c.number / choices, excess / choices⟩)
    else (none, ⟨result, unusable - 1⟩)

/-- A source of chance: its descriptor, its name and what is left of its bytes. -/
structure Source where
  fd : Nat
  name : List Char
  chance : Chance

/-- Chooses a number below `choices`. The result is none if the source has too few bytes. -/
def Source.pick (s : Source) (choices : Nat) : Nat → Work (Option (Nat × Source))
  | 0 => .forever
  | times + 1 => do
    let count := bytesNeeded (choices - 1) 64 s.chance.most
    let bytes ← if count = 0 then pure [] else do
      match ← Work.call (Kernel.read s.fd count) with
      | .ok bytes => pure bytes
      | .error _ => pure []
    if bytes.length < count then return none
    else
      match (s.chance.add bytes).choose choices with
      | (some n, chance) => return some (n, { s with chance })
      | (none, chance) => pick { s with chance } choices times

/-- The first `count` items of a list in an order by chance. -/
def permute (s : Source) (items : List α) : (count : Nat) → Work (Option (List α × Source))
  | 0 => return some ([], s)
  | count + 1 => do
    match items with
    | [] => return some ([], s)
    | first :: rest =>
      match ← s.pick items.length Work.patience with
      | none => return none
      | some (i, s) =>
        let chosen := (items[i]?).getD first
        let others := if i = 0 then rest else rest.set (i - 1) first
        match ← permute s others count with
        | none => return none
        | some (more, s) => return some (chosen :: more, s)

/-- Some items by chance, each of which may come again. -/
def repeated (s : Source) (items : List α) : (count : Nat) → Work (Option (List α × Source))
  | 0 => return some ([], s)
  | count + 1 => do
    match ← s.pick items.length Work.patience with
    | none => return none
    | some (i, s) =>
      match ← repeated s items count with
      | none => return none
      | some (more, s) => return some ((items[i]?).toList ++ more, s)

/-- A choice of `count` lines from lines of which only those are kept; `seen` is how many there
were. The end of the lines is noticed only after a choice. -/
def reservoir (s : Source) (count seen : Nat) (kept : List (List Char)) :
    List (List Char) → Work (Option (List (List Char) × Source))
  | [] => do return (← s.pick (seen + 1) Work.patience).map fun (_, s) => (kept, s)
  | line :: rest => do
    match ← s.pick (seen + 1) Work.patience with
    | none => return none
    | some (i, s) =>
      reservoir s count (seen + 1) (if i < count then kept.set i line else kept) rest

/-! ## Requests -/

def grammar : Grammar :=
  ⟨"erz", "ino", "", [("echo", 'e'), ("repeat", 'r'), ("zero-terminated", 'z'),
    ("input-range=", 'i'), ("head-count=", 'n'), ("output=", 'o'), ("random-source=", 's')]⟩

/-- The lowest and the highest number of a range. -/
def range? (s : List Char) : Option (Nat × Nat) :=
  match Text.cut '-' s with
  | [a, b] =>
    match natural? a, natural? b with
    | some low, some high => if low ≤ high + 1 then some (low, high) else none
    | _, _ => none
  | _ => none

/-- Where the lines come from. -/
inductive Supply where
  | words
  | range (low high : Nat)
  | file (path : List Char)

/-- What is asked for: the lines, and the most lines that are printed. The problem says whether a
hint follows. -/
def requestOf (o : Options) : Except (String × Bool) (Supply × Option Nat) := do
  let wrong := fun (message : String) (s : List Char) => (message ++ ": " ++ quoted s, false)
  let ranges ← (o.valuesOf 'i').mapM fun s =>
    match range? s with
    | some r => Except.ok r
    | none => .error (wrong "invalid input range" s)
  if 1 < ranges.length then throw ("multiple -i options specified", false)
  let counts ← (o.valuesOf 'n').mapM fun s =>
    match natural? s with
    | some n => Except.ok n
    | none => .error (wrong "invalid line count" s)
  let most := counts.foldl (fun (m : Option Nat) n => some ((m.map (min n)).getD n)) none
  if o.has 'e' ∧ !ranges.isEmpty then throw ("cannot combine -e and -i options", true)
  let extra := fun (s : List Char) => ("extra operand " ++ quoted s, true)
  match ranges, o.rest with
  | _ :: _, a :: _ => throw (extra a)
  | (low, high) :: _, [] => return (.range low high, most)
  | [], rest =>
    if o.has 'e' then return (.words, most)
    else
      match rest with
      | _ :: b :: _ => throw (extra b)
      | [path] => return (.file path, most)
      | [] => return (.file ['-'], most)

/-- The lines of a supply, or none if they cannot be read. -/
def supplied (o : Options) (env : Surroundings) : Supply → Work (Option (List (List Char)))
  | .words => return some o.rest
  | .range low high => return some ((List.range (high + 1 - low)).map fun i => digits (low + i))
  | .file path => do
    match ← contents env.cwd path with
    | .ok text =>
      let lines := Text.cut (if o.has 'z' then '\x00' else '\n') text
      return some (if lines.getLast? = some [] then lines.dropLast else lines)
    | .error e =>
      warn "shuf" (if e = .isDirectory then "read error: " ++ e.systemText
        else Filter.usualBlame path e)
      return none

/-- Whether a choice is made while the lines are read. -/
def isReservoir (o : Options) : Supply → Bool
  | .file path => path = ['-'] && !o.has 'r'
  | _ => false

/-- Chooses lines. -/
def chosen (o : Options) (supply : Supply) (most : Option Nat) (lines : List (List Char))
    (s : Source) : Work (Option (List (List Char))) := do
  let result ←
    match most with
    | none => permute s lines lines.length
    | some n =>
      if o.has 'r' then repeated s lines n
      else if isReservoir o supply ∧ n ≤ lines.length ∧ 0 < n then do
        match ← reservoir s n n (lines.take n) (lines.drop n) with
        | none => pure none
        | some (kept, s) => permute s kept n
      else permute s lines n
  return result.map (·.1)

/-- Prints lines to the standard output or to a file. -/
def deliver (o : Options) (env : Surroundings) (lines : List (List Char)) : Work Nat := do
  let lineEnd := if o.has 'z' then '\x00' else '\n'
  let text := lines.flatMap (· ++ [lineEnd])
  match o.value? 'o' with
  | none => emit "shuf" text 0
  | some path =>
    let result ← withFile env.cwd path .writing fun fd => Work.write fd (Text.bytesOfChars text)
    match result with
    | .ok () => return 0
    | .error e =>
      warn "shuf" (Filter.usualBlame path e)
      return 1

/-- Prints lines by chance without an end. -/
def printAlways (lines : List (List Char)) (lineEnd : Char) (s : Source) : Nat → Work Nat
  | 0 => .forever
  | times + 1 => do
    match ← s.pick lines.length Work.patience with
    | none => return 1
    | some (i, s) =>
      if ← tryPut "shuf" (((lines[i]?).getD []) ++ [lineEnd]) then
        printAlways lines lineEnd s times
      else return 1

end Shuffle

open Shuffle in
/-- Prints lines in an order by chance. -/
def shuf : Utility := fun env args => do
  let o := Shuffle.grammar.read args
  match o.problem, requestOf o with
  | some problem, _ => refuse "shuf" problem 1
  | none, .error (message, hinted) =>
    if hinted then refuse "shuf" message 1
    else do
      warn "shuf" message
      return 1
  | none, .ok (supply, most) =>
    match ← supplied o env supply with
    | none => return 1
    | some lines =>
      if o.has 'r' ∧ lines.isEmpty ∧ most ≠ some 0 then
        warn "shuf" "no lines to repeat"
        return 1
      else
        let path := (o.value? 's').getD "/dev/urandom".toList
        let done ← withFile env.cwd path .reading fun fd => do
          let source : Source := ⟨fd, path, ⟨0, 0⟩⟩
          if o.has 'r' ∧ most.isNone then
            return .ok (some (← printAlways lines (if o.has 'z' then '\x00' else '\n') source
              Work.patience))
          else
            match ← chosen o supply most lines source with
            | none => return .ok none
            | some lines => return .ok (some (← deliver o env lines))
        match done with
        | .ok (some code) => return code
        | .ok none =>
          warn "shuf" (inQuotes path ++ ": end of file")
          return 1
        | .error e =>
          warn "shuf" (Filter.usualBlame path e)
          return 1

end ProgramRepair.Utility
