import ProgramRepair.Utility.Errand
import ProgramRepair.Utility.Input

/-!
# Parts of a file

`split` writes parts of a file to files of their own: some lines or bytes each, or some
number of parts that are about as large as each other. The names of the parts are in the
order of the parts.
-/

namespace ProgramRepair.Utility

open Machine

namespace Partition

/-! ## Parts of a text -/

/-- How a text is cut into a number of parts. -/
inductive ShareKind where
  | bytes
  /-- Whole lines; a line belongs to the part that it begins in. -/
  | lines
  /-- Lines in turn. -/
  | turns
deriving DecidableEq

/-- How a text is cut. -/
inductive Plan where
  | lines (n : Nat)
  | bytes (n : Nat)
  /-- As many whole lines as there is room for. -/
  | filled (n : Nat)
  /-- All of some parts, or only one of them. -/
  | shares (kind : ShareKind) (only : Option Nat) (n : Nat)

/-- Pieces of some length; the last one may be shorter. -/
def pieces (n : Nat) : (fuel : Nat) → List α → List (List α)
  | 0, _ => []
  | _, [] => []
  | fuel + 1, s => s.take n :: pieces n fuel (s.drop n)

/-- The lines of a text with their ends. -/
def wholeLines (lineEnd : Char) (text : List Char) : List (List Char) :=
  match (Text.cut lineEnd text).reverse with
  | [] => []
  | last :: lines =>
    (lines.reverse.map (· ++ [lineEnd])) ++ if last.isEmpty then [] else [last]

/-- Pieces that end with a line where they can. -/
def filledPieces (lineEnd : Char) (n : Nat) : (fuel : Nat) → List Char → List (List Char)
  | 0, _ => []
  | _, [] => []
  | fuel + 1, s =>
    let window := s.take n
    if window.length < n then [window]
    else
      let tail := window.reverse.takeWhile (· ≠ lineEnd)
      let kept := if tail.length = n then n else n - tail.length
      s.take kept :: filledPieces lineEnd n fuel (s.drop kept)

/-- The bytes of each of `n` parts, of which the last one gets what is left over. -/
def byteShares (n : Nat) (text : List Char) : List (List Char) :=
  let size := max 1 (text.length / n)
  let parts := (List.range (n - 1)).map fun i => (text.drop (i * size)).take size
  parts ++ [text.drop ((n - 1) * size)]

/-- The number of the part, counted from 0, that a place belongs to. -/
def shareAt (n length place : Nat) : Nat := min (n - 1) (place / max 1 (length / n))

/-- The lines of each of `n` parts. -/
def lineShares (lineEnd : Char) (n : Nat) (text : List Char) : List (List Char) :=
  let length := max n text.length
  let own := fun ((owned, place) : List (Nat × List Char) × Nat) (line : List Char) =>
    ((shareAt n length place, line) :: owned, place + line.length)
  let owned := ((wholeLines lineEnd text).foldl own ([], 0)).1.reverse
  (List.range n).map fun i => owned.flatMap fun (j, line) => if i = j then line else []

/-- The lines of each of `n` parts that take them in turn. -/
def turnShares (lineEnd : Char) (n : Nat) (text : List Char) : List (List Char) :=
  let lines := (wholeLines lineEnd text).zipIdx
  (List.range n).map fun i => lines.flatMap fun (line, k) => if k % n = i then line else []

/-- The parts of a text. -/
def Plan.parts (lineEnd : Char) (text : List Char) : Plan → List (List Char)
  | lines n =>
    let lines := wholeLines lineEnd text
    (pieces n (lines.length + 1) lines).map List.flatten
  | bytes n => pieces n (text.length + 1) text
  | filled n => filledPieces lineEnd n (text.length + 1) text
  | shares .bytes _ n => byteShares n text
  | shares .lines _ n => lineShares lineEnd n text
  | shares .turns _ n => turnShares lineEnd n text

/-! ## Names -/

/-- How the names of the parts end. -/
structure Suffixes where
  alphabet : List Char
  length : Nat
  /-- Whether names get longer when the short ones are used up. -/
  widens : Bool
  first : Nat

/-- The sign for a digit. -/
def Suffixes.sign (s : Suffixes) (digit : Nat) : Char := (s.alphabet[digit]?).getD 'a'

/-- A number with digits from the alphabet, or none if there are too few places. -/
def Suffixes.number (s : Suffixes) : (places n : Nat) → Option (List Char)
  | 0, n => if n = 0 then some [] else none
  | places + 1, n => do
    let base := s.alphabet.length
    return (← s.number places (n / base)) ++ [s.sign (n % base)]

/-- The end of a name. Names that may get longer begin with one more of the last sign each time. -/
def Suffixes.wide (s : Suffixes) (length : Nat) : (fuel n : Nat) → List Char
  | 0, _ => []
  | fuel + 1, n =>
    let base := s.alphabet.length
    let room := (base - 1) * Nat.pow base (length - 1)
    if n < room then (s.number length n).getD []
    else s.sign (base - 1) :: s.wide (length + 1) fuel (n - room)

/-- The end of the name of the part with a number, counted from 0. -/
def Suffixes.nth (s : Suffixes) (n : Nat) : Option (List Char) :=
  if s.widens then some (s.wide s.length (n + 1) n) else s.number s.length (s.first + n)

/-! ## Requests -/

def grammar : Grammar :=
  ⟨"0123456789dexu", "abClnt", "",
    [("suffix-length=", 'a'), ("additional-suffix=", '+'), ("bytes=", 'b'), ("line-bytes=", 'C'),
      ("numeric-suffixes?", 'd'), ("hex-suffixes?", 'x'), ("elide-empty-files", 'e'),
      ("lines=", 'l'), ("number=", 'n'), ("separator=", 't'), ("unbuffered", 'u'), ("verbose", 'v')]⟩

/-- What is wrong with the options, and whether a hint follows. -/
abbrev Problem := String × Bool

/-- A size that is at least 1. -/
def sizeFor (what : String) (s : List Char) : Except Problem Nat :=
  match sized? s with
  | some (n + 1) => .ok (n + 1)
  | _ => .error ("invalid number of " ++ what ++ ": " ++ quoted s, false)

/-- A number of parts, with how they are cut and perhaps which one is printed. -/
def shareFor (s : List Char) : Except Problem Plan := do
  let (kind, s) := match s with
    | 'l' :: '/' :: s => (ShareKind.lines, s)
    | 'r' :: '/' :: s => (.turns, s)
    | s => (.bytes, s)
  let invalid : Except Problem Plan := .error ("invalid number of chunks: " ++ quoted s, false)
  match Text.cut '/' s with
  | [n] =>
    match natural? n with
    | some (n + 1) => return .shares kind none (n + 1)
    | _ => invalid
  | [k, n] =>
    match natural? k, natural? n with
    | some i, some (n + 1) =>
      if i = 0 ∨ n + 1 < i then throw ("invalid chunk number: " ++ quoted k, false)
      else return .shares kind (some i) (n + 1)
    | some _, _ => throw ("invalid number of chunks: " ++ quoted n, false)
    | none, _ => invalid
  | _ => invalid

/-- The plan that options make. -/
def planOf (o : Options) : Except Problem Plan := do
  let ds := (o.letters.filter Char.isDigit).reverse
  let plans ← [
    (o.value? 'l').map fun s => do return Plan.lines (← sizeFor "lines" s),
    (o.value? 'b').map fun s => do return Plan.bytes (← sizeFor "bytes" s),
    (o.value? 'C').map fun s => do return Plan.filled (← sizeFor "lines" s),
    (o.value? 'n').map shareFor,
    if ds.isEmpty then none else some do return Plan.lines (← sizeFor "lines" ds)].filterMap (·)
    |>.mapM fun (plan : Except Problem Plan) => plan
  match plans with
  | [] => return .lines 1000
  | [plan] => return plan
  | _ => throw ("cannot split in more than one way", true)

/-- The number that the names begin with. -/
def startOf (o : Options) (letter : Char) (read : List Char → Option Nat) :
    Except Problem (Option Nat) :=
  match o.value? letter with
  | none => .ok none
  | some s =>
    match read s with
    | some n => .ok (some n)
    | none =>
      .error (quoted s ++ ": invalid start value for " ++
        (if letter = 'x' then "hexadecimal" else "numerical") ++ " suffix", true)

/-- The number that hexadecimal digits stand for. -/
def hexadecimal? (s : List Char) : Option Nat :=
  let digits := "0123456789abcdef".toList
  s.foldlM (fun n c => (digits.idxOf? c).map fun d => 16 * n + d) 0

/-- How the names of the parts end. -/
def suffixesOf (o : Options) (plan : Plan) : Except Problem Suffixes := do
  let letter := (o.letters.find? fun c => c = 'd' || c = 'x').getD 'a'
  let alphabet := match letter with
    | 'd' => "0123456789".toList
    | 'x' => "0123456789abcdef".toList
    | _ => "abcdefghijklmnopqrstuvwxyz".toList
  let first ←
    if letter = 'a' then pure none
    else startOf o letter (if letter = 'x' then hexadecimal? else natural?)
  let count : Option Nat := match plan with
    | .shares _ _ n => some (if first.getD 0 < n then n - 1 + first.getD 0 else n - 1)
    | _ => none
  let places := fun (n : Nat) =>
    1 + ((List.range 64).takeWhile fun k => Nat.pow alphabet.length (k + 1) ≤ n).length
  let needed := (count.map places).getD 0
  match o.value? 'a' with
  | some s =>
    match natural? s with
    | none => throw ("invalid suffix length: " ++ quoted s, false)
    | some 0 =>
      return ⟨alphabet, max 2 needed, count.isNone && first.isNone, first.getD 0⟩
    | some length =>
      if length < needed then
        throw ("the suffix length needs to be at least " ++ toString needed, false)
      else return ⟨alphabet, length, false, first.getD 0⟩
  | none => return ⟨alphabet, max 2 needed, count.isNone && first.isNone, first.getD 0⟩

/-- The character that ends lines. -/
def lineEndOf (o : Options) : Except Problem Char :=
  match o.value? 't' with
  | none => .ok '\n'
  | some [c] => .ok c
  | some [] => .error ("empty record separator", false)
  | some ['\\', '0'] => .ok '\x00'
  | some s => .error ("multi-character separator " ++ quoted s, false)

/-- Everything that options say. -/
structure Request where
  plan : Plan
  suffixes : Suffixes
  lineEnd : Char
  /-- What stands behind the names. -/
  extra : List Char

/-- The request that options make. -/
def requestOf (o : Options) : Except Problem Request := do
  let plan ← planOf o
  let lineEnd ← lineEndOf o
  let extra := (o.value? '+').getD []
  if extra.contains '/' then
    throw ("invalid suffix " ++ quoted extra ++ ", contains directory separator", true)
  return ⟨plan, ← suffixesOf o plan, lineEnd, extra⟩

/-- Writes parts to their files. -/
def writeParts (o : Options) (r : Request) (cwd : Place) (start : List Char) :
    (number : Nat) → List (List Char) → Errands Unit
  | _, [] => return ()
  | number, part :: rest => do
    match r.suffixes.nth number with
    | none => Errands.complain "output file suffixes exhausted"
    | some suffix =>
      let path := start ++ suffix ++ r.extra
      if o.has 'v' then Errands.tell ("creating file " ++ quoted path)
      let rights ← Errands.rights Kernel.askedMode
      if ← Errands.change (named path) fun d => do
          d.writeAt (← d.placeForWriting cwd (shown path)) rights (Text.bytesOfChars part) then
        writeParts o r cwd start (number + 1) rest

end Partition

/-- Writes parts of a file to files of their own. -/
def split : Utility := fun env args => do
  let o := Partition.grammar.read args
  let wrong := fun ((message, hinted) : Partition.Problem) =>
    if hinted then refuse "split" message 1
    else do
      warn "split" message
      return 1
  match o.problem, Partition.requestOf o, o.rest with
  | some problem, _, _ => refuse "split" problem 1
  | none, .error problem, _ => wrong problem
  | none, .ok _, _ :: _ :: extra :: _ => refuse "split" ("extra operand " ++ quoted extra) 1
  | none, .ok r, operands =>
    let path := operands.head?.getD ['-']
    match ← contents env.cwd path with
    | .error e =>
      warn "split" (if e = .isDirectory then named path ++ ": read error: " ++ e.systemText
        else "cannot open " ++ inQuotes path ++ " for reading: " ++ e.systemText)
      return 1
    | .ok text =>
      let parts := r.plan.parts r.lineEnd text
      let parts := if o.has 'e' then parts.filter (!·.isEmpty) else parts
      match r.plan with
      | .shares _ (some k) _ => emit "split" ((parts[k - 1]?).getD []) 0
      | _ =>
        runErrand "split" (Partition.writeParts o r env.cwd ((operands[1]?).getD ['x']) 0 parts)

end ProgramRepair.Utility
