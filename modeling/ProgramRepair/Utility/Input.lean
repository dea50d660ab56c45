import ProgramRepair.Utility.Quotation

/-!
# Inputs of programs

Most programs read the files that are named, one after the other, or the standard
input if none is. A file that cannot be read is complained about and left out.
-/

namespace ProgramRepair.Utility

open Machine

/-! ## Input piece by piece -/

/-- What becomes of an input that comes piece by piece. -/
structure Filter (σ : Type) where
  start : σ
  /-- What is printed for a piece, and the state for the next. -/
  piece : σ → List Char → List Char × σ
  /-- What is printed at the end of a file. -/
  fileEnd : σ → List Char × σ
  /-- What is printed at the end of the last file. -/
  finish : σ → List Char

namespace Filter

/-- A filter for which the inputs are one text. -/
def ofPieces (start : σ) (piece : σ → List Char → List Char × σ) (finish : σ → List Char) :
    Filter σ where
  start := start
  piece := piece
  fileEnd := fun s => ([], s)
  finish := finish

/-- What becomes of lines one after the other. -/
def eachLine (line : σ → List Char → List Char × σ) (s : σ) : List (List Char) → List Char × σ
  | [] => ([], s)
  | l :: rest =>
    let (text, s) := line s l
    let (more, s) := eachLine line s rest
    (text ++ more, s)

/-- A filter for lines. A text without an end of line at its own end counts as a line, which is
`complete` or not. With `joined` the inputs are one text. The parts of a line that has begun are
kept with the latest first. -/
def ofLines (lineEnd : Char) (joined : Bool) (start : σ)
    (line : (complete : Bool) → σ → List Char → List Char × σ) :
    Filter (σ × List (List Char)) :=
  let last := fun ((s, left) : σ × List (List Char)) =>
    if left.all List.isEmpty then ([], (s, []))
    else
      let (text, s) := line false s left.reverse.flatten
      (text, (s, []))
  { start := (start, [])
    piece := fun (s, left) text =>
      match (Text.cut lineEnd text).reverse with
      | [] => ([], (s, left))
      | [only] => ([], (s, only :: left))
      | rest :: lines =>
        let lines := match lines.reverse with
          | [] => []
          | first :: others => (first :: left).reverse.flatten :: others
        let (text, s) := eachLine (line true) s lines
        (text, (s, [rest]))
    fileEnd := fun s => if joined then ([], s) else last s
    finish := fun s => if joined then (last s).1 else [] }

/-- What becomes of a single text. -/
def text (f : Filter σ) (text : List Char) : List Char :=
  let (start, s) := f.piece f.start text
  let (middle, s) := f.fileEnd s
  start ++ middle ++ f.finish s

/-- Passes a descriptor through a filter. The result is the state, or none if the output cannot be
printed. -/
def feed (program : String) (f : Filter σ) (fd : Nat) (s : σ) :
    Nat → Work (Except Disk.Error (Option σ))
  | 0 => .forever
  | times + 1 => do
    match ← Work.call (Kernel.read fd Work.blockSize) with
    | .error e => return .error e
    | .ok [] => return .ok (some s)
    | .ok bytes =>
      let (text, s) := f.piece s (Text.charsOfBytes bytes)
      if ← tryPut program text then feed program f fd s times else return .ok none

/-- Passes files through a filter one after the other; `blame` is what is said about a file that
cannot be read. The exit code of what was done before is `code`. -/
def feedAll (program : String) (blame : List Char → Disk.Error → String) (f : Filter σ)
    (cwd : Place) (code : Nat) (s : σ) : List (List Char) → Work Nat
  | [] => return max code (if ← tryPut program (f.finish s) then 0 else 1)
  | path :: rest => do
    let read := fun fd => feed program f fd s Work.patience
    match ← if path = ['-'] then read 0 else withFile cwd path .reading read with
    | .error e =>
      warn program (blame path e)
      feedAll program blame f cwd 1 s rest
    | .ok none => return 1
    | .ok (some s) =>
      let (text, s) := f.fileEnd s
      if ← tryPut program text then feedAll program blame f cwd code s rest else return 1

/-- What is said about a file that cannot be read. -/
def usualBlame (path : List Char) (e : Disk.Error) : String := named path ++ ": " ++ e.systemText

/-- Passes the files that are named, or else the standard input, through a filter. -/
def run (program : String) (f : Filter σ) (cwd : Place) (paths : List (List Char)) : Work Nat :=
  feedAll program usualBlame f cwd 0 f.start (if paths.isEmpty then [['-']] else paths)

end Filter

/-! ## A part of an input -/

/-- How much of an input is read. -/
inductive Demand where
  | bytes (n : Nat)
  /-- A piece after the other until some number of lines is complete. -/
  | lines (n : Nat)
  | all

/-- The size of the pieces in which lines are looked for. -/
def searchSize : Nat := 8192

/-- How many bytes are read next behind some bytes with some line breaks. -/
def Demand.next (size breaks : Nat) : Demand → Nat
  | bytes n => min Work.blockSize (n - size)
  | lines n => if n ≤ breaks then 0 else searchSize
  | all => Work.blockSize

/-- What was read, the latest first, as a text. -/
def textOf (latestFirst : List Bytes) : List Char :=
  Text.charsOfBytes latestFirst.reverse.flatten

/-- Reads as much as is demanded, or all that there is. -/
def readDemand (fd : Nat) (d : Demand) (before : List Bytes) (size breaks : Nat) :
    Nat → Work (Except Disk.Error (List Char))
  | 0 => .forever
  | times + 1 => do
    match d.next size breaks with
    | 0 => return .ok (textOf before)
    | count =>
      match ← Work.call (Kernel.read fd count) with
      | .ok [] => return .ok (textOf before)
      | .ok bytes =>
        readDemand fd d (bytes :: before) (size + bytes.length) (breaks + bytes.count 10) times
      | .error e => return .error e

/-! ## Whole inputs -/

/-- What a program reads: the contents of the files that are named, or the standard input. Files
that cannot be read are complained about. -/
def inputs (program : String) (cwd : Place) :
    List (List Char) → Work (List (List Char × List Char) × Nat)
  | [] => return ([], 0)
  | path :: rest => do
    let r ← contents cwd path
    match r with
    | .ok text =>
      let (others, code) ← inputs program cwd rest
      return ((path, text) :: others, code)
    | .error e =>
      warn program (named path ++ ": " ++ e.systemText)
      let (others, _) ← inputs program cwd rest
      return (others, 1)

/-- The text of all inputs. -/
def allInput (program : String) (cwd : Place) (paths : List (List Char)) :
    Work (List Char × Nat) := do
  let (texts, code) ← inputs program cwd (if paths.isEmpty then [['-']] else paths)
  return (texts.flatMap (·.2), code)

end ProgramRepair.Utility
