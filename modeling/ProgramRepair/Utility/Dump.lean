import ProgramRepair.Utility.Print
import ProgramRepair.Utility.Streams

/-!
# Dumps

`od` prints the bytes of its inputs in rows, each with its offset in front. In one
row the same bytes can be shown in several ways, one below the other and in
columns that stand in line. Rows that repeat the one before them are replaced by a
star.
-/

namespace ProgramRepair.Utility

open Machine

namespace Dump

/-! ## Cells -/

/-- How the bytes of a cell are shown. -/
inductive CellKind where
  /-- Names of control characters. -/
  | named
  /-- Characters and their escapes. -/
  | character
  | signed
  | unsigned
  | octal
  | hex
deriving DecidableEq, Repr

/-- A way to show a row: what a cell is like, how many bytes it has, and whether the row is followed
by its characters. -/
structure View where
  kind : CellKind
  size : Nat
  trailer : Bool
deriving DecidableEq, Repr

/-- The width of a cell. -/
def View.width (v : View) : Nat :=
  let digitsOf := fun (base : Nat) => (inBase base (Nat.pow 2 (8 * v.size) - 1)).length
  match v.kind with
  | .named | .character => 3
  | .signed => (inBase 10 (Nat.pow 2 (8 * v.size - 1))).length + 1
  | .unsigned => digitsOf 10
  | .octal => digitsOf 8
  | .hex => digitsOf 16

/-- The names of the control characters and of the blank. -/
def controlNames : List String :=
  ["nul", "soh", "stx", "etx", "eot", "enq", "ack", "bel", "bs", "ht", "nl", "vt", "ff", "cr", "so",
    "si", "dle", "dc1", "dc2", "dc3", "dc4", "nak", "syn", "etb", "can", "em", "sub", "esc", "fs",
    "gs", "rs", "us", "sp"]

/-- A number with zeros up to a width. -/
def zeroPadded (width : Nat) (ds : List Char) : List Char :=
  List.replicate (width - ds.length) '0' ++ ds

/-- A character, its escape or its number in base 8. -/
def characterText (n : Nat) : List Char :=
  match n with
  | 0 => ['\\', '0']
  | 7 => ['\\', 'a']
  | 8 => ['\\', 'b']
  | 9 => ['\\', 't']
  | 10 => ['\\', 'n']
  | 11 => ['\\', 'v']
  | 12 => ['\\', 'f']
  | 13 => ['\\', 'r']
  | n => if 32 ≤ n ∧ n < 127 then [Char.ofNat n] else zeroPadded 3 (inBase 8 n)

/-- The text of a cell. -/
def View.cellText (v : View) (bytes : List Nat) : List Char :=
  let n := bytes.foldr (fun b n => b + 256 * n) 0
  match v.kind with
  | .named =>
    if n % 128 = 127 then "del".toList
    else ((controlNames[n % 128]?).map String.toList).getD [Char.ofNat (n % 128)]
  | .character => characterText n
  | .signed =>
    let limit := Nat.pow 2 (8 * v.size)
    if limit ≤ 2 * n then '-' :: digits (limit - n) else digits n
  | .unsigned => digits n
  | .octal => zeroPadded v.width (inBase 8 n)
  | .hex => zeroPadded v.width (inBase 16 n)

/-! ## Rows -/

/-- How a dump is laid out. -/
structure Layout where
  views : List View
  /-- The bytes of a row. -/
  rowSize : Nat
  /-- The base of the offsets and their least width; none if they are not shown. -/
  offsets : Option (Nat × Nat)
  /-- Whether rows that repeat are shown too. -/
  full : Bool

namespace Layout

/-- The width of a row without its offset. -/
def width (l : Layout) : Nat :=
  (l.views.map fun v => (v.width + 1) * (l.rowSize / v.size)).foldl max 0

/-- The largest size of a cell. Sizes are powers of two, so rows hold whole cells of all views if
they do of this one. -/
def unit (l : Layout) : Nat := (l.views.map (·.size)).foldl max 1

/-- An offset in front of a row. -/
def offsetText (l : Layout) (n : Nat) : List Char :=
  match l.offsets with
  | some (base, width) => zeroPadded width (inBase base n)
  | none => []

/-- The cells of a row with what is left of the space between them shared out. -/
def cellTexts (width pad fields : Nat) : (left : Nat) → Nat → List (List Char) → List Char
  | _, _, [] => []
  | left, i, cell :: rest =>
    let next := pad * (i - 1) / fields
    padLeft (left - next + width) cell ++ cellTexts width pad fields next (i - 1) rest

/-- Bytes in groups of some size, the last filled with zeros. -/
def cellsOf (size : Nat) : Nat → List Nat → List (List Nat)
  | 0, _ => []
  | fuel + 1, bytes =>
    if bytes.isEmpty then []
    else
      let cell := bytes.take size
      (cell ++ List.replicate (size - cell.length) 0) :: cellsOf size fuel (bytes.drop size)

/-- A row in one view. -/
def viewText (l : Layout) (v : View) (bytes : List Nat) : List Char :=
  let fields := l.rowSize / v.size
  let pad := l.width - v.width * fields
  let cells := (cellsOf v.size (bytes.length + 1) bytes).map v.cellText
  let text := cellTexts v.width pad fields pad fields cells
  if v.trailer then
    let blank := (l.rowSize - bytes.length) / v.size
    let gap := blank * v.width + pad * blank / fields
    let shownBytes := bytes.map fun b => if 32 ≤ b ∧ b < 127 then Char.ofNat b else '.'
    text ++ List.replicate gap ' ' ++ "  >".toList ++ shownBytes ++ ['<']
  else text

/-- A row in all views. -/
def rowText (l : Layout) (offset : Nat) (bytes : List Nat) : List Char :=
  let lead := l.offsetText offset
  (l.views.mapIdx fun i v =>
    (if i = 0 then lead else List.replicate lead.length ' ') ++ l.viewText v bytes ++
      ['\n']).flatten

/-- What is known between two rows: the offset of the next one, the latest row, whether a star stands
for the latest ones, and the bytes that do not yet fill a row. -/
structure Progress where
  offset : Nat
  before : Option (List Nat)
  starred : Bool
  left : List Nat

/-- What is printed for a row. A row that repeats the one before is left out. -/
def row (l : Layout) (s : Progress) (bytes : List Nat) : List Char × Progress :=
  let offset := s.offset + bytes.length
  if !l.full && s.before = some bytes && bytes.length = l.rowSize then
    (if s.starred then [] else ['*', '\n'], { s with offset, starred := true })
  else (l.rowText s.offset bytes, { s with offset, before := some bytes, starred := false })

/-- What is printed for all rows that some bytes fill. -/
def rows (l : Layout) (s : Progress) : (fuel : Nat) → List Nat → List Char × Progress
  | 0, bytes => ([], { s with left := bytes })
  | fuel + 1, bytes =>
    if (bytes.drop (l.rowSize - 1)).isEmpty then ([], { s with left := bytes })
    else
      let (text, s) := l.row s (bytes.take l.rowSize)
      let (more, s) := rows l s fuel (bytes.drop l.rowSize)
      (text ++ more, s)

/-- The filter that prints bytes, which begin at an offset. -/
def filter (l : Layout) (offset : Nat) : Filter Progress :=
  Filter.ofPieces ⟨offset, none, false, []⟩
    (fun s text =>
      let bytes := s.left ++ text.map Char.toNat
      l.rows s (bytes.length + 1) bytes)
    (fun s =>
      let (text, s) := if s.left.isEmpty then ([], s) else l.row s s.left
      text ++ (if l.offsets.isSome then l.offsetText s.offset ++ ['\n'] else []))

end Layout

/-! ## Options -/

/-- The size at the start of a text behind a letter, and what follows it. -/
def sizeAt (default : Nat) (s : List Char) : Nat × List Char :=
  match s with
  | 'C' :: s => (1, s)
  | 'S' :: s => (2, s)
  | 'I' :: s => (4, s)
  | 'L' :: s => (8, s)
  | s =>
    let ds := s.takeWhile Char.isDigit
    ((natural? ds).getD default, s.drop ds.length)

/-- The views that a text such as `x1c` asks for. -/
def viewsOf (text : List Char) : Nat → List Char → Except String (List View)
  | 0, _ => .ok []
  | _ + 1, [] => .ok []
  | fuel + 1, c :: s => do
    let add := fun (kind : CellKind) (size : Nat) (s : List Char) => do
      let (trailer, s) := match s with
        | 'z' :: s => (true, s)
        | s => (false, s)
      return ⟨kind, size, trailer⟩ :: (← viewsOf text fuel s)
    let number := fun (kind : CellKind) => do
      let (size, rest) := sizeAt 4 s
      if [1, 2, 4, 8].contains size then add kind size rest
      else throw ("invalid type string " ++ quoted text ++
        ";\nthis system doesn't provide a " ++ toString size ++ "-byte integral type")
    match c with
    | 'a' => add .named 1 s
    | 'c' => add .character 1 s
    | 'd' => number .signed
    | 'u' => number .unsigned
    | 'o' => number .octal
    | 'x' => number .hex
    | c => throw ("invalid character '" ++ shown [c] ++ "' in type string " ++ quoted text)

/-- The view that a letter stands for. -/
def viewOf? : Char → Option View
  | 'a' => some ⟨.named, 1, false⟩
  | 'b' => some ⟨.octal, 1, false⟩
  | 'c' => some ⟨.character, 1, false⟩
  | 'd' => some ⟨.unsigned, 2, false⟩
  | 'i' => some ⟨.signed, 4, false⟩
  | 'l' => some ⟨.signed, 8, false⟩
  | 'o' => some ⟨.octal, 2, false⟩
  | 's' => some ⟨.signed, 2, false⟩
  | 'x' => some ⟨.hex, 2, false⟩
  | _ => none

/-- The views that options ask for in their order. -/
def viewsFor : List Char → List (List Char) → Except String (List View)
  | [], _ => .ok []
  | 't' :: letters, text :: texts => do
    return (← viewsOf text (text.length + 1) text) ++ (← viewsFor letters texts)
  | c :: letters, texts => do return (viewOf? c).toList ++ (← viewsFor letters texts)

/-- A number of bytes in an option, which may have another base. -/
def byteCount? (s : List Char) : Option Nat :=
  match s with
  | '0' :: 'x' :: ds | '0' :: 'X' :: ds =>
    if !ds.isEmpty ∧ ds.all isHexDigit then
      some (ds.foldl (fun n d => 16 * n + hexDigitValue d) 0)
    else none
  | '0' :: ds =>
    if ds.all isOctal then some (ds.foldl (fun n d => 8 * n + hexDigitValue d) 0) else sized? s
  | s => sized? s

def grammar : Grammar :=
  ⟨"abcdfiloshxv", "AjNtS", "w", [("address-radix=", 'A'), ("skip-bytes=", 'j'),
    ("read-bytes=", 'N'), ("format=", 't'), ("output-duplicates", 'v'), ("width?", 'w')]⟩

/-- The bytes of a row unless an option says something else. -/
def defaultRowSize : Nat := 16

/-- The layout that options ask for, and a warning about the size of rows. -/
def layoutOf (o : Options) : Except String (Layout × Option String) := do
  let offsets ← match o.value? 'A' with
    | none | some ['o'] => pure (some (8, 7))
    | some ['d'] => pure (some (10, 7))
    | some ['x'] => pure (some (16, 6))
    | some ['n'] => pure none
    | some s => throw ("invalid output address radix " ++ quoted s ++
      "; it must be one character from [doxn]")
  let views ← viewsFor o.letters.reverse (o.valuesOf 't')
  let l : Layout := {
    views := if views.isEmpty then [⟨.octal, 2, false⟩] else views
    rowSize := defaultRowSize
    offsets := offsets
    full := o.has 'v' }
  match o.has 'w', o.value? 'w' with
  | false, _ => return (l, none)
  | true, none => return ({ l with rowSize := 32 }, none)
  | true, some s =>
    match byteCount? s with
    | none => throw ("invalid -w argument " ++ quoted s)
    | some n =>
      if 0 < n ∧ n % l.unit = 0 then return ({ l with rowSize := n }, none)
      else
        let warning := "warning: invalid width " ++ toString n ++ "; using " ++
          toString l.unit ++ " instead"
        return ({ l with rowSize := l.unit }, some warning)

/-- A number of bytes that an option gives. -/
def countOf (o : Options) (c : Char) : Except String (Option Nat) :=
  match o.value? c with
  | none => .ok none
  | some s =>
    match byteCount? s with
    | some n => .ok (some n)
    | none => .error ("invalid -" ++ shown [c] ++ " argument " ++ quoted s)

end Dump

/-- Prints the bytes of its inputs. -/
def od : Utility := fun env args => do
  let o := Dump.grammar.read args
  match o.problem, Dump.layoutOf o, Dump.countOf o 'j', Dump.countOf o 'N' with
  | some problem, _, _, _ => refuse "od" problem 1
  | none, .error problem, _, _ | none, _, .error problem, _ | none, _, _, .error problem =>
    warn "od" problem
    return 1
  | none, .ok (l, warning), .ok skipped, .ok limit =>
    if let some w := warning then warn "od" w
    let skipped := skipped.getD 0
    let demand : Demand := match limit with
      | some n => .bytes (skipped + n)
      | none => .all
    let f := l.filter skipped
    if skipped = 0 && limit.isNone then printAll f env.cwd o.rest
    else
      let (text, code, opened) ←
        match o.rest with
        | [] | [['-']] =>
          match ← readDemand 0 demand [] 0 0 Work.patience with
          | .ok text => pure (text, 0, true)
          | .error e =>
            warn "od" ("-: " ++ e.systemText)
            pure ([], 1, true)
        | [path] =>
          match ← withFile env.cwd path .reading fun fd =>
              readDemand fd demand [] 0 0 Work.patience with
          | .ok text => pure (text, 0, true)
          | .error e =>
            let opened : Bool := e = .isDirectory
            warn "od" (named path ++ ": " ++ e.systemText)
            pure ([], 1, opened)
        | paths => do
          let (text, code) ← allInput "od" env.cwd paths
          pure (text, code, true)
      if !opened then return code
      else if text.length < skipped then
        warn "od" "cannot skip past end of combined input"
        return 1
      else
        let bytes := text.drop skipped
        let bytes := match limit with
          | some n => bytes.take n
          | none => bytes
        let (text, s) := f.piece f.start bytes
        emit "od" (text ++ f.finish s) code
where
  /-- Prints whole inputs. If there is a single one that cannot be opened there is no last offset. -/
  printAll {σ : Type} (f : Filter σ) (cwd : Place) (paths : List (List Char)) : Work Nat := do
    match paths with
    | [path] =>
      match (← Work.call (Kernel.askDisk fun d => d.find cwd (shown path))) with
      | .error e =>
        if path = ['-'] then f.run "od" cwd paths
        else
          warn "od" (Filter.usualBlame path e)
          return 1
      | .ok _ => f.run "od" cwd paths
    | paths => f.run "od" cwd paths

end ProgramRepair.Utility
