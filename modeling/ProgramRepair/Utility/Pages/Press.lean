import ProgramRepair.Utility.Pages.Paper

/-!
# The press

Pages are printed one after the other. A page takes rows, and a row takes lines for its
columns, as long as there are lines and none of them asks for a new page. A file whose
line does so waits until the page is full. If the lines of one file go down the columns,
they are collected for the whole page first and spread over the columns evenly.
-/

namespace ProgramRepair.Utility.Pages

/-- What a file does. -/
inductive Status where
  | ready
  /-- It waits for the next page. -/
  | waiting
  | ended
deriving DecidableEq, Repr

/-- A file and what is left of it. -/
structure Source where
  lines : List Line
  status : Status
  /-- Whether it filled the page before, so that a page break there has no effect. -/
  isFull : Bool

namespace Source

def isReady (s : Source) : Bool := s.status = .ready

/-- The next line, and what is left behind it. A line that is not complete ends the file, one that
ends with a page break makes it wait. -/
def next? (s : Source) : Option Line × Source :=
  let lines := match s.lines with
    | l :: rest => if s.isFull && l.isBreak then rest else s.lines
    | [] => []
  match lines with
  | [] => (none, ⟨[], .ended, false⟩)
  | l :: rest =>
    let status := match l.ending with
      | .lineBreak => Status.ready
      | .pageBreak => .waiting
      | .fileEnd => .ended
    (some l, ⟨rest, status, false⟩)

/-- Goes on behind a page. -/
def turned (s : Source) : Source := if s.status = .waiting then { s with status := .ready } else s

end Source

/-- The state of the press. -/
structure Press where
  sources : List Source
  /-- The number of the next line. -/
  number : Int
  /-- What was printed, the latest character first. -/
  text : List Char
  /-- The number of the next page. -/
  page : Nat
  /-- Whether the head of the page is still to be printed. -/
  isHeadDue : Bool
  /-- Whether a page break is still to be printed. -/
  isBreakDue : Bool

namespace Press

def isReady (s : Press) : Bool := s.sources.any Source.isReady

/-- Changes one of the files. -/
def set (s : Press) (i : Nat) (x : Source) : Press := { s with sources := s.sources.set i x }

end Press

/-- A row as it is printed. -/
structure Row where
  pen : Pen
  /-- Whether there is something in the row, if only the head of the page. -/
  hasInk : Bool
  /-- Whether no column had a line. -/
  isEmpty : Bool
  /-- How many columns at the front were left out so far. -/
  skipped : Nat

/-- The head of a page: the date, the title and the number of the page. -/
structure Head where
  date : List Char
  title : List Char
  width : Nat

/-- The text of a head. -/
def Head.text (h : Head) (f : Form) (page : Nat) : List Char :=
  let number := "Page ".toList ++ digits page
  let room := h.width - (h.date.length + h.title.length + number.length)
  let blanks := fun (n : Nat) => List.replicate (max 1 n) ' '
  "\n\n".toList ++ List.replicate f.margin ' ' ++ h.date ++ blanks (room / 2) ++ h.title ++
    blanks (room - room / 2) ++ number ++ "\n\n\n".toList

namespace Press

/-- Prints the head of a page if that is due. What is in the row so far is blanks that are not
written yet. -/
def head (h : Head) (f : Form) (s : Press) (r : Row) : Press × Row :=
  if s.isHeadDue then
    ({ s with isHeadDue := false, page := s.page + 1 },
      { r with pen := { r.pen with text := (h.text f s.page).reverse ++ r.pen.text, position := 0 } })
  else (s, r)

/-- Prints the number of a line if the column has numbers. -/
def numberIn (f : Form) (column : Nat) (s : Press) (p : Pen) : Press × Pen :=
  match f.numbering, f.numbered column with
  | some n, true => ({ s with number := s.number + 1 }, p.putNumber f n s.number)
  | _, _ => (s, p)

/-- Prints a column without a line. -/
def align (f : Form) (column : Nat) (s : Press) (p : Pen) : Press × Pen :=
  s.numberIn f column (p.enter f column)

/-- Prints the columns at the front that were left out, each with the separator behind it. -/
def alignSkipped (f : Form) (s : Press) (r : Row) : Press × Row :=
  if r.skipped = 0 then (s, r)
  else
    let (s, p) := (List.range r.skipped).foldl (fun ((s, p) : Press × Pen) column =>
      let (s, p) := s.align f column p
      (s, { p with separators := p.separators + 1 })) (s, { r.pen with separators := 0 })
    (s, { r with
      pen := { p with blanks := if f.truncated then (f.columnWidth : Int) else 0 }, skipped := 0 })

/-- Prints a line in a column, unless the column has no place for it. -/
def printLine (h : Head) (f : Form) (column : Nat) (line : List Char) (s : Press) (r : Row) :
    Press × Row :=
  match f.content? ((f.numbering.map (·.width)).getD 0) line with
  | none => (s, r)
  | some (text, _) =>
    let (s, r) := s.head h f { r with hasInk := true }
    let (s, r) := s.alignSkipped f r
    let (s, pen) := s.numberIn f column (r.pen.enter f column)
    (s, { r with pen := pen.putAll f text, isEmpty := false })

/-- Takes the next line of a file for a column. The last part says whether the file has nothing for
the column but its end or a page break. -/
def takeLine (h : Head) (f : Form) (column source : Nat) (x : Source) (s : Press) (r : Row) :
    Press × Row × Bool :=
  match x.next? with
  | (none, x) => (s.set source x, r, true)
  | (some l, x) =>
    let s := s.set source x
    if l.isBreak then
      if s.isHeadDue then
        let (s, r) := s.head h f { r with hasInk := true }
        (s, r, true)
      else ({ s with isBreakDue := s.isBreakDue || f.keepsBreaks }, r, true)
    else
      let (s, r) := s.printLine h f column l.text r
      let isBreakDue := s.isBreakDue || f.keepsBreaks && l.ending = .pageBreak
      ({ s with isBreakDue }, r, x.status = .ended)

/-- Prints the columns of a row from one on. -/
def printColumns (h : Head) (f : Form) : (count column : Nat) → Press → Row → Press × Row
  | 0, _, s, r => (s, r)
  | count + 1, column, s, r =>
    let source := if f.merged then column else 0
    let x := (s.sources[source]?).getD ⟨[], .ended, false⟩
    let (s, r, isOver, goesOn) :=
      if x.isReady then
        let (s, r, isOver) := s.takeLine h f column source x r
        (s, r, isOver, s.isReady)
      else (s, r, true, true)
    if !goesOn then (s, r)
    else
      let (s, r) :=
        if !f.merged || !isOver then (s, r)
        else if r.isEmpty then (s, { r with skipped := column + 1 })
        else
          let (s, pen) := s.align f column r.pen
          (s, { r with pen })
      let separators := r.pen.separators + if f.separator.isSome then 1 else 0
      printColumns h f count (column + 1) s { r with pen := { r.pen with separators } }

/-- A line that was collected: what is printed of it, and the place behind it. -/
abbrev Stored := List Char × Nat

/-- Collects lines of the file for a page. -/
def collect (f : Form) : (count : Nat) → Press → List Stored → Press × List Stored
  | 0, s, lines => (s, lines.reverse)
  | count + 1, s, lines =>
    match s.sources with
    | x :: others =>
      if !x.isReady then (s, lines.reverse)
      else
        match x.next? with
        | (none, x) => ({ s with sources := x :: others }, lines.reverse)
        | (some l, x) =>
          let s := { s with
            sources := x :: others
            isBreakDue := s.isBreakDue || f.keepsBreaks && l.ending = .pageBreak }
          if l.isBreak then (s, lines.reverse)
          else
            match f.content? ((f.numbering.map (·.width)).getD 0) l.text, f.numbering with
            | none, _ => collect f count s (if x.isReady then ([], 0) :: lines else lines)
            | some stored, none => collect f count s (stored :: lines)
            | some (text, h), some n =>
              let text := f.numberText n s.number ++ text
              let h := if l.text.isEmpty && f.truncated then h + n.width else h
              collect f count { s with number := s.number + 1 } ((text, h) :: lines)
    | [] => (s, lines.reverse)

/-- Spreads lines over columns: the first columns have one more if they cannot be equal. -/
def spread (lines : List α) (columns : Nat) : (count : Nat) → List α → List (List α)
  | 0, _ => []
  | count + 1, left =>
    let extra := if columns - (count + 1) < lines.length % columns then 1 else 0
    let height := lines.length / columns + extra
    left.take height :: spread lines columns count (left.drop height)

/-- Prints the columns of a row of collected lines from one on. -/
def printStored (h : Head) (f : Form) : (column : Nat) → List (Option Stored) → Press → Row →
    Press × Row
  | _, [], s, r => (s, r)
  | column, cell :: cells, s, r =>
    let (s, r) := match cell with
      | none => (s, r)
      | some (text, width) =>
        let (s, r) := s.head h f { r with hasInk := true }
        let pen := (r.pen.enter f column).putAll f text
        let start := ((f.start? column).getD 0 : Int)
        let isFirst := start - f.separatorWidth = f.margin
        let pen := if pen.blanks = 0 then
            { pen with position := start + width - if isFirst then (f.separatorWidth : Int) else 0 }
          else pen
        (s, { r with pen })
    if cells.all Option.isNone then (s, r)
    else
      let separators := r.pen.separators + if f.separator.isSome then 1 else 0
      printStored h f (column + 1) cells s { r with pen := { r.pen with separators } }

/-- Ends a row. The second part is how many rows of the page are left. -/
def endRow (f : Form) (s : Press) (r : Row) (left : Nat) (isUsed isLast : Bool) : Press × Nat :=
  let s := { s with text := if r.hasInk then '\n' :: r.pen.text else r.pen.text }
  let left := if r.hasInk then left - 1 else left
  if f.doubled && isUsed && !(isLast && !f.titled) then
    ({ s with text := '\n' :: s.text }, left - 1)
  else (s, left)

/-- A row with nothing in it. -/
def newRow (s : Press) : Row := ⟨.fresh s.text, false, true, 0⟩

/-- Prints rows. The result has the rows that are left and whether the page was used. -/
def printRows (h : Head) (f : Form) (left : Nat) (isUsed : Bool) (s : Press) :
    (fuel : Nat) → Press × Nat × Bool
  | 0 => (s, left, isUsed)
  | fuel + 1 =>
    if left = 0 || !s.isReady then (s, left, isUsed)
    else
      let (s, r) := s.printColumns h f f.columns 0 s.newRow
      let isUsed := isUsed || r.hasInk
      let (s, left) := s.endRow f r left isUsed (!s.isReady)
      printRows h f left isUsed s fuel

/-- Prints rows of collected lines. -/
def printStoredRows (h : Head) (f : Form) (columns : List (List Stored)) (left : Nat) (isUsed : Bool)
    (s : Press) : (count row : Nat) → Press × Nat × Bool
  | 0, _ => (s, left, isUsed)
  | count + 1, row =>
    let (s, r) := s.printStored h f 0 (columns.map (·[row]?)) s.newRow
    let (s, left) := s.endRow f r left true (count = 0 && !s.isReady)
    printStoredRows h f columns left true s count (row + 1)

/-- Prints what a page has between head and foot. -/
def printBody (h : Head) (f : Form) (s : Press) (fuel : Nat) : Press × Nat × Bool :=
  let left := if f.doubled then 2 * f.rows else f.rows
  if !f.isBalanced then s.printRows h f left false fuel
  else
    let (s, lines) := s.collect f (f.rows * f.columns) []
    let columns := spread lines f.columns f.columns lines
    let waits := s.sources.any fun x => x.status = .waiting
    if lines.isEmpty && waits && f.titled then
      let (s, r) := s.head h f { s.newRow with hasInk := true }
      let (s, left) := s.endRow f r left true false
      (s, left, true)
    else s.printStoredRows h f columns left false ((columns.head?.map List.length).getD 0) 0

/-- The empty lines of a foot. -/
def footLines : Nat := 5

/-- Prints a page. -/
def printPage (h : Head) (f : Form) (fuel : Nat) (s : Press) : Press :=
  let (s, left, isUsed) := { s with isHeadDue := f.titled }.printBody h f fuel
  let s := if left = 0 then
      { s with sources := s.sources.map fun x => { x with isFull := x.isFull || x.isReady } }
    else s
  let s :=
    if isUsed && f.titled then
      let foot := if f.breaksPages then ['\x0c'] else List.replicate (left + footLines) '\n'
      { s with text := foot ++ s.text }
    else if f.keepsBreaks && s.isBreakDue then
      { s with text := '\x0c' :: s.text, isBreakDue := false }
    else s
  { s with sources := s.sources.map Source.turned }

/-- Prints all pages up to the last one that is asked for. -/
def printPages (h : Head) (f : Form) (last : Option Nat) (s : Press) : (fuel : Nat) → Press
  | 0 => s
  | fuel + 1 =>
    if !s.isReady || last.any (· < s.page) then s
    else printPages h f last (s.printPage h f (fuel + 2)) fuel

/-- Leaves pages out. The result has how many pages there were. -/
def skipPages (h : Head) (f : Form) (s : Press) : (fuel count done : Nat) → Press × Nat
  | 0, _, done => (s, done)
  | _, 0, done => (s, done)
  | fuel + 1, count + 1, done =>
    if !s.isReady then (s, done)
    else skipPages h f (s.printPage h f (fuel + 2)) fuel count (done + 1)

end Press

end ProgramRepair.Utility.Pages
