import ProgramRepair.Utility.Input

/-!
# Columns on paper

The form of printed pages, the lines that come onto them, and a pen that writes the
cells of a row: it puts blanks between cells off until something follows them, and may
then write tabs for them.
-/

namespace ProgramRepair.Utility.Pages

/-! ## The form of a page -/

/-- How characters are shown that have no sign of their own. -/
inductive ShownAs where
  | itself
  | caret
  | octal
deriving DecidableEq, Repr

/-- A tab: its character and the distance of its stops. -/
structure Tab where
  sign : Char
  stop : Nat

/-- The places from `h` to the next stop. -/
def Tab.distance (stop h : Nat) : Nat := stop - h % stop

/-- How lines are numbered. -/
structure Numbering where
  separator : Char
  digits : Nat
  first : Int

/-- The places that a number takes. -/
def Numbering.width (n : Numbering) : Nat :=
  n.digits + if n.separator = '\t' then Tab.distance 8 n.digits else 1

/-- The form of printed pages. -/
structure Form where
  columns : Nat
  /-- Whether lines go on in the next column before they go on in the next row. -/
  across : Bool
  /-- Whether each column is a file of its own. -/
  merged : Bool
  doubled : Bool
  /-- Whether pages have a head and a foot. -/
  titled : Bool
  /-- Whether page breaks of the input are printed. -/
  keepsBreaks : Bool
  /-- Whether a page ends with a page break and not with empty lines. -/
  breaksPages : Bool
  truncated : Bool
  /-- What stands between columns, if anything does. -/
  separator : Option (List Char)
  /-- The places that the separator is counted as. -/
  separatorWidth : Nat
  inputTab : Tab
  expandsTabs : Bool
  outputTab : Tab
  makesTabs : Bool
  numbering : Option Numbering
  shownAs : ShownAs
  margin : Nat
  /-- The lines of a page without head and foot. -/
  rows : Nat
  columnWidth : Nat

namespace Form

/-- Whether the lines of a page are collected and then spread over its columns. -/
def isBalanced (f : Form) : Bool := 1 < f.columns && !f.across && !f.merged

/-- Whether the lines of a column are numbered. -/
def numbered (f : Form) (column : Nat) : Bool :=
  f.numbering.isSome && (!f.merged || column = 0)

/-- The place where a column begins, its separator counted; columns that are not cut off begin
anywhere. -/
def start? (f : Form) (column : Nat) : Option Nat :=
  let number := if f.merged then (f.numbering.map (·.width)).getD 0 else 0
  if column = 0 then some (f.margin + f.separatorWidth)
  else if f.truncated then
    some (f.margin + number + column * (f.columnWidth + f.separatorWidth))
  else none

end Form

/-! ## Lines -/

/-- What a line of the input ends with. -/
inductive Ending where
  | lineBreak
  | pageBreak
  | fileEnd
deriving DecidableEq, Repr

/-- A line of the input. -/
structure Line where
  text : List Char
  ending : Ending
deriving Repr

/-- Whether there is nothing but a page break. -/
def Line.isBreak (l : Line) : Bool := l.text.isEmpty && l.ending = .pageBreak

/-- The lines of a text; the current one is kept with the latest character first. A line break that
follows a page break belongs to it. -/
def linesFrom (current : List Char) : List Char → List Line
  | [] => if current.isEmpty then [] else [⟨current.reverse, .fileEnd⟩]
  | '\n' :: s => ⟨current.reverse, .lineBreak⟩ :: linesFrom [] s
  | '\x0c' :: '\n' :: s => ⟨current.reverse, .pageBreak⟩ :: linesFrom [] s
  | '\x0c' :: s => ⟨current.reverse, .pageBreak⟩ :: linesFrom [] s
  | c :: s => linesFrom (c :: current) s

/-- What is printed for a character that comes to stand at the place `h`, and the place behind it. -/
def Form.clump (f : Form) (h : Nat) (c : Char) : List Char × Nat :=
  let octal := '\\' :: (Nat.toDigits 8 (512 + c.toNat)).drop 1
  if c = f.inputTab.sign || c = '\t' then
    let n := Tab.distance (if c = f.inputTab.sign then f.inputTab.stop else 8) h
    (if f.expandsTabs then List.replicate n ' ' else [c], h + n)
  else if 0x20 ≤ c.toNat && c.toNat < 0x7f then ([c], h + 1)
  else
    match f.shownAs with
    | .octal => (octal, h + 4)
    | .caret =>
      if c.toNat < 0x80 then (['^', Char.ofNat (c.toNat ^^^ 0x40)], h + 2) else (octal, h + 4)
    | .itself => if c = '\x08' then (if h = 0 then [] else [c], h - 1) else ([c], h)

/-- What is printed for characters that begin at the place `h`, up to the end of the column, and the
place behind that. -/
def Form.clumps (f : Form) (h : Nat) : List Char → List Char × Nat
  | [] => ([], h)
  | c :: s =>
    let (text, next) := f.clump h c
    if f.truncated && f.columnWidth < next then ([], h)
    else
      let (more, last) := f.clumps next s
      (text ++ more, last)

/-- What is printed for a line with a number of some width in front of it, and the place behind it.
The first character is measured as if there was no number. The value is none if the column has no
place for it. -/
def Form.content? (f : Form) (number : Nat) : List Char → Option (List Char × Nat)
  | [] => some ([], 0)
  | c :: s =>
    let (text, h) := f.clump 0 c
    if f.truncated && f.columnWidth < h then none
    else
      let (more, last) := f.clumps (h + if f.truncated && !f.merged then number else 0) s
      some (text ++ more, last)

/-- The last digits of a number, and what separates it from its line. -/
def Form.numberText (f : Form) (n : Numbering) (number : Int) : List Char :=
  let all := padLeft n.digits (toString number).toList
  all.drop (all.length - n.digits) ++
    if 1 < f.columns && n.separator = '\t' then
      List.replicate (n.width - n.digits) ' '
    else [n.separator]

/-! ## The pen -/

/-- What was written in a row. -/
structure Pen where
  /-- The latest character first. -/
  text : List Char
  position : Int
  /-- The blanks that are still to be written. -/
  blanks : Int
  /-- The separators that are still to be written. -/
  separators : Nat

namespace Pen

/-- A pen at the beginning of a row. -/
def fresh (text : List Char) : Pen := ⟨text, 0, 0, 0⟩

/-- Blanks from the place `h` to the place `goal` with tabs where more than one place is covered,
the latest first. -/
def gap (t : Tab) (goal : Nat) : (fuel h : Nat) → List Char → List Char
  | 0, _, text => text
  | fuel + 1, h, text =>
    let next := h + Tab.distance t.stop h
    if h + 1 < goal && next ≤ goal then gap t goal fuel next (t.sign :: text)
    else List.replicate (goal - h) ' ' ++ text

/-- Writes the blanks that were put off. -/
def flush (f : Form) (p : Pen) : Pen :=
  if p.blanks ≤ 0 then { p with position := p.position + p.blanks, blanks := 0 }
  else
    let goal := p.position + p.blanks
    let steps := p.blanks.toNat + 1
    { p with
      text := gap f.outputTab goal.toNat steps p.position.toNat p.text
      position := goal
      blanks := 0 }

/-- Writes a character; a blank may be put off. -/
def put (f : Form) (p : Pen) (c : Char) : Pen :=
  if !f.makesTabs then { p with text := c :: p.text }
  else if c = ' ' then { p with blanks := p.blanks + 1 }
  else
    let p := if 0 < p.blanks then p.flush f else p
    let step := if 0x20 ≤ c.toNat && c.toNat < 0x7f then 1 else if c = '\x08' then -1 else 0
    { p with text := c :: p.text, position := p.position + step }

def putAll (f : Form) (p : Pen) (s : List Char) : Pen := s.foldl (put f) p

/-- Goes to a place further on. -/
def moveTo (f : Form) (p : Pen) (h : Nat) : Pen :=
  if f.makesTabs then { p with blanks := h - p.position }
  else
    { p with
      text := List.replicate (h - p.position).toNat ' ' ++ p.text
      position := h }

/-- Writes the separator, once however many are due. -/
def separate (f : Form) (s : List Char) (p : Pen) : Pen :=
  if p.separators = 0 then if 0 < p.blanks then p.flush f else p
  else
    let p := s.foldl (fun (p : Pen) c =>
      if c = ' ' then { p with blanks := p.blanks + 1 }
      else
        let p := if 0 < p.blanks then p.flush f else p
        { p with text := c :: p.text, position := p.position + 1 }) p
    { (if 0 < p.blanks then p.flush f else p) with separators := 0 }

/-- Goes to the beginning of a column. -/
def enter (f : Form) (column : Nat) (p : Pen) : Pen :=
  let h := (f.start? column).getD 0 - f.separatorWidth
  let p := if 0 < h then p.moveTo f h else p
  match f.separator with
  | some s => p.separate f s
  | none => p

/-- Writes the number of a line. -/
def putNumber (f : Form) (n : Numbering) (number : Int) (p : Pen) : Pen :=
  let p := p.putAll f (f.numberText n number)
  if f.columns ≤ 1 && n.separator = '\t' then
    let h := p.position.toNat
    { p with position := h + Tab.distance f.outputTab.stop h }
  else p

end Pen

end ProgramRepair.Utility.Pages
