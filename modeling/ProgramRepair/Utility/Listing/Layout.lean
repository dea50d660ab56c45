import ProgramRepair.Utility.Listing.Form

/-!
# Layouts of listings

Names as they are printed, with what stands in front of them and behind them, and how
they share lines: in columns that are read down or across, behind each other with commas,
or one on each line with details.
-/

namespace ProgramRepair.Utility.Listing

/-- What is listed: its name, its place, what is there, and where a link leads to, if there is
something. -/
structure Item where
  name : List Char
  place : Place
  entry : Entry
  target : Option Entry
  /-- Whether a link that is to be followed leads nowhere. -/
  isLost : Bool

/-! ## Names -/

/-- Whether a character has a sign of its own. -/
def isShown (c : Char) : Bool := ' ' ≤ c && c < '\x7f'

/-- A name with escapes for what cannot be printed; some other characters get a backslash. -/
def escaped (also : List Char) (name : List Char) : List Char :=
  name.flatMap fun c =>
    if also.contains c then ['\\', c] else if isUnquotable c then escapedChar c else [c]

/-- A name between signs that a shell takes for quotes. Nothing in it is escaped. -/
def shellQuoted (name : List Char) : List Char :=
  if !name.contains '\'' then '\'' :: name ++ ['\'']
  else if name.any fun c => "\"$\\\x60!\n".toList.contains c then
    '\'' :: name.flatMap (fun c => if c = '\'' then ['\'', '\\', '\'', '\''] else [c]) ++ ['\'']
  else '"' :: name ++ ['"']

/-- A name as it is printed, and whether it is in quotes. -/
def Form.quote (f : Form) (name : List Char) : List Char × Bool :=
  let hidden := fun (s : List Char) =>
    if f.hides then s.map fun c => if isShown c then c else '?' else s
  match f.quoting with
  | .literal => (hidden name, false)
  | .shell always false =>
    let isNeeded := always || isSpecial (name.map fun c => if c < '\x80' then c else 'x')
    if isNeeded then (hidden (shellQuoted name), true) else (hidden name, false)
  | .shell always true =>
    if always || isSpecial name then (bytesChars (inQuotes name), true) else (name, false)
  | .letters always =>
    if always || name.any fun c => c = '"' || isUnquotable c then
      ('"' :: escaped ['"', '\\'] name ++ ['"'], true)
    else (name, false)
  | .backslashes =>
    let signs := match f.signs with
      | .kinds => "*=>@|".toList
      | .all => "=>@|".toList
      | _ => []
    (escaped ('\\' :: ' ' :: signs) name, false)
  | .single => (bytesChars (quoted name), true)

/-- The name of a directory as a title. A colon in it is told apart from the one behind it. -/
def Form.quoteTitle (f : Form) (name : List Char) : List Char :=
  match f.quoting with
  | .shell always escaping =>
    ({ f with quoting := .shell (always || name.contains ':') escaping }.quote name).1
  | .letters always =>
    if always || name.any fun c => c = '"' || c = ':' || isUnquotable c then
      '"' :: escaped ['"', '\\', ':'] name ++ ['"']
    else name
  | .backslashes => escaped ['\\', ':'] name
  | .single => '\'' :: escaped ['\'', '\\', ':'] name ++ ['\'']
  | .literal => (f.quote name).1

/-- The sign for the kind of an entry. -/
def Form.sign (f : Form) (e : Entry) : List Char :=
  match f.signs, e with
  | .none, _ => []
  | _, .directory _ => ['/']
  | .slash, _ => []
  | _, .link _ => ['@']
  | _, .pipe _ => ['|']
  | .all, .file _ a => if a.mode &&& 0o111 ≠ 0 then ['*'] else []
  | _, _ => []

/-- The color of an entry. -/
def colorOf (e : Entry) : Option String :=
  match e with
  | .directory a =>
    let isSticky := a.mode &&& 0o1000 ≠ 0
    let isOpen := a.mode &&& 0o2 ≠ 0
    some (if isSticky && isOpen then "30;42" else if isOpen then "34;42"
      else if isSticky then "37;44" else "01;34")
  | .link _ => some "01;36"
  | .null => some "01;33"
  | .pipe _ => some "33"
  | .file _ a =>
    if a.mode &&& 0o4000 ≠ 0 then some "37;41"
    else if a.mode &&& 0o2000 ≠ 0 then some "30;43"
    else if a.mode &&& 0o111 ≠ 0 then some "01;32"
    else none

/-- A name in the color of an entry; the first color comes behind a sign that resets it. -/
def Form.color (f : Form) (isFirst : Bool) (e : Entry) (name : List Char) : List Char :=
  match f.colored, colorOf e with
  | true, some code =>
    let reset := "\x1b[0m".toList
    (if isFirst then reset else []) ++ ("\x1b[" ++ code ++ "m").toList ++ name ++ reset
  | _, _ => name

/-! ## Frills -/

/-- The number of an entry, which stands for its place on the disk. -/
def inodeOf (d : Disk) (i : Item) : Nat :=
  match i.entry.number? with
  | some n => 1000000 + n
  | none => 2 + (d.entries.findIdx fun e => e.1 = i.place)

/-- A size in bytes in some form. -/
def SizeForm.text (s : SizeForm) (bytes : Nat) : List Char :=
  match s with
  | units n letters => digits ((bytes + n - 1) / n) ++ letters
  | short base => humanSize base bytes

/-- A name with what stands in front of it and behind it, and the width of all that. -/
structure Cell where
  front : List Char
  name : List Char
  entry : Entry
  sign : List Char

/-- How many characters of a text are seen. -/
def seenLength (s : List Char) : Nat := (s.filter isShown).length

def Cell.width (c : Cell) : Nat := c.front.length + seenLength c.name + c.sign.length

/-- A cell as it is printed. -/
def Cell.text (f : Form) (isFirst : Bool) (c : Cell) : List Char :=
  c.front ++ f.color isFirst c.entry c.name ++ c.sign

/-- The cells of a listing. If some names have quotes, the others get a blank in their place where
names stand below each other. -/
def Form.cells (f : Form) (d : Disk) (items : List Item) : List Cell :=
  let names := items.map fun i => f.quote i.name
  let mixed := match f.quoting with
    | .shell false _ | .letters false => true
    | _ => false
  let isAligned := mixed && names.any (·.2) &&
    (f.layout = .long || ((f.layout = .down || f.layout = .across) && f.width ≠ 0))
  let inodes := items.map fun i => digits (inodeOf d i)
  let blocks := items.map fun i => f.blockForm.text (storedSize i.entry)
  let widest := fun (texts : List (List Char)) =>
    if f.layout = .commas then 0 else (texts.map List.length).foldl max 0
  let front := fun (isOn : Bool) (width : Nat) (s : List Char) =>
    if isOn then padLeft width s ++ [' '] else []
  let (inodeWidth, blockWidth) := (widest inodes, widest blocks)
  (items.zip (names.zip (inodes.zip blocks))).map fun (i, (name, isQuoted), inode, block) =>
    { front := front f.inodes inodeWidth inode ++ front f.blocks blockWidth block
      name := if isAligned && !isQuoted then ' ' :: name else name
      entry := i.entry
      sign := if f.layout = .long && (i.entry matches .link _) then [] else f.sign i.entry }

/-! ## Columns -/

/-- Blanks, or tabs where they are as wide, between two places. -/
def indent (tab goal : Nat) : (fuel start : Nat) → List Char
  | 0, _ => []
  | fuel + 1, start =>
    if goal ≤ start then []
    else if tab ≠ 0 ∧ (start + 1) / tab < goal / tab then
      '\t' :: indent tab goal fuel (start + (tab - start % tab))
    else ' ' :: indent tab goal fuel (start + 1)

/-- The least width of a column. -/
def leastColumn : Nat := 3

/-- The widths of columns for cells of some widths, if there are `count` columns. -/
def columnWidths (down : Bool) (count : Nat) (widths : List Nat) : List Nat :=
  let rows := (widths.length + count - 1) / count
  let placed := widths.zipIdx.map fun (w, i) =>
    let column := if down then i / rows else i % count
    (column, if column + 1 = count then w else w + 2)
  (List.range count).map fun column =>
    placed.foldl (fun m (c, w) => if c = column then max m w else m) leastColumn

/-- The widths of as many columns as fit into lines of some width. -/
def bestColumns (down : Bool) (width : Nat) (widths : List Nat) : (count : Nat) → List Nat
  | 0 => [0]
  | 1 => columnWidths down 1 widths
  | count + 2 =>
    let all := columnWidths down (count + 2) widths
    if all.foldl (· + ·) 0 < width then all else bestColumns down width widths (count + 1)

/-- A line of columns. -/
def columnLine (tab : Nat) (place : Nat) : List ((Nat × List Char) × Nat) → List Char
  | [] => []
  | [((_, text), _)] => text
  | ((width, text), column) :: rest =>
    text ++ indent tab (place + column) (column + 1) (place + width) ++
      columnLine tab (place + column) rest

/-- The lines of a listing in columns. -/
def columnLines (f : Form) (down : Bool) (cells : List (Nat × List Char)) : List (List Char) :=
  let widths := cells.map (·.1)
  let most := f.width / leastColumn + if f.width % leastColumn = 0 then 0 else 1
  let columns := bestColumns down f.width widths (min (max 1 most) cells.length)
  let count := columns.length
  let rows := (cells.length + count - 1) / count
  (List.range rows).map fun row =>
    let chosen := (List.range count).filterMap fun column =>
      cells[if down then column * rows + row else row * count + column]?
    columnLine f.tab 0 (chosen.zip columns)

/-- A listing with commas, from some place in a line on. -/
def commaText (f : Form) (place : Nat) : List (Nat × List Char) → List Char
  | [] => []
  | (width, text) :: rest =>
    let fits := f.width = 0 || place + width + 2 < f.width
    let between := [',', if fits then ' ' else f.lineEnd]
    between ++ text ++ commaText f (if fits then place + 2 + width else width) rest

/-- The lines of a listing, one behind the other, with their ends. -/
def shortText (f : Form) (cells : List (Nat × List Char)) : List Char :=
  let ended := fun (lines : List (List Char)) => lines.flatMap (· ++ [f.lineEnd])
  match f.layout, cells with
  | _, [] => []
  | .commas, (width, text) :: rest => text ++ commaText f width rest ++ [f.lineEnd]
  | .down, _ | .across, _ =>
    if f.width = 0 then
      List.flatten ((cells.map (·.2)).intersperse [' ', ' ']) ++ [f.lineEnd]
    else ended (columnLines f (f.layout = .down) cells)
  | _, _ => ended (cells.map (·.2))

/-! ## Long lines -/

/-- The columns of a long listing in front of the time, each with whether it stands at the right. -/
def longColumns (f : Form) (d : Disk) (i : Item) : List (List Char × Bool) :=
  let e := i.entry
  let mark := fun ((text, atRight) : List Char × Bool) =>
    if !i.isLost then (text, atRight)
    else if text = rightsText e then ("l?????????".toList, false)
    else (['?'], atRight)
  let owner := if !f.numbers then ownerOf e
    else if ownerOf e = systemName then ['0'] else digits userNumber
  let size := match e with
    | .null => "1, 3".toList
    | e => f.sizeForm.text (sizeOf e)
  ([(rightsText e, false), (digits (nameCount d i.place e), true)] ++
    (if f.owner then [(owner, f.numbers)] else []) ++
    (if f.group then [(owner, f.numbers)] else []) ++
    (if f.author then [(owner, f.numbers)] else []) ++ [(size, true)]).map mark

/-- The time in a long listing. -/
def Form.time (f : Form) (now changed : Int) : List Char :=
  let near := 15778476 * Moment.perSecond
  let format := if now - near < changed ∧ changed ≤ now then f.times.1 else f.times.2
  (Moment.ofNanoseconds changed).format (format.length + 1) format

/-- The lines of a long listing. -/
def longLines (f : Form) (d : Disk) (items : List Item) (cells : List Cell)
    (isFirst : List Bool) : List (List Char) :=
  let rows := items.map (longColumns f d)
  let count := ((rows.head?).map List.length).getD 0
  let widths := (List.range count).map fun k =>
    (rows.map fun row => (((row[k]?).map (·.1)).getD []).length).foldl max 0
  (items.zip (rows.zip (cells.zip isFirst))).map fun (i, row, cell, first) =>
    let columns := (row.zip widths).map fun ((text, atRight), width) =>
      if atRight then padLeft width text else text ++ List.replicate (width - text.length) ' '
    let time := f.time d.now (changedOf i.entry)
    let time := if i.isLost then padLeft time.length ['?'] else time
    let target := match i.entry with
      | .link text =>
        if i.isLost then []
        else
        let name := (f.quote (bytesChars text)).1
        match i.target with
        | some e =>
          let isKnown := f.signs = .kinds || f.signs = .all
          " -> ".toList ++ (if isKnown then f.color false e name else name) ++ f.sign e
        | none => " -> ".toList ++ name
      | _ => []
    cell.front ++ List.flatten (columns.intersperse [' ']) ++
      ' ' :: time ++
      ' ' :: { cell with front := [] }.text f first ++ target

/-- Everything that is printed for the items of a listing; `used` says whether a color was used. -/
def itemsText (f : Form) (d : Disk) (used : Bool) (items : List Item) : List Char :=
  let cells := f.cells d items
  let colored := cells.map fun c => f.colored && (colorOf c.entry).isSome
  let isFirst := colored.zipIdx.map fun (isColored, k) =>
    isColored && !used && !(colored.take k).any fun b => b
  match f.layout with
  | .long => (longLines f d items cells isFirst).flatMap (· ++ [f.lineEnd])
  | _ => shortText f ((cells.zip isFirst).map fun (c, first) => (c.width, c.text f first))

end ProgramRepair.Utility.Listing
