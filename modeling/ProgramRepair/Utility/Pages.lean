import ProgramRepair.Clock.Calendar
import ProgramRepair.Utility.Pages.Press

/-!
# Pages

`pr` prints files page by page, in one column or in several, with numbers in front of
the lines if that is asked for. Files with a head show when they were last changed.
-/

namespace ProgramRepair.Utility

open Machine

namespace Pages

def grammar : Grammar :=
  ⟨"0123456789abcdfFJmrtTv", "DhlNowW", "einsS",
    [("pages=", '+'), ("columns=", '|'), ("across", 'a'), ("show-control-chars", 'c'),
      ("double-space", 'd'), ("date-format=", 'D'), ("expand-tabs?", 'e'), ("form-feed", 'f'),
      ("header=", 'h'), ("output-tabs?", 'i'), ("join-lines", 'J'), ("length=", 'l'),
      ("merge", 'm'), ("number-lines?", 'n'), ("first-line-number=", 'N'), ("indent=", 'o'),
      ("no-file-warnings", 'r'), ("separator?", 's'), ("sep-string?", 'S'), ("omit-header", 't'),
      ("omit-pagination", 'T'), ("show-nonprinting", 'v'), ("width=", 'w'), ("page-width=", 'W')]⟩

/-- What is wrong with the options, and whether a hint follows. -/
structure Problem where
  message : String
  hinted : Bool

/-- The largest number that an option takes. -/
def largest : Int := Nat.pow 2 31 - 1

/-- A number from `low` on that an option has. -/
def numberFor (what : String) (low : Int) (s : List Char) : Except Problem Int :=
  let said := what ++ ": " ++ quoted s
  match integer? s with
  | none => .error ⟨said, false⟩
  | some n =>
    if low ≤ n ∧ n ≤ largest then .ok n
    else if largest / 2 < n.natAbs then
      .error ⟨said ++ ": Value too large for defined data type", false⟩
    else .error ⟨said ++ ": Numerical result out of range", false⟩

/-- A character and a number, each of which may be missing. -/
def signAndNumber (letter : Char) (usual : Char × Nat) (s : List Char) :
    Except Problem (Char × Nat) :=
  let (sign, ds) := match s with
    | c :: rest => if c.isDigit then (usual.1, s) else (c, rest)
    | [] => (usual.1, [])
  let problem := fun (reason : String) =>
    Except.error ⟨reason ++ "'-" ++ shown [letter] ++
      "' extra characters or invalid number in the argument: " ++ quoted ds, true⟩
  if ds.isEmpty then .ok (sign, usual.2)
  else
    match integer? ds with
    | none => problem ""
    | some n =>
      if n ≤ 0 then problem "" else if n ≤ largest then .ok (sign, n.toNat) else problem ""

/-- The first and the last page that a text such as `2:4` names. -/
def pageRange? (s : List Char) : Option (Nat × Option Nat) :=
  match Text.cut ':' s with
  | [a] =>
    match natural? a with
    | some (n + 1) => some (n + 1, none)
    | _ => none
  | [a, b] =>
    match natural? a, natural? b with
    | some (n + 1), some m => if m < n + 1 then none else some (n + 1, some m)
    | _, _ => none
  | _ => none

/-- The number of columns that is asked for. -/
def columnCount (o : Options) : Except Problem (Option Nat) :=
  let ds := (o.letters.filter Char.isDigit).reverse
  match (if ds.isEmpty then o.value? '|' else some ds) with
  | none => .ok none
  | some s => do return some (← numberFor "invalid number of columns" 1 s).toNat

/-- The first of some letters that was given last. -/
def lastOf (o : Options) (letters : List Char) : Option Char :=
  o.letters.find? letters.contains

/-- How columns are separated and cut off. -/
structure Joint where
  separator : List Char
  isUsed : Bool
  truncated : Bool
  joins : Bool

/-- The joint that options stand for. Old letters mean something else for a single column. -/
def jointOf (o : Options) (explicit : Bool) : Joint :=
  let isWhole := o.has 'S'
  let separator := (o.value? (if isWhole then 'S' else 's')).getD []
  let oldSeparator := lastOf o ['s', 'S'] = some 's'
  let j : Joint := ⟨separator, isWhole, o.has 'W', o.has 'J'⟩
  let isMany := o.has 'm' || explicit
  if lastOf o ['w', 'W'] = some 'w' then
    if isMany then { j with truncated := true, isUsed := j.isUsed || oldSeparator }
    else { j with joins := true }
  else if !j.isUsed && oldSeparator && isMany then
    if j.truncated then { j with isUsed := true }
    else { j with joins := true, isUsed := !separator.isEmpty }
  else j

/-- The width of a page. -/
def pageWidth (o : Options) : Except Problem Nat := do
  let width := fun (letter : Char) (s : List Char) =>
    numberFor ("'-" ++ shown [letter] ++ " PAGE_WIDTH' invalid number of characters") 1 s
  let narrow ← (o.value? 'w').mapM (width 'w')
  let wide ← (o.value? 'W').mapM (width 'W')
  return ((wide <|> narrow).getD 72).toNat

/-- How lines are numbered. -/
def numberingOf (o : Options) : Except Problem (Option Numbering) := do
  let (separator, width) ← signAndNumber 'n' ('\t', 5) ((o.value? 'n').getD [])
  let first ← numberFor "'-N NUMBER' invalid starting line number" (-largest - 1)
    ((o.value? 'N').getD ['1'])
  return if o.has 'n' then some ⟨separator, width, first⟩ else none

/-- The form that options ask for, with some files side by side or none. -/
def formOf (o : Options) (count : Nat) : Except Problem Form := do
  let asked ← columnCount o
  let (inSign, inStop) ← signAndNumber 'e' ('\t', 8) ((o.value? 'e').getD [])
  let (outSign, outStop) ← signAndNumber 'i' ('\t', 8) ((o.value? 'i').getD [])
  let length := (o.value? 'l').getD ['6', '6']
  let length ← numberFor "'-l PAGE_LENGTH' invalid number of lines" 1 length
  let margin ← numberFor "'-o MARGIN' invalid line offset" 0 ((o.value? 'o').getD ['0'])
  let numbering ← numberingOf o
  let width ← pageWidth o
  if o.has 'm' ∧ asked.isSome then
    throw ⟨"cannot specify number of columns when printing in parallel", false⟩
  if o.has 'm' ∧ o.has 'a' then
    throw ⟨"cannot specify both printing across and printing in parallel", false⟩
  let joint := jointOf o asked.isSome
  let merged := o.has 'm' && 0 < count
  let columns := if merged then count else asked.getD 1
  let isMany := 1 < columns
  let isLong := 10 < length
  let titled := isLong && !(o.has 't' || o.has 'T')
  let rows := if titled then length.toNat - 10 else length.toNat
  let plainTab := joint.separator = ['\t']
  let separator :=
    if !isMany then joint.separator
    else if !joint.isUsed then if joint.joins then ['\t'] else [' ']
    else if !joint.joins && plainTab then [' ']
    else joint.separator
  let sides := (columns - 1) * separator.length +
    if merged then (numbering.map (·.width)).getD 0 else 0
  if width < sides + columns then throw ⟨"page width too narrow", false⟩
  return {
    columns
    across := o.has 'a'
    merged
    doubled := o.has 'd'
    titled
    keepsBreaks := !isLong || lastOf o ['t', 'T'] = some 't'
    breaksPages := o.has 'f' || o.has 'F'
    truncated := (isMany || joint.truncated) && !joint.joins
    separator := if isMany || joint.isUsed then some separator else none
    separatorWidth := separator.length
    inputTab := ⟨inSign, inStop⟩
    expandsTabs := isMany || o.has 'e'
    outputTab := ⟨outSign, outStop⟩
    makesTabs := isMany || o.has 'i'
    numbering
    shownAs := if o.has 'v' then .octal else if o.has 'c' then .caret else .itself
    margin := margin.toNat
    rows := if o.has 'd' then max 1 (rows / 2) else rows
    columnWidth := (width - sides) / columns }

/-- Texts of files, with the moment of the last change of the first. -/
structure Documents where
  texts : List (List Char)
  changed : Int
  /-- The name of the only file. -/
  name : List Char

/-- Prints some documents in a form. The second part is a complaint. -/
def print (o : Options) (f : Form) (pages : Nat × Option Nat) (d : Documents) :
    List Char × Option String :=
  let format := (o.value? 'D').getD "%Y-%m-%d %H:%M".toList
  let date := (Moment.ofNanoseconds d.changed).format (format.length + 1) format
  let width := ((pageWidth o).toOption).getD 72
  let head : Head := ⟨date, (o.value? 'h').getD d.name, width⟩
  let sources := d.texts.map fun t => (⟨linesFrom [] t, .ready, false⟩ : Source)
  let fuel := (sources.map fun s => s.lines.length).foldl (· + ·) 2
  let first := (f.numbering.map (·.first)).getD 1
  let start : Press := ⟨sources, first, [], 1, false, false⟩
  let (s, skipped) := start.skipPages head f fuel (pages.1 - 1) 0
  if skipped < pages.1 - 1 || (!s.isReady && 1 < pages.1) then
    ([], some ("starting page number " ++ toString pages.1 ++ " exceeds page count " ++
      toString skipped))
  else
    let number := if o.has 'N' then first else s.number
    let s := { s with text := [], page := pages.1, number, isBreakDue := false }
    ((s.printPages head f pages.2 fuel).text.reverse, none)

/-- Reads a file and when it was last changed. A file that cannot be opened is left out; one that
cannot be read ends everything. -/
def document (o : Options) (env : Surroundings) (path : List Char) :
    Work (Except Nat (Option (List Char × Int))) := do
  let d ← Work.call (Kernel.askDisk id)
  let changed := if path = ['-'] then d.now else
    match d.find env.cwd (shown path) with
    | .ok (_, e) => (e.attributes?.map (·.changed)).getD d.now
    | .error _ => d.now
  match ← contents env.cwd path with
  | .ok text => return .ok (some (text, changed))
  | .error e =>
    let isFatal := e = .isDirectory
    if isFatal || !o.has 'r' then warn "pr" (Filter.usualBlame path e)
    return if isFatal then .error 1 else .ok none

/-- Prints documents and says what is wrong. The result is whether the output can be printed. -/
def show? (o : Options) (pages : Nat × Option Nat) (count : Nat) (d : Documents) :
    Work (Option Nat) := do
  match formOf o count with
  | .error problem =>
    warn "pr" problem.message
    return some 1
  | .ok f =>
    let (text, complaint) := print o f pages d
    match complaint with
    | some message => warn "pr" message
    | none => pure ()
    return if ← tryPut "pr" text then none else some 1

/-- Prints files one after the other. -/
def each (o : Options) (env : Surroundings) (pages : Nat × Option Nat) (code : Nat) :
    List (List Char) → Work Nat
  | [] => return code
  | path :: rest => do
    match ← document o env path with
    | .error code => return code
    | .ok none => each o env pages 1 rest
    | .ok (some (text, changed)) =>
      let name := if path = ['-'] then [] else path
      match ← show? o pages 1 ⟨[text], changed, name⟩ with
      | some code => return code
      | none => each o env pages code rest

/-- Reads all files. The second part is the exit code so far. -/
def gather (o : Options) (env : Surroundings) :
    List (List Char) → Work (Except Nat (List (List Char) × Nat))
  | [] => return .ok ([], 0)
  | path :: rest => do
    match ← document o env path with
    | .error code => return .error code
    | .ok found =>
      match ← gather o env rest with
      | .error code => return .error code
      | .ok (texts, code) =>
        match found with
        | some (text, _) => return .ok (text :: texts, code)
        | none => return .ok (texts, 1)

/-- The pages that the options and the arguments ask for, and the arguments that are files. -/
def pagesAndFiles (o : Options) : Except Problem ((Nat × Option Nat) × List (List Char)) :=
  let all : Nat × Option Nat := (1, none)
  match o.value? '+' with
  | some s =>
    match pageRange? s with
    | some range => .ok (range, o.rest)
    | none => .error ⟨"invalid --pages argument " ++ quoted s, false⟩
  | none =>
    let range? := fun (a : List Char) =>
      match a with
      | '+' :: s => pageRange? s
      | _ => none
    match o.rest.findSome? range? with
    | some range => .ok (range, o.rest.eraseP fun a => (range? a).isSome)
    | none => .ok (all, o.rest)

end Pages

open Pages

/-- Prints files page by page. -/
def pr : Utility := fun env args => do
  let o := Pages.grammar.read args
  let wrong := fun (p : Problem) =>
    if p.hinted then refuse "pr" p.message 1
    else do
      warn "pr" p.message
      return 1
  match o.problem, pagesAndFiles o, formOf o 0 with
  | some problem, _, _ => refuse "pr" problem 1
  | none, .error p, _ | none, _, .error p => wrong p
  | none, .ok (pages, paths), .ok _ =>
    if o.has 'm' ∧ !paths.isEmpty then
      match ← gather o env paths with
      | .error code => return code
      | .ok ([], code) => return code
      | .ok (texts, code) =>
        let now ← Work.call (Kernel.askDisk (·.now))
        return (← show? o pages texts.length ⟨texts, now, []⟩).getD code
    else each o env pages 0 (if paths.isEmpty then [['-']] else paths)

end ProgramRepair.Utility
