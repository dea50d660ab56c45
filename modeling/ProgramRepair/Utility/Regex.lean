import ProgramRepair.Text.CharClass

/-!
# Regular expressions

Regular expressions in the two forms that programs of the system read: the basic
one, in which groups and counts are written with backslashes, and the extended
one. `Regex.find?` finds the leftmost place where an expression matches, and of
the matches there the longest.
-/

namespace ProgramRepair.Utility

/-- A regular expression. -/
inductive Regex where
  | empty
  /-- What no text matches. -/
  | nothing
  | anyChar
  | char (c : Char)
  | set (negated : Bool) (ranges : List (Char × Char)) (classes : List (List Char))
  | lineStart
  | lineEnd
  /-- The start of the text, even where each of its rows counts as a line. -/
  | textStart
  | textEnd
  /-- The start of a row of the text. -/
  | rowStart
  | rowEnd
  | wordStart
  | wordEnd
  | wordEdge (negated : Bool)
  | group (number : Nat) (r : Regex)
  | backReference (number : Nat)
  | concat (a b : Regex)
  | either (a b : Regex)
  | repeated (r : Regex) (least : Nat) (most : Option Nat)
deriving Repr, Inhabited

namespace Regex

/-! ## Matching -/

/-- A position in a text, and what groups have matched before it. -/
structure Cursor where
  /-- The characters before the position, the nearest first. -/
  before : List Char
  rest : List Char
  /-- How many characters are before the position. -/
  position : Nat
  groups : List (Nat × List Char)
deriving Repr, Inhabited

namespace Cursor

/-- The position between two texts. -/
def between (before rest : List Char) : Cursor := ⟨before.reverse, rest, before.length, []⟩

/-- The cursor after the next character. -/
def advance (p : Cursor) : Cursor :=
  match p.rest with
  | [] => p
  | c :: rest => { p with before := c :: p.before, rest, position := p.position + 1 }

/-- The cursor after a given text, if that comes next. -/
def skip? (same : Char → Char → Bool) (p : Cursor) : List Char → Option Cursor
  | [] => some p
  | c :: cs =>
    match p.rest with
    | d :: _ => if same c d then p.advance.skip? same cs else none
    | [] => none

/-- The text from a cursor to a later one. -/
def textTo (p q : Cursor) : List Char := p.rest.take (q.position - p.position)

/-- Whether words stand before and after a position. -/
def sides (p : Cursor) : Bool × Bool :=
  let isWordChar := fun (c : Char) => c.isAlphanum || c = '_'
  (p.before.head?.any isWordChar, p.rest.head?.any isWordChar)

end Cursor

/-- The cursors of two lists, each with the later positions first, in one such list. Of two cursors
at one position that of the first list stays. -/
def union : List Cursor → List Cursor → List Cursor
  | [], qs => qs
  | ps, [] => ps
  | p :: ps, q :: qs =>
    if q.position < p.position then p :: union ps (q :: qs)
    else if p.position < q.position then q :: union (p :: ps) qs
    else p :: union ps qs
termination_by ps qs => ps.length + qs.length

/-- The cursors of the first list at positions that the second does not have. -/
def without : List Cursor → List Cursor → List Cursor
  | [], _ => []
  | ps, [] => ps
  | p :: ps, q :: qs =>
    if q.position < p.position then p :: without ps (q :: qs)
    else if p.position < q.position then without (p :: ps) qs
    else without ps qs
termination_by ps qs => ps.length + qs.length

/-- The cursors of all lists. -/
def unions : List (List Cursor) → List Cursor
  | [] => []
  | [ps] => ps
  | ps :: rest => union ps (unions rest)

/-- The ends of matches of a repeated expression: those that were `reached`, and those that can be
from the ends in `current` after more rounds, of which `least` have to follow and `most` may. -/
def rounds (step : Cursor → List Cursor) :
    Nat → (least : Nat) → (most : Option Nat) → (current reached : List Cursor) → List Cursor
  | 0, _, _, _, reached => reached
  | fuel + 1, least, most, current, reached =>
    let reached := if least = 0 then union current reached else reached
    let next :=
      if most = some 0 then []
      else unions (current.map fun p => (step p).filter fun q => 0 < least || p.position < q.position)
    let next := if least ≤ 1 then without next reached else next
    if next.isEmpty then reached
    else rounds step fuel (least - 1) (most.map (· - 1)) next reached

/-- Whether a character belongs to a set. -/
def inSet (ranges : List (Char × Char)) (classes : List (List Char)) (c : Char) : Bool :=
  ranges.any (fun (a, b) => a ≤ c && c ≤ b) || classes.any fun name => Text.inClass name c

/-- The cursors behind the matches that begin at a cursor, the later positions first. -/
def ends (ignoreCase : Bool) : Regex → Cursor → List Cursor
  | empty, p => [p]
  | nothing, _ => []
  | anyChar, p => if p.rest.isEmpty then [] else [p.advance]
  | char c, p => one p fun d => c = d || (ignoreCase && c.toLower = d.toLower)
  | set negated ranges classes, p =>
    one p fun d => negated != (inSet ranges classes d ||
      (ignoreCase && (inSet ranges classes d.toLower || inSet ranges classes d.toUpper)))
  | lineStart, p => if p.before.isEmpty then [p] else []
  | lineEnd, p => if p.rest.isEmpty then [p] else []
  | textStart, p => if p.before.isEmpty then [p] else []
  | textEnd, p => if p.rest.isEmpty then [p] else []
  | rowStart, p => if p.before.head?.all (· = '\n') then [p] else []
  | rowEnd, p => if p.rest.head?.all (· = '\n') then [p] else []
  | wordStart, p => if p.sides = (false, true) then [p] else []
  | wordEnd, p => if p.sides = (true, false) then [p] else []
  | wordEdge negated, p => if (p.sides.1 != p.sides.2) != negated then [p] else []
  | group n r, p => (ends ignoreCase r p).map fun q =>
    { q with groups := (n, p.textTo q) :: q.groups.filter (·.1 ≠ n) }
  | backReference n, p =>
    match p.groups.lookup n with
    | some text => (p.skip? (fun c d => c = d || (ignoreCase && c.toLower = d.toLower)) text).toList
    | none => []
  | concat a b, p => unions ((ends ignoreCase a p).map (ends ignoreCase b))
  | either a b, p => union (ends ignoreCase a p) (ends ignoreCase b p)
  | repeated r least most, p =>
    rounds (ends ignoreCase r) (p.rest.length + least + 1) least most [p] []
where
  /-- The cursor behind one character that passes a test. -/
  one (p : Cursor) (test : Char → Bool) : List Cursor :=
    if p.rest.head?.any test then [p.advance] else []

/-- A match: the text before it, the text that it covers and the text after it, and what its groups
cover. -/
structure Match where
  before : List Char
  text : List Char
  after : List Char
  groups : List (Nat × List Char)
deriving Repr, Inhabited

/-- The longest match at the first cursor from `p` on where there is one that is accepted. -/
def search (ignoreCase : Bool) (r : Regex) (accepts : Cursor → Cursor → Bool) :
    Nat → Cursor → Option Match
  | 0, _ => none
  | fuel + 1, p =>
    match (ends ignoreCase r p).find? (accepts p) with
    | some q => some {
        before := p.before.reverse
        text := p.textTo q
        after := q.rest
        groups := q.groups }
    | none => if p.rest.isEmpty then none else search ignoreCase r accepts fuel p.advance

/-- The leftmost longest match behind some text. -/
def find? (ignoreCase : Bool) (r : Regex) (before rest : List Char) : Option Match :=
  search ignoreCase r (fun _ _ => true) (rest.length + 1) (.between before rest)

/-- The longest match at the start of a text. -/
def matchAtStart? (r : Regex) (text : List Char) : Option Match :=
  search false r (fun _ _ => true) 1 (.between [] text)

/-! ## Reading -/

/-- How expressions are written. -/
structure Dialect where
  /-- Whether signs stand without a backslash. -/
  extended : Bool
  /-- Whether signs in wrong places are mistakes. Otherwise they stand for themselves or nothing. -/
  strict : Bool
  /-- Whether a backslash in a set stands for itself. -/
  plainSets : Bool
  /-- Whether braces hold counts. Otherwise they stand for themselves. -/
  counted : Bool
deriving DecidableEq, Repr

namespace Dialect

/-- Basic expressions of programs that search for them. -/
def basic : Dialect := ⟨false, false, true, true⟩

/-- Extended expressions of programs that search for them. -/
def extendedSearch : Dialect := ⟨true, false, true, true⟩

/-- Basic expressions of programs that edit. -/
def basicEditing : Dialect := ⟨false, true, true, true⟩

/-- Extended expressions of programs that edit. -/
def extendedEditing : Dialect := ⟨true, true, true, true⟩

end Dialect

/-- What is wrong with an expression. -/
inductive Problem where
  /-- A set that ends right after its opening bracket. -/
  | emptyBracket
  | unmatchedBracket
  | unmatchedOpen
  | unmatchedClose
  | unmatchedBrace
  | badCount
  | badRange
  | badClass
  | badCollation
  | bareClass
  | badReference
  | badRepetition
  | trailingBackslash
  | tooBig
deriving DecidableEq, Repr

def Problem.message : Problem → String
  | emptyBracket => "Invalid regular expression"
  | unmatchedBracket => "Unmatched [, [^, [:, [., or [="
  | unmatchedOpen => "Unmatched ( or \\("
  | unmatchedClose => "Unmatched ) or \\)"
  | unmatchedBrace => "Unmatched \\\x7b"
  | badCount => "Invalid content of \\\x7b\\\x7d"
  | badRange => "Invalid range end"
  | badClass => "Invalid character class name"
  | badCollation => "Invalid collation character"
  | bareClass => "character class syntax is [[:space:]], not [:space:]"
  | badReference => "Invalid back reference"
  | badRepetition => "Invalid preceding regular expression"
  | trailingBackslash => "Trailing backslash"
  | tooBig => "Regular expression too big"

/-- The most often that a count may ask for. -/
def countLimit : Nat := 32767

/-- A set while it is read. -/
structure SetItems where
  ranges : List (Char × Char)
  classes : List (List Char)
deriving Inhabited

/-- An element of a set: a character or a class. -/
inductive SetItem where
  | char (c : Char)
  | named (name : List Char)

/-- The element of a set at the start of a text, and what follows it. -/
def setItem (d : Dialect) (s : List Char) : Except Problem (SetItem × List Char) :=
  match s with
  | [] => .error .unmatchedBracket
  | '[' :: ':' :: rest =>
    let name := rest.takeWhile Char.isAlpha
    match rest.drop name.length with
    | ':' :: ']' :: rest =>
      if (Text.classTest? name).isSome then .ok (.named name, rest) else .error .badClass
    | _ => .error .unmatchedBracket
  | '[' :: '.' :: c :: '.' :: ']' :: rest => .ok (.char c, rest)
  | '[' :: '=' :: c :: '=' :: ']' :: rest => .ok (.char c, rest)
  | '[' :: '.' :: rest => .error (if rest.contains ']' then .badCollation else .unmatchedBracket)
  | '[' :: '=' :: rest => .error (if rest.contains ']' then .badCollation else .unmatchedBracket)
  | '\\' :: c :: rest => if d.plainSets then .ok (.char '\\', c :: rest) else .ok (.char c, rest)
  | c :: rest => .ok (.char c, rest)

/-- The inside of a set in brackets, up to the closing one; `first` says that nothing was read. -/
def setItems (d : Dialect) (first : Bool) (items : SetItems) :
    Nat → List Char → Except Problem (SetItems × List Char)
  | 0, _ => .error .unmatchedBracket
  | fuel + 1, s =>
    match s, first with
    | ']' :: rest, false => .ok (items, rest)
    | s, _ => do
      let (item, rest) ← setItem d s
      let isRange : Bool := match rest with
        | '-' :: ']' :: _ => false
        | '-' :: _ => true
        | _ => false
      match item with
      | .named name =>
        if isRange then throw .badRange
        setItems d false { items with classes := name :: items.classes } fuel rest
      | .char c =>
        if isRange then
          match ← setItem d (rest.drop 1) with
          | (.char e, rest) =>
            if e < c then throw .badRange
            setItems d false { items with ranges := (c, e) :: items.ranges } fuel rest
          | (.named _, _) => throw .badRange
        else setItems d false { items with ranges := (c, c) :: items.ranges } fuel rest

/-- Whether the inside of a set was meant for a class, as in `[:space:]`. -/
def isBareClass (inside : List Char) : Bool :=
  let text := inside.takeWhile (· ≠ ']')
  2 < text.length && text.head? = some ':' && text.getLast? = some ':' &&
    !text.contains '[' && !text.contains '-'

/-- A set whose opening bracket was read. -/
def bracket (d : Dialect) (s : List Char) : Except Problem (Regex × List Char) := do
  let (negated, inside) := match s with
    | '^' :: inside => (true, inside)
    | inside => (false, inside)
  if inside.isEmpty then throw .emptyBracket
  let (items, rest) ← setItems d true ⟨[], []⟩ (inside.length + 1) inside
  if d.plainSets && isBareClass inside then throw .bareClass
  return (.set negated items.ranges items.classes, rest)

/-- The text of a bound in a count up to a comma or the closing brace, whether that was the brace,
and what follows. The value is none if the expression ends first. -/
def bound? (extended : Bool) : List Char → Option (List Char × Bool × List Char)
  | [] => none
  | ',' :: rest => some ([], false, rest)
  | '\\' :: '\x7d' :: rest =>
    if extended then (bound? extended rest).map fun (text, r) => ('\\' :: text, r)
    else some ([], true, rest)
  | c :: rest =>
    if c = '\x7d' ∧ extended then some ([], true, rest)
    else (bound? extended rest).map fun (text, r) => (c :: text, r)

/-- The bounds of a count, whose opening brace was read, and what follows it. The value is none if
there is no count and the brace stands for itself. -/
def counts (d : Dialect) (s : List Char) :
    Except Problem (Option (Nat × Option Nat × List Char)) := do
  let number := fun (ds : List Char) => ds.foldl (fun n d => 10 * n + (d.toNat - '0'.toNat)) 0
  let noCount := fun (p : Problem) => if d.extended && !d.strict then pure none else throw p
  match bound? d.extended s with
  | none => noCount .unmatchedBrace
  | some ([], true, _) => throw .badCount
  | some (text, closed, rest) =>
    if !text.all Char.isDigit then noCount .badCount
    else
      let least := number text
      let result := fun (most : Option Nat) (rest : List Char) =>
        if most.any (· < least) then throw .badCount
        else if countLimit < most.getD least then throw .tooBig
        else pure (some (least, most, rest))
      if closed then result (some least) rest
      else
        match bound? d.extended rest with
        | none => noCount .unmatchedBrace
        | some (text, closed, rest) =>
          if !text.all Char.isDigit then noCount .badCount
          else if !closed then throw .badCount
          else result (if text.isEmpty then none else some (number text)) rest

/-- The reading of an expression: what is left of it, how many groups were opened, and what looks
wrong, the latest first. -/
structure Reader where
  input : List Char
  groups : Nat
  warnings : List String

abbrev Reading := StateT Reader (Except Problem)

/-- The sign at the front of what is left, without its backslash in the basic form. -/
inductive Sign where
  | openGroup
  | closeGroup
  | or
  | star
  | plus
  | optional
  | openCount
  | finish
  | other
deriving DecidableEq

/-- The sign at the front and how many characters it has. -/
def signOf (d : Dialect) (s : List Char) : Sign × Nat :=
  let sign? := fun (c : Char) =>
    match c with
    | '(' => some Sign.openGroup
    | ')' => some .closeGroup
    | '|' => some .or
    | '+' => some .plus
    | '?' => some .optional
    | '\x7b' => if d.counted then some .openCount else none
    | _ => none
  match s with
  | [] => (.finish, 0)
  | '*' :: _ => (.star, 1)
  | '\\' :: c :: _ => if d.extended then (.other, 0) else ((sign? c).getD .other, 2)
  | c :: _ => if d.extended then ((sign? c).getD .other, 1) else (.other, 0)

def drop (n : Nat) : Reading Unit := modify fun r => { r with input := r.input.drop n }

/-- Notes that a sign has nothing to repeat. -/
def warnStart (sign : String) : Reading Unit :=
  modify fun r => { r with warnings := (sign ++ " at start of expression") :: r.warnings }

/-- The expression for a character after a backslash. -/
def escaped (c : Char) : Reading Regex := do
  match c with
  | 'w' => return .set false [('_', '_')] ["alnum".toList]
  | 'W' => return .set true [('_', '_')] ["alnum".toList]
  | 's' => return .set false [] ["space".toList]
  | 'S' => return .set true [] ["space".toList]
  | 'b' => return .wordEdge false
  | 'B' => return .wordEdge true
  | '<' => return .wordStart
  | '>' => return .wordEnd
  | '\x60' => return .textStart
  | '\'' => return .textEnd
  | c =>
    if '1' ≤ c ∧ c ≤ '9' then
      let n := c.toNat - '0'.toNat
      if (← get).groups < n then throw .badReference
      return .backReference n
    else return .char c

/-- Whether an expression stands for a place in a text, which cannot be repeated. -/
def isPlace : Regex → Bool
  | lineStart | lineEnd | textStart | textEnd | rowStart | rowEnd | wordStart | wordEnd
  | wordEdge _ => true
  | _ => false

mutual

/-- Alternatives, in a number of groups. -/
def alternatives (d : Dialect) (depth : Nat) : Nat → Reading Regex
  | 0 => throw .unmatchedOpen
  | fuel + 1 => do
    let first ← sequence d depth true .empty fuel
    match signOf d (← get).input with
    | (.or, n) =>
      drop n
      return .either first (← alternatives d depth fuel)
    | _ => return first
termination_by structural fuel => fuel

/-- Expressions one after the other, behind `before`; `first` says that there is nothing to
repeat. -/
def sequence (d : Dialect) (depth : Nat) (first : Bool) (before : Regex) : Nat → Reading Regex
  | 0 => throw .unmatchedOpen
  | fuel + 1 => do
    let input := (← get).input
    match signOf d input with
    | (.finish, _) | (.or, _) => return before
    | (.closeGroup, n) =>
      if 0 < depth then return before
      else if d.extended && !d.strict then
        drop n
        continued d depth before (.char ')') fuel
      else throw .unmatchedClose
    | (.openGroup, n) =>
      drop n
      let number := (← get).groups + 1
      modify fun r => { r with groups := number }
      let inside ← alternatives d (depth + 1) fuel
      match signOf d (← get).input with
      | (.closeGroup, n) =>
        drop n
        continued d depth before (.group number inside) fuel
      | _ => throw .unmatchedOpen
    | (.star, n) =>
      drop n
      if !d.extended then continued d depth before (.char '*') fuel
      else if d.strict then throw .badRepetition
      else
        warnStart "*"
        sequence d depth first before fuel
    | (.plus, n) | (.optional, n) =>
      drop n
      let sign := (input[n - 1]?).getD '+'
      if !d.extended then continued d depth before (.char sign) fuel
      else if d.strict then throw .badRepetition
      else
        warnStart (String.ofList [sign])
        sequence d depth first before fuel
    | (.openCount, n) =>
      drop n
      if d.strict then throw .badRepetition
      else if !d.extended then continued d depth before (.char '\x7b') fuel
      else
        match ← counts d (input.drop n) with
        | none => continued d depth before (.char '\x7b') fuel
        | some (_, _, rest) =>
          warnStart "\x7b...\x7d"
          modify fun s => { s with input := rest }
          sequence d depth first before fuel
    | (.other, _) =>
      match input with
      | [] => return before
      | '.' :: _ =>
        drop 1
        continued d depth before .anyChar fuel
      | '[' :: rest =>
        let (r, rest) ← bracket d rest
        modify fun s => { s with input := rest }
        continued d depth before r fuel
      | '\\' :: [] => throw .trailingBackslash
      | '\\' :: c :: _ =>
        drop 2
        let r ← escaped c
        if isPlace r then sequence d depth true (.concat before r) fuel
        else continued d depth before r fuel
      | '^' :: _ =>
        drop 1
        if d.extended ∨ first then sequence d depth true (.concat before .lineStart) fuel
        else continued d depth before (.char '^') fuel
      | '$' :: rest =>
        drop 1
        let closes : Bool := match signOf d rest with
          | (.finish, _) | (.or, _) | (.closeGroup, _) => true
          | _ => false
        if d.extended || closes then sequence d depth true (.concat before .lineEnd) fuel
        else continued d depth before (.char '$') fuel
      | c :: _ =>
        drop 1
        continued d depth before (.char c) fuel
termination_by structural fuel => fuel

/-- What follows the expression `r`, which may be repeated. -/
def continued (d : Dialect) (depth : Nat) (before r : Regex) : Nat → Reading Regex
  | 0 => throw .unmatchedOpen
  | fuel + 1 => do
    let input := (← get).input
    match signOf d input with
    | (.star, n) =>
      drop n
      again d depth before (.repeated r 0 none) fuel
    | (.plus, n) =>
      drop n
      again d depth before (.repeated r 1 none) fuel
    | (.optional, n) =>
      drop n
      again d depth before (.repeated r 0 (some 1)) fuel
    | (.openCount, n) =>
      match ← counts d (input.drop n) with
      | some (least, most, rest) =>
        modify fun s => { s with input := rest }
        again d depth before (.repeated r least most) fuel
      | none =>
        drop n
        continued d depth (.concat before r) (.char '\x7b') fuel
    | _ => sequence d depth false (.concat before r) fuel
termination_by structural fuel => fuel

/-- What follows the repeated expression `r`, which a strict basic expression cannot repeat once
more. -/
def again (d : Dialect) (depth : Nat) (before r : Regex) : Nat → Reading Regex
  | 0 => throw .unmatchedOpen
  | fuel + 1 => do
    match signOf d (← get).input with
    | (.star, _) | (.openCount, _) =>
      if d.strict && !d.extended then throw .badRepetition else continued d depth before r fuel
    | _ => continued d depth before r fuel
termination_by structural fuel => fuel

end

/-- The expression that a text stands for, and what looks wrong in it. -/
def parse (d : Dialect) (text : List Char) : Except Problem (Regex × List String) := do
  let (r, reader) ← alternatives d 0 (4 * text.length + 8) ⟨text, 0, []⟩
  return (r, reader.warnings.reverse)

/-- The expression that a text stands for. -/
def ofText (d : Dialect) (text : List Char) : Except Problem Regex := (parse d text).map (·.1)

/-- The expression that matches nothing but a text. -/
def literal (text : List Char) : Regex :=
  text.foldr (fun c r => .concat (.char c) r) .empty

/-- The expression for texts of which each row counts as a line. -/
def byRows : Regex → Regex
  | lineStart => rowStart
  | lineEnd => rowEnd
  | anyChar => set true [('\n', '\n')] []
  | set true ranges classes => set true (('\n', '\n') :: ranges) classes
  | group n r => group n (byRows r)
  | concat a b => concat (byRows a) (byRows b)
  | either a b => either (byRows a) (byRows b)
  | repeated r least most => repeated (byRows r) least most
  | r => r

/-- How many groups an expression has. -/
def groupCount : Regex → Nat
  | group n r => max n (groupCount r)
  | concat a b | either a b => max (groupCount a) (groupCount b)
  | repeated r _ _ => groupCount r
  | _ => 0

end Regex

end ProgramRepair.Utility
