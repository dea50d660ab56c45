import ProgramRepair.Clock.Calendar
import ProgramRepair.Utility.Print
import ProgramRepair.Utility.Streams

/-!
# Orders of lines

`sort` puts lines in order, and `uniq` finds lines that are the same as those before
them. Lines are compared by keys, each of which is a part of a line with an order of its
own, and then as a whole.
-/

namespace ProgramRepair.Utility

open Machine

/-! ## Orders of texts -/

/-- Whether a character separates fields. -/
def isFieldBlank (c : Char) : Bool := c = ' ' || c = '\t' || c = '\n'

/-- A number with places after the point, written down exactly. -/
structure SortNumber where
  negative : Bool
  /-- The digits before the point without zeros in front. -/
  whole : List Char
  /-- The digits after the point without zeros at the end. -/
  places : List Char
deriving DecidableEq

/-- The number at the start of a text; no number counts as 0. -/
def SortNumber.ofText (s : List Char) : SortNumber :=
  let s := s.dropWhile isFieldBlank
  let (negative, s) := match s with
    | '-' :: s => (true, s)
    | s => (false, s)
  let whole := s.takeWhile Char.isDigit
  let places := match s.drop whole.length with
    | '.' :: ds => ds.takeWhile Char.isDigit
    | _ => []
  let whole := whole.dropWhile (· = '0')
  let places := (places.reverse.dropWhile (· = '0')).reverse
  ⟨negative && !(whole.isEmpty && places.isEmpty), whole, places⟩

/-- The order of texts by their characters. -/
def compareTexts (a b : List Char) : Ordering :=
  if a < b then .lt else if b < a then .gt else .eq

/-- The order of numbers. -/
def SortNumber.compare (a b : SortNumber) : Ordering :=
  let size := fun (a b : SortNumber) =>
    (Ord.compare a.whole.length b.whole.length).then
      ((compareTexts a.whole b.whole).then (compareTexts a.places b.places))
  match a.negative, b.negative with
  | true, false => .lt
  | false, true => .gt
  | false, false => size a b
  | true, true => size b a

/-- The power of a thousand that a letter behind a number stands for. -/
def unitRank (s : List Char) : Nat :=
  let s := (s.dropWhile isFieldBlank).dropWhile (· = '-')
  let rest := (s.dropWhile Char.isDigit)
  let rest := match rest with
    | '.' :: ds => ds.dropWhile Char.isDigit
    | rest => rest
  match rest with
  | c :: _ =>
    match "KMGTPEZY".toList.findIdx? (· = (if c = 'k' then 'K' else c)) with
    | some i => i + 1
    | none => 0
  | [] => 0

/-- The order of sizes such as `2K`: first by sign and unit, then by number. -/
def compareSizes (a b : List Char) : Ordering :=
  let x := SortNumber.ofText a
  let y := SortNumber.ofText b
  let rank := fun (n : SortNumber) (s : List Char) => if n.whole.isEmpty ∧ n.places.isEmpty then 0 else unitRank s
  match x.negative, y.negative with
  | true, false => .lt
  | false, true => .gt
  | true, true => (Ord.compare (rank y b) (rank x a)).then (x.compare y)
  | false, false => (Ord.compare (rank x a) (rank y b)).then (x.compare y)

/-- The place of a text in the order of doubles: what is no number comes first, then what is not a
number by its value. -/
def doubleRank (s : List Char) : Nat × Binary64 :=
  match argumentDouble (s.dropWhile isFieldBlank) with
  | (_, some .noNumber) => (0, .zero)
  | (x, _) => if s.all isFieldBlank then (0, .zero) else if x.isNaN then (1, .zero) else (2, x)

/-- The order of the doubles at the start of texts. -/
def compareDoubles (a b : List Char) : Ordering :=
  let (i, x) := doubleRank a
  let (j, y) := doubleRank b
  (Ord.compare i j).then (if x.lt y then .lt else if y.lt x then .gt else .eq)

/-- The number of the month that a text begins with, or 0. -/
def monthRank (s : List Char) : Nat :=
  let name := ((s.dropWhile isFieldBlank).take 3).map Char.toLower
  match Date.monthNames.findIdx? fun m => (m.toList.take 3).map Char.toLower = name with
  | some i => i + 1
  | none => 0

/-- The rank of a character in the order of versions: a tilde comes before the end of a text, and
letters come before other signs. -/
def versionRank : Option Char → Nat
  | none => 1
  | some c =>
    if c = '~' then 0
    else if c.isDigit then 1
    else if c.isAlpha then c.toNat + 1
    else c.toNat + 1 + 256

/-- The order of versions: numbers in them count as numbers. -/
def compareVersionParts : Nat → List Char → List Char → Ordering
  | 0, _, _ => .eq
  | fuel + 1, a, b =>
    if a.isEmpty ∧ b.isEmpty then .eq
    else
      let isLetter := fun (s : List Char) => s.head?.any fun c => !c.isDigit
      if isLetter a ∨ isLetter b then
        let x := versionRank a.head?
        let y := versionRank b.head?
        if x ≠ y then Ord.compare x y
        else
          compareVersionParts fuel (if isLetter a then a.tail else a) (if isLetter b then b.tail else b)
      else
        let m := (a.takeWhile Char.isDigit).dropWhile (· = '0')
        let n := (b.takeWhile Char.isDigit).dropWhile (· = '0')
        ((Ord.compare m.length n.length).then (compareTexts m n)).then
          (compareVersionParts fuel (a.dropWhile Char.isDigit) (b.dropWhile Char.isDigit))

/-- A text without what looks like the endings of a file name. -/
def withoutEndings (s : List Char) : List Char :=
  let isEnding := fun (piece : List Char) =>
    match piece with
    | c :: rest => (c.isAlpha || c = '~') && rest.all fun d => d.isAlphanum || d = '~'
    | [] => false
  match Text.cut '.' s with
  | first :: pieces =>
    let kept := (pieces.reverse.dropWhile isEnding).reverse
    List.flatten ((first :: kept).intersperse ['.'])
  | [] => s

/-- The order of names with versions. -/
def compareVersions (a b : List Char) : Ordering :=
  let hidden := fun (s : List Char) => s.head? = some '.'
  let rank := fun (s : List Char) =>
    if s.isEmpty then 0 else if s = ['.'] then 1 else if s = ['.', '.'] then 2
    else if hidden s then 3 else 4
  let fuel := a.length + b.length + 1
  (Ord.compare (rank a) (rank b)).then <|
    (compareVersionParts fuel (withoutEndings a) (withoutEndings b)).then
      (compareVersionParts fuel a b)

/-! ## Keys -/

/-- A part of lines that they are sorted by, and how. -/
structure SortKey where
  /-- The fields and then the characters before the key. -/
  firstField : Nat
  firstChar : Nat
  /-- The last field counted from 0 and the number of characters in it, where 0 stands for all of
  them. -/
  last : Option (Nat × Nat)
  /-- The letters of its order. -/
  letters : List Char
  blankStart : Bool
  blankEnd : Bool
deriving Inhabited

namespace SortKey

/-- The text behind a number of fields. -/
def skipFields (separator : Option Char) : Nat → List Char → List Char
  | 0, s => s
  | n + 1, s =>
    match separator with
    | some c => skipFields separator n ((s.dropWhile (· ≠ c)).drop 1)
    | none => skipFields separator n ((s.dropWhile isFieldBlank).dropWhile fun c => !isFieldBlank c)

/-- The text from the end of a field on, which is after `n + 1` fields. -/
def skipThrough (separator : Option Char) : Nat → List Char → List Char
  | n, s =>
    match separator with
    | some c => (skipFields separator n s).dropWhile (· ≠ c)
    | none => skipFields separator (n + 1) s

/-- The key of a line. -/
def of (k : SortKey) (separator : Option Char) (line : List Char) : List Char :=
  let start := skipFields separator k.firstField line
  let start := if k.blankStart then start.dropWhile isFieldBlank else start
  let start := start.drop k.firstChar
  match k.last with
  | none => start
  | some (field, 0) => start.take (start.length - (skipThrough separator field line).length)
  | some (field, chars) =>
    let rest := skipFields separator field line
    let rest := if k.blankEnd then rest.dropWhile isFieldBlank else rest
    start.take (start.length - (rest.drop chars).length)

/-- A text as far as its characters count. -/
def counted (letters : List Char) (s : List Char) : List Char :=
  let s := if letters.contains 'd' then s.filter fun c => c.isAlphanum || isFieldBlank c else s
  let s := if letters.contains 'i' then s.filter fun c => ' ' ≤ c && c ≤ '~' else s
  if letters.contains 'f' then s.map Char.toUpper else s

/-- The order of keys. -/
def compare (k : SortKey) (a b : List Char) : Ordering :=
  let has := k.letters.contains
  let order :=
    if has 'n' then (SortNumber.ofText a).compare (SortNumber.ofText b)
    else if has 'g' then compareDoubles a b
    else if has 'h' then compareSizes a b
    else if has 'M' then Ord.compare (monthRank a) (monthRank b)
    else if has 'V' then compareVersions (counted k.letters a) (counted k.letters b)
    else compareTexts (counted k.letters a) (counted k.letters b)
  if has 'r' then order.swap else order

/-- The letters of orders. -/
def orderLetters : List Char := "bdfgiMhnRrV".toList

/-- A count in the text of a key. -/
def count? (what : String) (s : List Char) : Except String (Nat × List Char) :=
  let ds := s.takeWhile Char.isDigit
  match natural? ds with
  | some n => .ok (n, s.drop ds.length)
  | none => .error (what ++ ": invalid count at start of " ++ quoted s)

/-- Complains about the text of a key. -/
def bad (what : String) (spec : List Char) : Except String α :=
  .error (what ++ ": invalid field specification " ++ quoted spec)

/-- The key that a text such as `2,3n` stands for. -/
def parse (spec : List Char) : Except String SortKey := do
  let (field, s) ← count? "invalid number at field start" spec
  if field = 0 then bad "field number is zero" spec
  let (char, s) ← match s with
    | '.' :: s => do
      let (n, s) ← count? "invalid number after '.'" s
      if n = 0 then bad "character offset is zero" spec else pure (n - 1, s)
    | s => pure (0, s)
  let first := s.takeWhile orderLetters.contains
  let s := s.drop first.length
  match s with
  | [] => return ⟨field - 1, char, none, first.filter (· ≠ 'b'), first.contains 'b', false⟩
  | ',' :: s =>
    let (lastField, s) ← count? "invalid number after ','" s
    if lastField = 0 then bad "field number is zero" spec
    let (lastChar, s) ← match s with
      | '.' :: s => count? "invalid number after '.'" s
      | s => pure (0, s)
    let second := s.takeWhile orderLetters.contains
    if !(s.drop second.length).isEmpty then bad "stray character in field spec" spec
    return {
      firstField := field - 1
      firstChar := char
      last := some (lastField - 1, lastChar)
      letters := (first ++ second).filter (· ≠ 'b')
      blankStart := first.contains 'b'
      blankEnd := second.contains 'b' }
  | _ => bad "stray character in field spec" spec

end SortKey

/-! ## Sorting -/

/-- How lines are sorted. -/
structure Sorting where
  keys : List SortKey
  separator : Option Char
  /-- Whether lines with the same keys are compared as a whole. -/
  whole : Bool
  turned : Bool

namespace Sorting

/-- The order of lines by their keys. -/
def compareKeys (s : Sorting) (a b : List Char) : Ordering :=
  s.keys.foldl (fun order k =>
    order.then (k.compare (k.of s.separator a) (k.of s.separator b))) .eq

/-- The order of lines. -/
def compare (s : Sorting) (a b : List Char) : Ordering :=
  (s.compareKeys a b).then <|
    if !s.whole then .eq
    else if s.turned then compareTexts b a
    else compareTexts a b

/-- Whether one line may stand before another. -/
def before (s : Sorting) (a b : List Char) : Bool := s.compare a b ≠ .gt

/-- The first line that should stand before the one in front of it, and its number. With `strict`
lines that count as the same must not follow each other. -/
def misplaced (s : Sorting) (strict : Bool) : Nat → List (List Char) → Option (Nat × List Char)
  | n, a :: b :: rest =>
    let order := s.compare a b
    if order = .gt ∨ (strict ∧ order = .eq) then some (n, b) else s.misplaced strict (n + 1) (b :: rest)
  | _, _ => none

/-- Lines without those that count as the same as the one before. -/
def dropRepeated (s : Sorting) (last : Option (List Char)) : List (List Char) → List (List Char)
  | [] => []
  | line :: rest =>
    if last.any fun l => s.compare l line = .eq then s.dropRepeated last rest
    else line :: s.dropRepeated (some line) rest

/-- The index of the first list whose first line may stand before all others. -/
def firstIndex (s : Sorting) (lists : List (List (List Char))) : Option Nat :=
  (lists.foldl (fun (state : Nat × Option (Nat × List Char)) lines =>
    let (i, best) := state
    match lines.head?, best with
    | none, best => (i + 1, best)
    | some line, none => (i + 1, some (i, line))
    | some line, some (j, other) =>
      (i + 1, if s.compare line other = .lt then some (i, line) else some (j, other))) (0, none)).2.map
    (·.1)

/-- Lines from several lists, always the one that comes first. -/
def merge (s : Sorting) : Nat → List (List (List Char)) → List (List Char)
  | 0, _ => []
  | fuel + 1, lists =>
    match s.firstIndex lists with
    | none => []
    | some i =>
      ((lists[i]?).bind List.head?).toList ++
        s.merge fuel (lists.mapIdx fun j lines => if i = j then lines.tail else lines)

end Sorting

def sortGrammar : Grammar :=
  ⟨"bcCdfghiMmnRrsuVz", "kotST", "", [("ignore-leading-blanks", 'b'), ("dictionary-order", 'd'),
    ("ignore-case", 'f'), ("general-numeric-sort", 'g'), ("ignore-nonprinting", 'i'),
    ("month-sort", 'M'), ("human-numeric-sort", 'h'), ("numeric-sort", 'n'), ("random-sort", 'R'),
    ("version-sort", 'V'), ("reverse", 'r'), ("sort=", '='), ("check?", 'c'), ("key=", 'k'),
    ("merge", 'm'), ("output=", 'o'), ("stable", 's'), ("buffer-size=", 'S'),
    ("field-separator=", 't'), ("temporary-directory=", 'T'), ("unique", 'u'),
    ("zero-terminated", 'z'), ("parallel=", 'p')]⟩

/-- The letter of an order that is named by a word. -/
def sortWord? (word : List Char) : Option Char :=
  [("general-numeric", 'g'), ("human-numeric", 'h'), ("month", 'M'), ("numeric", 'n'), ("random", 'R'),
    ("version", 'V')].findSome? fun (name, c) => if word.isPrefixOf name.toList then some c else none

/-- The character that an option names as a separator. -/
def sortSeparator (o : Options) : Except String (Option Char) :=
  match o.value? 't' with
  | none => .ok none
  | some [] => .error "empty tab"
  | some [c] => .ok (some c)
  | some ['\\', '0'] => .ok (some '\x00')
  | some s => .error ("multi-character tab " ++ quoted s)

/-- Two orders that cannot go together. -/
def clashingOrders? (letters : List Char) : Option String :=
  match "Mghn".toList.filter letters.contains with
  | a :: b :: _ =>
    let ordered := [a, b].mergeSort fun x y => x ≤ y
    some ("options '-" ++ String.ofList ordered ++ "' are incompatible")
  | _ => none

/-- How lines are sorted that options ask for. -/
def sortingOf (o : Options) : Except String Sorting := do
  let words := (o.valuesOf '=').filterMap sortWord?
  let letters := words ++ o.letters.filter SortKey.orderLetters.contains
  match clashingOrders? letters with
  | some problem => throw problem
  | none => pure ()
  let separator ← sortSeparator o
  let keys ← (o.valuesOf 'k').mapM SortKey.parse
  let usual := letters.filter (· ≠ 'b')
  let blank := letters.contains 'b'
  let keys := keys.map fun k =>
    if k.letters.isEmpty ∧ !k.blankStart ∧ !k.blankEnd then
      { k with letters := usual, blankStart := blank, blankEnd := blank }
    else k
  match keys.findSome? fun k => clashingOrders? k.letters with
  | some problem => throw problem
  | none => pure ()
  let ordering := usual.filter (· ≠ 'r')
  let keys :=
    if !keys.isEmpty then keys
    else if ordering.isEmpty ∧ !blank then []
    else [⟨0, 0, none, usual, blank, false⟩]
  let plain := keys.isEmpty
  return {
    keys := keys
    separator := separator
    whole := plain || !(o.has 's' || o.has 'u')
    turned := letters.contains 'r' }

/-- Checks whether lines are in order. -/
def checkOrder (o : Options) (s : Sorting) (cwd : Place) (paths : List (List Char)) : Work Nat := do
  let quiet := o.has 'C' || (o.value? 'c').any fun v => v ≠ "diagnose-first".toList
  match paths with
  | _ :: extra :: _ =>
    warn "sort" ("extra operand " ++ quoted extra ++ " not allowed with -" ++ (if quiet then "C" else "c"))
    return 2
  | paths =>
    let path := paths.head?.getD ['-']
    match ← contents cwd path with
    | .error e =>
      warn "sort" ("open failed: " ++ named path ++ ": " ++ e.systemText)
      return 2
    | .ok text =>
      match s.misplaced (o.has 'u') 2 (linesBy (if o.has 'z' then '\x00' else '\n') text) with
      | none => return 0
      | some (n, line) =>
        if !quiet then
          warn "sort" (named path ++ ":" ++ toString n ++ ": disorder: " ++ shown line)
        return 1

/-- Reads all inputs of a call that fails as a whole. -/
def readAllInputs (cwd : Place) : List (List Char) → Work (Except String (List (List Char)))
  | [] => return .ok []
  | path :: rest => do
    match ← contents cwd path with
    | .error .isDirectory => return .error ("read failed: " ++ named path ++ ": Is a directory")
    | .error e => return .error ("cannot read: " ++ named path ++ ": " ++ e.systemText)
    | .ok text =>
      match ← readAllInputs cwd rest with
      | .ok texts => return .ok (text :: texts)
      | .error e => return .error e

/-- Sorts lines. -/
def sort : Utility := fun env args => do
  let o := sortGrammar.read args
  match o.problem, sortingOf o with
  | some problem, _ => refuse "sort" problem 2
  | none, .error problem =>
    warn "sort" problem
    return 2
  | none, .ok s =>
    let paths := if o.rest.isEmpty then [['-']] else o.rest
    if o.has 'c' ∨ o.has 'C' then checkOrder o s env.cwd o.rest
    else
      match ← readAllInputs env.cwd paths with
      | .error problem =>
        warn "sort" problem
        return 2
      | .ok texts =>
        let lineEnd := if o.has 'z' then '\x00' else '\n'
        let lists := texts.map (linesBy lineEnd)
        let sorted :=
          if o.has 'm' then s.merge (lists.flatten.length + 1) lists
          else
            let all := lists.flatten
            if s.keys.isEmpty then
              all.mergeSort fun a b => if s.turned then !(a < b) else !(b < a)
            else all.mergeSort s.before
        let sorted := if o.has 'u' then s.dropRepeated none sorted else sorted
        let text := unlinesBy lineEnd sorted
        match o.value? 'o' with
        | none => emit "sort" text 0
        | some path =>
          let r ← withFile env.cwd path .writing fun fd => Work.write fd (Text.bytesOfChars text)
          match r with
          | .ok () => return 0
          | .error e =>
            warn "sort" ("open failed: " ++ named path ++ ": " ++ e.systemText)
            return 2

/-! ## Lines that repeat -/

def uniqGrammar : Grammar :=
  ⟨"cdDuiz", "fsw", "", [("count", 'c'), ("repeated", 'd'), ("all-repeated?", 'D'), ("unique", 'u'),
    ("ignore-case", 'i'), ("skip-fields=", 'f'), ("skip-chars=", 's'), ("check-chars=", 'w'),
    ("zero-terminated", 'z'), ("group?", 'g')]⟩

/-- The part of a line that is compared. -/
def uniqKey (o : Options) (fields chars : Nat) (width : Option Nat) (line : List Char) : List Char :=
  let rest := (SortKey.skipFields none fields line).drop chars
  let rest := match width with
    | some n => rest.take n
    | none => rest
  if o.has 'i' then rest.map Char.toUpper else rest

/-- What is known between two lines of `uniq`: the lines of a group that count as the same, the
latest first, or only the first of them and how many there are. -/
structure Group where
  key : List Char
  first : List Char
  count : Nat
  /-- All lines of the group, the latest first, if they are all printed. -/
  lines : List (List Char)

/-- What `uniq` prints about groups, and how lines end. -/
structure GroupForm where
  lineEnd : Char
  counted : Bool
  /-- Whether all lines of a group are printed. -/
  whole : Bool
  /-- Whether an end of line stands before the first group, between groups, and behind the last. -/
  before : Bool
  between : Bool
  behind : Bool
  /-- Whether groups of one line are left out. -/
  repeatedOnly : Bool
  /-- Whether groups of several lines are left out. -/
  uniqueOnly : Bool

/-- What is printed about a group; `first` says that nothing was printed before. -/
def GroupForm.text (f : GroupForm) (first : Bool) (g : Group) : List Char :=
  if (f.repeatedOnly && g.count ≤ 1) || (f.uniqueOnly && 1 < g.count) then []
  else if f.whole then
    (if (if first then f.before else f.between) then [f.lineEnd] else []) ++ unlinesBy f.lineEnd g.lines.reverse
  else (if f.counted then padLeft 7 (digits g.count) ++ [' '] else []) ++ g.first ++ [f.lineEnd]

/-- The filter that prints groups of lines with the same key. Its state is the group that has begun,
and whether nothing was printed. -/
def GroupForm.filter (f : GroupForm) (key : List Char → List Char) :
    Filter ((Option Group × Bool) × List (List Char)) :=
  let line := fun (_ : Bool) ((group, first) : Option Group × Bool) (line : List Char) =>
    let k := key line
    let new : Group := ⟨k, line, 1, if f.whole then [line] else []⟩
    match group with
    | none => ([], (some new, first))
    | some g =>
      if g.key = k then
        let lines := if f.whole then line :: g.lines else []
        ([], (some { g with count := g.count + 1, lines }, first))
      else
        let text := f.text first g
        (text, (some new, first && text.isEmpty))
  let base := Filter.ofLines f.lineEnd false (none, true) line
  { base with
    finish := fun ((group, first), _) =>
      let text := match group with
        | some g => f.text first g
        | none => []
      text ++ (if f.behind && !(first && text.isEmpty) then [f.lineEnd] else []) }

/-- What is wrong with a number in an option of `uniq`. -/
def uniqProblem? (o : Options) : Option String :=
  [('f', "invalid number of fields to skip"), ('s', "invalid number of bytes to skip"),
    ('w', "invalid number of bytes to compare")].findSome? fun (c, what) =>
    match o.value? c with
    | some v => if (natural? v).isNone then some (shown v ++ ": " ++ what) else none
    | none => none

/-- Prints lines that repeat only once. -/
def uniq : Utility := fun env args => do
  let o := uniqGrammar.read args
  match o.problem, o.rest, uniqProblem? o with
  | some problem, _, _ => refuse "uniq" problem 1
  | none, _ :: _ :: extra :: _, _ => refuse "uniq" ("extra operand " ++ quoted extra) 1
  | none, _, some problem =>
    warn "uniq" problem
    return 1
  | none, paths, none =>
    if o.has 'c' ∧ o.has 'D' then
      refuse "uniq" "printing all duplicated lines and repeat counts is meaningless" 1
    else
      let path := paths.head?.getD ['-']
      let number := fun (c : Char) => ((o.value? c).bind natural?).getD 0
      let key := uniqKey o (number 'f') (number 's') ((o.value? 'w').bind natural?)
      let place := ((o.value? 'g').or (o.value? 'D')).map String.ofList
      let form : GroupForm := {
        lineEnd := if o.has 'z' then '\x00' else '\n'
        counted := o.has 'c'
        whole := o.has 'D' || o.has 'g'
        before := place = some "prepend" || place = some "both"
        between := o.has 'g' || place.any (· ≠ "none")
        behind := place = some "append" || place = some "both"
        repeatedOnly := o.has 'd' || o.has 'D'
        uniqueOnly := o.has 'u' }
      let f := form.filter key
      let blame := fun (path : List Char) (e : Disk.Error) =>
        if e = .isDirectory then "error reading " ++ inQuotes path else Filter.usualBlame path e
      match paths[1]? with
      | none => f.feedAll "uniq" blame env.cwd 0 f.start [path]
      | some target =>
        match ← contents env.cwd path with
        | .error e =>
          warn "uniq" (blame path e)
          return 1
        | .ok text =>
          let output := Text.bytesOfChars (f.text text)
          let r ← withFile env.cwd target .writing fun fd => Work.write fd output
          match r with
          | .ok () => return 0
          | .error e =>
            warn "uniq" (named target ++ ": " ++ e.systemText)
            return 1

end ProgramRepair.Utility
