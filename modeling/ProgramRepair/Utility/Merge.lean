import ProgramRepair.Utility.Order

/-!
# Comparing sorted files

`comm` says which lines two sorted files share, and `join` puts lines together that share
a field. Both go through the two files side by side. That a file is not sorted is only
said once a line without a partner was seen, since before that it did no harm.
-/

namespace ProgramRepair.Utility

open Machine

/-! ## Lines that are shared -/

/-- One of two files that are gone through. -/
structure SortedInput where
  name : List Char
  /-- The lines that were read, the latest first. -/
  passed : List (List Char)
  rest : List (List Char)
  /-- The line that was found to be out of order, and its number. -/
  disorder : Option (Nat × List Char)

namespace SortedInput

/-- A file that begins with its first line. -/
def ofLines (name : List Char) (lines : List (List Char)) : SortedInput := ⟨name, [], lines, none⟩

/-- The current line. -/
def current? (s : SortedInput) : Option (List Char) := s.rest.head?

/-- Goes on to the next line, which is checked against the current one if `checking` says so. -/
def advance (compare : List Char → List Char → Ordering) (checking : Bool) (s : SortedInput) :
    SortedInput :=
  match s.rest with
  | [] => s
  | line :: rest =>
    let disorder := match s.disorder, rest with
      | none, next :: _ =>
        if checking && compare line next = .gt then some (s.passed.length + 2, next) else none
      | d, _ => d
    { s with passed := line :: s.passed, rest, disorder }

/-- Checks the last two lines once more when the end has come. -/
def checkEnd (compare : List Char → List Char → Ordering) (checking : Bool) (s : SortedInput) :
    SortedInput :=
  match s.rest, s.disorder, s.passed with
  | [], none, last :: before :: _ =>
    if checking && compare before last = .gt then
      { s with disorder := some (s.passed.length, last) }
    else s
  | _, _, _ => s

end SortedInput

/-- Lines with the column that they belong in: the first file's, the second file's, or both. -/
abbrev Shared := List (Nat × List Char)

/-- The lines of two files with their columns. -/
def sharedLines (checks : Option Bool) :
    Nat → (unpaired : Bool) → SortedInput → SortedInput → Shared × SortedInput × SortedInput
  | 0, _, a, b => ([], a, b)
  | fuel + 1, unpaired, a, b =>
    let order := match a.current?, b.current? with
      | none, none => none
      | some _, none => some Ordering.lt
      | none, some _ => some .gt
      | some x, some y => some (compareTexts x y)
    match order with
    | none => ([], a, b)
    | some order =>
      let unpaired := unpaired || order ≠ .eq
      let checking := checks.getD unpaired
      let line := match order with
        | .gt => b.current?.getD []
        | _ => a.current?.getD []
      let column := match order with
        | .lt => 1
        | .gt => 2
        | .eq => 3
      let go := fun (s : SortedInput) =>
        (s.advance compareTexts checking).checkEnd compareTexts checking
      let (rest, a, b) := sharedLines checks fuel unpaired (if order = .gt then a else go a)
        (if order = .lt then b else go b)
      ((column, line) :: rest, a, b)

def commGrammar : Grammar :=
  ⟨"123z", "", "", [("check-order", 'c'), ("nocheck-order", 'n'), ("output-delimiter=", 'o'),
    ("total", 't'), ("zero-terminated", 'z')]⟩

/-- Reads two files, or says what is wrong with the first that cannot be read. -/
def readTwo (program : String) (cwd : Place) (a b : List Char) :
    Work (Option (List Char × List Char)) := do
  match ← contents cwd a with
  | .error e =>
    warn program (named a ++ ": " ++ e.systemText)
    return none
  | .ok x =>
    match ← contents cwd b with
    | .error e =>
      warn program (named b ++ ": " ++ e.systemText)
      return none
    | .ok y => return some (x, y)

/-- What is wrong with the number of files, of which there have to be two. -/
def twoFilesProblem? (o : Options) : Option String :=
  match o.rest with
  | [] => some "missing operand"
  | [a] => some ("missing operand after " ++ quoted a)
  | [_, _] => none
  | _ :: _ :: extra :: _ => some ("extra operand " ++ quoted extra)

/-- Whether orders are checked: always, never, or once it matters. -/
def orderChecks (o : Options) : Option Bool :=
  if o.has 'c' then some true else if o.has 'n' then some false else none

/-- Says which lines two sorted files share. -/
def comm : Utility := fun env args => do
  let o := commGrammar.read args
  match o.problem.or (twoFilesProblem? o), o.rest with
  | some problem, _ => refuse "comm" problem 1
  | none, [a, b] =>
    match ← readTwo "comm" env.cwd a b with
    | none => return 1
    | some (x, y) =>
      let lineEnd := if o.has 'z' then '\x00' else '\n'
      let first := linesBy lineEnd x
      let second := linesBy lineEnd y
      let (shared, a, b) := sharedLines (orderChecks o) (first.length + second.length + 1) false
        (.ofLines a first) (.ofLines b second)
      let separator := (o.value? 'o').getD ['\t']
      let isShown := fun (column : Nat) => !o.has (Char.ofNat (48 + column))
      let lead := fun (column : Nat) =>
        let before := (List.range column).filter fun i => 0 < i && isShown i
        List.flatten (before.map fun _ => separator)
      let lines := shared.filterMap fun (column, line) =>
        if isShown column then some (lead column ++ line) else none
      let count := fun (column : Nat) => digits (shared.countP fun entry => entry.1 = column)
      let total :=
        if o.has 't' then
          [List.flatten ([count 1, count 2, count 3, "total".toList].intersperse separator)]
        else []
      if a.disorder.isSome then warn "comm" "file 1 is not in sorted order"
      if b.disorder.isSome then warn "comm" "file 2 is not in sorted order"
      let disordered := a.disorder.isSome || b.disorder.isSome
      if disordered then warn "comm" "input is not in sorted order"
      emit "comm" (unlinesBy lineEnd (lines ++ total)) (if disordered then 1 else 0)
  | none, _ => return 1

/-! ## Lines that share a field -/

/-- A field of the output: the shared one, or one of a file. -/
inductive JoinField where
  | shared
  | of (second : Bool) (field : Nat)

/-- How lines are joined. -/
structure Joining where
  separator : Option Char
  /-- The fields that are shared, counted from 0. -/
  first : Nat
  second : Nat
  ignoreCase : Bool
  /-- Whether pairs are printed. -/
  pairs : Bool
  /-- Whether lines without a partner are printed. -/
  firstAlone : Bool
  secondAlone : Bool
  format : Option (List JoinField)
  /-- What stands for a missing field. -/
  filler : List Char

namespace Joining

/-- The fields of a line. -/
def fields (j : Joining) (line : List Char) : List (List Char) :=
  match j.separator with
  | some c => Text.cut c line
  | none => ((Text.cut ' ' (line.map fun c => if isFieldBlank c then ' ' else c))).filter (· ≠ [])

/-- A line of the output. -/
def unite (j : Joining) (a b : Option (List Char)) : List Char :=
  let x := (a.map j.fields).getD []
  let y := (b.map j.fields).getD []
  let key := if a.isSome then x[j.first]? else y[j.second]?
  let fill := fun (f : Option (List Char)) =>
    match f with
    | some (c :: cs) => c :: cs
    | _ => j.filler
  let others := fun (i : Nat) (fs : List (List Char)) => fs.take i ++ fs.drop (i + 1)
  let items := match j.format with
    | none => fill key :: ((others j.first x ++ others j.second y).map fun f => fill (some f))
    | some format => format.map fun f =>
      fill (match f with
        | JoinField.shared => key
        | JoinField.of false i => x[i]?
        | JoinField.of true i => y[i]?)
  List.flatten (items.intersperse [j.separator.getD ' '])

/-- The order of lines by their shared fields. -/
def compareFields (j : Joining) (i k : Nat) (a b : List Char) : Ordering :=
  let key := fun (n : Nat) (line : List Char) =>
    let f := ((j.fields line)[n]?).getD []
    if j.ignoreCase then f.map Char.toUpper else f
  compareTexts (key i a) (key k b)

/-- Goes through lines while they have the same shared field as `line`. -/
def takeSame (j : Joining) (checking : Bool) (own other : Nat) (line : List Char) :
    Nat → SortedInput → List (List Char) × SortedInput
  | 0, s => ([], s)
  | fuel + 1, s =>
    match s.current? with
    | none => ([], s)
    | some l =>
      if j.compareFields own other l line = .eq then
        let (more, s) := j.takeSame checking own other line fuel
          (s.advance (j.compareFields own own) checking)
        (l :: more, s)
      else ([], s)

/-- The lines of the output. -/
def lines (j : Joining) (checks : Option Bool) :
    Nat → (unpaired : Bool) → SortedInput → SortedInput →
      List (List Char) × SortedInput × SortedInput
  | 0, _, a, b => ([], a, b)
  | fuel + 1, unpaired, a, b =>
    let checking := checks.getD unpaired
    match a.current?, b.current? with
    | none, none => ([], a, b)
    | some x, none =>
      let (rest, a, b) := j.lines checks fuel unpaired
        (a.advance (j.compareFields j.first j.first) checking) b
      (if j.firstAlone then j.unite (some x) none :: rest else rest, a, b)
    | none, some y =>
      let (rest, a, b) := j.lines checks fuel unpaired a
        (b.advance (j.compareFields j.second j.second) checking)
      (if j.secondAlone then j.unite none (some y) :: rest else rest, a, b)
    | some x, some y =>
      match j.compareFields j.first j.second x y with
      | .lt =>
        let (rest, a, b) := j.lines checks fuel true
          (a.advance (j.compareFields j.first j.first) checking) b
        (if j.firstAlone then j.unite (some x) none :: rest else rest, a, b)
      | .gt =>
        let (rest, a, b) := j.lines checks fuel true a
          (b.advance (j.compareFields j.second j.second) checking)
        (if j.secondAlone then j.unite none (some y) :: rest else rest, a, b)
      | .eq =>
        let (xs, a) := j.takeSame checking j.first j.second y (a.rest.length + 1) a
        let (ys, b) := j.takeSame checking j.second j.first x (b.rest.length + 1) b
        let united := xs.flatMap fun x => ys.map fun y => j.unite (some x) (some y)
        let (rest, a, b) := j.lines checks fuel unpaired a b
        (if j.pairs then united ++ rest else rest, a, b)

end Joining

/-- The field that a text such as `1.2` stands for. -/
def joinField? (s : List Char) : Option JoinField :=
  match s with
  | ['0'] => some .shared
  | '1' :: '.' :: ds => (natural? ds).bind fun n => if n = 0 then none else some (.of false (n - 1))
  | '2' :: '.' :: ds => (natural? ds).bind fun n => if n = 0 then none else some (.of true (n - 1))
  | _ => none

def joinGrammar : Grammar :=
  ⟨"iz", "aevojt12", "", [("ignore-case", 'i'), ("check-order", 'c'), ("nocheck-order", 'n'),
    ("header", 'h'), ("zero-terminated", 'z')]⟩

/-- The words of a list with commas or blanks. -/
def listWords (s : List Char) : List (List Char) :=
  (Text.cut ',' (s.map fun c => if isFieldBlank c then ',' else c)).filter (· ≠ [])

/-- How lines are joined that options ask for. The lines are needed for a format that goes by the
first ones. -/
def joiningOf (o : Options) (first second : List (List Char)) : Except String Joining := do
  let number := fun (c : Char) => do
    match (o.value? c).or (o.value? 'j') with
    | none => return 0
    | some s =>
      match natural? s with
      | none | some 0 => throw ("invalid field number: " ++ quoted s)
      | some n => return n - 1
  let separator ← match o.value? 't' with
    | none => pure none
    | some [] => pure (some '\n')
    | some [c] => pure (some c)
    | some ['\\', '0'] => pure (some '\x00')
    | some s => throw ("multi-character tab " ++ quoted s)
  let alone := fun (c : Char) => (o.valuesOf 'a' ++ o.valuesOf 'v').contains [c]
  let j : Joining := {
    separator := separator
    first := ← number '1'
    second := ← number '2'
    ignoreCase := o.has 'i'
    pairs := !o.has 'v'
    firstAlone := alone '1'
    secondAlone := alone '2'
    format := none
    filler := (o.value? 'e').getD [] }
  match o.valuesOf 'o' with
  | [] => return j
  | [['a', 'u', 't', 'o']] =>
    let count := fun (lines : List (List Char)) => (j.fields (lines.head?.getD [])).length
    let columns := fun (b : Bool) (key n : Nat) =>
      ((List.range n).filter (· ≠ key)).map (JoinField.of b)
    let format := JoinField.shared :: columns false j.first (count first) ++ columns true j.second (count second)
    return { j with format := some format }
  | lists =>
    let format ← (lists.flatMap listWords).mapM fun w =>
      match joinField? w with
      | some f => .ok f
      | none => .error ("invalid field specifier: " ++ quoted w)
    return { j with format := some format }

/-- Joins the lines of two sorted files that share a field. -/
def join : Utility := fun env args => do
  let o := joinGrammar.read args
  match o.problem.or (twoFilesProblem? o), o.rest with
  | some problem, _ => refuse "join" problem 1
  | none, [a, b] =>
    match joiningOf o [] [] with
    | .error problem =>
      warn "join" problem
      return 1
    | .ok _ =>
      match ← readTwo "join" env.cwd a b with
      | none => return 1
      | some (x, y) =>
        let lineEnd := if o.has 'z' then '\x00' else '\n'
        let first := linesBy lineEnd x
        let second := linesBy lineEnd y
        match joiningOf o first second with
        | .error problem =>
          warn "join" problem
          return 1
        | .ok j =>
          let header :=
            if o.has 'h' ∧ !(first.isEmpty ∧ second.isEmpty) then [j.unite first.head? second.head?] else []
          let skipped := if o.has 'h' then 1 else 0
          let (lines, x, y) := j.lines (orderChecks o) (first.length + second.length + 1) false
            (.ofLines a (first.drop skipped)) (.ofLines b (second.drop skipped))
          for s in [x, y] do
            match s.disorder with
            | some (n, line) =>
              warn "join" (shown s.name ++ ":" ++ toString (n + skipped) ++ ": is not sorted: " ++
                shown line)
            | none => pure ()
          let disordered := x.disorder.isSome || y.disorder.isSome
          if disordered then warn "join" "input is not in sorted order"
          emit "join" (unlinesBy lineEnd (header ++ lines)) (if disordered then 1 else 0)
  | none, _ => return 1

end ProgramRepair.Utility
