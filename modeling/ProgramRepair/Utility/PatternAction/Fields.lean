import ProgramRepair.Utility.PatternAction.Value

/-!
# Records and fields

A separator cuts a text into pieces: a record into fields, the input into records.
Matches of an expression are replaced from left to right, and an empty match right
behind another one does not count.
-/

namespace ProgramRepair.Utility.PatternAction

/-! ## Fields -/

/-- What stands between fields. -/
inductive Separator where
  /-- Blanks, of which those at the borders do not count. -/
  | blanks
  | char (c : Char)
  | pattern (r : Regex)
  /-- Nothing: each character is a field. -/
  | nothing

/-- The separator that a text stands for. -/
def Separator.ofText (text : List Char) : Except String Separator :=
  match text with
  | [] => .ok .nothing
  | [' '] => .ok .blanks
  | [c] => .ok (.char c)
  | text => (patternOf text).map .pattern

/-- The pieces between matches of an expression. -/
def splitByPattern (r : Regex) (before : List Char) : Nat → List Char → List (List Char)
  | 0, s => [s]
  | fuel + 1, s =>
    match r.search false (fun p q => p.position < q.position) (s.length + 1) (.between before s) with
    | none => [s]
    | some m => m.before.drop before.length :: splitByPattern r (m.before ++ m.text) fuel m.after

/-- Words between blanks. -/
def splitByBlanks (fuel : Nat) (s : List Char) : List (List Char) :=
  match fuel with
  | 0 => []
  | fuel + 1 =>
    let s := s.dropWhile Text.isSpaceChar
    if s.isEmpty then []
    else
      let word := s.takeWhile fun c => !Text.isSpaceChar c
      word :: splitByBlanks fuel (s.drop word.length)

/-- The fields of a text. -/
def splitFields (sep : Separator) (s : List Char) : List (List Char) :=
  if s.isEmpty then []
  else
    match sep with
    | .blanks => splitByBlanks (s.length + 1) s
    | .char c => Text.cut c s
    | .pattern r => splitByPattern r [] (s.length + 1) s
    | .nothing => s.map fun c => [c]

/-! ## Records -/

/-- What stands behind a record. -/
inductive Ending where
  | char (c : Char)
  | pattern (r : Regex)
  /-- Empty lines, of which those at the borders do not count. -/
  | emptyLines

/-- The ending that a text stands for. -/
def Ending.ofText (text : List Char) : Except String Ending :=
  match text with
  | [] => .ok .emptyLines
  | [c] => .ok (.char c)
  | text => (patternOf text).map .pattern

/-- Whether all of the input has to be known before it can be cut. -/
def Ending.needsAll : Ending → Bool
  | .char _ => false
  | _ => true

/-- The first paragraph of a text without line breaks at its start, and what follows it. -/
def paragraph : List Char → List Char × List Char
  | [] => ([], [])
  | '\n' :: '\n' :: rest => ([], rest.dropWhile (· = '\n'))
  | ['\n'] => ([], [])
  | c :: rest =>
    let (text, after) := paragraph rest
    (c :: text, after)

/-- The first record of a text and what follows it. There is none where more of the input is needed,
of which `ended` says that there is no more. -/
def nextRecord? (ending : Ending) (ended : Bool) (s : List Char) :
    Option (List Char × List Char) :=
  match ending with
  | .char c =>
    let text := s.takeWhile (· ≠ c)
    match s.drop text.length with
    | _ :: rest => some (text, rest)
    | [] => if ended ∧ !text.isEmpty then some (text, []) else none
  | .emptyLines =>
    let s := s.dropWhile (· = '\n')
    if s.isEmpty then none else some (paragraph s)
  | .pattern r =>
    if s.isEmpty then none
    else
      match r.search false (fun p q => p.position < q.position) (s.length + 1) (.between [] s) with
      | some m => some (m.before, m.after)
      | none => some (s, [])

/-! ## Substitution -/

/-- What is put in the place of a match: the sign `&` stands for the match. Of backslashes before it
each two stand for one, and one that is left makes it a plain character. -/
def replacementText (matched : List Char) (backslashes : Nat) : List Char → List Char
  | [] => List.replicate backslashes '\\'
  | c :: rest =>
    if c = '\\' then replacementText matched (backslashes + 1) rest
    else if c = '&' then
      List.replicate (backslashes / 2) '\\' ++ (if backslashes % 2 = 1 then ['&'] else matched) ++
        replacementText matched 0 rest
    else List.replicate backslashes '\\' ++ c :: replacementText matched 0 rest

/-- A text with its matches replaced, and their number. -/
def substituteAll (r : Regex) (new before : List Char) (afterMatch : Bool) :
    Nat → List Char → List Char × Nat
  | 0, s => (s, 0)
  | fuel + 1, s =>
    match r.find? false before s with
    | none => (s, 0)
    | some m =>
      let lead := m.before.drop before.length
      let skipped : Bool := m.text.isEmpty && lead.isEmpty && afterMatch
      let here := if skipped then [] else replacementText m.text 0 new
      let count := if skipped then 0 else 1
      match m.text, m.after with
      | [], [] => (lead ++ here, count)
      | [], c :: after =>
        let (tail, more) := substituteAll r new (m.before ++ [c]) false fuel after
        (lead ++ here ++ c :: tail, count + more)
      | text, after =>
        let (tail, more) := substituteAll r new (m.before ++ text) true fuel after
        (lead ++ here ++ tail, count + more)

/-- A text with its first match replaced, and the number of matches that were. -/
def substituteFirst (r : Regex) (new s : List Char) : List Char × Nat :=
  match r.find? false [] s with
  | none => (s, 0)
  | some m => (m.before ++ replacementText m.text 0 new ++ m.after, 1)

/-- The part of a text that begins with a character by its number and has some length. Both numbers
count up to the point, and what lies outside the text does not count. -/
def substring (s : List Char) (start : Binary64) (length : Option Binary64) : List Char :=
  let size : Int := s.length
  let whole := fun (x : Binary64) =>
    if x.isInfinite then (if x.negative then -(size + 2) else size + 2) else truncated x
  let first := whole start
  let last := match length with
    | none => size + 1
    | some n => first + whole n
  let low := max first 1
  let high := min last (size + 1)
  if low < high then (s.drop (low - 1).toNat).take (high - low).toNat else []

end ProgramRepair.Utility.PatternAction
