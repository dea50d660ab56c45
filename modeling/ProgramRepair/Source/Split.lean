import ProgramRepair.Text.CharClass
import ProgramRepair.Text.Lines

/-!
# Units of a source file

A statement goes on to the next physical line while a bracket or a
triple-quoted string is open, or when the line ends in a backslash. `scan` walks
over one line with two characters of lookahead; `ScanState.feed` keeps what a
line leaves open for the next one, and `ScanState.continues` says whether the
statement goes on.

A file is a sequence of pieces. A piece is either fixed, that is kept as it is,
or a unit, the text that one edit replaces or removes. By lines every line is a
unit; by statements a unit is a logical statement, and the blank lines and
comments between statements are fixed.
-/

namespace ProgramRepair.Source

open Text

/-! ## Logical lines -/

/-- The two characters that open and close strings. -/
inductive Quote where
  | single
  | double
deriving DecidableEq, Repr

namespace Quote

def mark : Quote → Char
  | single => '\x27'
  | double => '\x22'

/-- The quote that a character is, if it is one. -/
def ofChar? (c : Char) : Option Quote :=
  if c = mark single then some single
  else if c = mark double then some double
  else none

end Quote

/-- Where a scan stands inside a line. -/
inductive ScanMode where
  | code
  /-- Inside a string that ends at the next quote or with the line. -/
  | quoted (q : Quote)
  /-- Inside a string that ends at three quotes. -/
  | triple (q : Quote)
deriving DecidableEq, Repr

/-- The scan of a line: bracket depth and mode at its end. A backslash inside a string hides the
next character, a `#` in code ends the line, and a closing bracket that nothing opened counts for
nothing. -/
def scan (mode : ScanMode) (depth : Nat) : List Char → Nat × ScanMode
  | [] => (depth, mode)
  | c :: cs =>
    match mode with
    | .triple q =>
      if c = '\\' then
        match cs with
        | [] => (depth, mode)
        | _ :: rest => scan mode depth rest
      else
        match cs with
        | a :: b :: rest =>
          if c = q.mark ∧ a = q.mark ∧ b = q.mark then scan .code depth rest
          else scan mode depth (a :: b :: rest)
        | rest => scan mode depth rest
    | .quoted q =>
      if c = '\\' then
        match cs with
        | [] => (depth, mode)
        | _ :: rest => scan mode depth rest
      else if c = q.mark then scan .code depth cs
      else scan mode depth cs
    | .code =>
      match Quote.ofChar? c with
      | some q =>
        match cs with
        | a :: b :: rest =>
          if a = q.mark ∧ b = q.mark then scan (.triple q) depth rest
          else scan (.quoted q) depth (a :: b :: rest)
        | rest => scan (.quoted q) depth rest
      | none =>
        if c = '#' then (depth, mode)
        else if c = '(' ∨ c = '[' ∨ c = '\x7b' then scan .code (depth + 1) cs
        else if c = ')' ∨ c = ']' ∨ c = '\x7d' then scan .code (depth - 1) cs
        else scan .code depth cs

/-- What the lines so far leave open. -/
structure ScanState where
  depth : Nat := 0
  triple : Option Quote := none
deriving DecidableEq, Repr, Inhabited

namespace ScanState

/-- The mode in which the next line starts. -/
def mode (s : ScanState) : ScanMode :=
  match s.triple with
  | none => .code
  | some q => .triple q

/-- What is open after one more line. A string in single quotes ends with its line. -/
def feed (s : ScanState) (line : List Char) : ScanState :=
  match scan s.mode s.depth line with
  | (depth, .triple q) => ⟨depth, some q⟩
  | (depth, _) => ⟨depth, none⟩

/-- Whether a statement goes on after `line`, where `s` is what is open after it. -/
def continues (s : ScanState) (line : List Char) : Bool :=
  s.triple.isSome || 0 < s.depth || (trimEnd line).getLast? == some '\\'

end ScanState

/-! ## Pieces -/

/-- What a unit is. -/
inductive Granularity where
  /-- One physical line. -/
  | line
  /-- One logical statement, which may span several lines. -/
  | statement
deriving DecidableEq, Repr, Inhabited

/-- A part of a file in its order. -/
inductive Piece where
  /-- A line that no edit touches. -/
  | fixed (line : List Char)
  /-- The unit with this number. -/
  | unit (index : Nat)
deriving DecidableEq, Repr

/-- Pieces and the texts of the units that they number. -/
structure Split where
  pieces : List Piece
  units : List (List Char)
deriving DecidableEq, Repr, Inhabited

namespace Split

def nil : Split := ⟨[], []⟩

/-- One fixed line in front. -/
def consFixed (line : List Char) (s : Split) : Split :=
  ⟨.fixed line :: s.pieces, s.units⟩

/-- One unit in front, with the number `index`. -/
def consUnit (index : Nat) (text : List Char) (s : Split) : Split :=
  ⟨.unit index :: s.pieces, text :: s.units⟩

end Split

/-- The lines of a text. One line break at its end does not start a line, and the empty text has
no line. -/
def linesOf (text : List Char) : List (List Char) :=
  if text = [] then [] else cut '\n' (dropFinalBreak text)

/-- Every line as a unit, numbered from `index` on. -/
def splitLinesFrom (index : Nat) : List (List Char) → Split
  | [] => .nil
  | line :: rest => (splitLinesFrom (index + 1) rest).consUnit index line

/-- Whether a line outside a statement is blank or a comment. -/
def isFixedLine (line : List Char) : Bool :=
  match trimStart line with
  | [] => true
  | c :: _ => c == '#'

/-- Statements as units, numbered from `index` on, where `pending` are the lines of a statement
that goes on and `state` is what they leave open. What is open at the end of the file is a unit
all the same. -/
def splitStatementsFrom (index : Nat) (pending : List (List Char)) (state : ScanState) :
    List (List Char) → Split
  | [] => if pending = [] then .nil else Split.nil.consUnit index (glue '\n' pending)
  | line :: rest =>
    if pending = [] ∧ isFixedLine line then
      (splitStatementsFrom index [] state rest).consFixed line
    else
      let state' := state.feed line
      if state'.continues line then
        splitStatementsFrom index (pending ++ [line]) state' rest
      else
        (splitStatementsFrom (index + 1) [] {} rest).consUnit index (glue '\n' (pending ++ [line]))

/-- The pieces and units of some lines. -/
def splitLines (granularity : Granularity) (lines : List (List Char)) : Split :=
  match granularity with
  | .line => splitLinesFrom 0 lines
  | .statement => splitStatementsFrom 0 [] {} lines

end ProgramRepair.Source
