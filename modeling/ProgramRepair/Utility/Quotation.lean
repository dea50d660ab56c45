import ProgramRepair.Utility.Basic

/-!
# Texts in messages

How programs show the texts that they complain about. Paths are shown so that they can
be given to a shell, and other texts with escapes. Characters that are not printable
ASCII never stand for themselves. Where one of a few words was asked for, the message
has all of them.
-/

namespace ProgramRepair.Utility

/-- Three octal digits of a byte. -/
def octalDigits (c : Char) : List Char :=
  let ds := Nat.toDigits 8 c.toNat
  List.replicate (3 - ds.length) '0' ++ ds

/-- Whether a character cannot stand in quotes by itself. -/
def isUnquotable (c : Char) : Bool := c < ' ' || '\x7f' ≤ c

/-- A character that cannot stand in quotes, as an escape. -/
def escapedChar (c : Char) : List Char :=
  match c with
  | '\x07' => ['\\', 'a']
  | '\x08' => ['\\', 'b']
  | '\n' => ['\\', 'n']
  | '\x0b' => ['\\', 'v']
  | '\x0c' => ['\\', 'f']
  | '\t' => ['\\', 't']
  | '\x0d' => ['\\', 'r']
  | c => '\\' :: octalDigits c

/-- A text between single quotes, with pieces for characters that cannot stand there; `escaping` says
that such a piece is open. -/
def quotePieces (escaping : Bool) : List Char → List Char
  | [] => ['\'']
  | c :: s =>
    if isUnquotable c then
      (if escaping then [] else ['\'', '$', '\'']) ++ escapedChar c ++ quotePieces true s
    else
      (if escaping then ['\'', '\''] else []) ++ (if c = '\'' then ['\'', '\\', '\'', '\''] else [c]) ++
        quotePieces false s

/-- Whether a character means something to a shell also between double quotes, or might do so. -/
def isDoubtful (c : Char) : Bool := isUnquotable c || "!\"$&()*;<=>[^\x60|?\\".toList.contains c

/-- Whether a text is one that a shell would take for something else. -/
def isSpecial (s : List Char) : Bool :=
  let leads := s.head?.any fun c => c = '#' || c = '~'
  s.isEmpty || leads || s = ['\x7b'] || s = ['\x7d'] ||
    s.any fun c => isDoubtful c || c = ' ' || c = '\''

/-- A path in quotes, in a way that a shell can read. -/
def inQuotes (path : List Char) : String :=
  let inner := path.drop 1
  let plain := !path.any isDoubtful && !(inner.any fun c => "\x7b\x7d#~".toList.contains c)
  if path.contains '\'' ∧ plain then shown ('"' :: path ++ ['"'])
  else shown ('\'' :: quotePieces false path)

/-- A path in front of a message, in quotes if a shell would need them or a colon is in it. -/
def named (path : List Char) : String :=
  if isSpecial path ∨ path.contains ':' then inQuotes path else shown path

/-- A text in quotes with escapes for what cannot stand there. -/
def quoted (s : List Char) : String :=
  let piece := fun c : Char =>
    if c = '\'' ∨ c = '\\' then ['\\', c]
    else if isUnquotable c then escapedChar c
    else [c]
  shown ('\'' :: s.flatMap piece ++ ['\''])

/-! ## Choices by name

Some options have a value that is one of a few words. A word may be cut short as long as
it is clear what is meant.
-/

/-- Words and what they stand for. Words with the same meaning stand together. -/
abbrev Choices (α : Type) := List (List String × α)

/-- The lines that say which words there are. -/
def validWords (choices : Choices α) : String :=
  "\nValid arguments are:" ++ String.join (choices.map fun (words, _) =>
    "\n  - " ++ String.intercalate ", " (words.map fun w => "'" ++ w ++ "'"))

/-- What is said about the value of `what` if it is no good. -/
def blameValue (problem what : String) (choices : Choices α) (s : List Char) : String :=
  problem ++ " argument " ++ quoted s ++ " for " ++ quoted what.toList ++ validWords choices

/-- What a word stands for as the value of `what`, or a message that has all words. -/
def chooseExactly (what : String) (choices : Choices α) (s : List Char) : Except String α :=
  match choices.find? fun (words, _) => words.any fun w => w.toList = s with
  | some (_, a) => .ok a
  | none => .error (blameValue "invalid" what choices s)

/-- What a text stands for or is short for as the value of `what`, or a message that has all words. -/
def choose (what : String) (choices : Choices α) (s : List Char) : Except String α :=
  match chooseExactly what choices s with
  | .ok a => .ok a
  | .error invalid =>
    match choices.filter fun (words, _) => words.any fun w => s.isPrefixOf w.toList with
    | [] => .error invalid
    | [(_, a)] => .ok a
    | _ => .error (blameValue "ambiguous" what choices s)

/-- The words that have a meaning each. -/
def singly (choices : List (String × α)) : Choices α := choices.map fun (w, a) => ([w], a)

end ProgramRepair.Utility
