/-!
# Command language

The language of command lines. A command is a program with arguments, or is put
together from commands: lists, pipelines, conditions, loops and functions. A
word is a sequence of parts, and what a part stands for is found out when the
command runs. Text is kept as characters that each stand for one byte.
-/

namespace ProgramRepair.Shell

/-- The language that a shell understands. -/
inductive Dialect where
  /-- What all shells understand. -/
  | common
  /-- With arrays, conditions in double brackets, loops that count, and more. -/
  | extended
deriving DecidableEq, Repr, Inhabited

/-- Where in a value a pattern is looked for. -/
inductive Scope where
  /-- At the first place that fits. -/
  | first
  /-- At every place that fits. -/
  | every
  | front
  | back
deriving DecidableEq, Repr, Inhabited

/-- How a variable in a word is used. -/
inductive Treatment where
  /-- Its value. -/
  | value
  /-- The number of bytes of its value. -/
  | length
  /-- The word if the variable has no value. -/
  | fallback
  /-- The word, which becomes the value, if the variable has none. -/
  | assignment
  /-- An error with the word as its message if the variable has no value. -/
  | demand
  /-- The word if the variable has a value. -/
  | alternative
  /-- The value without the shortest or longest end that fits the word. -/
  | dropEnd (longest : Bool)
  /-- The value without the shortest or longest start that fits the word. -/
  | dropStart (longest : Bool)
  /-- The value with what fits the word replaced by the second word. -/
  | replacement (scope : Scope)
  /-- The value from the position on that the word gives; with `bounded` only as much of it as the
  second word says. -/
  | slice (bounded : Bool)
  /-- The value with its first letter or every letter changed where it fits the word. -/
  | letters (upper every : Bool)
  /-- The keys in the place of the values. -/
  | keys
  /-- The value in a form that can be read again. -/
  | quotation
deriving DecidableEq, Repr, Inhabited

/-- How a redirection uses its word. -/
inductive Direction where
  | input
  | output
  /-- Output even where files are protected. -/
  | forcedOutput
  | append
  | inputOutput
  | copyInput
  | copyOutput
deriving DecidableEq, Repr, Inhabited

/-- What happens after the commands of an arm of a selection. -/
inductive AfterArm where
  | leave
  /-- The commands of the next arm are carried out too. -/
  | fallThrough
  /-- The patterns of the next arms are tried too. -/
  | resume
deriving DecidableEq, Repr, Inhabited

mutual

/-- A part of a word. -/
inductive Part where
  /-- Text, which is quoted or not. -/
  | text (s : List Char) (quoted : Bool)
  /-- A use of variables. With `orEmpty` an empty value counts as none. -/
  | variable (r : Reference) (t : Treatment) (orEmpty : Bool) (word second : List Part)
      (quoted : Bool)
  /-- The output of a command. -/
  | output (body : Command) (quoted : Bool)
  /-- The value of an arithmetic expression. -/
  | arithmetic (expression : List Part) (quoted : Bool)
  /-- A use of a variable that makes no sense, as it is written. -/
  | badUse (text : List Char)
  /-- The elements of an array. -/
  | list (elements : List (List Part))
  /-- The path of a file that a command reads, or else writes. -/
  | channel (reads : Bool) (body : Command)

/-- What a use of variables is about. -/
inductive Reference where
  /-- A variable or a parameter. -/
  | plain (name : List Char)
  | element (name : List Char) (key : List Part)
  /-- All elements of an array, which make one text or not. -/
  | elements (name : List Char) (joined : Bool)
  /-- The variable that a variable names. -/
  | named (name : List Char)
  /-- The names of all variables that begin alike. -/
  | names (start : List Char) (joined : Bool)

/-- A condition in double brackets. -/
inductive Condition where
  /-- Whether a word is not empty. -/
  | word (w : List Part)
  | unary (operator : List Char) (w : List Part)
  | binary (operator : List Char) (left right : List Part)
  | negation (c : Condition)
  | both (a b : Condition)
  | either (a b : Condition)

/-- A redirection. -/
inductive Redirection where
  | file (fd : Nat) (direction : Direction) (word : List Part)
  /-- Input that stands in the script itself, under a number. -/
  | document (fd : Nat) (number : Nat)
  /-- A word as a line of input. -/
  | line (fd : Nat) (word : List Part)
  /-- Output and errors together, at the end of a file or not. -/
  | everything (atEnd : Bool) (word : List Part)

/-- A command. -/
inductive Command where
  | nothing
  | simple (line : Nat) (assignments words : List (List Part)) (redirections : List Redirection)
  | pipeline (stages : List Command)
  | negation (c : Command)
  | both (a b : Command)
  | either (a b : Command)
  | sequence (a b : Command)
  | background (c : Command)
  | subshell (line : Nat) (body : Command) (redirections : List Redirection)
  | group (body : Command) (redirections : List Redirection)
  | conditional (test body other : Command) (redirections : List Redirection)
  | repetition (untilTrue : Bool) (test body : Command) (redirections : List Redirection)
  | iteration (line : Nat) (name : List Char) (words : Option (List (List Part))) (body : Command)
      (redirections : List Redirection)
  | selection (line : Nat) (word : List Part)
      (arms : List (List (List Part) × Command × AfterArm)) (redirections : List Redirection)
  /-- An expression, which holds if its value is not zero. -/
  | calculation (line : Nat) (expression : List Part) (redirections : List Redirection)
  | condition (line : Nat) (c : Condition) (redirections : List Redirection)
  /-- A loop that goes on while an expression is not zero. -/
  | counting (line : Nat) (start test step : List Part) (body : Command)
      (redirections : List Redirection)
  | definition (name : List Char) (body : Command)

end

instance : Inhabited Command := ⟨.nothing⟩

instance : Inhabited Condition := ⟨.word []⟩

/-- A word. -/
abbrev Word := List Part

end ProgramRepair.Shell
