import ProgramRepair.Binary64.Basic
import ProgramRepair.Utility.Regex

/-!
# Programs of patterns and actions

A program is a list of rules. Each rule has a pattern, which says for which
records it is meant, and an action, which is a list of statements. Expressions
have values that are numbers or texts, as they are needed.
-/

namespace ProgramRepair.Utility.PatternAction

/-- A name of a variable, a table or a function. -/
abbrev Name := List Char

/-! ## Expressions -/

/-- The operations on numbers. -/
inductive Operation where
  | add
  | subtract
  | multiply
  | divide
  | remainder
  | power
deriving DecidableEq, Repr

/-- The comparisons. -/
inductive Comparison where
  | less
  | atMost
  | equal
  | unequal
  | atLeast
  | greater
deriving DecidableEq, Repr

/-- The functions that every program has. -/
inductive Function where
  | length
  | substring
  | position
  | split
  | substituteFirst
  | substituteAll
  | matchText
  | format
  | sine
  | cosine
  | arctangent
  | exponential
  | logarithm
  | squareRoot
  | truncate
  | random
  | seed
  | upper
  | lower
  | system
  | close
  | flush
deriving DecidableEq, Repr

mutual

/-- Something that can be assigned to. -/
inductive Target where
  | variable (name : Name)
  /-- An entry of a table. -/
  | entry (table : Name) (keys : List Expr)
  /-- A field of the record, or with number 0 all of it. -/
  | field (number : Expr)

/-- An expression. -/
inductive Expr where
  | number (x : Binary64)
  | text (s : List Char)
  /-- Whether the record has a match. -/
  | regex (r : Regex)
  | value (t : Target)
  /-- Expressions in parentheses. Several of them stand for the key of an entry, or for what is to be
  printed. -/
  | group (es : List Expr)
  | assign (t : Target) (operation : Option Operation) (e : Expr)
  /-- Changes a target by a number; the value is what it was `before` or what it is then. -/
  | change (t : Target) (by_ : Binary64) (before : Bool)
  | choose (condition yes no : Expr)
  | both (a b : Expr)
  | either (a b : Expr)
  | not (e : Expr)
  | negate (e : Expr)
  | numeric (e : Expr)
  | calculate (operation : Operation) (a b : Expr)
  | compare (comparison : Comparison) (a b : Expr)
  /-- Whether a text has a match, or with `negated` whether it has none. -/
  | matching (negated : Bool) (text pattern : Expr)
  | join (a b : Expr)
  /-- Whether a table has an entry. -/
  | member (keys : List Expr) (table : Name)
  | call (function : Name) (arguments : List Expr)
  | builtin (function : Function) (arguments : List Expr)
  /-- Takes the next record. -/
  | next (t : Option Target)
  /-- Takes the next record of a file. -/
  | nextOfFile (t : Option Target) (path : Expr)
  /-- Takes the next record of the output of a command. -/
  | nextOfCommand (t : Option Target) (command : Expr)

end

instance : Inhabited Expr := ⟨.text []⟩

instance : Inhabited Target := ⟨.variable []⟩

/-! ## Statements -/

/-- Where a text is printed other than to the standard output. -/
inductive Outlet where
  | file (append : Bool)
  | command
deriving DecidableEq, Repr

/-- A statement. -/
inductive Statement where
  | evaluate (e : Expr)
  | print (es : List Expr) (outlet : Option (Outlet × Expr))
  | printFormat (es : List Expr) (outlet : Option (Outlet × Expr))
  | branch (condition : Expr) (yes : Statement) (no : Option Statement)
  | whileLoop (condition : Expr) (body : Statement)
  | doLoop (body : Statement) (condition : Expr)
  | forLoop (first : Option Statement) (condition : Option Expr) (step : Option Statement)
      (body : Statement)
  /-- For all keys of a table. -/
  | forEach (name table : Name) (body : Statement)
  | block (body : List Statement)
  | nextRecord
  | nextFile
  | exit (code : Option Expr)
  | giveBack (e : Option Expr)
  | breakLoop
  | continueLoop
  | deleteEntry (table : Name) (keys : List Expr)
  | deleteAll (table : Name)

instance : Inhabited Statement := ⟨.block []⟩

/-! ## Rules -/

/-- What a rule is meant for. -/
inductive Pattern where
  | start
  | finish
  | always
  | condition (e : Expr)
  /-- All records from one that fits the first expression to one that fits the second. -/
  | range (first last : Expr)

/-- A rule. One without an action prints the record. -/
structure Rule where
  pattern : Pattern
  action : Option (List Statement)

/-- A function of a program. -/
structure Definition where
  name : Name
  parameters : List Name
  body : List Statement

/-- A program. -/
structure Program where
  rules : List Rule
  definitions : List Definition

end ProgramRepair.Utility.PatternAction
