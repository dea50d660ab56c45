import ProgramRepair.Shell.Process

/-!
# Commands of the shell itself

A command of the shell itself has the whole shell to work with. Its value is its
status. Most of them only complain when something is wrong; the special ones then
end the shell.
-/

namespace ProgramRepair.Shell

open Machine

/-- A command of the shell itself: what it does with its arguments, and its status. -/
abbrev Builtin := Runner → List (List Char) → Sh Nat

namespace Sh

/-- The status of a command of the shell that has complained. -/
def complaintStatus : Nat := 2

/-- Complains and goes on. -/
def blame (message : String) : Sh Nat := do
  complain message
  return complaintStatus

/-- Complains about an argument in the words of the language; the status is that of the language. -/
def blameIn (common extended : String) : Sh Nat := do
  if (← get).isExtended then
    complain extended
    return 1
  else blame common

/-- Says how a command of the shell is to be used. -/
def showUsage (usage : String) : Sh Nat := do
  let name := (← get).commandName.getD []
  discard <| print 2 (name ++ (": usage: " ++ String.ofList name ++ " " ++ usage ++ "\n").toList)
  return complaintStatus

/-- Complains about an option that does not exist. -/
def blameOption (letter : Char) (usage : String) : Sh Nat := do
  complain ("-" ++ pathText [letter] ++ ": invalid option")
  showUsage usage

/-- The value of a computation while messages name a command; there is none if the computation gives
up its line. -/
def inCommand (name : List Char) (m : Sh α) : Sh (Option α) := do
  let outer := (← get).commandName
  modify fun s => { s with commandName := some name }
  let r ← attempt m
  modify fun s => { s with commandName := outer }
  match r with
  | .ok a => return some a
  | .error .discarded => return none
  | .error f => leave f

/-- Prints the output of a command of the shell. The status is `status` unless that fails. -/
def output (text : List Char) (status : Nat) : Sh Nat := do
  if text.isEmpty then return status
  match ← print 1 text with
  | .ok () => return status
  | .error _ =>
    complain (pathText ((← get).commandName.getD []) ++ ": I/O error")
    return 1

/-- A text in single quotes; single quotes in it stand in double quotes. -/
def quotedText (s : List Char) : List Char := '\'' :: go s
where
  /-- The rest of the text and the closing quote. -/
  go : List Char → List Char
    | [] => ['\'']
    | '\'' :: rest => ['\'', '"', '\'', '"'] ++ (if rest.isEmpty then [] else '\'' :: go rest)
    | c :: rest => c :: go rest

/-- The number that an argument stands for; `none` if it is no number. -/
def countOf? (s : List Char) : Option Nat := do
  let n ← if s ≠ [] ∧ s.all Char.isDigit then some (digitsNumber s) else none
  if n < Nat.pow 2 31 then some n else none

/-- The first argument as a number, or else `standard`. Anything that is no number ends the
shell. -/
def countArgument (standard : Nat) : List (List Char) → Sh Nat
  | [] => return standard
  | a :: _ =>
    match countOf? a with
    | some n => return n
    | none => failShell ("Illegal number: " ++ pathText a) 2

/-- Whether an argument holds options. -/
def isOption (a : List Char) : Bool :=
  match a with
  | '-' :: _ :: _ => true
  | _ => false

end Sh

end ProgramRepair.Shell
