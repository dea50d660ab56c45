import ProgramRepair.Machine.Task
import ProgramRepair.Text.Lines

/-!
# Programs of the system

A program gets arguments, works with its descriptors and the disk, and ends with
an exit code. Text is kept as characters that each stand for one byte. This
module has what all programs have in common: reading files, printing, messages
and options.
-/

namespace ProgramRepair

open Machine

/-- What a program gets besides its arguments. -/
structure Surroundings where
  cwd : Place
  bindings : List (List Char × List Char)

/-- A program: what it does with its arguments, and its exit code. -/
abbrev Utility := Surroundings → List (List Char) → Work Nat

namespace Utility

/-! ## Text -/

/-- Characters that stand for bytes as a text for messages and paths. -/
def shown (cs : List Char) : String :=
  if cs.all (·.toNat < 0x80) then String.ofList cs
  else String.ofList (Text.decodeLossy (Text.bytesOfChars cs))

/-- A text as characters that stand for its bytes. -/
def bytesChars (s : String) : List Char :=
  if s.toList.all (·.toNat < 0x80) then s.toList else Text.charsOfBytes (Text.bytesOf s)

/-- The lines of a text without their line breaks. -/
def linesOf (text : List Char) : List (List Char) :=
  match (Text.cut '\n' text).reverse with
  | [] :: rest => rest.reverse
  | all => all.reverse

/-- Lines with a line break after each. -/
def unlines (lines : List (List Char)) : List Char := lines.flatMap (· ++ ['\n'])

/-- The number that a text of digits stands for. -/
def natural? (s : List Char) : Option Nat :=
  if s ≠ [] ∧ s.all Char.isDigit then
    some (s.foldl (fun n d => 10 * n + (d.toNat - '0'.toNat)) 0)
  else none

/-- The number that a text of digits, with or without a sign, stands for. -/
def integer? (s : List Char) : Option Int :=
  match s with
  | '-' :: ds => (natural? ds).map fun n => -(n : Int)
  | '+' :: ds => (natural? ds).map fun n => (n : Int)
  | ds => (natural? ds).map fun n => (n : Int)

/-- The number that a text with a letter for a power of 1024 stands for. -/
def sized? (s : List Char) : Option Nat :=
  let ds := s.takeWhile Char.isDigit
  let factor := match String.ofList (s.drop ds.length) with
    | "" => some 1
    | "b" => some 512
    | "K" | "k" | "KiB" => some 1024
    | "M" | "MiB" => some (Nat.pow 1024 2)
    | "G" | "GiB" => some (Nat.pow 1024 3)
    | "kB" | "KB" => some 1000
    | "MB" => some (Nat.pow 1000 2)
    | "GB" => some (Nat.pow 1000 3)
    | _ => none
  match natural? ds, factor with
  | some n, some f => some (n * f)
  | _, _ => none

/-- A text with blanks in front up to a width. -/
def padLeft (width : Nat) (s : List Char) : List Char :=
  List.replicate (width - s.length) ' ' ++ s

def digits (n : Nat) : List Char := (toString n).toList

/-! ## Messages and output -/

/-- Prints to the standard output. -/
def put (text : List Char) : Work (Except Disk.Error Unit) :=
  .write 1 (Text.bytesOfChars text)

/-- What a program calls itself: its name, or the path that it was called by. -/
def ownName (program : String) : Work String := do
  let title ← .call Kernel.title
  return if ('/' :: program.toList).isSuffixOf title then shown title else program

/-- Prints a message of a program. -/
def warn (program message : String) : Work Unit := do
  let name ← ownName program
  discard <| Work.write 2 (Text.bytesOf (name ++ ": " ++ message ++ "\n"))

/-- Prints the output of a program. The exit code is `code` unless that fails. -/
def emit (program : String) (text : List Char) (code : Nat) : Work Nat := do
  if text.isEmpty then return code
  match ← put text with
  | .ok () => return code
  | .error e =>
    warn program ("write error: " ++ e.systemText)
    return 1

/-- Prints a text, or complains. The result says whether it was printed. -/
def tryPut (program : String) (text : List Char) : Work Bool := do
  return (← emit program text 0) = 0

/-- Says where more is to be learnt about a program, and ends with a code. -/
def hint (program : String) (code : Nat) : Work Nat := do
  let name ← ownName program
  discard <| Work.write 2 (Text.bytesOf ("Try '" ++ name ++ " --help' for more information.\n"))
  return code

/-- Prints a message with a hint, and ends with a code. -/
def refuse (program message : String) (code : Nat) : Work Nat := do
  warn program message
  hint program code

/-! ## Files -/

/-- Opens a file for a while. -/
def withFile (cwd : Place) (path : List Char) (mode : Kernel.Mode)
    (use : Nat → Work (Except Disk.Error α)) : Work (Except Disk.Error α) := do
  match ← Work.openFile cwd (shown path) mode with
  | .error e => return .error e
  | .ok fd =>
    let r ← use fd
    .call (Kernel.close fd)
    return r

/-- All that can be read from a file, or from the standard input if that is named `-`. -/
def contents (cwd : Place) (path : List Char) : Work (Except Disk.Error (List Char)) := do
  let bytes ← if path = ['-'] then Work.readAll 0 else withFile cwd path .reading Work.readAll
  return bytes.map Text.charsOfBytes

/-! ## Options -/

/-- The options of a call: letters, those with a value, both the latest first, and what is left. -/
structure Options where
  letters : List Char
  values : List (Char × List Char)
  rest : List (List Char)
  /-- What is wrong with the first option that the program cannot use. -/
  problem : Option String
deriving Inhabited

namespace Options

/-- Whether an option was given. -/
def has (o : Options) (c : Char) : Bool := o.letters.contains c

/-- The last value of an option. -/
def value? (o : Options) (c : Char) : Option (List Char) := o.values.lookup c

/-- All values of an option in their order. -/
def valuesOf (o : Options) (c : Char) : List (List Char) :=
  (o.values.filter fun v => v.1 = c).reverse.map (·.2)

/-- Adds an option without a value. -/
def addLetter (o : Options) (c : Char) : Options := { o with letters := c :: o.letters }

/-- Adds an option with a value. -/
def addValue (o : Options) (c : Char) (v : List Char) : Options :=
  { o with letters := c :: o.letters, values := (c, v) :: o.values }

/-- Says what is wrong. -/
def blame (o : Options) (problem : String) : Options := { o with problem := some problem }

end Options

/-- Whether an option has a value. -/
inductive ValueUse where
  | never
  | always
  /-- Only if it stands in the same argument. -/
  | attached
deriving DecidableEq, Repr

/-- The options that a program knows: letters without a value, with one, and with one that may be
missing, and long names with the letters that they stand for. Behind a long name `=` marks a value,
and `?` one that may be missing. -/
structure Grammar where
  plain : String
  valued : String
  attached : String
  long : List (String × Char)

namespace Grammar

/-- What a letter is used with. -/
def useOf? (g : Grammar) (c : Char) : Option ValueUse :=
  if g.valued.toList.contains c then some .always
  else if g.attached.toList.contains c then some .attached
  else if g.plain.toList.contains c then some .never
  else none

/-- A long name without its mark, and what it is used with. -/
def longName (name : String) : List Char × ValueUse :=
  match name.toList.reverse with
  | '=' :: cs => (cs.reverse, .always)
  | '?' :: cs => (cs.reverse, .attached)
  | cs => (cs.reverse, .never)

/-- The long names that a text is short for; a whole name is short for itself only. -/
def candidates (g : Grammar) (text : List Char) : List (List Char × ValueUse × Char) :=
  let names := g.long.map fun (name, c) => ((longName name).1, (longName name).2, c)
  match names.filter fun (name, _) => name = text with
  | [] => names.filter fun (name, _) => text.isPrefixOf name
  | exact => exact

end Grammar

/-- Takes letters apart that stand together after a minus sign; `next` is the argument after
them. The last part says whether that argument was used as a value. -/
def letterOptions (g : Grammar) (next : Option (List Char)) (o : Options) :
    List Char → Options × Bool
  | [] => (o, false)
  | c :: cs =>
    match g.useOf? c with
    | none => (o.blame ("invalid option -- '" ++ shown [c] ++ "'"), false)
    | some .never => letterOptions g next (o.addLetter c) cs
    | some .attached => (if cs.isEmpty then o.addLetter c else o.addValue c cs, false)
    | some .always =>
      if !cs.isEmpty then (o.addValue c cs, false)
      else
        match next with
        | some v => (o.addValue c v, true)
        | none => (o.blame ("option requires an argument -- '" ++ shown [c] ++ "'"), false)

/-- Reads an option with a long name; the rest is as for `letterOptions`. -/
def longOption (g : Grammar) (next : Option (List Char)) (o : Options) (text : List Char) :
    Options × Bool :=
  let name := text.takeWhile (· ≠ '=')
  let value := if name.length < text.length then some (text.drop (name.length + 1)) else none
  let given := fun (name : List Char) => "option '--" ++ shown name ++ "'"
  match g.candidates name with
  | [] => (o.blame ("unrecognized option '--" ++ shown text ++ "'"), false)
  | (full, use, c) :: others =>
    if others.any fun (_, _, d) => d ≠ c then
      let all := ((full, use, c) :: others).map fun (name, _) => " '--" ++ shown name ++ "'"
      (o.blame (given text ++ " is ambiguous; possibilities:" ++ String.join all), false)
    else
      match use, value, next with
      | .never, none, _ => (o.addLetter c, false)
      | .never, some _, _ => (o.blame (given full ++ " doesn't allow an argument"), false)
      | _, some v, _ => (o.addValue c v, false)
      | .attached, none, _ => (o.addLetter c, false)
      | .always, none, some v => (o.addValue c v, true)
      | .always, none, none => (o.blame (given full ++ " requires an argument"), false)

/-- Reads options up to the first mistake. With `anywhere` those after the first plain argument count
too. -/
def parseOptions (g : Grammar) (anywhere : Bool) : List (List Char) → Options → Options
  | [], o => { o with rest := o.rest.reverse }
  | a :: args, o =>
    let found : Option (Options × Bool) := match a with
      | '-' :: '-' :: long =>
        if long.isEmpty then none else some (longOption g args.head? o long)
      | '-' :: c :: cs => some (letterOptions g args.head? o (c :: cs))
      | _ => none
    match found with
    | some (o, used) =>
      if o.problem.isSome then { o with rest := o.rest.reverse ++ args }
      else
        match args, used with
        | _ :: args, true => parseOptions g anywhere args o
        | args, _ => parseOptions g anywhere args o
    | none =>
      if a = ['-', '-'] then { o with rest := o.rest.reverse ++ args }
      else if anywhere then parseOptions g anywhere args { o with rest := a :: o.rest }
      else { o with rest := o.rest.reverse ++ a :: args }

/-- The options of a call. -/
def Grammar.read (g : Grammar) (args : List (List Char)) : Options :=
  parseOptions g true args ⟨[], [], [], none⟩

/-- The options of a call in front of its first plain argument. -/
def Grammar.readLeading (g : Grammar) (args : List (List Char)) : Options :=
  parseOptions g false args ⟨[], [], [], none⟩

end Utility

end ProgramRepair
