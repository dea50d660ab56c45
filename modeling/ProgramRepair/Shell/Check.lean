import ProgramRepair.Shell.Expand
import ProgramRepair.Utility.Condition
import ProgramRepair.Utility.Regex

/-!
# Conditions in double brackets

The conditions of the extended language. Their words are not split into fields;
the right one of a comparison is a pattern, and behind `=~` it is a regular
expression.
-/

namespace ProgramRepair.Shell

open Machine

namespace Sh

/-- What is wrong with a condition that cannot be decided. -/
def undecidable : Nat := 2

/-- A pattern as a regular expression in which quoted characters stand for themselves. -/
def expressionText (p : List Glyph) : List Char :=
  p.flatMap fun (c, quoted) =>
    if quoted && "\\^$.|?*+()[]\x7b\x7d".toList.contains c then ['\\', c] else [c]

/-- Whether a text matches a regular expression. What its groups have matched is remembered. There is
no answer if there is no such expression. -/
def matchesExpression (p : List Glyph) (text : List Char) : Sh (Option Bool) := do
  match Utility.Regex.ofText .extendedEditing (expressionText p) with
  | .error _ => return none
  | .ok r =>
    let found := r.find? ((← get).settings.contains "nocasematch") [] text
    let parts := match found with
      | some m => m.text :: (List.range r.groupCount).map fun i => (m.groups.lookup (i + 1)).getD []
      | none => []
    modify fun s => s.setValue "BASH_REMATCH".toList (.ofList parts)
    return some found.isSome

/-- Whether a text fits a pattern; small and capital letters may count as the same. -/
def fitsCase (s : State) (p : List Glyph) (text : List Char) : Bool :=
  if s.settings.contains "nocasematch" then
    Pattern.fits (p.map fun (c, quoted) => (c.toLower, quoted)) (text.map Char.toLower)
  else Pattern.fits p text

/-- Whether a name is one of a variable or an element that has a value. -/
def isSet (name : List Char) : Sh Bool := do
  match Arithmetic.leadingTarget .extended name with
  | (⟨name, some key⟩, []) => do
    match ← keyOf? name key with
    | some k => return ((wholeValue? (← get) name).bind (·.element? k)).isSome
    | none => return false
  | _ => return (← parameter? name).isSome

/-- Whether a condition on two numbers holds. -/
def compareNumbers (operator : String) (a b : Int) : Bool :=
  match operator with
  | "-eq" => a = b
  | "-ne" => a ≠ b
  | "-lt" => a < b
  | "-le" => a ≤ b
  | "-gt" => b < a
  | _ => b ≤ a

/-- Whether a word can be read again as it is. -/
def isPlainWord (s : List Char) : Bool :=
  !s.isEmpty && s.head? ≠ some '~' && s.head? ≠ some '#' &&
    s.all fun c => !" \t\n'\"\\|&;()<>!\x7b\x7d*[]?^$\x60".toList.contains c

/-- A word in a form that can be read again. -/
def readable (s : List Char) : List Char := if isPlainWord s then s else quotedForm s

/-- What stands in front of commands that are printed. Its first character is repeated for each word
that the shell stands in. -/
def traceLead (capture : Capturer) : Sh (List Char) := do
  let s ← get
  let text := (s.valueOf? "PS4".toList).getD []
  let lead ←
    if text.any "$\x60\\".toList.contains then expand text
    else do pure text
  return List.replicate s.level (lead.head?.getD '+') ++ lead
where
  /-- The text as a document would have it. A text that cannot be expanded stays as it is. -/
  expand (text : List Char) : Sh (List Char) := do
    let s ← get
    let script := Script.ofText s.dialect text s.line s.nextDocument []
    match Parser.parts .document (Parser.fuelFor script) script with
    | .error _ => return text
    | .ok (w, _) =>
      set { s with options := s.options.filter (· ≠ 'x') }
      let r ← attempt (expandText capture (Shell.joinTexts w))
      modify fun t => { t with
        options := s.options
        status := s.status
        outputStatus := s.outputStatus }
      match r with
      | .ok expanded => return expanded
      | .error _ => return text

/-- Prints lines about a command before it is carried out, if the options say so. -/
def traceLines (capture : Capturer) (fd : Nat) (lines : List (List Char)) : Sh Unit := do
  if (← get).isOn 'x' then
    let lead ← traceLead capture
    for line in lines do discard <| print fd (lead ++ line ++ ['\n'])

/-- Prints a condition before it is checked, if the options say so. -/
def traceCondition (capture : Capturer) (words : List (List Char)) : Sh Unit :=
  traceLines capture 2 ["[[ ".toList ++ List.flatten (words.intersperse [' ']) ++ " ]]".toList]

/-- A pattern as it is written. -/
def patternText (p : List Glyph) : List Char :=
  p.flatMap fun (c, quoted) => if quoted then ['\\', c] else [c]

/-- Whether a condition on a word holds. -/
def checkUnary (operator text : List Char) : Sh Bool := do
  match String.ofList operator with
  | "-v" => isSet text
  | "-o" => return (← get).settings.contains (String.ofList text)
  | operator =>
    let cwd := (← get).cwd
    let d ← call (Kernel.askDisk id)
    let operator := if operator = "-a" then "-e" else operator
    return (Utility.Condition.unary d cwd operator.toList text).toOption.getD false

/-- Whether a condition on two files holds. A file is newer than one that does not exist. -/
def compareFiles (a operator b : List Char) : Sh Bool := do
  let cwd := (← get).cwd
  let d ← call (Kernel.askDisk id)
  let isThere := fun (path : List Char) => (d.find cwd (pathText path)).toOption.isSome
  match String.ofList operator with
  | "-nt" => if isThere a && !isThere b then return true
  | "-ot" => if isThere b && !isThere a then return true
  | _ => pure ()
  return (Utility.Condition.binary d cwd a operator b).toOption.getD false

/-- Whether a condition on two words holds, if that can be decided. -/
def checkBinary (capture : Capturer) (operator left : List Char) (right : Word) :
    Sh (Option Bool) := do
  let p ← expandPattern capture right
  let right := Pattern.plain p
  let s ← get
  let isPattern := ["=", "==", "!=", "=~"].contains (String.ofList operator)
  traceCondition capture [readable left, operator, if isPattern then patternText p else readable right]
  match String.ofList operator with
  | "=~" => matchesExpression p left
  | "=" | "==" => return some (fitsCase s p left)
  | "!=" => return some (!fitsCase s p left)
  | "<" => return some (decide (left < right))
  | ">" => return some (decide (right < left))
  | "-nt" | "-ot" | "-ef" => do return some (← compareFiles left operator right)
  | operator => do
    let a ← numberOf left
    let b ← numberOf right
    return some (compareNumbers operator a b)

/-- Whether a condition holds, if that can be decided. -/
def check (capture : Capturer) : Condition → Sh (Option Bool)
  | .word w => do
    let text ← expandText capture w
    traceCondition capture ["-n".toList, readable text]
    return some (!text.isEmpty)
  | .unary operator w => do
    let text ← expandText capture w
    traceCondition capture [operator, readable text]
    return some (← checkUnary operator text)
  | .binary operator left right => do
    let text ← expandText capture left
    checkBinary capture operator text right
  | .negation c => do return (← check capture c).map (!·)
  | .both a b => do
    match ← check capture a with
    | some true => check capture b
    | r => return r
  | .either a b => do
    match ← check capture a with
    | some false => check capture b
    | r => return r

end Sh

end ProgramRepair.Shell
