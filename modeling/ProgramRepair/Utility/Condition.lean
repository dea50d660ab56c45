import ProgramRepair.Utility.Basic

/-!
# Conditions

The conditions that `test` checks: on texts, on numbers and on files. With few
arguments their number alone says what is an operator and what is not.
-/

namespace ProgramRepair.Utility.Condition

/-- The kinds of operator. -/
inductive Role where
  | unary
  | binary
  | negation
  | conjunction
  | disjunction
  | openParen
  | closeParen
deriving DecidableEq

/-- The role of a word among operators. -/
def role? (word : List Char) : Option Role :=
  match String.ofList word with
  | "!" => some .negation
  | "-a" => some .conjunction
  | "-o" => some .disjunction
  | "(" => some .openParen
  | ")" => some .closeParen
  | "=" | "==" | "!=" | "<" | ">" | "-eq" | "-ne" | "-lt" | "-le" | "-gt" | "-ge" | "-nt" | "-ot"
  | "-ef" => some .binary
  | "-b" | "-c" | "-d" | "-e" | "-f" | "-g" | "-h" | "-k" | "-L" | "-n" | "-O" | "-G" | "-p" | "-r"
  | "-s" | "-S" | "-t" | "-u" | "-w" | "-x" | "-z" => some .unary
  | _ => none

/-- Whether an operator before these words is meant as a text. -/
def isOperand : List (List Char) → Bool
  | [] => true
  | [_] => false
  | w :: _ :: _ => role? w = some .binary

/-- The role of the first word. -/
def firstRole? : List (List Char) → Option Role
  | [] => none
  | w :: rest =>
    match role? w with
    | some .unary => if isOperand rest then none else some .unary
    | some .openParen => if rest.isEmpty then none else some .openParen
    | r => r

/-- What is wrong with a condition. -/
abbrev Check := Except String

/-- The number that a word stands for. -/
def numberOf (word : List Char) : Check Int :=
  let s := (word.dropWhile (· = ' ')).reverse.dropWhile (· = ' ') |>.reverse
  match integer? s with
  | some n => .ok n
  | none => .error ("Illegal number: " ++ shown word)

/-- A condition on two words. -/
def binary (d : Disk) (cwd : Place) (a op b : List Char) : Check Bool := do
  match String.ofList op with
  | "=" | "==" => return a = b
  | "!=" => return a ≠ b
  | "<" => return a < b
  | ">" => return b < a
  | "-eq" => return (← numberOf a) = (← numberOf b)
  | "-ne" => return (← numberOf a) ≠ (← numberOf b)
  | "-lt" => return (← numberOf a) < (← numberOf b)
  | "-le" => return (← numberOf a) ≤ (← numberOf b)
  | "-gt" => return (← numberOf b) < (← numberOf a)
  | "-ge" => return (← numberOf b) ≤ (← numberOf a)
  | "-ef" =>
    match d.find cwd (shown a), d.find cwd (shown b) with
    | .ok (p, e), .ok (q, f) => return p = q || (e.number?.isSome && e.number? == f.number?)
    | _, _ => return false
  | "-nt" => return isNewer (changed? a) (changed? b)
  | _ => return isNewer (changed? b) (changed? a)
where
  /-- When what a path leads to was last changed. -/
  changed? (path : List Char) : Option Int :=
    (d.find cwd (shown path)).toOption.map fun (_, e) => (e.attributes?.map (·.changed)).getD 0
  /-- Whether both times are known and the first is the later one. -/
  isNewer : Option Int → Option Int → Bool
    | some x, some y => y < x
    | _, _ => false

/-- A condition on one word. -/
def unary (d : Disk) (cwd : Place) (op a : List Char) : Check Bool := do
  let e := (d.find cwd (shown a)).toOption.map (·.2)
  match String.ofList op with
  | "-z" => return a.isEmpty
  | "-n" => return !a.isEmpty
  | "-t" =>
    let _ ← numberOf a
    return false
  | "-L" | "-h" =>
    match d.findEntry cwd (shown a) with
    | .ok (_, .link _) => return true
    | _ => return false
  | "-d" => return e.any Entry.isDirectory
  | "-f" => return e.any Entry.isFile
  | "-s" =>
    match e with
    | some (.file contents _) => return !contents.isEmpty
    | some (.directory _) => return true
    | _ => return false
  | "-r" => return e.any fun e => e.allows .read
  | "-w" => return e.any fun e => e.allows .write
  | "-x" => return e.any fun e => e ≠ .null && e.allows .execute
  | "-c" => return e = some .null
  | "-p" => return e.any Entry.isPipe
  | "-e" => return e.isSome
  | "-O" | "-G" => return e.any fun e => e.attributes?.any (·.own)
  | _ => return false

/-- A value and the words after those that it was found from. -/
abbrev Found := Check (Bool × List (List Char))

mutual

/-- Conditions of which one has to hold. -/
def oneOf (d : Disk) (cwd : Place) : Nat → List (List Char) → Found
  | 0, ws => .ok (false, ws)
  | fuel + 1, ws => do
    let (a, rest) ← allOf d cwd fuel ws
    match firstRole? rest, rest with
    | some .disjunction, _ :: rest => do
      let (b, rest) ← oneOf d cwd fuel rest
      return (a || b, rest)
    | _, _ => return (a, rest)
termination_by structural fuel => fuel

/-- Conditions that all have to hold. -/
def allOf (d : Disk) (cwd : Place) : Nat → List (List Char) → Found
  | 0, ws => .ok (false, ws)
  | fuel + 1, ws => do
    let (a, rest) ← negated d cwd fuel ws
    match firstRole? rest, rest with
    | some .conjunction, _ :: rest => do
      let (b, rest) ← allOf d cwd fuel rest
      return (a && b, rest)
    | _, _ => return (a, rest)
termination_by structural fuel => fuel

/-- A condition or its opposite. -/
def negated (d : Disk) (cwd : Place) : Nat → List (List Char) → Found
  | 0, ws => .ok (false, ws)
  | fuel + 1, ws =>
    match firstRole? ws, ws with
    | some .negation, _ :: rest => do
      let (a, rest) ← negated d cwd fuel rest
      return (!a, rest)
    | _, _ => primary d cwd fuel ws
termination_by structural fuel => fuel

/-- A single condition, or one in parentheses. -/
def primary (d : Disk) (cwd : Place) : Nat → List (List Char) → Found
  | 0, ws => .ok (false, ws)
  | fuel + 1, ws =>
    match firstRole? ws, ws with
    | _, [] => .ok (false, [])
    | some .openParen, _ :: rest => do
      let (a, rest) ← oneOf d cwd fuel rest
      match rest with
      | [')'] :: rest => return (a, rest)
      | _ => throw "closing paren expected"
    | some .unary, op :: rest =>
      match rest with
      | a :: rest => do return (← unary d cwd op a, rest)
      | [] => .error (shown op ++ ": argument expected")
    | _, a :: rest =>
      match firstRole? rest, rest with
      | some .binary, op :: b :: rest => do return (← binary d cwd a op b, rest)
      | some .binary, [op] => .error (shown op ++ ": argument expected")
      | _, _ => .ok (!a.isEmpty, rest)
termination_by structural fuel => fuel

end

/-- Whether the words are a condition that holds. -/
def holds (d : Disk) (cwd : Place) (ws : List (List Char)) : Check Bool :=
  match ws with
  | [] => .ok false
  | [a, op, b] =>
    if role? op = some .binary then binary d cwd a op b
    else if a = ['!'] then (holds d cwd [op, b]).map (!·)
    else if a = ['('] ∧ b = [')'] then .ok (!op.isEmpty)
    else whole ws
  | [a, b, c, e] =>
    if a = ['!'] then (holds d cwd [b, c, e]).map (!·)
    else whole ws
  | _ => whole ws
where
  /-- The value of words of which all have to belong to the condition. -/
  whole (ws : List (List Char)) : Check Bool := do
    match ← oneOf d cwd (4 * ws.length + 8) ws with
    | (a, []) => return a
    | (_, rest) =>
      let last := (ws[ws.length - rest.length - 1]?).getD []
      throw (shown last ++ ": unexpected operator")

end ProgramRepair.Utility.Condition
