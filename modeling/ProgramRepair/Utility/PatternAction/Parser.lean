import ProgramRepair.Utility.PatternAction.Token

/-!
# Reading programs of patterns and actions

Expressions are read by levels: each level reads operands of the next tighter one.
Where a statement prints, the sign `>` outside parentheses begins the name of a
file and is no comparison.
-/

namespace ProgramRepair.Utility.PatternAction

/-- What a part of a program is read for. -/
inductive Region where
  | rule
  /-- A rule for the start or the end, which has no record to leave. -/
  | border
  | definition
deriving DecidableEq

/-- A program that is being read. -/
structure Reader where
  input : List Lexeme
  region : Region
  loops : Nat
  /-- How many parentheses and braces are open. -/
  parentheses : Nat
  braces : Nat
  /-- The functions that were called so far: the name, the number of arguments and the line. -/
  calls : List (Name × Nat)

abbrev Reading := StateT Reader (Except String)

namespace Reading

/-- The next word. -/
def peek : Reading Token := return ((← get).input.head?.map (·.token)).getD .finish

def currentLine : Reading Nat := return ((← get).input.head?.map (·.line)).getD 1

/-- Gives up with a message. -/
def fail (message : String) : Reading α := do
  throw ("line " ++ toString (← currentLine) ++ ": " ++ message)

/-- Gives up at the next word, which does not fit. -/
def misfit : Reading α := do
  let t ← peek
  let r ← get
  let closes := t = .sign "\x7d" || t = .lineEnd || t = .finish
  if closes ∧ 0 < r.parentheses then fail ("missing ) near " ++ t.shown)
  else if t = .finish ∧ 0 < r.braces then fail "missing \x7d near end of file"
  else if t = .sign ")" ∧ r.parentheses = 0 then fail "extra ')'"
  else if t = .sign "\x7d" ∧ r.braces = 0 then fail "extra '\x7d'"
  else fail ("syntax error at or near " ++ t.shown)

/-- Takes the next word. -/
def skip : Reading Unit :=
  modify fun r =>
    let (parentheses, braces) := match r.input.head?.map (·.token) with
      | some (.sign "(") => (r.parentheses + 1, r.braces)
      | some (.sign ")") => (r.parentheses - 1, r.braces)
      | some (.sign "\x7b") => (r.parentheses, r.braces + 1)
      | some (.sign "\x7d") => (r.parentheses, r.braces - 1)
      | _ => (r.parentheses, r.braces)
    { r with input := r.input.tail, parentheses, braces }

/-- Takes a sign, if it comes next. -/
def sign? (s : String) : Reading Bool := do
  if (← peek) = .sign s then
    skip
    return true
  else return false

/-- Takes a sign, which has to come next. -/
def demand (s : String) : Reading Unit := do
  if !(← sign? s) then misfit

/-- Takes a word of the syntax, if it comes next. -/
def word? (w : String) : Reading Bool := do
  if (← peek) = .word w then
    skip
    return true
  else return false

/-- Takes line ends. -/
def skipLines : Nat → Reading Unit
  | 0 => return ()
  | fuel + 1 => do
    if (← peek) = .lineEnd then
      skip
      skipLines fuel

/-- Takes line ends and semicolons. -/
def skipEnds : Nat → Reading Unit
  | 0 => return ()
  | fuel + 1 => do
    let t ← peek
    if t = .lineEnd ∨ t = .sign ";" then
      skip
      skipEnds fuel

/-- The number of words that are left. -/
def left : Reading Nat := return (← get).input.length + 1

def lines : Reading Unit := do skipLines (← left)

def ends : Reading Unit := do skipEnds (← left)

/-! ## Expressions -/

/-- Where an expression stands. -/
structure Context where
  /-- Whether the sign `>` compares. -/
  greater : Bool
  /-- Whether the word `in` asks for an entry. -/
  membership : Bool

/-- An expression on its own. -/
def Context.plain : Context := ⟨true, true⟩

def comparisons : List (String × Comparison) :=
  [("<", .less), ("<=", .atMost), ("==", .equal), ("!=", .unequal), (">=", .atLeast),
   (">", .greater)]

def additive : List (String × Operation) := [("+", .add), ("-", .subtract)]

def multiplicative : List (String × Operation) :=
  [("*", .multiply), ("/", .divide), ("%", .remainder)]

def assignments : List (String × Option Operation) :=
  [("=", none), ("+=", some .add), ("-=", some .subtract), ("*=", some .multiply),
   ("/=", some .divide), ("%=", some .remainder), ("^=", some .power)]

/-- The operation that the next word stands for. -/
def operation? (table : List (String × α)) : Reading (Option α) := do
  match ← peek with
  | .sign s => return table.lookup s
  | _ => return none

/-- Whether the next word begins an operand that can be joined to what is before it. -/
def beginsOperand : Reading Bool := do
  match ← peek with
  | .number _ _ | .text _ | .regex _ | .name _ | .called _ | .function _ => return true
  | .sign s => return s = "$" || s = "!" || s = "(" || s = "-" || s = "+" || s = "++" || s = "--"
  | _ => return false

/-- Whether the next word can follow several expressions in parentheses. -/
def endsPrinted : Reading Bool := do
  match ← peek with
  | .word "in" | .lineEnd | .finish => return true
  | .sign s => return s = ";" || s = "\x7d" || s = ">" || s = ">>" || s = "|"
  | _ => return false

/-- An expression as a target, if it is one. -/
def target? : Expr → Option Target
  | .value t => some t
  | _ => none

/-- How many arguments a function takes. -/
def arity : Function → Nat × Nat
  | .length => (0, 1)
  | .substring => (2, 3)
  | .position => (2, 2)
  | .split => (2, 3)
  | .substituteFirst | .substituteAll => (2, 3)
  | .matchText => (2, 2)
  | .format => (1, 1000)
  | .sine | .cosine | .exponential | .logarithm | .squareRoot | .truncate => (1, 1)
  | .arctangent => (2, 2)
  | .random => (0, 0)
  | .seed => (0, 1)
  | .upper | .lower | .system | .close => (1, 1)
  | .flush => (0, 1)

mutual

/-- An expression. -/
def expr (c : Context) : Nat → Reading Expr
  | 0 => misfit
  | fuel + 1 => do
    let condition ← disjunction c fuel
    if ← sign? "?" then
      lines
      let yes ← expr c fuel
      lines
      demand ":"
      lines
      return .choose condition yes (← expr c fuel)
    else return condition
termination_by structural fuel => fuel

def disjunction (c : Context) : Nat → Reading Expr
  | 0 => misfit
  | fuel + 1 => do disjunctionTail c fuel (← conjunction c fuel)
termination_by structural fuel => fuel

def disjunctionTail (c : Context) : Nat → Expr → Reading Expr
  | 0, _ => misfit
  | fuel + 1, a => do
    if ← sign? "||" then
      lines
      disjunctionTail c fuel (.either a (← conjunction c fuel))
    else return a
termination_by structural fuel => fuel

def conjunction (c : Context) : Nat → Reading Expr
  | 0 => misfit
  | fuel + 1 => do conjunctionTail c fuel (← membership c fuel)
termination_by structural fuel => fuel

def conjunctionTail (c : Context) : Nat → Expr → Reading Expr
  | 0, _ => misfit
  | fuel + 1, a => do
    if ← sign? "&&" then
      lines
      conjunctionTail c fuel (.both a (← membership c fuel))
    else return a
termination_by structural fuel => fuel

/-- Questions whether tables have entries. -/
def membership (c : Context) : Nat → Reading Expr
  | 0 => misfit
  | fuel + 1 => do membershipTail c fuel (← matched c fuel)
termination_by structural fuel => fuel

def membershipTail (c : Context) : Nat → Expr → Reading Expr
  | 0, _ => misfit
  | fuel + 1, a => do
    if c.membership then
      if ← word? "in" then
        match ← peek with
        | .name table =>
          skip
          let keys := match a with
            | .group es => es
            | e => [e]
          return ← membershipTail c fuel (.member keys table)
        | _ => misfit
    return a
termination_by structural fuel => fuel

/-- Questions whether texts have matches. -/
def matched (c : Context) : Nat → Reading Expr
  | 0 => misfit
  | fuel + 1 => do matchedTail c fuel (← compared c fuel)
termination_by structural fuel => fuel

def matchedTail (c : Context) : Nat → Expr → Reading Expr
  | 0, _ => misfit
  | fuel + 1, a => do
    if ← sign? "~" then matchedTail c fuel (.matching false a (← compared c fuel))
    else if ← sign? "!~" then matchedTail c fuel (.matching true a (← compared c fuel))
    else return a
termination_by structural fuel => fuel

def compared (c : Context) : Nat → Reading Expr
  | 0 => misfit
  | fuel + 1 => do comparedTail c fuel (← joined c fuel)
termination_by structural fuel => fuel

def comparedTail (c : Context) : Nat → Expr → Reading Expr
  | 0, _ => misfit
  | fuel + 1, a => do
    match ← operation? comparisons with
    | some comparison =>
      if comparison = .greater ∧ !c.greater then return a
      else
        skip
        comparedTail c fuel (.compare comparison a (← joined c fuel))
    | none => return a
termination_by structural fuel => fuel

/-- Texts one behind the other, and records of the output of commands. -/
def joined (c : Context) : Nat → Reading Expr
  | 0 => misfit
  | fuel + 1 => do joinedTail c fuel (← sum c fuel)
termination_by structural fuel => fuel

def joinedTail (c : Context) : Nat → Expr → Reading Expr
  | 0, _ => misfit
  | fuel + 1, a => do
    let rest : List Token := ((← get).input.take 2).map (·.token)
    match rest with
    | .sign "|" :: .word "getline" :: _ =>
      skip
      skip
      let t ← optionalTarget c fuel
      joinedTail c fuel (.nextOfCommand t a)
    | _ =>
      if ← beginsOperand then joinedTail c fuel (.join a (← sum c fuel)) else return a
termination_by structural fuel => fuel

def sum (c : Context) : Nat → Reading Expr
  | 0 => misfit
  | fuel + 1 => do sumTail c fuel (← product c fuel)
termination_by structural fuel => fuel

def sumTail (c : Context) : Nat → Expr → Reading Expr
  | 0, _ => misfit
  | fuel + 1, a => do
    match ← operation? additive with
    | some operation =>
      skip
      sumTail c fuel (.calculate operation a (← product c fuel))
    | none => return a
termination_by structural fuel => fuel

def product (c : Context) : Nat → Reading Expr
  | 0 => misfit
  | fuel + 1 => do productTail c fuel (← signed c fuel)
termination_by structural fuel => fuel

def productTail (c : Context) : Nat → Expr → Reading Expr
  | 0, _ => misfit
  | fuel + 1, a => do
    match ← operation? multiplicative with
    | some operation =>
      skip
      productTail c fuel (.calculate operation a (← signed c fuel))
    | none => return a
termination_by structural fuel => fuel

/-- An operand with signs in front. -/
def signed (c : Context) : Nat → Reading Expr
  | 0 => misfit
  | fuel + 1 => do
    if ← sign? "!" then return .not (← signed c fuel)
    else if ← sign? "-" then return .negate (← signed c fuel)
    else if ← sign? "+" then return .numeric (← signed c fuel)
    else raised c fuel
termination_by structural fuel => fuel

/-- Powers. What is raised binds more tightly than a sign in front of it. -/
def raised (c : Context) : Nat → Reading Expr
  | 0 => misfit
  | fuel + 1 => do
    let a ← changed c fuel
    if ← sign? "^" then return .calculate .power a (← signed c fuel) else return a
termination_by structural fuel => fuel

/-- A primary expression with what changes it. -/
def changed (c : Context) : Nat → Reading Expr
  | 0 => misfit
  | fuel + 1 => do
    if ← sign? "++" then changeBefore c fuel .one
    else if ← sign? "--" then changeBefore c fuel (-.one)
    else
      let a ← primary c fuel
      match target? a with
      | none => return a
      | some t =>
        if ← sign? "++" then return .change t .one true
        else if ← sign? "--" then return .change t (-.one) true
        else
          match ← operation? assignments with
          | none => return a
          | some operation =>
            skip
            lines
            return .assign t operation (← expr c fuel)
termination_by structural fuel => fuel

/-- What is changed before its value is taken. -/
def changeBefore (c : Context) : Nat → Binary64 → Reading Expr
  | 0, _ => misfit
  | fuel + 1, by_ => do
    match target? (← primary c fuel) with
    | some t => return .change t by_ false
    | none => misfit
termination_by structural fuel => fuel

/-- A target, if one comes next. -/
def optionalTarget (c : Context) : Nat → Reading (Option Target)
  | 0 => misfit
  | fuel + 1 => do
    match ← peek with
    | .name _ | .sign "$" =>
      match target? (← primary c fuel) with
      | some t => return some t
      | none => misfit
    | _ => return none
termination_by structural fuel => fuel

/-- An expression that is not put together by signs. -/
def primary (c : Context) : Nat → Reading Expr
  | 0 => misfit
  | fuel + 1 => do
    match ← peek with
    | .number x _ =>
      skip
      return .number x
    | .text s =>
      skip
      return .text s
    | .regex s =>
      match patternOf s with
      | .error message => fail message
      | .ok r =>
        skip
        return .regex r
    | .sign "$" =>
      skip
      if ← sign? "++" then return .value (.field (← changeBefore c fuel .one))
      else if ← sign? "--" then return .value (.field (← changeBefore c fuel (-.one)))
      else if ← sign? "-" then return .value (.field (.negate (← primary c fuel)))
      else return .value (.field (← primary c fuel))
    | .sign "(" =>
      skip
      let es ← expressions .plain fuel
      demand ")"
      if 1 < es.length ∧ !(← endsPrinted) then misfit
      return .group es
    | .name name =>
      skip
      if ← sign? "[" then
        let keys ← expressions .plain fuel
        demand "]"
        return .value (.entry name keys)
      else return .value (.variable name)
    | .called name =>
      skip
      let args ← arguments fuel
      modify fun r => { r with calls := (name, args.length) :: r.calls }
      return .call name args
    | .function f =>
      skip
      let (least, most) := arity f
      if (← peek) = .sign "(" then
        let args ← arguments fuel
        if args.length < least ∨ most < args.length then
          if f = .split then misfit
          else fail ("wrong number of arguments in call to " ++ functionName f)
        return .builtin f args
      else if f = .length then return .builtin f []
      else misfit
    | .word "getline" =>
      skip
      let t ← optionalTarget c fuel
      if ← sign? "<" then return .nextOfFile t (← primary c fuel)
      else return .next t
    | _ => misfit
termination_by structural fuel => fuel

/-- The arguments of a function in parentheses. -/
def arguments : Nat → Reading (List Expr)
  | 0 => misfit
  | fuel + 1 => do
    demand "("
    if ← sign? ")" then return []
    else
      let es ← expressions .plain fuel
      demand ")"
      return es
termination_by structural fuel => fuel

/-- Expressions between commas. -/
def expressions (c : Context) : Nat → Reading (List Expr)
  | 0 => misfit
  | fuel + 1 => do
    let e ← expr c fuel
    if ← sign? "," then
      lines
      return e :: (← expressions c fuel)
    else return [e]
termination_by structural fuel => fuel

end

/-- An expression with fuel for all that is left. -/
def wholeExpr (c : Context) : Reading Expr := do expr c (32 * (← left))

/-! ## Statements -/

/-- What a statement prints. Parentheses around all of it do not count. -/
def printed : Reading (List Expr) := do
  match ← peek with
  | .sign ";" | .sign "\x7d" | .sign ">" | .sign ">>" | .sign "|" | .lineEnd | .finish => return []
  | _ =>
    match ← expressions ⟨false, true⟩ (32 * (← left)) with
    | [.group es] => return es
    | es => return es

/-- Where a statement prints, if it says so. -/
def outlet? : Reading (Option (Outlet × Expr)) := do
  let kind : Option Outlet ← do
    if ← sign? ">" then pure (some (.file false))
    else if ← sign? ">>" then pure (some (.file true))
    else if ← sign? "|" then pure (some .command)
    else pure none
  match kind with
  | none => return none
  | some kind => return some (kind, ← joined ⟨false, true⟩ (32 * (← left)))

/-- The end of a statement. -/
def finishStatement : Reading Unit := do
  match ← peek with
  | .sign ";" | .lineEnd =>
    skip
    ends
  | .sign "\x7d" | .finish => return ()
  | _ => misfit

/-- A statement that holds no other. -/
def simple : Reading Statement := do
  match ← peek with
  | .word "print" =>
    skip
    let es ← printed
    return .print es (← outlet?)
  | .word "printf" =>
    skip
    let es ← printed
    if es.isEmpty then fail "no arguments in call to printf"
    return .printFormat es (← outlet?)
  | .word "delete" =>
    skip
    match ← peek with
    | .name table =>
      skip
      if ← sign? "[" then
        let keys ← expressions .plain (32 * (← left))
        demand "]"
        return .deleteEntry table keys
      else return .deleteAll table
    | _ => misfit
  | _ => return .evaluate (← wholeExpr .plain)

/-- What a statement may have behind it: an expression, or nothing. -/
def optionalExpr : Reading (Option Expr) := do
  match ← peek with
  | .sign ";" | .sign "\x7d" | .lineEnd | .finish => return none
  | _ => return some (← wholeExpr .plain)

/-- Reads something inside a loop. -/
def inLoop (m : Reading α) : Reading α := do
  modify fun r => { r with loops := r.loops + 1 }
  let a ← m
  modify fun r => { r with loops := r.loops - 1 }
  return a

/-- An expression in parentheses. -/
def parenthesized : Reading Expr := do
  demand "("
  let e ← wholeExpr .plain
  demand ")"
  return e

mutual

/-- A statement with its end. -/
def statement : Nat → Reading Statement
  | 0 => misfit
  | fuel + 1 => do
    let closed := fun (s : Statement) => do
      finishStatement
      return s
    match ← peek with
    | .sign "\x7b" =>
      let body ← block fuel
      ends
      return .block body
    | .sign ";" =>
      skip
      ends
      return .block []
    | .word "if" =>
      skip
      let condition ← parenthesized
      lines
      let yes ← statement fuel
      if ← word? "else" then
        lines
        return .branch condition yes (some (← statement fuel))
      else return .branch condition yes none
    | .word "while" =>
      skip
      let condition ← parenthesized
      if (← peek) = .sign ";" then
        skip
        ends
        return .whileLoop condition (.block [])
      else
        lines
        return .whileLoop condition (← inLoop (statement fuel))
    | .word "do" =>
      skip
      lines
      let body ← inLoop (statement fuel)
      if !(← word? "while") then misfit
      let condition ← parenthesized
      finishStatement
      return .doLoop body condition
    | .word "for" =>
      skip
      forLoop fuel
    | .word "break" =>
      if (← get).loops = 0 then fail "break statement outside of loop"
      skip
      closed .breakLoop
    | .word "continue" =>
      if (← get).loops = 0 then fail "continue statement outside of loop"
      skip
      closed .continueLoop
    | .word "next" =>
      if (← get).region = .border then fail "improper use of next"
      skip
      closed .nextRecord
    | .word "nextfile" =>
      if (← get).region = .border then fail "improper use of nextfile"
      skip
      closed .nextFile
    | .word "exit" =>
      skip
      let code ← optionalExpr
      closed (.exit code)
    | .word "return" =>
      if (← get).region ≠ .definition then fail "return outside function body"
      skip
      let value ← optionalExpr
      closed (.giveBack value)
    | _ =>
      let s ← simple
      closed s
termination_by structural fuel => fuel

/-- The rest of a loop that begins with `for`. -/
def forLoop : Nat → Reading Statement
  | 0 => misfit
  | fuel + 1 => do
    demand "("
    let rest : List Token := ((← get).input.take 4).map (·.token)
    match rest with
    | [.name name, .word "in", .name table, .sign ")"] =>
      skip
      skip
      skip
      skip
      lines
      return .forEach name table (← inLoop (statement fuel))
    | _ =>
      let first : Option Statement ←
        if (← peek) = .sign ";" then pure none else some <$> simple
      demand ";"
      lines
      let condition ← optionalExpr
      demand ";"
      lines
      let step : Option Statement ←
        if (← peek) = .sign ")" then pure none else some <$> simple
      demand ")"
      if (← peek) = .sign ";" then
        skip
        ends
        return .forLoop first condition step (.block [])
      else
        lines
        return .forLoop first condition step (← inLoop (statement fuel))
termination_by structural fuel => fuel

/-- Statements in braces. -/
def block : Nat → Reading (List Statement)
  | 0 => misfit
  | fuel + 1 => do
    demand "\x7b"
    ends
    statements fuel
termination_by structural fuel => fuel

/-- Statements up to the closing brace. -/
def statements : Nat → Reading (List Statement)
  | 0 => misfit
  | fuel + 1 => do
    if ← sign? "\x7d" then return []
    else if (← peek) = .finish then misfit
    else
      let s ← statement fuel
      return s :: (← statements fuel)
termination_by structural fuel => fuel

end

/-! ## Programs -/

/-- Parameters up to the closing parenthesis. -/
def parameters (before : List Name) : Nat → Reading (List Name)
  | 0 => misfit
  | fuel + 1 => do
    lines
    match ← peek with
    | .name name =>
      if before.contains name then
        fail (Utility.shown name ++ " is duplicated in argument list")
      skip
      lines
      if ← sign? "," then parameters (before ++ [name]) fuel
      else
        demand ")"
        return before ++ [name]
    | .sign ")" =>
      if before.isEmpty then
        skip
        return []
      else misfit
    | _ => misfit

/-- An action, with fuel for all that is left. -/
def action (region : Region) : Reading (List Statement) := do
  modify fun r => { r with region, loops := 0 }
  block (4 * (← left))

/-- The rules and functions that are left. -/
def items : Nat → Program → Reading Program
  | 0, _ => misfit
  | fuel + 1, p => do
    ends
    match ← peek with
    | .finish => return { rules := p.rules.reverse, definitions := p.definitions.reverse }
    | .word "BEGIN" =>
      skip
      let body ← action .border
      items fuel { p with rules := ⟨.start, some body⟩ :: p.rules }
    | .word "END" =>
      skip
      let body ← action .border
      items fuel { p with rules := ⟨.finish, some body⟩ :: p.rules }
    | .word "function" =>
      skip
      let name ← match ← peek with
        | .name name | .called name => pure name
        | _ => misfit
      skip
      demand "("
      let names ← parameters [] (← left)
      lines
      let body ← action .definition
      items fuel { p with definitions := ⟨name, names, body⟩ :: p.definitions }
    | .sign "\x7b" =>
      let body ← action .rule
      items fuel { p with rules := ⟨.always, some body⟩ :: p.rules }
    | _ =>
      let first ← wholeExpr .plain
      let pattern ← do
        if ← sign? "," then
          lines
          pure (Pattern.range first (← wholeExpr .plain))
        else pure (Pattern.condition first)
      match ← peek with
      | .sign "\x7b" =>
        let body ← action .rule
        items fuel { p with rules := ⟨pattern, some body⟩ :: p.rules }
      | .sign ";" | .lineEnd | .finish =>
        items fuel { p with rules := ⟨pattern, none⟩ :: p.rules }
      | _ => misfit

end Reading

/-- Checks that a called function is there and takes so many arguments. -/
def checkCall (definitions : List Definition) (lastLine : Nat) (call : Name × Nat) :
    Except String Unit :=
  match definitions.find? (·.name = call.1) with
  | none =>
    throw ("line " ++ toString lastLine ++ ": function " ++ shown call.1 ++ " never defined")
  | some d =>
    if d.parameters.length < call.2 then
      throw ("line " ++ toString (lastLine - 1) ++ ": too many arguments in call to " ++ shown call.1)
    else return ()

/-- The program that a text stands for. -/
def Program.ofText (text : List Char) : Except String Program := do
  let all ← lexemes 1 .lineEnd (text.length + 1) text
  let (p, r) ← Reading.items (all.length + 1) ⟨[], []⟩ ⟨all, .rule, 0, 0, 0, []⟩
  let lastLine := (all.getLast?.map (·.line)).getD 1
  for call in r.calls.reverse do checkCall p.definitions lastLine call
  return p

end ProgramRepair.Utility.PatternAction
