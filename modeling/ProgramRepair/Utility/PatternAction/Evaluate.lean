import ProgramRepair.Utility.PatternAction.State

/-!
# Carrying out patterns and actions

Expressions are evaluated and statements carried out by recursion on a number that
is larger than any process can use up. A target is located before a value for it
is computed, so that what its expressions do happens once and first.
-/

namespace ProgramRepair.Utility.PatternAction

open Machine

/-- Something that can be read and set. -/
inductive Location where
  | variable (name : Name)
  | entry (table : Nat) (key : List Char)
  | field (n : Nat)

namespace Run

/-- The value at a location. -/
def read : Location → Run Value
  | .variable name => valueOf name
  | .entry id key => withTable id fun t => (t.get key, t)
  | .field n => field n

/-- Sets what is at a location. -/
def write (l : Location) (v : Value) : Run Unit :=
  match l with
  | .variable name => setVariable name v
  | .entry id key => withTable id fun t => ((), t.set key v)
  | .field n => setField n v

/-- Sets what is at a location, or the record, to a record of the input. -/
def receive (l : Option Location) (record : List Char) : Run Unit :=
  match l with
  | some l => write l (.input record)
  | none => setRecord record

/-- A key of several parts. -/
def keyOfParts (parts : List (List Char)) : Run (List Char) := do
  return List.flatten (parts.intersperse (globalText (← get) "SUBSEP"))

/-- A step of the numbers that look like chance. -/
def nextChance (n : Nat) : Nat := (6364136223846793005 * n + 1442695040888963407) % Nat.pow 2 64

/-- The value of a function of numbers. -/
def calculate (f : Function) (xs : List Binary64) : Binary64 :=
  let x := xs.head?.getD .zero
  match f with
  | .sine => ofFloat (Float.sin (toFloat x))
  | .cosine => ofFloat (Float.cos (toFloat x))
  | .arctangent => ofFloat (Float.atan2 (toFloat x) (toFloat (xs.getD 1 .zero)))
  | .exponential => ofFloat (Float.exp (toFloat x))
  | .logarithm => ofFloat (Float.log (toFloat x))
  | .squareRoot => ofFloat (Float.sqrt (toFloat x))
  | .truncate => if x.isFinite then numberOf (truncated x) else x
  | _ => x

/-- A text printed by a format. -/
def format (numbers : List Char) (args : List Value) : Run (List Char × Option String) := do
  match args with
  | [] => return ([], none)
  | f :: args =>
    let f ← textOf f
    let (text, problem) := formatted numbers 1 (f.length + 1) f args
    return (text, problem.map (·.message f))

/-- The pattern that an expression stands for, or that its value is written as. -/
def patternOfValue : Expr → Value → Run Regex
  | .regex r, _ => return r
  | _, v => do patternFor (← textOf v)

/-- What is said about a record that was asked for. -/
def answer (l : Option Location) (r : Option (Option (List Char))) : Run Value := do
  match r with
  | none => return .number (-.one)
  | some none => return truth false
  | some (some record) =>
    receive l record
    return truth true

/-- A number of things as a value. -/
def count (n : Nat) : Value := .number (.ofNat n)

/-- The place of a text in another one, counted from `n` on; 0 if it is not there. -/
def position (n : Nat) (part : List Char) : List Char → Nat
  | [] => if part.isEmpty then n else 0
  | c :: rest => if part.isPrefixOf (c :: rest) then n else position (n + 1) part rest

/-- A text with one match or all of them replaced, and the number of those that were. -/
def replaced (all : Bool) (r : Regex) (new s : List Char) : List Char × Nat :=
  if all then PatternAction.substituteAll r new [] false (s.length + 2) s
  else PatternAction.substituteFirst r new s

/-- The time that a statement takes. -/
def statementTime : Nat := 100

mutual

/-- The value of an expression. -/
def eval (shell : Commander) : Nat → Expr → Run Value
  | 0, _ => work .forever
  | fuel + 1, e => do
    match e with
    | .number x => return .number x
    | .text s => return .text s
    | .regex r =>
      let record ← join
      return truth (r.find? false [] record).isSome
    | .value t => read (← locate shell fuel t)
    | .group [e] => eval shell fuel e
    | .group es => return .text (← keyOfParts (← texts shell fuel es))
    | .assign t operation e =>
      let l ← locate shell fuel t
      let v ← eval shell fuel e
      let v ← match operation with
        | none => pure v
        | some operation =>
          let old ← read l
          pure (Value.number (operation.apply old.toNumber v.toNumber))
      write l v
      match l, v with
      | .variable _, _ | .entry _ _, _ => return v
      | .field 0, _ => field 0
      | .field _, v => return v
    | .change t by_ before =>
      let l ← locate shell fuel t
      let old := (← read l).toNumber
      let new := old + by_
      write l (.number new)
      return .number (if before then old else new)
    | .choose c a b =>
      if (← eval shell fuel c).isTrue then eval shell fuel a else eval shell fuel b
    | .both a b =>
      if (← eval shell fuel a).isTrue then return truth (← eval shell fuel b).isTrue
      else return truth false
    | .either a b =>
      if (← eval shell fuel a).isTrue then return truth true
      else return truth (← eval shell fuel b).isTrue
    | .not e => return truth (!(← eval shell fuel e).isTrue)
    | .negate e => return .number (-(← eval shell fuel e).toNumber)
    | .numeric e => return .number (← eval shell fuel e).toNumber
    | .calculate operation a b =>
      let x := (← eval shell fuel a).toNumber
      let y := (← eval shell fuel b).toNumber
      return .number (operation.apply x y)
    | .compare c a b =>
      let x ← eval shell fuel a
      let y ← eval shell fuel b
      return truth (c.holds (x.compare (← numberFormat) y))
    | .matching negated a p =>
      let text ← textOf (← eval shell fuel a)
      let r ← patternIn shell fuel p
      return truth ((r.find? false [] text).isSome != negated)
    | .join a b =>
      let x ← textOf (← eval shell fuel a)
      let y ← textOf (← eval shell fuel b)
      return .text (x ++ y)
    | .member keys table =>
      let (v, key) ← keyIn shell fuel keys
      let id ← tableOf table
      withTable id fun t => (truth (t.contains key), if t.contains key then t.use v key else t)
    | .call name args => apply shell fuel name args
    | .builtin f args => builtin shell fuel f args
    | .next t =>
      let l ← location? shell fuel t
      match ← nextInput Work.patience with
      | some record =>
        receive l record
        return truth true
      | none => return truth false
    | .nextOfFile t path =>
      let l ← location? shell fuel t
      let name ← textOf (← eval shell fuel path)
      answer l (← nextOf name (openFile name))
    | .nextOfCommand t command =>
      let name ← textOf (← eval shell fuel command)
      let l ← location? shell fuel t
      answer l (← nextOf name (openCommand shell name))
termination_by structural fuel => fuel

/-- The texts of expressions. -/
def texts (shell : Commander) : Nat → List Expr → Run (List (List Char))
  | 0, _ => work .forever
  | _ + 1, [] => return []
  | fuel + 1, e :: es => do
    let s ← textOf (← eval shell fuel e)
    return s :: (← texts shell fuel es)
termination_by structural fuel => fuel

/-- The values of expressions. -/
def values (shell : Commander) : Nat → List Expr → Run (List Value)
  | 0, _ => work .forever
  | _ + 1, [] => return []
  | fuel + 1, e :: es => do
    let v ← eval shell fuel e
    return v :: (← values shell fuel es)
termination_by structural fuel => fuel

/-- The key that expressions stand for. -/
def keyIn (shell : Commander) : Nat → List Expr → Run (Value × List Char)
  | 0, _ => work .forever
  | fuel + 1, keys => do
    match keys with
    | [e] =>
      let v ← eval shell fuel e
      return (v, ← textOf v)
    | es =>
      let key ← keyOfParts (← texts shell fuel es)
      return (.text key, key)
termination_by structural fuel => fuel

/-- The expression that another one stands for. -/
def patternIn (shell : Commander) : Nat → Expr → Run Regex
  | 0, _ => work .forever
  | fuel + 1, e => do
    match e with
    | .regex r => return r
    | e => patternFor (← textOf (← eval shell fuel e))
termination_by structural fuel => fuel

/-- The location of a target. An entry of a table is made if there is none. -/
def locate (shell : Commander) : Nat → Target → Run Location
  | 0, _ => work .forever
  | fuel + 1, t => do
    match t with
    | .variable name => return .variable name
    | .entry table keys =>
      let (v, key) ← keyIn shell fuel keys
      let id ← tableOf table
      discard <| withTable id fun t => t.find v key
      return .entry id key
    | .field n => return .field (← fieldNumber (← eval shell fuel n))
termination_by structural fuel => fuel

/-- The location of a target that may be missing. -/
def location? (shell : Commander) : Nat → Option Target → Run (Option Location)
  | 0, _ => work .forever
  | fuel + 1, t => do
    match t with
    | none => return none
    | some t => return some (← locate shell fuel t)
termination_by structural fuel => fuel

/-- What the arguments of a function stand for in it. -/
def bindings (shell : Commander) : Nat → List Expr → Run (List Binding)
  | 0, _ => work .forever
  | _ + 1, [] => return []
  | fuel + 1, e :: es => do
    let scalar := do return Binding.scalar (← eval shell fuel e)
    let b ← match e with
      | .value (.variable name) =>
        match ← binding name with
        | .scalar .unset =>
          if name = "NF".toList then scalar
          else
            let id ← newTable
            Run.bind name (.open_ id)
            pure (.open_ id)
        | .scalar _ => scalar
        | b => pure b
      | _ => scalar
    return b :: (← bindings shell fuel es)
termination_by structural fuel => fuel

/-- The value of a function of the program. -/
def apply (shell : Commander) : Nat → Name → List Expr → Run Value
  | 0, _, _ => work .forever
  | fuel + 1, name, args => do
    match (← get).program.definitions.find? (·.name = name) with
    | none => return .unset
    | some d =>
      let given ← bindings shell fuel args
      let missing := List.replicate (d.parameters.length - given.length) (Binding.scalar .unset)
      let outer := (← get).locals
      modify fun s => { s with locals := d.parameters.zip (given ++ missing) }
      let r ← attempt (statements shell fuel d.body)
      modify fun s => { s with locals := outer }
      match r with
      | .ok () => return .unset
      | .error (.returned v) => return v
      | .error e => leave e
termination_by structural fuel => fuel

/-- The value of a function that every program has. -/
def builtin (shell : Commander) : Nat → Function → List Expr → Run Value
  | 0, _, _ => work .forever
  | fuel + 1, f, args => do
    match f, args with
    | .length, [] => return count (← join).length
    | .length, [.value (.variable name)] =>
      match ← binding name with
      | .table id => return count (← withTable id fun t => (t.entries.size, t))
      | .open_ id => return count (← withTable id fun t => (t.entries.size, t))
      | .scalar _ => return count (← textOf (← valueOf name)).length
    | .split, e :: .value (.variable name) :: sep =>
      let s ← textOf (← eval shell fuel e)
      let sep : Separator ← match sep with
        | [] => do separatorFor (globalText (← get) "FS")
        | .regex r :: _ => pure (.pattern r)
        | e :: _ => do separatorFor (← textOf (← eval shell fuel e))
      let parts := (splitFields sep s).map Value.input
      let id ← tableOf name
      withTable id fun _ => ((), Table.ofList parts)
      return count parts.length
    | .substituteFirst, p :: e :: t => substitute shell fuel false p e t.head?
    | .substituteAll, p :: e :: t => substitute shell fuel true p e t.head?
    | .matchText, [e, p] =>
      let s ← textOf (← eval shell fuel e)
      let r ← patternIn shell fuel p
      let (start, length) : Int × Int := match r.find? false [] s with
        | some m => (m.before.length + 1, m.text.length)
        | none => (0, -1)
      setGlobal "RSTART" (.number (numberOf start))
      setGlobal "RLENGTH" (.number (numberOf length))
      return .number (numberOf start)
    | .format, args =>
      let (text, problem) ← format (← numberFormat) (← values shell fuel args)
      match problem with
      | some message => fail message
      | none => return .text text
    | f, args =>
      let vs ← values shell fuel args
      let v := vs.head?.getD .unset
      match f with
      | .length => return count (← textOf v).length
      | .substring =>
        let s ← textOf v
        return .text (substring s (vs.getD 1 .unset).toNumber (vs[2]?.map (·.toNumber)))
      | .position => return count (position 1 (← textOf (vs.getD 1 .unset)) (← textOf v))
      | .upper => return .text ((← textOf v).map Char.toUpper)
      | .lower => return .text ((← textOf v).map Char.toLower)
      | .system =>
        flushAll
        let pid ← start shell (← textOf v) none []
        return count (← await pid)
      | .close => return .number (numberOf (← closeNamed (← textOf v)))
      | .flush =>
        flushAll
        return truth false
      | .random =>
        modify fun s => { s with chance := nextChance s.chance }
        let n := (← get).chance / Nat.pow 2 12
        return .number (Binary64.ofNat n / Binary64.ofNat (Nat.pow 2 52))
      | .seed =>
        let old := (← get).seed
        let new := v.toNumber
        modify fun s => { s with seed := new, chance := nextChance new.magnitude }
        return .number old
      | f => return .number (calculate f (vs.map (·.toNumber)))
termination_by structural fuel => fuel

/-- Replaces matches in a target, or in the record. The value is their number. -/
def substitute (shell : Commander) : Nat → Bool → Expr → Expr → Option Expr → Run Value
  | 0, _, _, _, _ => work .forever
  | fuel + 1, all, p, e, t => do
    let r ← patternIn shell fuel p
    let new ← textOf (← eval shell fuel e)
    let target := fun (e : Expr) => match e with
      | .value t => some t
      | _ => none
    match t with
    | none =>
      let s ← join
      let (text, n) := replaced all r new s
      if 0 < n then setRecord text
      return count n
    | some e =>
      match target e with
      | some t =>
        let l ← locate shell fuel t
        let (text, n) := replaced all r new (← textOf (← read l))
        if 0 < n then write l (.text text)
        return count n
      | none =>
        let (_, n) := replaced all r new (← textOf (← eval shell fuel e))
        return count n
termination_by structural fuel => fuel

/-- Carries out a statement. -/
def statement (shell : Commander) : Nat → Statement → Run Unit
  | 0, _ => work .forever
  | fuel + 1, s => do
    work (.sleep statementTime)
    match s with
    | .evaluate e => discard <| eval shell fuel e
    | .print es sink =>
      let format := globalText (← get) "OFMT"
      let parts ←
        if es.isEmpty then do pure [← join]
        else do pure ((← values shell fuel es).map (·.toText format))
      let s ← get
      let text := List.flatten (parts.intersperse (globalText s "OFS")) ++ globalText s "ORS"
      output shell fuel sink text
    | .printFormat es sink =>
      let (text, problem) ← format (← numberFormat) (← values shell fuel es)
      output shell fuel sink text
      match problem with
      | some message => fail message
      | none => return ()
    | .branch c yes no =>
      if (← eval shell fuel c).isTrue then statement shell fuel yes
      else
        match no with
        | some no => statement shell fuel no
        | none => return ()
    | .whileLoop c body => rounds shell fuel (some c) none body
    | .doLoop body c =>
      match ← attempt (statement shell fuel body) with
      | .ok () | .error .continued => rounds shell fuel (some c) none body
      | .error .broken => return ()
      | .error e => leave e
    | .forLoop first c step body =>
      match first with
      | some first => statement shell fuel first
      | none => pure ()
      rounds shell fuel c step body
    | .forEach name table body =>
      let keys ← withTable (← tableOf table) Table.keys
      forKeys shell fuel name body keys
    | .block body => statements shell fuel body
    | .nextRecord => leave .nextRecord
    | .nextFile => leave .nextFile
    | .exit code =>
      match code with
      | none => pure ()
      | some e =>
        let n := truncated (← eval shell fuel e).toNumber
        modify fun s => { s with exitCode := (n % 256).toNat }
      leave .exited
    | .giveBack e =>
      match e with
      | none => leave (.returned .unset)
      | some e => leave (.returned (← eval shell fuel e))
    | .breakLoop => leave .broken
    | .continueLoop => leave .continued
    | .deleteEntry table keys =>
      let (_, key) ← keyIn shell fuel keys
      let id ← tableOf table
      withTable id fun t => ((), t.erase key)
    | .deleteAll table =>
      let id ← tableOf table
      withTable id fun _ => ((), Table.empty)
termination_by structural fuel => fuel

/-- Prints a text. -/
def output (shell : Commander) : Nat → Option (Outlet × Expr) → List Char → Run Unit
  | 0, _, _ => work .forever
  | fuel + 1, sink, text => do
    match sink with
    | none => putText shell none text
    | some (outlet, e) =>
      let name ← textOf (← eval shell fuel e)
      putText shell (some (outlet, name)) text
termination_by structural fuel => fuel

/-- Carries out statements one after the other. -/
def statements (shell : Commander) : Nat → List Statement → Run Unit
  | 0, _ => work .forever
  | _ + 1, [] => return ()
  | fuel + 1, s :: rest => do
    statement shell fuel s
    statements shell fuel rest
termination_by structural fuel => fuel

/-- Carries out a loop. -/
def rounds (shell : Commander) : Nat → Option Expr → Option Statement → Statement → Run Unit
  | 0, _, _, _ => work .forever
  | fuel + 1, c, step, body => do
    let goes ← match c with
      | none => pure true
      | some c => do pure (← eval shell fuel c).isTrue
    if goes then
      match ← attempt (statement shell fuel body) with
      | .ok () | .error .continued =>
        match step with
        | some step => statement shell fuel step
        | none => pure ()
        rounds shell fuel c step body
      | .error .broken => return ()
      | .error e => leave e
termination_by structural fuel => fuel

/-- Carries out a loop for some keys. -/
def forKeys (shell : Commander) : Nat → Name → Statement → List (List Char) → Run Unit
  | 0, _, _, _ => work .forever
  | _ + 1, _, _, [] => return ()
  | fuel + 1, name, body, key :: keys => do
    setVariable name (.input key)
    match ← attempt (statement shell fuel body) with
    | .ok () | .error .continued => forKeys shell fuel name body keys
    | .error .broken => return ()
    | .error e => leave e
termination_by structural fuel => fuel

end

end Run

end ProgramRepair.Utility.PatternAction
