import ProgramRepair.Shell.Arithmetic
import ProgramRepair.Shell.Braces
import ProgramRepair.Shell.Field

/-!
# Expansion

What a word stands for when its command runs: the values of its variables, the
numbers of its expressions and the output of its commands. In the end its fields
are split and replaced by the files that fit them, and quotes are gone.
-/

namespace ProgramRepair.Shell

open Machine

/-- What a use of variables is about. -/
inductive Subject where
  /-- One value, if there is one, and how it is called in messages. -/
  | single (name : List Char) (value : Option (List Char))
  /-- Several values with their keys, which make one text or not. -/
  | several (name : List Char) (pairs : List (Key × List Char)) (joined : Bool)

namespace Sh

/-! ## Parameters -/

/-- The value of a variable as a whole. -/
def wholeValue? (s : State) (name : List Char) : Option Value :=
  if s.isExtended ∧ name = "FUNCNAME".toList then
    if s.callers.isEmpty then none else some (.ofList s.callers)
  else (s.bindings.lookup name).bind (·.value)

/-- The number that digits stand for. -/
def digitsNumber (ds : List Char) : Nat :=
  ds.foldl (fun n d => 10 * n + (d.toNat - '0'.toNat)) 0

/-- Texts as one text. -/
def joinTexts (s : State) (texts : List (List Char)) : List Char :=
  let separator := match s.valueOf? "IFS".toList with
    | some (c :: _) => [c]
    | some [] => []
    | none => [' ']
  List.flatten (texts.intersperse separator)

/-- The arguments in one text. -/
def joinArguments (s : State) : List Char := joinTexts s s.arguments

/-- The next number of a sequence in which numbers seem to come by chance. -/
def nextSeed (seed : Nat) : Nat :=
  let seed := if seed = 0 then 123459876 else seed
  let t : Int := 16807 * ((seed % 127773 : Nat) : Int) - 2836 * ((seed / 127773 : Nat) : Int)
  if t < 0 then (t + 0x7fffffff).toNat else t.toNat

/-- A number by chance. -/
def chance : Sh Nat := do
  let seed := nextSeed (← get).seed
  modify fun s => { s with seed }
  return ((seed >>> 16) ^^^ (seed &&& 65535)) &&& 32767

/-- The letters of the options that are on, in the extended language. -/
def optionText (s : State) : List Char :=
  "abefhkmnptuvxBCEHPT".toList.filter (fun c => c = 'h' || c = 'B' || s.isOn c) ++
    (if s.settings.contains "commands" then ['c'] else if s.isOn 's' then ['s'] else [])

/-- The value of a parameter that only the extended language knows. -/
def extendedParameter? (s : State) (name : List Char) : Sh (Option (List Char)) := do
  match String.ofList name with
  | "LINENO" => return some (numeral s.line)
  | "RANDOM" => return some (numeral (← chance))
  | "BASHPID" => return some (numeral (← call Kernel.self))
  | "FUNCNAME" => return s.callers.head?
  | _ => return s.valueOf? name

/-- The value of a parameter, if it has one. -/
def parameter? (name : List Char) : Sh (Option (List Char)) := do
  let s ← get
  match name with
  | ['#'] => return some (numeral s.arguments.length)
  | ['?'] => return some (numeral s.status)
  | ['-'] => return some (if s.isExtended then optionText s else s.options)
  | ['$'] => return some (numeral s.shellPid)
  | ['!'] => return s.lastBackground.map numeral
  | ['@'] | ['*'] => return if s.arguments.isEmpty then none else some (joinArguments s)
  | ['0'] => return some s.name
  | c :: _ =>
    if c.isDigit then return s.arguments[digitsNumber name - 1]?
    else if s.isExtended then extendedParameter? s name
    else return s.valueOf? name
  | [] => return none

/-- Values as atoms: one text, or a field for each. -/
def listAtoms (joined quoted : Bool) (values : List (List Char)) : Sh (List Atom) := do
  if joined ∧ quoted then return textAtoms (joinTexts (← get) values) true
  else return List.flatten ((values.map fun a => textAtoms a quoted).intersperse [.boundary])

/-! ## Arithmetic -/

/-- Ends the shell because of an expression. -/
def failArithmetic (text : List Char) (f : Arithmetic.Failure) : Sh α :=
  let shown := pathText text
  let common := match f.problem with
    | .notNumber _ | .readOnly _ => f.problem.message
    | p => "arithmetic expression: " ++ p.message ++ ": \"" ++ shown ++ "\""
  let extended := match f.problem with
    | .readOnly _ => f.problem.extendedMessage
    | p => (pathText (text.dropWhile (· = ' '))) ++ ": " ++ p.extendedMessage ++
      " (error token is \"" ++ pathText f.token ++ "\")"
  failLine common extended

/-- The value of an operation or the end of the shell. -/
def operate (text : List Char) (o : Arithmetic.Operation) (a b : Int) : Sh Int :=
  match o.apply a b with
  | .ok n => return n
  | .error p => failArithmetic text ⟨p, Arithmetic.lastDivisor text⟩

/-- Says that a variable has no value where one is needed. -/
def failUnset (name : List Char) : Sh α :=
  let name := String.ofList name
  failWord (name ++ ": parameter not set") (name ++ ": unbound variable") 127

mutual

/-- The value of an expression that stands in `text`. -/
def evaluate (text : List Char) : Nat → Arithmetic.Expression → Sh Int
  | 0, _ => failArithmetic text ⟨.expectingEnd, text⟩
  | fuel + 1, e =>
    match e with
    | .number n => return n
    | .variable t => targetValue text t fuel
    | .negate e => do return Arithmetic.wrap (-(← evaluate text fuel e))
    | .complement e => do return Arithmetic.wrap (-(← evaluate text fuel e) - 1)
    | .isZero e => do return Arithmetic.ofBool ((← evaluate text fuel e) = 0)
    | .operation o a b => do
      let x ← evaluate text fuel a
      let y ← evaluate text fuel b
      operate text o x y
    | .both a b => do
      if (← evaluate text fuel a) = 0 then return 0
      else return Arithmetic.ofBool ((← evaluate text fuel b) ≠ 0)
    | .either a b => do
      if (← evaluate text fuel a) ≠ 0 then return 1
      else return Arithmetic.ofBool ((← evaluate text fuel b) ≠ 0)
    | .choice test a b => do
      if (← evaluate text fuel test) ≠ 0 then evaluate text fuel a else evaluate text fuel b
    | .assign t o e => do
      let y ← evaluate text fuel e
      let value ← match o with
        | none => pure y
        | some o => do operate text o (← targetValue text t fuel) y
      setTarget t value fuel
      return value
    | .step t before change => do
      let old ← targetValue text t fuel
      let new := Arithmetic.wrap (old + change)
      setTarget t new fuel
      return if before then old else new
    | .inOrder a b => do
      discard <| evaluate text fuel a
      evaluate text fuel b
termination_by structural fuel => fuel

/-- The value of a text as an expression. -/
def calculate (text : List Char) : Nat → Sh Int
  | 0 => failArithmetic text ⟨.expectingEnd, text⟩
  | fuel + 1 => do
    match Arithmetic.Expression.parse (← get).dialect text with
    | .ok e => evaluate text fuel e
    | .error f => failArithmetic text f
termination_by structural fuel => fuel

/-- The number that a variable or an element holds, in an expression that stands in `text`. -/
def targetValue (text : List Char) (t : Arithmetic.Target) : Nat → Sh Int
  | 0 => failArithmetic text ⟨.expectingEnd, text⟩
  | fuel + 1 => do
    let s ← get
    let value? ← match t.key with
      | none => parameter? t.name
      | some key => do
        let key ← elementKey t.name key fuel
        pure (key.bind fun k => (wholeValue? s t.name).bind (·.element? k))
    match value?, s.dialect with
    | none, _ => if s.isOn 'u' then failUnset t.name else return 0
    | some value, .common =>
      match Arithmetic.ofText value with
      | .ok n => return n
      | .error p => failArithmetic text ⟨p, text⟩
    | some value, .extended => calculate value fuel
termination_by structural fuel => fuel

/-- Sets a variable or an element to a number. -/
def setTarget (t : Arithmetic.Target) (n : Int) : Nat → Sh Unit
  | 0 => return ()
  | fuel + 1 => do
    let value := (toString n).toList
    match t.key with
    | none => setVariable t.name value
    | some key =>
      match ← elementKey t.name key fuel with
      | some key => setElement t.name key value
      | none => return ()
termination_by structural fuel => fuel

/-- The key that a text in brackets stands for. There is none for a number that is too small. -/
def elementKey (name text : List Char) : Nat → Sh (Option Key)
  | 0 => return none
  | fuel + 1 => do
    let s ← get
    let value? := wholeValue? s name
    if value?.any (·.isTable) then return some (.name text)
    else
      let n ← calculate text fuel
      let n := if n < 0 then n + ((value?.map (·.nextIndex)).getD 0 : Nat) else n
      return if n < 0 then none else some (.index n.toNat)
termination_by structural fuel => fuel

end

/-- Expressions are not nested deeper than this. -/
def expressionDepth : Nat := 100000

/-- The value of a text as an expression. -/
def numberOf (text : List Char) : Sh Int := calculate text expressionDepth

/-- The key that a text in brackets stands for. -/
def keyOf? (name text : List Char) : Sh (Option Key) := elementKey name text expressionDepth

/-! ## Words -/

/-- How the commands in words are carried out: what is found is the output of a command, or the path
of a file through which a command is read or written. -/
structure Capturer where
  output : Command → Sh (List Char)
  channel : (reads : Bool) → Command → Sh (List Char)

/-- The part of a list from a position on, as long as `length?` says; positions before the start
count from the end. There is none if the end comes before the start. -/
def sliceOf (start : Int) (length? : Option Int) (s : List α) : Option (List α) :=
  let size : Int := s.length
  let start := if start < 0 then start + size else start
  if start < 0 ∨ size < start then some []
  else
    match length? with
    | none => some (s.drop start.toNat)
    | some n =>
      let count := if n < 0 then n + size - start else n
      if count < 0 then none else some ((s.drop start.toNat).take count.toNat)

/-- The values with the keys from a number on, at most as many as `count?` says. -/
def sliceElements (start : Int) (count? : Option Int) (pairs : List (Key × List Char)) :
    List (List Char) :=
  let last : Nat := (pairs.getLast?.map fun (k, _) => match k with
    | .index n => n + 1
    | .name _ => pairs.length).getD 0
  let start := if start < 0 then start + last else start
  if start < 0 then []
  else
    let from_ := pairs.dropWhile fun (k, _) => match k with
      | .index n => (n : Int) < start
      | .name _ => false
    let values := from_.map (·.2)
    match count? with
    | some n => values.take n.toNat
    | none => values

/-- The directory that the text behind a tilde stands for. -/
def directoryOf? (s : State) (text : List Char) : Option (List Char) :=
  match text with
  | [] => s.valueOf? "HOME".toList
  | ['+'] => if s.isExtended then s.valueOf? "PWD".toList else none
  | ['-'] => if s.isExtended then s.valueOf? "OLDPWD".toList else none
  | text => if text = "root".toList then some "/root".toList else none

/-- The characters at the start that can be the text behind a tilde, and what follows them. -/
def tildeText (ends : Char → Bool) : List Piece → List Char × List Piece
  | .char c :: rest =>
    if ends c then ([], .char c :: rest)
    else
      let (text, rest) := tildeText ends rest
      (c :: text, rest)
  | rest => ([], rest)

/-- Pieces with directories in the place of tildes in front and, with `everywhere`, behind colons. -/
def replaceTildes (s : State) (everywhere : Bool) : (isStart : Bool) → Nat → List Piece → List Piece
  | _, 0, ps => ps
  | true, fuel + 1, .char '~' :: rest =>
    let (text, after) := tildeText (fun c => c = '/' || (everywhere && c = ':')) rest
    let ended := match after with
      | [] | .char _ :: _ => true
      | .part _ :: _ => false
    match if ended then directoryOf? s text else none with
    | some directory =>
      .part (.text directory true) :: replaceTildes s everywhere false fuel after
    | none => .char '~' :: replaceTildes s everywhere false fuel rest
  | _, fuel + 1, .char c :: rest =>
    .char c :: replaceTildes s everywhere (everywhere && c = ':') fuel rest
  | _, fuel + 1, p :: rest => p :: replaceTildes s everywhere false fuel rest
  | _, _ + 1, [] => []

/-- A word with directories in the place of its tildes. -/
def withoutTildes (s : State) (everywhere : Bool) (w : Word) : Word :=
  let hasTilde := w.any fun
    | .text text false => text.contains '~'
    | _ => false
  if hasTilde then
    let ps := pieces w
    ofPieces (replaceTildes s everywhere true (ps.length + 1) ps)
  else w

/-- The element of an array or a table with the key that a text stands for. -/
def element (s : State) (name text : List Char) : Sh Subject := do
  let value? ← match ← keyOf? name text with
    | some key => pure ((wholeValue? s name).bind (·.element? key))
    | none => do
      complainPlainly (pathText name ++ ": bad array subscript")
      pure none
  return .single (name ++ '[' :: text ++ [']']) value?

/-- All elements of an array or a table. -/
def several (s : State) (name : List Char) (joined : Bool) : Sh Subject :=
  return .several name (((wholeValue? s name).map (·.pairs)).getD []) joined

/-- Says that a part of a value ends before it begins. -/
def failSlice (length? : Option Int) : Sh α :=
  let message := toString (length?.getD 0) ++ ": substring expression < 0"
  failLine message message

mutual

/-- The atoms of a word. With `separates` its own text may separate fields. -/
def expandParts (capture : Capturer) (separates : Bool) : Nat → Word → Sh (List Atom)
  | 0, _ => failShell "Bad substitution" 2
  | _ + 1, [] => return []
  | fuel + 1, p :: rest => do
    let first ← expandPart capture separates fuel p
    return first ++ (← expandParts capture separates fuel rest)
termination_by structural fuel => fuel

/-- What a use of variables is about. -/
def subjectOf (capture : Capturer) (r : Reference) : Nat → Sh Subject
  | 0 => failShell "Bad substitution" 2
  | fuel + 1 => do
    let s ← get
    match r with
    | .plain name =>
      if s.isExtended ∧ (name = ['@'] ∨ name = ['*']) then
        let indices := (List.range s.arguments.length).map fun i => Key.index (i + 1)
        return .several name (indices.zip s.arguments) (name = ['*'])
      else return .single name (← parameter? name)
    | .element name key => do
      let text := atomsText (← expandParts capture false fuel key)
      element s name text
    | .elements name joined => several s name joined
    | .named name => do
      let target := (← parameter? name).getD []
      match Arithmetic.leadingTarget .extended target with
      | (⟨name, some ['@']⟩, []) => several s name false
      | (⟨name, some ['*']⟩, []) => several s name true
      | (⟨name, some key⟩, []) => element s name key
      | _ => return .single target (← parameter? target)
    | .names start joined =>
      let names := (s.bindings.map (·.1)).filter fun name => start.isPrefixOf name
      let sorted := names.mergeSort fun a b => !(b < a)
      return .several start (sorted.map fun name => (.name name, name)) joined
termination_by structural fuel => fuel

/-- The atoms of a part of a word. -/
def expandPart (capture : Capturer) (separates : Bool) : Nat → Part → Sh (List Atom)
  | 0, _ => failShell "Bad substitution" 2
  | fuel + 1, p =>
    match p with
    | .text s quoted =>
      if quoted then return textAtoms s true
      else return s.map fun c => .char c false separates
    | .output body quoted => do return textAtoms (← capture.output body) quoted
    | .channel reads body => do return textAtoms (← capture.channel reads body) true
    | .list _ => return []
    | .arithmetic e quoted => do
      let text := atomsText (← expandParts capture false fuel e)
      return textAtoms (toString (← numberOf text)).toList quoted
    | .badUse text => failLine "Bad substitution" (pathText text ++ ": bad substitution")
    | .variable r t orEmpty word second quoted => do
      let mark := if quoted then [Atom.mark] else []
      let subject ← subjectOf capture r fuel
      let s ← get
      let (name, values) : List Char × List (List Char) := match subject with
        | .single name value? => (name, value?.toList)
        | .several name pairs _ => (name, pairs.map (·.2))
      let given := !values.isEmpty && !(orEmpty && values.all (·.isEmpty))
      let word := if quoted then word else withoutTildes s false word
      let isAll := name = ['@'] || name = ['*']
      let all := fun (values : List (List Char)) =>
        match subject with
        | .single _ _ => do return textAtoms (values.head?.getD []) quoted
        | .several _ _ joined => listAtoms joined quoted values
      if values.isEmpty && s.isOn 'u' && !isAll &&
          (t = Treatment.value || t = Treatment.length || Parser.isPattern t) then
        match subject with
        | .single _ _ => failUnset name
        | .several _ _ _ => pure ()
      match t with
      | .value =>
        match subject with
        | .single ['@'] _ => listAtoms false quoted s.arguments
        | .single ['*'] _ => listAtoms true quoted s.arguments
        | _ => all values
      | .keys =>
        match subject with
        | .several _ pairs joined => listAtoms joined quoted (pairs.map fun (k, _) => Value.keyText k)
        | .single _ _ => all values
      | .length =>
        let n := match subject with
          | .several _ pairs _ => pairs.length
          | .single _ value? => if isAll then s.arguments.length else (value?.getD []).length
        return textAtoms (numeral n) quoted
      | .fallback =>
        if given then all values
        else return mark ++ (← expandParts capture (!quoted) fuel word)
      | .alternative =>
        if given then return mark ++ (← expandParts capture (!quoted) fuel word)
        else return mark
      | .assignment =>
        if given then all values
        else
          let new := atomsText (← expandParts capture false fuel word)
          setVariable name new
          return textAtoms new quoted
      | .demand =>
        if given then all values
        else
          let given := atomsText (← expandParts capture false fuel word)
          let message :=
            if !given.isEmpty then String.ofList given
            else if orEmpty then
              if s.isExtended then "parameter null or not set" else "parameter not set or null"
            else "parameter not set"
          let message := String.ofList name ++ ": " ++ message
          failWord message message 127
      | .slice bounded =>
        let start ← numberOf (atomsText (← expandParts capture false fuel word))
        let length? ←
          if bounded then
            some <$> numberOf (atomsText (← expandParts capture false fuel second))
          else pure none
        match subject with
        | .single _ value? =>
          match sliceOf start length? (value?.getD []) with
          | some part => return textAtoms part quoted
          | none => failSlice length?
        | .several name pairs joined =>
          let pairs := if name = ['@'] ∨ name = ['*'] then (Key.index 0, s.name) :: pairs else pairs
          if length?.any (· < 0) then failSlice length?
          else listAtoms joined quoted (sliceElements start length? pairs)
      | t =>
        let pattern := atomsPattern (← expandParts capture false fuel word)
        let with_ := atomsPattern (← expandParts capture false fuel second)
        all (values.map (treatValue t pattern with_))
termination_by structural fuel => fuel

end

/-- Words are not nested deeper than this. -/
def wordDepth : Nat := 10000

/-- The atoms of a whole word. -/
def expandWord (capture : Capturer) (w : Word) : Sh (List Atom) := do
  expandParts capture false wordDepth (withoutTildes (← get) false w)

/-- The value of an assignment as a single text. -/
def expandValue (capture : Capturer) (w : Word) : Sh (List Char) := do
  return atomsText (← expandParts capture false wordDepth (withoutTildes (← get) true w))

/-- A word as a single text. -/
def expandText (capture : Capturer) (w : Word) : Sh (List Char) := do
  return atomsText (← expandWord capture w)

/-- A word as a pattern. -/
def expandPattern (capture : Capturer) (w : Word) : Sh (List Glyph) := do
  return atomsPattern (← expandWord capture w)

/-- A word as arguments. -/
def expandFields (capture : Capturer) (w : Word) : Sh (List (List Char)) := do
  let words := if (← get).isExtended then expandBraces w else [w]
  let fields ← words.mapM one
  return fields.flatten
where
  /-- A word without alternatives as arguments. -/
  one (w : Word) : Sh (List (List Char)) := do
    let atoms ← expandWord capture w
    let s ← get
    let fields := splitFields s.separators atoms
    if s.isOn 'f' ∨ !fields.any Pattern.isPattern then return fields.map Pattern.plain
    else
      let d ← call (Kernel.askDisk id)
      let g : Globbing :=
        ⟨s.isExtended, s.settings.contains "dotglob", s.settings.contains "nullglob"⟩
      return fields.flatMap (expandField g d s.cwd)

/-- Words as arguments. -/
def expandAll (capture : Capturer) : List Word → Sh (List (List Char))
  | [] => return []
  | w :: rest => do
    let first ← expandFields capture w
    return first ++ (← expandAll capture rest)

end Sh

end ProgramRepair.Shell
