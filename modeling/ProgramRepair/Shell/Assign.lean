import ProgramRepair.Shell.Expand

/-!
# Assigning

How variables, elements and whole arrays get their values. A variable has a form
that a text takes when it is assigned.
-/

namespace ProgramRepair.Shell

namespace Sh

/-- A text in the form of a variable, added to the old one or not. -/
def formed (form : Form) (adds : Bool) (old new : List Char) : Sh (List Char) := do
  match form with
  | .number => do
    let n ← numberOf new
    let m ← if adds then numberOf old else pure 0
    return (toString (Arithmetic.wrap (m + n))).toList
  | .plain => return if adds then old ++ new else new
  | .lower => return ((if adds then old ++ new else new).map Char.toLower)
  | .upper => return ((if adds then old ++ new else new).map Char.toUpper)

/-- Assigns a text to a variable, or adds it to what the variable holds. -/
def assignText (name : List Char) (adds : Bool) (new : List Char) : Sh (List Char) := do
  let s ← get
  let form := ((s.bindings.lookup name).map (·.form)).getD .plain
  let text ← formed form adds ((s.valueOf? name).getD []) new
  setVariable name text
  if s.isExtended ∧ name = "RANDOM".toList then
    modify fun s => { s with seed := (Arithmetic.natural? new).getD 0 }
  return text

/-- Assigns a text to an element, or adds it to what that holds. -/
def assignElement (name key : List Char) (adds : Bool) (new : List Char) : Sh (List Char) := do
  match ← keyOf? name key with
  | none =>
    complainPlainly (pathText name ++ "[" ++ pathText key ++ "]: bad array subscript")
    setStatus 1
    leave .discarded
  | some k => do
    let s ← get
    let form := ((s.bindings.lookup name).map (·.form)).getD .plain
    let old := ((wholeValue? s name).bind (·.element? k)).getD []
    let text ← formed form adds old new
    setElement name k text
    return text

/-- An element of a list: its key, if that is given, whether it is added to what there is, and its
text. -/
abbrev Member := Option (List Char) × Bool × List Char

/-- The elements that the words of a list stand for. -/
def members (capture : Capturer) : List Word → Sh (List Member)
  | [] => return []
  | w :: rest => do
    let keyed := do
      let (key, after) ← Assignment.key? (pieces w)
      let (adds, value) ← Assignment.value? after
      return (key, adds, value)
    let first ← match keyed with
      | some (key, adds, value) => do
        pure [(some (← expandText capture key), adds, ← expandText capture value)]
      | none => do
        pure ((← expandFields capture w).map fun text => (none, false, text))
    return first ++ (← members capture rest)

/-- Keys and texts that take turns. -/
def inTurn : List Member → List (List Char × List Char)
  | (_, _, key) :: (_, _, text) :: rest => (key, text) :: inTurn rest
  | [(_, _, key)] => [(key, [])]
  | [] => []

/-- Puts elements into an array or a table, those without a key behind the one before. -/
def putMembers (name : List Char) (form : Form) : List Member → (next : Nat) → Value → Sh Value
  | [], _, v => return v
  | (key?, adds, text) :: rest, next, v => do
    let key? ← match key? with
      | some key =>
        if v.isTable then pure (some (Key.name key)) else keyOf? name key
      | none => pure (some (.index next))
    match key? with
    | none => putMembers name form rest next v
    | some key =>
      let old := (v.element? key).getD []
      let text ← formed form adds old text
      let next := match key with
        | .index n => n + 1
        | .name _ => next
      putMembers name form rest next (v.insert key text)

/-- Makes a variable an array of elements, or adds them to it. -/
def assignList (name : List Char) (adds : Bool) (ms : List Member) : Sh Unit := do
  let s ← get
  let variable_ := (s.bindings.lookup name).getD .unset
  let old := variable_.value.getD (.array [])
  let start : Value := match old with
    | .table entries => .table (if adds then entries else [])
    | .array elements => .array (if adds then elements else [])
    | .text t => .array (if adds then [(0, t)] else [])
  let keyless := ms.all fun (key?, _, _) => key?.isNone
  let new ←
    if start.isTable && keyless then
      pure ((inTurn ms).foldl (fun v (key, text) => v.insert (.name key) text) start)
    else putMembers name variable_.form ms (if adds then start.nextIndex else 0) start
  modify fun s => s.setValue name new

/-- Carries out an assignment. The value is the text that was assigned. -/
def assign (capture : Capturer) (a : Assignment) : Sh (List Char) := do
  match a.value with
  | [.list words] => do
    let ms ← members capture words
    if (← get).isReadOnly a.name then setVariable a.name []
    assignList a.name a.adds ms
    let texts := ms.map fun (_, _, text) => text
    return '(' :: List.flatten (texts.intersperse [' ']) ++ [')']
  | w => do
    let text ← expandValue capture w
    match a.key with
    | some key => do assignElement a.name (← expandText capture key) a.adds text
    | none => assignText a.name a.adds text

end Sh

end ProgramRepair.Shell
