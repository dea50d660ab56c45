import ProgramRepair.Shell.Token

/-!
# Values of variables

A variable holds a text, an array whose elements have numbers, or a table whose
entries have texts for keys. Where one text is asked for, the element with the
number 0 is meant.
-/

namespace ProgramRepair.Shell

/-- What a variable holds. -/
inductive Value where
  | text (s : List Char)
  /-- Elements in the order of their numbers. -/
  | array (elements : List (Nat × List Char))
  /-- Entries, the latest first. -/
  | table (entries : List (List Char × List Char))
deriving DecidableEq, Repr

/-- What an element of an array or a table goes by. -/
inductive Key where
  | index (n : Nat)
  | name (s : List Char)
deriving DecidableEq, Repr

/-- The digits of a number. -/
def numeral (n : Nat) : List Char := (toString n).toList

namespace Value

/-! ## Order -/

/-- Where an entry of a table is listed: entries are spread over places by a number that all
characters of the key go into. -/
def place (key : List Char) : Nat :=
  let hash := key.foldl (fun h c => (h * 16777619 % Nat.pow 2 32) ^^^ c.toNat) 2166136261
  hash % 1024

/-- The entries of a table in the order in which they are listed. -/
def listed (entries : List (List Char × List Char)) : List (List Char × List Char) :=
  entries.mergeSort fun a b => place a.1 ≤ place b.1

/-- Puts an element into its place among others. -/
def insertElement (n : Nat) (s : List Char) : List (Nat × List Char) → List (Nat × List Char)
  | [] => [(n, s)]
  | (m, t) :: rest =>
    if n < m then (n, s) :: (m, t) :: rest
    else if n = m then (n, s) :: rest
    else (m, t) :: insertElement n s rest

/-! ## Reading -/

/-- The keys and the elements. -/
def pairs : Value → List (Key × List Char)
  | text s => [(.index 0, s)]
  | array elements => elements.map fun (n, s) => (.index n, s)
  | table entries => (listed entries).map fun (k, s) => (.name k, s)

/-- The elements. -/
def elements (v : Value) : List (List Char) := v.pairs.map (·.2)

/-- A key as a text. -/
def keyText : Key → List Char
  | .index n => numeral n
  | .name s => s

/-- The element with a key. -/
def element? (v : Value) (key : Key) : Option (List Char) := v.pairs.lookup key

/-- The value where a single text is asked for. -/
def text? : Value → Option (List Char)
  | text s => some s
  | array elements => elements.lookup 0
  | table entries => entries.lookup ['0']

/-- The first number behind all elements. -/
def nextIndex : Value → Nat
  | text _ => 1
  | array elements => (elements.getLast?.map fun (n, _) => n + 1).getD 0
  | table _ => 0

/-- Whether the elements go by names. -/
def isTable : Value → Bool
  | table _ => true
  | _ => false

/-! ## Changing -/

/-- The value with an element set. -/
def insert (v : Value) (key : Key) (s : List Char) : Value :=
  match v with
  | text t =>
    match key with
    | .index n => array (insertElement n s [(0, t)])
    | .name _ => text s
  | array elements =>
    match key with
    | .index n => array (insertElement n s elements)
    | .name _ => array elements
  | table entries =>
    let k := keyText key
    if entries.any fun e => e.1 = k then
      table (entries.map fun e => if e.1 = k then (k, s) else e)
    else table ((k, s) :: entries)

/-- The value with a text where a single text is asked for. -/
def withText (v : Option Value) (s : List Char) : Value :=
  match v with
  | some (array elements) => array (insertElement 0 s elements)
  | some (table entries) => insert (table entries) (.name ['0']) s
  | _ => text s

/-- The value without an element. -/
def erase (v : Value) (key : Key) : Value :=
  match v with
  | text t => text t
  | array elements => array (elements.filter fun e => key ≠ .index e.1)
  | table entries => table (entries.filter fun e => key ≠ .name e.1)

/-- An array of texts. -/
def ofList (texts : List (List Char)) : Value :=
  array ((List.range texts.length).zip texts)

end Value

/-- What becomes of a text that is assigned to a variable. -/
inductive Form where
  | plain
  /-- It is an expression that is calculated. -/
  | number
  | lower
  | upper
deriving DecidableEq, Repr, Inhabited

/-- A variable. -/
structure Variable where
  value : Option Value
  /-- Whether programs get it too. -/
  exported : Bool
  readOnly : Bool
  form : Form

/-- A variable without a value. -/
def Variable.unset : Variable := ⟨none, false, false, .plain⟩

/-- The value of a variable where a single text is asked for. -/
def Variable.text? (v : Variable) : Option (List Char) := v.value.bind (·.text?)

end ProgramRepair.Shell
