import ProgramRepair.Utility.Input

/-!
# Words in an order that pairs ask for

`tsort` reads pairs of words, of which the first comes before the second, and
prints all words in an order that fits. Words that nothing comes before are ready.
If none is ready although words are left, the pairs run in a circle: one is named,
and a pair of it is given up.
-/

namespace ProgramRepair.Utility

open Machine

namespace Precedence

/-- A word and what is known about it. Other words are named by their position in the list of all
words, which is in the order of their characters. -/
structure Item where
  word : List Char
  /-- How many pairs have it in the second place. -/
  count : Nat
  /-- The second words of the pairs that have it in the first place, the latest first. -/
  successors : List Nat
  isPrinted : Bool
  /-- The next item on a way back along pairs. -/
  link : Option Nat
deriving Inhabited

/-- All words, what is printed so far, the latest first, each part with whether it is a complaint,
and how many words are left. -/
structure State where
  items : Array Item
  output : List (Bool × List Char)
  left : Nat

namespace State

def item (s : State) (i : Nat) : Item := (s.items[i]?).getD ⟨[], 0, [], true, none⟩

def change (s : State) (i : Nat) (f : Item → Item) : State := { s with items := s.items.modify i f }

def tell (s : State) (isComplaint : Bool) (text : List Char) : State :=
  { s with output := (isComplaint, text) :: s.output }

/-- Notes that one word comes before another. -/
def addPair (s : State) (i j : Nat) : State :=
  if i = j then s
  else
    (s.change j fun x => { x with count := x.count + 1 }).change i fun x =>
      { x with successors := j :: x.successors }

/-- The words that are ready. -/
def ready (s : State) : List Nat :=
  (List.range s.items.size).filter fun i => (s.item i).count = 0 && !(s.item i).isPrinted

/-- Takes a word away from the front of another, which may then be ready. -/
def release (s : State × List Nat) (j : Nat) : State × List Nat :=
  let state := s.1.change j fun x => { x with count := x.count - 1 }
  (state, if (state.item j).count = 0 then j :: s.2 else s.2)

/-- Prints the words that are ready, and those that become so. -/
def drain (s : State) : (fuel : Nat) → List Nat → State
  | 0, _ => s
  | _, [] => s
  | fuel + 1, i :: queue =>
    let x := s.item i
    let s := (s.tell false (x.word ++ ['\n'])).change i fun x => { x with isPrinted := true }
    let (s, found) := x.successors.foldl release ({ s with left := s.left - 1 }, [])
    drain s fuel (queue ++ found.reverse)

/-- The items from `i` on along links up to `last`, that one included. -/
def chain (s : State) (last : Nat) : (fuel : Nat) → Nat → List Nat
  | 0, _ => []
  | fuel + 1, i =>
    if i = last then [i]
    else
      match (s.item i).link with
      | some j => i :: chain s last fuel j
      | none => [i]

/-- Forgets all links. -/
def unlinked (s : State) : State := { s with items := s.items.map fun x => { x with link := none } }

/-- One look at all words from the position `i` on, with the last item of the way that was found so
far. A word before it lengthens the way, or closes a circle if it is on the way itself: then the
circle is named and its last pair is given up. The second part is none if a circle was closed. -/
def trace (s : State) (way : Option Nat) : (fuel : Nat) → Nat → State × Option (Option Nat)
  | 0, _ => (s, some way)
  | fuel + 1, i =>
    if s.items.size ≤ i then (s, some way)
    else
      let x := s.item i
      match way with
      | none => trace s (if 0 < x.count then some i else none) fuel (i + 1)
      | some last =>
        if x.count = 0 || !x.successors.contains last then trace s way fuel (i + 1)
        else if x.link.isNone then
          trace (s.change i fun x => { x with link := some last }) (some i) fuel (i + 1)
        else
          let named := s.chain i (s.items.size + 1) last
          let s := named.foldl (fun s j => s.tell true (s.item j).word) s
          let s := s.change last fun y => { y with count := y.count - 1 }
          let s := s.change i fun y => { y with successors := y.successors.erase last }
          (s.unlinked, none)

/-- Looks at all words again and again until a circle was found. -/
def breakCircle (s : State) (way : Option Nat) : (fuel : Nat) → State
  | 0 => s
  | fuel + 1 =>
    match s.trace way (s.items.size + 1) 0 with
    | (s, none) => s
    | (s, some way) => breakCircle s way fuel

/-- Prints all words. -/
def printAll (complaint : List Char) (s : State) : (fuel : Nat) → State
  | 0 => s
  | fuel + 1 =>
    let s := s.drain (s.left + 1) s.ready
    if s.left = 0 then s
    else printAll complaint ((s.tell true complaint).breakCircle none (s.items.size + 1)) fuel

end State

/-- The pairs that words make, and whether the last one has no partner. -/
def pairsOf : List α → List (α × α) × Bool
  | a :: b :: rest =>
    let (pairs, isOdd) := pairsOf rest
    ((a, b) :: pairs, isOdd)
  | [_] => ([], true)
  | [] => ([], false)

/-- The words of a text. -/
def wordsOf (text : List Char) : List (List Char) :=
  (Text.cut '\n' (text.map fun c => if c = ' ' ∨ c = '\t' then '\n' else c)).filter (· ≠ [])

/-- Words in their order, each once. -/
def sortedWords (words : List (List Char)) : List (List Char) :=
  (words.mergeSort fun a b => !(b < a)).foldr (fun w rest =>
    if rest.head? = some w then rest else w :: rest) []

/-- What is printed for pairs of words. -/
def order (complaint : List Char) (words : List (List Char)) : List (Bool × List Char) :=
  let names := (sortedWords words).toArray
  let position := fun (w : List Char) => (names.findIdx? (· = w)).getD 0
  let pairs := (pairsOf (words.map position)).1
  let start : State := ⟨names.map fun w => ⟨w, 0, [], false, none⟩, [], names.size⟩
  let s := pairs.foldl (fun s (i, j) => s.addPair i j) start
  (s.printAll complaint (pairs.length + 1)).output.reverse

end Precedence

/-- Prints words in an order that pairs ask for. -/
def tsort : Utility := fun env args => do
  let o := (⟨"", "", "", []⟩ : Grammar).read args
  match o.problem, o.rest with
  | some problem, _ => refuse "tsort" problem 1
  | none, _ :: extra :: _ => refuse "tsort" ("extra operand " ++ quoted extra) 1
  | none, paths =>
    let path := paths.head?.getD ['-']
    match ← contents env.cwd path with
    | .error e =>
      warn "tsort" (if e = .isDirectory then named path ++ ": read error: " ++ e.systemText
        else Filter.usualBlame path e)
      return 1
    | .ok text =>
      let words := Precedence.wordsOf text
      if (Precedence.pairsOf words).2 then
        warn "tsort" (named path ++ ": input contains an odd number of tokens")
        return 1
      else
        let complaint := bytesChars (named path ++ ": input contains a loop:")
        printParts 0 (Precedence.order complaint words)
where
  /-- Prints parts of the output and complaints. -/
  printParts (code : Nat) : List (Bool × List Char) → Work Nat
    | [] => return code
    | (true, text) :: rest => do
      warn "tsort" (shown text)
      printParts 1 rest
    | (false, text) :: rest => do
      if ← tryPut "tsort" text then printParts code rest else return 1

end ProgramRepair.Utility
