import ProgramRepair.Shell.Token

/-!
# Alternatives in braces

In the extended language a word with braces stands for several words: one for
each text between the commas, or one for each member of a sequence such as
`1..5`. Braces that hold neither stand for themselves.
-/

namespace ProgramRepair.Shell

namespace Braces

/-! ## Sequences -/

/-- The whole number that a text stands for. -/
def integer? : List Char → Option Int
  | '-' :: ds => (digits? ds).map fun n => -(n : Int)
  | '+' :: ds => (digits? ds).map fun n => (n : Int)
  | ds => (digits? ds).map fun n => (n : Int)
where
  /-- The number that digits stand for. -/
  digits? (ds : List Char) : Option Nat :=
    if !ds.isEmpty && ds.all Char.isDigit then
      some (ds.foldl (fun n d => 10 * n + (d.toNat - '0'.toNat)) 0)
    else none

/-- The numbers from one to another in steps of some size. -/
def range (a b : Int) (step : Nat) : List Int :=
  let step := max step 1
  let count := (b - a).natAbs / step + 1
  (List.range count).map fun i =>
    let distance := ((i * step : Nat) : Int)
    if a ≤ b then a + distance else a - distance

/-- A number with zeros in front up to a width. -/
def padded (width : Nat) (n : Int) : List Char :=
  let ds := (toString n.natAbs).toList
  let sign := if n < 0 then ['-'] else []
  sign ++ List.replicate (width - sign.length - ds.length) '0' ++ ds

/-- Whether the number in a text begins with a zero that counts. -/
def hasZero (s : List Char) : Bool :=
  let ds := s.dropWhile fun c => c = '-' || c = '+'
  ds.head? = some '0' && 1 < ds.length

/-- The texts between two dots each. -/
def betweenDots : List Char → List (List Char)
  | [] => [[]]
  | '.' :: '.' :: rest => [] :: betweenDots rest
  | c :: rest =>
    match betweenDots rest with
    | first :: more => (c :: first) :: more
    | [] => [[c]]

/-- The members of a sequence from one end to another. -/
def members? (a b : List Char) (step : Int) : Option (List (List Char)) :=
  match integer? a, integer? b with
  | some m, some n =>
    let width := if hasZero a || hasZero b then max a.length b.length else 0
    some ((range m n step.natAbs).map (padded width))
  | _, _ =>
    match a, b with
    | [c], [d] =>
      if c.isAlpha ∧ d.isAlpha then
        some ((range c.toNat d.toNat step.natAbs).map fun n => [Char.ofNat n.toNat])
      else none
    | _, _ => none

/-- The members of the sequence that a text stands for. -/
def sequence? (s : List Char) : Option (List (List Char)) :=
  match betweenDots s with
  | [a, b] => members? a b 1
  | [a, b, c] => (integer? c).bind (members? a b)
  | _ => none

/-! ## Words -/

/-- What stands between the commas of braces whose opening sign was read, and what follows them. -/
def split : (depth : Nat) → List Piece → Option (List (List Piece) × List Piece)
  | _, [] => none
  | depth, p :: rest =>
    let keep := fun (depth : Nat) =>
      match split depth rest with
      | some (first :: more, after) => some ((p :: first) :: more, after)
      | _ => none
    match p, depth with
    | .char '\x7d', 0 => some ([[]], rest)
    | .char '\x7d', depth + 1 => keep depth
    | .char '\x7b', depth => keep (depth + 1)
    | .char ',', 0 => (split 0 rest).map fun (all, after) => ([] :: all, after)
    | _, depth => keep depth

/-- The text of pieces that are all characters. -/
def text? (ps : List Piece) : Option (List Char) :=
  ps.mapM fun
    | .char c => some c
    | .part _ => none

/-- All combinations of a first and a second part. -/
def join (as bs : List (List Piece)) : List (List Piece) :=
  as.flatMap fun a => bs.map (a ++ ·)

/-- The words that pieces stand for. -/
def expand : Nat → List Piece → List (List Piece)
  | 0, ps => [ps]
  | _ + 1, [] => [[]]
  | fuel + 1, .char '\x7b' :: rest =>
    let plainly := (expand fuel rest).map (.char '\x7b' :: ·)
    match split 0 rest with
    | none => plainly
    | some ([single], after) =>
      match (text? single).bind sequence? with
      | some members => join (members.map (·.map .char)) (expand fuel after)
      | none => plainly
    | some (all, after) => join (all.flatMap (expand fuel)) (expand fuel after)
  | fuel + 1, p :: rest => (expand fuel rest).map (p :: ·)

end Braces

/-- The words that a word with braces stands for. -/
def expandBraces (w : Word) : List Word :=
  let hasBrace := w.any fun
    | .text s false => s.contains '\x7b'
    | _ => false
  if hasBrace then
    let ps := pieces w
    (Braces.expand (ps.length + 1) ps).map ofPieces
  else [w]

end ProgramRepair.Shell
