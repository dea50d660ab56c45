import ProgramRepair.Text.CharClass

/-!
# Patterns

A pattern is a text in which an unquoted `*` stands for any text, `?` for any
character, and a set in brackets for one of its characters. Patterns choose file
names and the arms of selections, and cut ends off values.
-/

namespace ProgramRepair

/-- A character and whether it is quoted. -/
abbrev Glyph := Char × Bool

/-- A text without quotes. -/
def bareText (s : List Char) : List Glyph := s.map fun c => (c, false)

namespace Pattern

/-- What one position of a pattern can stand for. -/
inductive Item where
  | anyText
  | anyChar
  | char (c : Char)
  | set (negated : Bool) (ranges : List (Char × Char)) (classes : List (List Char))
deriving DecidableEq, Repr

/-- The name of a class at the start of the inside of a set, and what follows it. -/
def className? (s : List Glyph) : Option (List Char × List Glyph) :=
  match s with
  | ('[', _) :: (':', _) :: rest =>
    let name := rest.takeWhile fun g => g.1.isAlpha
    match rest.drop name.length with
    | (':', _) :: (']', _) :: rest => some (name.map (·.1), rest)
    | _ => none
  | _ => none

/-- The inside of a set up to its closing bracket; `first` says that nothing was read yet. -/
def setItems? (first : Bool) (ranges : List (Char × Char)) (classes : List (List Char)) :
    Nat → List Glyph → Option (List (Char × Char) × List (List Char) × List Glyph)
  | 0, _ => none
  | _ + 1, [] => none
  | fuel + 1, (c, quoted) :: rest =>
    if c = ']' ∧ !quoted ∧ !first then some (ranges, classes, rest)
    else
      match (if quoted then none else className? ((c, quoted) :: rest)) with
      | some (name, rest) => setItems? false ranges (name :: classes) fuel rest
      | none =>
        match rest with
        | ('-', false) :: (d, q) :: rest' =>
          if d = ']' ∧ !q then setItems? false ((c, c) :: ranges) classes fuel rest
          else setItems? false ((c, d) :: ranges) classes fuel rest'
        | _ => setItems? false ((c, c) :: ranges) classes fuel rest

/-- The items of a pattern. A bracket without its partner stands for itself. -/
def itemsWithin : Nat → List Glyph → List Item
  | 0, _ => []
  | _ + 1, [] => []
  | fuel + 1, (c, true) :: rest => .char c :: itemsWithin fuel rest
  | fuel + 1, ('*', false) :: rest => .anyText :: itemsWithin fuel rest
  | fuel + 1, ('?', false) :: rest => .anyChar :: itemsWithin fuel rest
  | fuel + 1, ('\\', false) :: (c, _) :: rest => .char c :: itemsWithin fuel rest
  | fuel + 1, ('[', false) :: rest =>
    let (negated, inside) := match rest with
      | ('!', false) :: inside => (true, inside)
      | ('^', false) :: inside => (true, inside)
      | inside => (false, inside)
    match setItems? true [] [] (inside.length + 1) inside with
    | some (ranges, classes, rest) => .set negated ranges classes :: itemsWithin fuel rest
    | none => .char '[' :: itemsWithin fuel rest
  | fuel + 1, (c, false) :: rest => .char c :: itemsWithin fuel rest

/-- The items of a pattern. -/
def items (p : List Glyph) : List Item := itemsWithin (p.length + 1) p

/-- Whether a character fits an item. -/
def Item.fits (i : Item) (c : Char) : Bool :=
  match i with
  | anyText => true
  | anyChar => true
  | char d => c = d
  | set negated ranges classes =>
    negated != (ranges.any (fun (a, b) => a ≤ c && c ≤ b) || classes.any fun name => Text.inClass name c)

/-- Whether a text fits a pattern. -/
def fitsItems : List Item → List Char → Bool
  | [], s => s.isEmpty
  | .anyText :: items, s =>
    fitsItems items s ||
      match s with
      | [] => false
      | _ :: rest => fitsItems (.anyText :: items) rest
  | _ :: _, [] => false
  | item :: items, c :: rest => item.fits c && fitsItems items rest
termination_by items s => items.length + s.length

/-- Whether a text fits a pattern. -/
def fits (p : List Glyph) (s : List Char) : Bool := fitsItems (items p) s

/-- Whether a text holds signs that make it a pattern. -/
def isPattern (p : List Glyph) : Bool :=
  p.any fun (c, quoted) => !quoted && (c = '*' || c = '?' || c = '[')

/-- The text that a pattern stands for if its signs stand for themselves. -/
def plain (p : List Glyph) : List Char := p.map (·.1)

/-! ## Cutting -/

/-- The value without a start that fits the pattern; with `longest` the longest one. -/
def dropStart (longest : Bool) (p : List Glyph) (s : List Char) : List Char :=
  let lengths := List.range (s.length + 1)
  let lengths := if longest then lengths.reverse else lengths
  match lengths.find? fun n => fits p (s.take n) with
  | some n => s.drop n
  | none => s

/-- The value without an end that fits the pattern; with `longest` the longest one. -/
def dropEnd (longest : Bool) (p : List Glyph) (s : List Char) : List Char :=
  let lengths := List.range (s.length + 1)
  let lengths := if longest then lengths else lengths.reverse
  match lengths.find? fun n => fits p (s.drop n) with
  | some n => s.take n
  | none => s

/-! ## Replacing -/

/-- The longest start of a text that fits the pattern, as its length. -/
def longestFit? (p : List Glyph) (s : List Char) : Option Nat :=
  (List.range (s.length + 1)).reverse.find? fun n => fits p (s.take n)

/-- A text for what fits, in which an unquoted `&` stands for that itself. -/
def replacement (r : List Glyph) (found : List Char) : List Char :=
  match r with
  | [] => []
  | ('\\', false) :: (c, _) :: rest => c :: replacement rest found
  | ('&', false) :: rest => found ++ replacement rest found
  | (c, _) :: rest => c :: replacement rest found

/-- The value with the first place that fits, or every such place, replaced. An empty text is not
replaced. -/
def replaceWithin (every : Bool) (p r : List Glyph) : Nat → List Char → List Char
  | 0, s => s
  | _ + 1, [] => []
  | fuel + 1, c :: s =>
    match longestFit? p (c :: s) with
    | none | some 0 => c :: replaceWithin every p r fuel s
    | some n =>
      let rest := (c :: s).drop n
      replacement r ((c :: s).take n) ++ (if every then replaceWithin every p r fuel rest else rest)

/-- The value with its longest start that fits replaced. -/
def replaceFront (p r : List Glyph) (s : List Char) : List Char :=
  match longestFit? p s with
  | some n => replacement r (s.take n) ++ s.drop n
  | none => s

/-- The value with its longest end that fits replaced. -/
def replaceBack (p r : List Glyph) (s : List Char) : List Char :=
  match (List.range (s.length + 1)).find? fun n => fits p (s.drop n) with
  | some n => s.take n ++ replacement r (s.drop n)
  | none => s

end Pattern

end ProgramRepair
