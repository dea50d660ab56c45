/-!
# Lines and pieces of a text

A text is cut at a separator and glued together again; `glue_cut` says that
nothing is lost on the way. `occursIn` and `countOccurrences` look for a
shorter text inside a longer one.
-/

namespace ProgramRepair.Text

/-- The pieces of a text between the occurrences of `sep`. There is always one
piece more than there are separators, so the empty text has one empty piece. -/
def cut (sep : Char) : List Char → List (List Char)
  | [] => [[]]
  | c :: cs =>
    if c = sep then [] :: cut sep cs
    else match cut sep cs with
      | [] => [[c]]
      | piece :: pieces => (c :: piece) :: pieces

/-- The pieces put one after the other with `sep` between neighbours. -/
def glue (sep : Char) : List (List Char) → List Char
  | [] => []
  | [piece] => piece
  | piece :: pieces => piece ++ sep :: glue sep pieces

theorem cut_ne_nil (sep : Char) (s : List Char) : cut sep s ≠ [] := by
  cases s with
  | nil => simp [cut]
  | cons c cs =>
    simp only [cut]
    split
    · simp
    · split <;> simp

theorem glue_cons_cons (sep c : Char) (piece : List Char) (pieces : List (List Char)) :
    glue sep ((c :: piece) :: pieces) = c :: glue sep (piece :: pieces) := by
  cases pieces <;> simp [glue]

/-- Cutting loses nothing. -/
theorem glue_cut (sep : Char) (s : List Char) : glue sep (cut sep s) = s := by
  induction s with
  | nil => rfl
  | cons c cs ih =>
    simp only [cut]
    split
    · next h =>
      cases hc : cut sep cs with
      | nil => exact absurd hc (cut_ne_nil sep cs)
      | cons piece pieces => rw [hc] at ih; simp [glue, ih, h]
    · cases hc : cut sep cs with
      | nil => exact absurd hc (cut_ne_nil sep cs)
      | cons piece pieces => rw [hc] at ih; simp [glue_cons_cons, ih]

/-- The text without one line break at its end, if it has one there. -/
def dropFinalBreak (s : List Char) : List Char :=
  if s.getLast? = some '\n' then s.dropLast else s

/-- What stands after the last line break. -/
def lastLine (s : List Char) : List Char :=
  (s.reverse.takeWhile (· ≠ '\n')).reverse

/-- The first physical line, without its line break `\n` or `\r\n`. -/
def firstLine (s : List Char) : List Char :=
  let line := s.takeWhile (· ≠ '\n')
  if line.length < s.length && line.getLast? = some '\r' then line.dropLast else line

/-- What remains of `s` after `lead`, if `s` starts with it. -/
def dropLead? : List Char → List Char → Option (List Char)
  | [], s => some s
  | _ :: _, [] => none
  | a :: lead, c :: s => if a = c then dropLead? lead s else none

/-- Whether `s` starts with `lead`. -/
def startsWith (s lead : List Char) : Bool :=
  (dropLead? lead s).isSome

/-- Whether `part` stands somewhere in the text. -/
def occursIn (part : List Char) : List Char → Bool
  | [] => part.isEmpty
  | c :: s => startsWith (c :: s) part || occursIn part s

/-- How often `part` stands in the text, occurrences taken from the left without overlap. The
empty part stands before every character and at the end. -/
def countOccurrences (part : List Char) (s : List Char) : Nat :=
  if part.isEmpty then s.length + 1 else go s.length s
where
  /-- The count, with at most `fuel` characters left to look at. -/
  go : Nat → List Char → Nat
    | 0, _ => 0
    | _ + 1, [] => 0
    | fuel + 1, c :: s =>
      match dropLead? part (c :: s) with
      | some rest => go fuel rest + 1
      | none => go fuel s

end ProgramRepair.Text
