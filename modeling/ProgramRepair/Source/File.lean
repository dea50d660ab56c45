import ProgramRepair.Binary64.Basic
import ProgramRepair.Source.Split

/-!
# Source files under edit

An edit names the unit that it changes and, where it brings new text, the unit
that the text is taken from. Units are those of the unedited file, so a site
means the same whatever other edits a patch holds.

A `File` is a target file split into units. `File.render` gives its contents
under a list of edits: a later change of a unit's text replaces an earlier one,
while insertions in front of a unit add up. At statement granularity moved text
takes over the indentation of its new place, and a deleted statement leaves a
`pass` behind, so that the block around it is not empty.
-/

/-! ## Edits -/

namespace ProgramRepair

/-- The kinds of edit. -/
inductive EditOperator where
  /-- Put a copy of another unit in the place of a unit. -/
  | replacement
  /-- Put a copy of another unit in front of a unit. -/
  | insertion
  /-- Take a unit away. -/
  | deletion
deriving DecidableEq, Repr, Inhabited, Hashable

namespace EditOperator

/-- All operators in their usual order. -/
def all : List EditOperator := [replacement, insertion, deletion]

/-- The name of an operator as it stands in messages. -/
def name : EditOperator → String
  | replacement => "Replacement"
  | insertion => "Insertion"
  | deletion => "Deletion"

end EditOperator

namespace Source

/-- A unit of one of the target files. -/
structure Site where
  file : Nat
  unit : Nat
deriving DecidableEq, Repr, Inhabited, Hashable

/-- One change of a source file. -/
inductive Edit where
  | replacement (target ingredient : Site)
  | insertion (target ingredient : Site)
  | deletion (target : Site)
deriving DecidableEq, Repr, Inhabited, Hashable

namespace Edit

/-- The unit that an edit changes. -/
def target : Edit → Site
  | replacement target _ => target
  | insertion target _ => target
  | deletion target => target

/-- The edit of the given kind; a deletion has no use for the ingredient. -/
def ofOperator (op : EditOperator) (target ingredient : Site) : Edit :=
  match op with
  | .replacement => replacement target ingredient
  | .insertion => insertion target ingredient
  | .deletion => deletion target

end Edit

end Source

end ProgramRepair

/-! ## Files -/

namespace ProgramRepair.Source

open Text

/-- The blanks that the first line of a text starts with. -/
def indentation (text : List Char) : List Char :=
  (firstLine text).takeWhile isBlank

/-- The text with the indentation `was` replaced by `now` on every line that has it. -/
def reindent (was now text : List Char) : List Char :=
  glue '\n' <| (cut '\n' text).map fun line =>
    match dropLead? was line with
    | some rest => now ++ rest
    | none => line

/-- A target file, split into units. -/
structure File where
  path : String
  granularity : Granularity
  split : Split
  /-- How likely a unit is to be chosen for an edit. -/
  weights : List Binary64
  /-- Whether the text ends with a line break. -/
  finalBreak : Bool
deriving Repr, Inhabited

/-- What stands at a unit's place: inserted texts and, after them, the unit's own text. -/
structure Slot where
  before : List (List Char)
  body : List Char
deriving DecidableEq, Repr

namespace File

/-- A text split into units, all of the same weight. -/
def parse (path : String) (granularity : Granularity) (text : List Char) : File :=
  let split := splitLines granularity (linesOf text)
  { path, granularity, split
    weights := split.units.map fun _ => .one
    finalBreak := text.getLast? = some '\n' }

def unitCount (f : File) : Nat := f.split.units.length

/-- The text of a unit. -/
def unit? (f : File) (index : Nat) : Option (List Char) := f.split.units[index]?

/-- A unit's text made to fit the place of another one. -/
def transplant? (f : File) (ingredient target : Nat) : Option (List Char) := do
  let text ← f.unit? ingredient
  match f.granularity with
  | .line => some text
  | .statement =>
    let there ← f.unit? target
    some (reindent (indentation text) (indentation there) text)

/-- What a deleted unit leaves behind. -/
def remnant (f : File) (text : List Char) : List Char :=
  match f.granularity with
  | .line => []
  | .statement => indentation text ++ "pass".toList

/-- The slots without any edit. -/
def freshSlots (f : File) : List Slot := f.split.units.map fun text => ⟨[], text⟩

/-- The slots after one edit of this file. An edit that names a unit which is not there changes
nothing. -/
def applyEdit (f : File) (slots : List Slot) : Edit → List Slot
  | .replacement target ingredient =>
    match f.transplant? ingredient.unit target.unit with
    | some text => slots.modify target.unit fun slot => { slot with body := text }
    | none => slots
  | .insertion target ingredient =>
    match f.transplant? ingredient.unit target.unit with
    | some text => slots.modify target.unit fun slot => { slot with before := slot.before ++ [text] }
    | none => slots
  | .deletion target =>
    match f.unit? target.unit with
    | some text => slots.modify target.unit fun slot => { slot with body := f.remnant text }
    | none => slots

/-- The slots after the edits that target the file with number `fileIndex`. -/
def slots (f : File) (fileIndex : Nat) (edits : List Edit) : List Slot :=
  (edits.filter fun e => e.target.file = fileIndex).foldl f.applyEdit f.freshSlots

/-- The lines at the places of the pieces. -/
def linesOfSlots (f : File) (slots : List Slot) : List (List Char) :=
  f.split.pieces.flatMap fun
    | .fixed line => [line]
    | .unit index =>
      match slots[index]? with
      | some slot => slot.before ++ [slot.body]
      | none => []

/-- Lines as a text, with a line break at its end if the file has one. -/
def textOfLines (f : File) (lines : List (List Char)) : List Char :=
  glue '\n' lines ++ (if f.finalBreak ∧ lines ≠ [] then ['\n'] else [])

/-- The contents of the file under some edits. -/
def render (f : File) (fileIndex : Nat) (edits : List Edit) : List Char :=
  f.textOfLines (f.linesOfSlots (f.slots fileIndex edits))

/-- The contents of the file as it was read. -/
def original (f : File) : List Char :=
  f.textOfLines (f.linesOfSlots f.freshSlots)

end File

end ProgramRepair.Source
