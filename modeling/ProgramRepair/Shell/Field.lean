import ProgramRepair.Shell.State

/-!
# Fields

Expanded words consist of atoms: characters that know whether they are quoted
and whether they may separate fields. `splitFields` makes fields of them, and
`expandField` finds the files that a field stands for. `treatValue` says what
patterns make of a value.
-/

namespace ProgramRepair.Shell

open Machine

/-! ## Fields -/

/-- A piece of an expanded word. -/
inductive Atom where
  | char (c : Char) (quoted separates : Bool)
  /-- Here is a field, even if it is empty. -/
  | mark
  /-- Here one field ends and another begins. -/
  | boundary
deriving DecidableEq, Repr

/-- Text as atoms. Text that is not quoted may separate fields. -/
def textAtoms (text : List Char) (quoted : Bool) : List Atom :=
  if quoted then .mark :: text.map fun c => .char c true false
  else text.map fun c => .char c false true

/-- The state of splitting: finished fields and the current one, all in reverse order. -/
structure Splitter where
  fields : List (List Glyph)
  current : Option (List Glyph)
  /-- Whether blanks have just ended a field. -/
  afterBlank : Bool

namespace Splitter

/-- Ends the current field if there is one. -/
def close (s : Splitter) (afterBlank : Bool) : Splitter :=
  match s.current with
  | some field => ⟨field.reverse :: s.fields, none, afterBlank⟩
  | none => s

/-- Takes one atom. A separator that is no blank ends a field, which may be empty; blanks around it
belong to it. -/
def step (separators : List Char) (s : Splitter) : Atom → Splitter
  | .mark => { s with current := some (s.current.getD []), afterBlank := false }
  | .boundary => { s.close false with afterBlank := false }
  | .char c quoted separates =>
    if separates && separators.contains c then
      if c = ' ' ∨ c = '\t' ∨ c = '\n' then s.close true
      else
        match s.current with
        | some _ => s.close false
        | none =>
          if s.afterBlank then { s with afterBlank := false }
          else { s with fields := [] :: s.fields }
    else { s with current := some ((c, quoted) :: s.current.getD []), afterBlank := false }

end Splitter

/-- The fields of an expanded word. -/
def splitFields (separators : List Char) (atoms : List Atom) : List (List Glyph) :=
  ((atoms.foldl (Splitter.step separators) ⟨[], none, false⟩).close false).fields.reverse

/-- An expanded word as a single pattern. -/
def atomsPattern (atoms : List Atom) : List Glyph :=
  atoms.filterMap fun
    | .char c quoted _ => some (c, quoted)
    | .boundary => some (' ', true)
    | .mark => none

/-- An expanded word as a single text. -/
def atomsText (atoms : List Atom) : List Char := Pattern.plain (atomsPattern atoms)

/-! ## File names -/

/-- The texts between slashes. -/
def pathPieces : List Glyph → List (List Glyph)
  | [] => [[]]
  | (c, quoted) :: rest =>
    match pathPieces rest with
    | [] => [[(c, quoted)]]
    | piece :: pieces =>
      if c = '/' then [] :: piece :: pieces else ((c, quoted) :: piece) :: pieces

/-- How patterns choose files. -/
structure Globbing where
  extended : Bool
  /-- Whether names that begin with a dot need not be asked for. -/
  hidden : Bool
  /-- Whether a pattern that no file fits stands for nothing. -/
  vanishing : Bool

/-- The names in a directory that fit a pattern, in order. Names that begin with a dot have to be
asked for. The names of a directory itself and of the one above it are none in the extended
language. -/
def namesFitting (g : Globbing) (d : Disk) (cwd : Place) (dir : List Char) (p : List Glyph) :
    List (List Char) :=
  match d.find cwd (if dir = [] then "." else pathText dir) with
  | .ok (place, .directory _) =>
    let asked := p.head?.any fun g => g.1 = '.'
    let names := (d.children place ++ (if asked && !g.extended then [".", ".."] else [])).map byteChars
    (names.filter fun name =>
      Pattern.fits p name && (asked || g.hidden || name.head? ≠ some '.')).mergeSort
        fun a b => !(b < a)
  | _ => []

/-- The paths that fit the pieces that are left, below the text in front of them. -/
def pathsFitting (g : Globbing) (d : Disk) (cwd : Place) (front : List Char) :
    List (List Glyph) → List (List Char)
  | [] => []
  | [p] =>
    if Pattern.isPattern p then (namesFitting g d cwd front p).map (front ++ ·)
    else
      let path := front ++ Pattern.plain p
      if (d.findEntry cwd (pathText path)).toOption.isSome then [path] else []
  | p :: rest =>
    if Pattern.isPattern p then
      (namesFitting g d cwd front p).flatMap fun name =>
        pathsFitting g d cwd (front ++ name ++ ['/']) rest
    else pathsFitting g d cwd (front ++ Pattern.plain p ++ ['/']) rest

/-- What a field stands for: the files that fit it, or itself if there are none. -/
def expandField (g : Globbing) (d : Disk) (cwd : Place) (field : List Glyph) :
    List (List Char) :=
  if Pattern.isPattern field then
    match pathsFitting g d cwd [] (pathPieces field) with
    | [] => if g.vanishing then [] else [Pattern.plain field]
    | paths => paths
  else [Pattern.plain field]

/-! ## Treatments -/

/-- A text in a form that can be read again. -/
def quotedForm (s : List Char) : List Char :=
  '\'' :: s.flatMap (fun c => if c = '\'' then "'\\''".toList else [c]) ++ ['\'']

/-- A value with its letters changed: the first one or every one, if it fits the pattern. -/
def changeLetters (upper every : Bool) (p : List Glyph) (s : List Char) : List Char :=
  let change := fun (c : Char) =>
    if p.isEmpty || Pattern.fits p [c] then (if upper then c.toUpper else c.toLower) else c
  match s with
  | [] => []
  | c :: rest => change c :: (if every then rest.map change else rest)

/-- A value after a treatment with patterns. -/
def treatValue (t : Treatment) (p r : List Glyph) (s : List Char) : List Char :=
  match t with
  | .dropEnd longest => Pattern.dropEnd longest p s
  | .dropStart longest => Pattern.dropStart longest p s
  | .replacement .first => Pattern.replaceWithin false p r (s.length + 1) s
  | .replacement .every => Pattern.replaceWithin true p r (s.length + 1) s
  | .replacement .front => Pattern.replaceFront p r s
  | .replacement .back => Pattern.replaceBack p r s
  | .letters upper every => changeLetters upper every p s
  | .quotation => quotedForm s
  | _ => s

end ProgramRepair.Shell
