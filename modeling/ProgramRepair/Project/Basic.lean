import ProgramRepair.Config.Basic
import ProgramRepair.Diff.Unified
import ProgramRepair.Disk.Path
import ProgramRepair.Random.Stream
import ProgramRepair.Search.Patch
import ProgramRepair.Source.File

/-!
# Projects

A project is the target files of a program with the settings for testing it. A
patch is shown by the diffs of all files that it changes, and an edit by the
paths and numbers of its units.

A new edit is drawn in three steps: a file that has units, the unit to change,
and the unit to take text from, which is drawn for deletions too. The unit to
change is drawn uniformly or by weight. By weight, a point is drawn on a line on
which every unit has a stretch as long as its weight.
-/

namespace ProgramRepair

/-- What can go wrong when a program is set up. -/
inductive ProgramError where
  | config (cause : ConfigError)
  /-- A target file cannot be read. -/
  | readTarget (path : String) (cause : Disk.Error)
  /-- No target file has this path. -/
  | unknownTarget (path : String)
  /-- There is not one weight for each unit. -/
  | weightCount (path : String) (expected actual : Nat)
  /-- A weight is negative or no finite number. -/
  | invalidWeight
deriving DecidableEq, Repr

def ProgramError.message : ProgramError → String
  | config cause => cause.message
  | readTarget path cause => "Failed to read target file " ++ path ++ ": " ++ cause.message
  | unknownTarget path => path ++ " is not a target file"
  | weightCount path expected actual =>
    "Expected " ++ toString expected ++ " weights for " ++ path ++ ", got " ++ toString actual
  | invalidWeight => "Weights must be finite and non-negative"

/-- A program under repair. -/
structure Project where
  /-- The directory of the project. -/
  root : String
  testCommand : String
  classifier : Classifier
  files : List Source.File
deriving Repr, Inhabited

namespace Project

/-! ## Weights -/

/-- Whether a number can be the weight of a unit. -/
def isWeight (w : Binary64) : Bool := w.isFinite && !w.lt .zero

/-- Sets the weights of the units of one target file. -/
def setWeights (p : Project) (target : String) (weights : List Binary64) :
    Except ProgramError Project :=
  match p.files.findIdx? fun f => Disk.samePath f.path target with
  | none => .error (.unknownTarget target)
  | some i =>
    let expected := (p.files[i]?.map (·.unitCount)).getD 0
    if weights.length ≠ expected then .error (.weightCount target expected weights.length)
    else if weights.any (!isWeight ·) then .error .invalidWeight
    else .ok { p with files := p.files.modify i fun f => { f with weights } }

/-! ## Patches -/

/-- The contents of every target file under a patch. -/
def render (p : Project) (patch : Patch Source.Edit) : List (List Char) :=
  p.files.mapIdx fun i f => f.render i patch.edits

/-- A patch as a unified diff of all files. -/
def diff (p : Project) (patch : Patch Source.Edit) : String :=
  String.ofList <|
    (p.files.zip (p.render patch)).flatMap fun (f, contents) =>
      Diff.unified f.path.toList f.original contents

/-- A unit by its path and number. -/
def describeSite (p : Project) (s : Source.Site) : Except Fault String :=
  match p.files[s.file]? with
  | some f => .ok (f.path ++ ":" ++ toString s.unit)
  | none => .error (.noSuchFile s.file)

/-- An edit by its kind and units. -/
def describe (p : Project) : Source.Edit → Except Fault String
  | .replacement target ingredient => do
    return "Replacement(" ++ (← p.describeSite target) ++ ", " ++ (← p.describeSite ingredient) ++ ")"
  | .insertion target ingredient => do
    return "Insertion(" ++ (← p.describeSite target) ++ ", " ++ (← p.describeSite ingredient) ++ ")"
  | .deletion target => do return "Deletion(" ++ (← p.describeSite target) ++ ")"

end Project

/-! ## New edits -/

namespace WeightedChoice

/-- The sums of the weights before each element after the first one, and the total. -/
def runningSums (start : Binary64) : List Binary64 → List Binary64 × Binary64
  | [] => ([], start)
  | w :: ws =>
    let (sums, total) := runningSums (start + w) ws
    (start :: sums, total)

/-- The largest number below 1 that is drawn. -/
def largestFraction : Binary64 := .ofDecimal false 1 0 + - ofStep
where
  /-- The distance of numbers that are drawn below 1. -/
  ofStep : Binary64 := ⟨false, (0x3FF - 52) * Nat.pow 2 52⟩

/-- The factor for numbers below 1 that keeps every product below `total`. -/
def scale (total : Binary64) : Binary64 :=
  if (total * largestFraction).lt total then total else ⟨total.negative, total.magnitude - 1⟩

/-- A number below 1 with 52 binary places. -/
def fraction (s : Stream) : Binary64 × Stream :=
  let (w, s) := s.doubleWord
  (.ofNat (w.toNat / Nat.pow 2 12) * ⟨false, (0x3FF - 52) * Nat.pow 2 52⟩, s)

/-- A place in a list of weights, drawn by weight. If all weights are zero there is none. -/
def draw (weights : List Binary64) (s : Stream) : Except Fault (Option Nat × Stream) :=
  match weights with
  | [] => .ok (none, s)
  | w :: ws =>
    let (sums, total) := runningSums w ws
    if total.isZero then .ok (none, s)
    else if !total.isFinite then .error .infiniteWeight
    else
      let (x, s) := fraction s
      let point := x * scale total
      .ok (some ((sums.takeWhile fun c => c.le point).length), s)

end WeightedChoice

namespace Project

/-- The unit of a file that an edit changes. -/
def drawTarget (f : Source.File) (method : SelectionMethod) (s : Stream) :
    Except Fault (Nat × Stream) :=
  match method with
  | .random => .ok (s.below .double f.unitCount)
  | .weighted => do
    match ← WeightedChoice.draw f.weights s with
    | (some i, s) => return (i, s)
    | (none, s) => return s.below .double f.unitCount

/-- The numbers of the files that have units. -/
def editableFiles (p : Project) : List Nat :=
  (List.range p.files.length).filter fun i => (p.files[i]?.any fun f => 0 < f.unitCount)

/-- A new edit of a given kind; there is none if no file has units. -/
def createEdit (p : Project) (op : EditOperator) (method : SelectionMethod) (s : Stream) :
    Except Fault (Option Source.Edit × Stream) :=
  match s.choose p.editableFiles with
  | (none, s) => .ok (none, s)
  | (some file, s) =>
    match p.files[file]? with
    | none => .ok (none, s)
    | some f => do
      let (target, s) ← drawTarget f method s
      let (ingredient, s) := s.below .double f.unitCount
      return (some (.ofOperator op ⟨file, target⟩ ⟨file, ingredient⟩), s)

end Project

end ProgramRepair
