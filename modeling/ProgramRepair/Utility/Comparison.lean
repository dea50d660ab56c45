import Std.Data.HashMap

/-!
# Comparing sequences

Which lines of two files have changed. The common start and end is put aside, and so
are lines that the other file does not have. A shortest way from the rest of one file to
the rest of the other is found from both ends at once, and where the ways meet the search
is divided. In the end every run of changed lines is moved as far down as it can be, or
to where the other file has changed too.
-/

namespace ProgramRepair.Utility

/-- Lines that have changed: where they begin in the two files, counted from 0, and how many there
are. -/
structure Change where
  old : Nat
  deleted : Nat
  new : Nat
  inserted : Nat
deriving DecidableEq, Repr

namespace Comparison

/-! ## Lines as numbers -/

/-- Numbers for lines, the same for equal ones. -/
def number (seen : Std.HashMap String Nat) : List (List Char) →
    List Nat × Std.HashMap String Nat
  | [] => ([], seen)
  | line :: rest =>
    let (n, seen) := match seen[String.ofList line]? with
      | some n => (n, seen)
      | none => (seen.size, seen.insert (String.ofList line) seen.size)
    let (ns, seen) := number seen rest
    (n :: ns, seen)

/-- Two files whose lines are numbers. -/
structure Pair where
  old : Array Nat
  new : Array Nat

namespace Pair

/-- Whether a line of the old file is one of the new file. -/
def same (p : Pair) (i j : Int) : Bool :=
  match p.old[i.toNat]?, p.new[j.toNat]? with
  | some a, some b => a = b
  | _, _ => false

/-- How many lines from `i` and `j` on are the same, up to the ends `m` and `n`. -/
def slideDown (p : Pair) (m n : Int) : Nat → Int → Int → Int
  | 0, i, _ => i
  | fuel + 1, i, j =>
    if i < m ∧ j < n ∧ p.same i j then p.slideDown m n fuel (i + 1) (j + 1) else i

/-- How far up from `i` and `j` lines are the same, down to the starts `m` and `n`. -/
def slideUp (p : Pair) (m n : Int) : Nat → Int → Int → Int
  | 0, i, _ => i
  | fuel + 1, i, j =>
    if m < i ∧ n < j ∧ p.same (i - 1) (j - 1) then p.slideUp m n fuel (i - 1) (j - 1) else i

def size (p : Pair) : Nat := p.old.size + p.new.size

end Pair

/-! ## The middle of a way -/

/-- A part of both files. -/
structure Window where
  oldStart : Int
  oldEnd : Int
  newStart : Int
  newEnd : Int

/-- How far the ways have come on each diagonal. A diagonal is the difference of two positions. -/
structure Front where
  offset : Int
  reach : Array Int
  /-- The outermost diagonals of the latest round. -/
  low : Int
  high : Int

namespace Front

def get (f : Front) (d : Int) : Int := (f.reach[(d + f.offset).toNat]?).getD 0

def set (f : Front) (d x : Int) : Front :=
  { f with reach := f.reach.setIfInBounds (d + f.offset).toNat x }

/-- A front with nothing but a point on a diagonal. -/
def start (p : Pair) (diagonal x : Int) : Front :=
  ({ offset := p.new.size + 1, reach := Array.replicate (p.size + 3) 0,
     low := diagonal, high := diagonal } : Front).set diagonal x

/-- Widens a front by a diagonal on each side within bounds, or makes it narrower there; `beyond`
stands for a diagonal that was not reached. -/
def widen (f : Front) (least greatest beyond : Int) : Front :=
  let f := if least < f.low then { f with low := f.low - 1 }.set (f.low - 2) beyond
    else { f with low := f.low + 1 }
  if f.high < greatest then { f with high := f.high + 1 }.set (f.high + 2) beyond
  else { f with high := f.high - 1 }

end Front

/-- Goes down along the diagonals from `d` on, every other one. The result is the new front, or the
point at which the way from below is met. -/
def down (p : Pair) (w : Window) (meets : Bool) (back : Front) :
    Nat → Int → Front → Front × Option (Int × Int)
  | 0, _, f => (f, none)
  | fuel + 1, d, f =>
    if d < f.low then (f, none)
    else
      let before := f.get (d - 1)
      let after := f.get (d + 1)
      let start := if before < after then after else before + 1
      let x := p.slideDown w.oldEnd w.newEnd p.size start (start - d)
      let f := f.set d x
      if meets ∧ back.low ≤ d ∧ d ≤ back.high ∧ back.get d ≤ x then (f, some (x, x - d))
      else down p w meets back fuel (d - 2) f

/-- Goes up along the diagonals from `d` on, every other one. -/
def up (p : Pair) (w : Window) (meets : Bool) (front : Front) :
    Nat → Int → Front → Front × Option (Int × Int)
  | 0, _, b => (b, none)
  | fuel + 1, d, b =>
    if d < b.low then (b, none)
    else
      let before := b.get (d - 1)
      let after := b.get (d + 1)
      let start := if before < after then before else after - 1
      let x := p.slideUp w.oldStart w.newStart p.size start (start - d)
      let b := b.set d x
      if meets ∧ front.low ≤ d ∧ d ≤ front.high ∧ x ≤ front.get d then (b, some (x, x - d))
      else up p w meets front fuel (d - 2) b

/-- The point at which the ways from both ends of a window meet. -/
def middle (p : Pair) (w : Window) : Nat → Front → Front → Int × Int
  | 0, _, _ => (w.oldStart, w.newStart)
  | fuel + 1, f, b =>
    let least := w.oldStart - w.newEnd
    let greatest := w.oldEnd - w.newStart
    let odd : Bool := (w.oldStart - w.newStart - (w.oldEnd - w.newEnd)) % 2 ≠ 0
    let f := f.widen least greatest (-1)
    match down p w odd b (p.size + 2) f.high f with
    | (_, some point) => point
    | (f, none) =>
      let b := b.widen least greatest (p.size + 1)
      match up p w (!odd) f (p.size + 2) b.high b with
      | (_, some point) => point
      | (b, none) => middle p w fuel f b

/-- The lines of a window that have changed in the old and in the new file. -/
def divide (p : Pair) : Nat → Window → List Nat × List Nat
  | 0, _ => ([], [])
  | fuel + 1, w =>
    let oldStart := p.slideDown w.oldEnd w.newEnd p.size w.oldStart w.newStart
    let newStart := w.newStart + (oldStart - w.oldStart)
    let oldEnd := p.slideUp oldStart newStart p.size w.oldEnd w.newEnd
    let newEnd := w.newEnd - (w.oldEnd - oldEnd)
    let w : Window := ⟨oldStart, oldEnd, newStart, newEnd⟩
    let between := fun (a b : Int) => (List.range (b - a).toNat).map (a.toNat + ·)
    if oldStart = oldEnd ∨ newStart = newEnd then
      (between oldStart oldEnd, between newStart newEnd)
    else
      let (x, y) := middle p w (p.size + 1) (.start p (oldStart - newStart) oldStart)
        (.start p (oldEnd - newEnd) oldEnd)
      let (a, b) := divide p fuel ⟨oldStart, x, newStart, y⟩
      let (c, d) := divide p fuel ⟨x, oldEnd, y, newEnd⟩
      (a ++ c, b ++ d)

/-! ## Moving runs -/

/-- Which lines have changed. -/
abbrev Marks := Array Bool

namespace Marks

def at' (m : Marks) (i : Nat) : Bool := (m[i]?).getD false

/-- The first line from `i` on that has not changed. -/
def skip (m : Marks) : Nat → Nat → Nat
  | 0, i => i
  | fuel + 1, i => if m.at' i then m.skip fuel (i + 1) else i

/-- The last line before `i` that has not changed. -/
def back (m : Marks) : Nat → Nat → Nat
  | 0, i => i
  | fuel + 1, i => if m.at' (i - 1) && 1 < i then m.back fuel (i - 1) else i - 1

/-- The start of the run of changed lines that ends before `i`. -/
def startBefore (m : Marks) : Nat → Nat → Nat
  | 0, i => i
  | fuel + 1, i => if 0 < i && m.at' (i - 1) then m.startBefore fuel (i - 1) else i

end Marks

/-- A run of changed lines from `start` to `stop`, the place in the other file that belongs to its
end, and the last end at which the other file has changed too. -/
structure Run where
  marks : Marks
  start : Nat
  stop : Nat
  other : Nat
  matching : Option Nat

/-- The file with the run, and what has changed in the other one. -/
structure Side where
  lines : Array Nat
  others : Marks

namespace Run

/-- Moves a run up while the line before it is its last one. -/
def moveUp (s : Side) : Nat → Run → Run
  | 0, r => r
  | fuel + 1, r =>
    if 0 < r.start ∧ s.lines[r.start - 1]? = s.lines[r.stop - 1]? then
      let start := r.start - 1
      let stop := r.stop - 1
      let marks := (r.marks.setIfInBounds start true).setIfInBounds stop false
      moveUp s fuel { r with
        marks, stop
        start := Marks.startBefore marks marks.size start
        other := Marks.back s.others s.others.size r.other }
    else r

/-- Moves a run down while its first line is the line after it. -/
def moveDown (s : Side) : Nat → Run → Run
  | 0, r => r
  | fuel + 1, r =>
    if r.stop < s.lines.size ∧ s.lines[r.start]? = s.lines[r.stop]? then
      let marks := (r.marks.setIfInBounds r.start false).setIfInBounds r.stop true
      let stop := Marks.skip marks marks.size (r.stop + 1)
      let other := Marks.skip s.others s.others.size (r.other + 1)
      moveDown s fuel { r with
        marks, stop, other
        start := r.start + 1
        matching := if other ≠ r.other + 1 then some stop else r.matching }
    else r

/-- Moves a run up and down until it does not grow any more. -/
def settle (s : Side) : Nat → Run → Run
  | 0, r => r
  | fuel + 1, r =>
    let length := r.stop - r.start
    let r := moveUp s s.lines.size r
    let matching := if 0 < r.other && s.others.at' (r.other - 1) then some r.stop else none
    let r := moveDown s s.lines.size { r with matching }
    if r.stop - r.start = length then r else settle s fuel r

/-- Moves a run up to the last end at which the other file has changed too. -/
def align (s : Side) : Nat → Run → Run
  | 0, r => r
  | fuel + 1, r =>
    if r.matching.any (· < r.stop) then
      let marks := (r.marks.setIfInBounds (r.start - 1) true).setIfInBounds (r.stop - 1) false
      align s fuel { r with
        marks
        start := r.start - 1
        stop := r.stop - 1
        other := Marks.back s.others s.others.size r.other }
    else r

end Run

/-- Moves all runs from the line `i` on, to which the line `j` of the other file belongs. -/
def settleAll (s : Side) : Nat → Nat → Nat → Marks → Marks
  | 0, _, _, marks => marks
  | fuel + 1, i, j, marks =>
    if s.lines.size ≤ i then marks
    else if !marks.at' i then
      settleAll s fuel (i + 1) (Marks.skip s.others s.others.size j + 1) marks
    else
      let stop := Marks.skip marks marks.size i
      let other := Marks.skip s.others s.others.size j
      let r := Run.settle s (s.lines.size + 1) ⟨marks, i, stop, other, none⟩
      let r := Run.align s s.lines.size r
      settleAll s fuel r.stop r.other r.marks

/-! ## Changes -/

/-- Runs of changed lines as changes. -/
def collect (old new : Marks) : Nat → Nat → Nat → List Change
  | 0, _, _ => []
  | fuel + 1, i, j =>
    if old.size ≤ i ∧ new.size ≤ j then []
    else
      let m := Marks.skip old old.size i
      let n := Marks.skip new new.size j
      let rest := collect old new fuel (m + 1) (n + 1)
      if m = i ∧ n = j then rest else ⟨i, m - i, j, n - j⟩ :: rest

/-- The marks for some lines of a file. -/
def marksOf (size : Nat) (lines : List Nat) : Marks :=
  lines.foldl (fun m i => m.setIfInBounds i true) (Array.replicate size false)

/-- The positions of lines that the other file has too. -/
def shared (lines others : Array Nat) : Array Nat :=
  let known : Std.HashMap Nat Unit := others.foldl (fun m n => m.insert n ()) ∅
  ((List.range lines.size).filter fun i => (lines[i]?).any known.contains).toArray

/-- The changes between two parts of files that begin at some lines. -/
def changesWithin (oldStart newStart : Nat) (old new : Array Nat) : List Change :=
  let oldShared := shared old new
  let newShared := shared new old
  let p : Pair := ⟨oldShared.map fun i => (old[i]?).getD 0, newShared.map fun i => (new[i]?).getD 0⟩
  let (a, b) := divide p (p.size + 1) ⟨0, p.old.size, 0, p.new.size⟩
  let lacking := fun (size : Nat) (sharedLines : Array Nat) (changed : List Nat) =>
    let marks := sharedLines.foldl (fun (m : Marks) i => m.setIfInBounds i false)
      (Array.replicate size true)
    changed.foldl (fun m k => m.setIfInBounds ((sharedLines[k]?).getD size) true) marks
  let oldMarks := lacking old.size oldShared a
  let newMarks := lacking new.size newShared b
  let oldMarks := settleAll ⟨old, newMarks⟩ (2 * old.size + 2) 0 0 oldMarks
  let newMarks := settleAll ⟨new, oldMarks⟩ (2 * new.size + 2) 0 0 newMarks
  (collect oldMarks newMarks (old.size + new.size + 2) 0 0).map fun c =>
    { c with old := c.old + oldStart, new := c.new + newStart }

/-- How many lines at the start of two files are the same. -/
def commonStart : List Nat → List Nat → Nat
  | a :: as, b :: bs => if a = b then commonStart as bs + 1 else 0
  | _, _ => 0

end Comparison

/-- The changes between two files. Lines are compared as `fold` leaves them, and `kept` lines of a
common end are looked at in case they belong to a change. -/
def changes (fold : List Char → List Char) (kept : Nat) (old new : List (List Char)) :
    List Change :=
  let (a, seen) := Comparison.number ∅ (old.map fold)
  let (b, _) := Comparison.number seen (new.map fold)
  let lead := Comparison.commonStart a b
  let a := a.drop lead
  let b := b.drop lead
  let tail := Comparison.commonStart a.reverse b.reverse - kept
  Comparison.changesWithin lead lead (a.take (a.length - tail)).toArray
    (b.take (b.length - tail)).toArray

end ProgramRepair.Utility
