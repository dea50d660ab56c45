/-!
# Edit scripts

A script turns one sequence of lines into another by runs of equal, deleted and
inserted lines. Each run knows where it stands in both sequences.

The shortest script between two ranges of lines is found by divide and conquer.
The search goes forward from the start and backward from the end along diagonals,
one difference more in each round, until both fronts meet; there the ranges are
split (`middle`). `Pair.script` strips what both ranges have in common at their
ends and goes on with both halves.
-/

namespace ProgramRepair.Diff

/-- The lines of a text, each with its line break `\n`, `\r\n` or `\r`; the last one may have
none. -/
def linesOf : List Char → List (List Char)
  | [] => []
  | '\r' :: '\n' :: rest => ['\r', '\n'] :: linesOf rest
  | c :: rest =>
    if c = '\n' ∨ c = '\r' then [c] :: linesOf rest
    else match linesOf rest with
      | [] => [[c]]
      | line :: lines => (c :: line) :: lines

/-- What happens to the lines of a run. -/
inductive Kind where
  | equal
  | delete
  | insert
deriving DecidableEq, Repr, Inhabited

/-- A run of lines: its start and length in the old and in the new sequence. A deleted run has no
new lines and an inserted run no old ones. -/
structure Run where
  kind : Kind
  old : Nat
  oldLength : Nat
  new : Nat
  newLength : Nat
deriving DecidableEq, Repr, Inhabited

namespace Run

def equal (old new length : Nat) : Run := ⟨.equal, old, length, new, length⟩

def delete (old length new : Nat) : Run := ⟨.delete, old, length, new, 0⟩

def insert (old new length : Nat) : Run := ⟨.insert, old, 0, new, length⟩

/-- Whether a run has no lines at all. -/
def isEmpty (r : Run) : Bool := r.oldLength == 0 && r.newLength == 0

/-- The run longer at its end by the lengths of another. -/
def extendBy (r s : Run) : Run :=
  { r with oldLength := r.oldLength + s.oldLength, newLength := r.newLength + s.newLength }

/-- An equal run longer by `n` at its start. -/
def growLeft (r : Run) (n : Nat) : Run :=
  { r with old := r.old - n, new := r.new - n, oldLength := r.oldLength + n, newLength := r.newLength + n }

/-- An equal run longer by `n` at its end. -/
def growRight (r : Run) (n : Nat) : Run :=
  { r with oldLength := r.oldLength + n, newLength := r.newLength + n }

/-- An equal run shorter by `n` at its start. -/
def shrinkLeft (r : Run) (n : Nat) : Run :=
  { r with old := r.old + n, new := r.new + n, oldLength := r.oldLength - n, newLength := r.newLength - n }

/-- An equal run shorter by `n` at its end. -/
def shrinkRight (r : Run) (n : Nat) : Run :=
  { r with oldLength := r.oldLength - n, newLength := r.newLength - n }

/-- The run `n` lines further up in both sequences. -/
def moveUp (r : Run) (n : Nat) : Run := { r with old := r.old - n, new := r.new - n }

/-- The run `n` lines further down in both sequences. -/
def moveDown (r : Run) (n : Nat) : Run := { r with old := r.old + n, new := r.new + n }

end Run

/-- Two sequences of lines to be compared. -/
structure Pair where
  old : Array (List Char)
  new : Array (List Char)

namespace Pair

/-- The number of lines on both sides. -/
def size (p : Pair) : Nat := p.old.size + p.new.size

/-- How many lines from `i` on equal those from `j` on, `limit` at most. -/
def commonLead (p : Pair) (i j limit : Nat) : Nat :=
  match limit with
  | 0 => 0
  | n + 1 =>
    match p.old[i]?, p.new[j]? with
    | some a, some b => if a = b then p.commonLead (i + 1) (j + 1) n + 1 else 0
    | _, _ => 0

/-- How many lines before `i` equal those before `j`, `limit` at most. -/
def commonTail (p : Pair) (i j limit : Nat) : Nat :=
  match limit with
  | 0 => 0
  | n + 1 =>
    if i = 0 ∨ j = 0 then 0
    else match p.old[i - 1]?, p.new[j - 1]? with
      | some a, some b => if a = b then p.commonTail (i - 1) (j - 1) n + 1 else 0
      | _, _ => 0

end Pair

/-! ## Sliding runs together

A run of deleted or inserted lines can often stand in several places: where the
lines before it end as the run itself does, it may slide up, and likewise down.
Each run is slid up as far as it goes, joining the runs of its kind that it
meets, and then down again. First all deletions are slid, then all insertions.
-/

namespace Pair

/-- How many lines at the end of the equal run `q` are also the last new lines of `t`. -/
def slideUpBy (p : Pair) (q t : Run) : Nat :=
  p.commonTail (q.old + q.oldLength) (t.new + t.newLength) (min q.oldLength t.newLength)

/-- How many lines at the start of the equal run `q` are also the first new lines of `t`. -/
def slideDownBy (p : Pair) (q t : Run) : Nat :=
  p.commonLead q.old t.new (min q.oldLength t.newLength)

/-- Slides the run at `i` up. The result is the script and the new place of the run. -/
def slideUp (p : Pair) : Nat → Array Run → Nat → Array Run × Nat
  | 0, runs, i => (runs, i)
  | fuel + 1, runs, i =>
    match runs[i]?, (if i = 0 then none else runs[i - 1]?) with
    | some t, some q =>
      if q.kind = Kind.equal then
        let s := p.slideUpBy q t
        if s = 0 then
          if q.isEmpty then p.slideUp fuel (runs.eraseIdxIfInBounds (i - 1)) (i - 1) else (runs, i)
        else
          let runs := match runs[i + 1]? with
            | some r =>
              if r.kind = Kind.equal then runs.setIfInBounds (i + 1) (r.growLeft s)
              else runs.insertIdxIfInBounds (i + 1)
                (Run.equal (q.old + q.oldLength - s) (t.new + t.newLength - s) s)
            | none => runs.push (Run.equal (q.old + q.oldLength - s) (t.new + t.newLength - s) s)
          let runs := (runs.setIfInBounds i (t.moveUp s)).setIfInBounds (i - 1) (q.shrinkRight s)
          if (q.shrinkRight s).isEmpty then
            p.slideUp fuel (runs.eraseIdxIfInBounds (i - 1)) (i - 1)
          else p.slideUp fuel runs i
      else if q.kind = t.kind then
        p.slideUp fuel ((runs.setIfInBounds (i - 1) (q.extendBy t)).eraseIdxIfInBounds i) (i - 1)
      else
        p.slideUp fuel ((runs.setIfInBounds (i - 1) t).setIfInBounds i q) (i - 1)
    | _, _ => (runs, i)

/-- Slides the run at `i` down. -/
def slideDown (p : Pair) : Nat → Array Run → Nat → Array Run × Nat
  | 0, runs, i => (runs, i)
  | fuel + 1, runs, i =>
    match runs[i]?, runs[i + 1]? with
    | some t, some q =>
      if q.kind = Kind.equal then
        let s := p.slideDownBy q t
        if s = 0 then
          if q.isEmpty then p.slideDown fuel (runs.eraseIdxIfInBounds (i + 1)) i else (runs, i)
        else
          let runs := (runs.setIfInBounds i (t.moveDown s)).setIfInBounds (i + 1) (q.shrinkLeft s)
          let runs := if (q.shrinkLeft s).isEmpty then runs.eraseIdxIfInBounds (i + 1) else runs
          match (if i = 0 then none else runs[i - 1]?) with
          | some r =>
            if r.kind = Kind.equal then
              p.slideDown fuel (runs.setIfInBounds (i - 1) (r.growRight s)) i
            else p.slideDown fuel (runs.insertIdxIfInBounds i (Run.equal q.old t.new s)) (i + 1)
          | none => p.slideDown fuel (runs.insertIdxIfInBounds i (Run.equal q.old t.new s)) (i + 1)
      else if q.kind = t.kind then
        p.slideDown fuel ((runs.setIfInBounds i (t.extendBy q)).eraseIdxIfInBounds (i + 1)) i
      else
        p.slideDown fuel ((runs.setIfInBounds i q).setIfInBounds (i + 1) t) (i + 1)
    | _, _ => (runs, i)

/-- Slides every run of one kind, from place `i` on. -/
def slideAll (p : Pair) (kind : Kind) (steps : Nat) : Nat → Array Run → Nat → Array Run
  | 0, runs, _ => runs
  | fuel + 1, runs, i =>
    match runs[i]? with
    | none => runs
    | some r =>
      if r.kind = kind then
        let (runs, i) := p.slideUp steps runs i
        let (runs, i) := p.slideDown steps runs i
        p.slideAll kind steps fuel runs (i + 1)
      else p.slideAll kind steps fuel runs (i + 1)

/-- The script with its deletions and then its insertions slid together. Each step moves a run
past lines or past another run, which bounds their number. -/
def compact (p : Pair) (runs : List Run) : List Run :=
  let steps := 4 * (p.size + runs.length) + 8
  let deletions := p.slideAll .delete steps steps runs.toArray 0
  (p.slideAll .insert steps steps deletions 0).toList

end Pair

/-! ## Shortest scripts -/

/-- A range of old and a range of new lines. -/
structure Window where
  oldStart : Nat
  oldEnd : Nat
  newStart : Nat
  newEnd : Nat

namespace Window

def oldLength (w : Window) : Nat := w.oldEnd - w.oldStart

def newLength (w : Window) : Nat := w.newEnd - w.newStart

end Window

/-- The furthest old position reached on each diagonal. Diagonals run from `-offset` on. -/
structure Front where
  offset : Nat
  reach : Array Nat

namespace Front

def start (size : Nat) : Front := ⟨size, Array.replicate (2 * size + 1) 0⟩

def get (f : Front) (k : Int) : Nat := (f.reach[(k + f.offset).toNat]?).getD 0

def set (f : Front) (k : Int) (x : Nat) : Front :=
  { f with reach := f.reach.setIfInBounds (k + f.offset).toNat x }

/-- Where the search enters diagonal `k` in round `d`. -/
def entry (f : Front) (d : Nat) (k : Int) : Nat :=
  if k = -(d : Int) ∨ (k ≠ d ∧ f.get (k - 1) < f.get (k + 1)) then f.get (k + 1)
  else f.get (k - 1) + 1

end Front

/-- The diagonals of round `d` from the highest to the lowest. -/
def diagonals (d : Nat) : List Int :=
  (List.range (d + 1)).map fun (i : Nat) => (d : Int) - 2 * (i : Int)

namespace Pair

/-- Goes forward along the given diagonals. The result is the new front, or the point at which the
forward search met the backward one. -/
def forward (p : Pair) (w : Window) (back : Front) (d : Nat) :
    Front → List Int → Except (Nat × Nat) Front
  | front, [] => .ok front
  | front, k :: ks =>
    let n := w.oldLength
    let m := w.newLength
    let delta : Int := (n : Int) - m
    let x := front.entry d k
    let y : Int := x - k
    let advance :=
      if x < n ∧ 0 ≤ y ∧ y < m then
        p.commonLead (w.oldStart + x) (w.newStart + y.toNat) (min (n - x) (m - y.toNat))
      else 0
    let front := front.set k (x + advance)
    if delta % 2 ≠ 0 ∧ (k - delta).natAbs + 1 ≤ d ∧ n ≤ front.get k + back.get (delta - k) then
      .error (w.oldStart + x, w.newStart + y.toNat)
    else p.forward w back d front ks

/-- Goes backward along the given diagonals, counted from the end. -/
def backward (p : Pair) (w : Window) (front : Front) (d : Nat) :
    Front → List Int → Except (Nat × Nat) Front
  | back, [] => .ok back
  | back, k :: ks =>
    let n := w.oldLength
    let m := w.newLength
    let delta : Int := (n : Int) - m
    let x := back.entry d k
    let y : Int := x - k
    let advance :=
      if x < n ∧ 0 ≤ y ∧ y < m then
        p.commonTail (w.oldEnd - x) (w.newEnd - y.toNat) (min (n - x) (m - y.toNat))
      else 0
    let back := back.set k (x + advance)
    if delta % 2 = 0 ∧ (k - delta).natAbs ≤ d ∧ n ≤ back.get k + front.get (delta - k) then
      .error (w.oldStart + (n - (x + advance)), w.newStart + (m - (y + advance).toNat))
    else p.backward w front d back ks

/-- The point at which forward and backward search meet, with `rounds` rounds left to make. -/
def middleFrom (p : Pair) (w : Window) (d : Nat) (front back : Front) :
    Nat → Option (Nat × Nat)
  | 0 => none
  | rounds + 1 =>
    match p.forward w back d front (diagonals d) with
    | .error point => some point
    | .ok front =>
      match p.backward w front d back (diagonals d) with
      | .error point => some point
      | .ok back => p.middleFrom w (d + 1) front back rounds

/-- The point at which a window is split. -/
def middle (p : Pair) (w : Window) : Option (Nat × Nat) :=
  let rounds := (w.oldLength + w.newLength + 1) / 2
  p.middleFrom w 0 (.start (rounds + 1)) (.start (rounds + 1)) (rounds + 1)

/-- The script of a window, by at most `fuel` nested splits. -/
def scriptWithin (p : Pair) : Nat → Window → List Run
  | 0, _ => []
  | fuel + 1, w =>
    let lead := p.commonLead w.oldStart w.newStart (min w.oldLength w.newLength)
    let w₁ : Window := { w with oldStart := w.oldStart + lead, newStart := w.newStart + lead }
    let tail := p.commonTail w₁.oldEnd w₁.newEnd (min w₁.oldLength w₁.newLength)
    let w₂ : Window := { w₁ with oldEnd := w₁.oldEnd - tail, newEnd := w₁.newEnd - tail }
    let inner :=
      if w₂.oldLength = 0 ∧ w₂.newLength = 0 then []
      else if w₂.newLength = 0 then [Run.delete w₂.oldStart w₂.oldLength w₂.newStart]
      else if w₂.oldLength = 0 then [Run.insert w₂.oldStart w₂.newStart w₂.newLength]
      else match p.middle w₂ with
        | some (x, y) =>
          p.scriptWithin fuel { w₂ with oldEnd := x, newEnd := y } ++
            p.scriptWithin fuel { w₂ with oldStart := x, newStart := y }
        | none =>
          [Run.delete w₂.oldStart w₂.oldLength w₂.newStart,
            Run.insert w₂.oldEnd w₂.newStart w₂.newLength]
    (if lead = 0 then [] else [Run.equal w.oldStart w.newStart lead]) ++ inner ++
      (if tail = 0 then [] else [Run.equal w₂.oldEnd w₂.newEnd tail])

/-- The shortest script of the whole pair. A split leaves smaller windows on both sides, so there
are no more nested splits than lines. -/
def script (p : Pair) : List Run :=
  p.scriptWithin (p.size + 1) ⟨0, p.old.size, 0, p.new.size⟩

end Pair

end ProgramRepair.Diff
