import ProgramRepair.Diff.Script

/-!
# Unified diffs

Between two runs of equal lines all deletions come first, then all insertions.
Changes with at most six equal lines between them share a hunk, and a hunk
shows up to three equal lines at either end. Equal texts have an empty diff.
-/

namespace ProgramRepair.Diff

/-- The number of equal lines shown around a change. -/
def contextLines : Nat := 3

/-- Joins a run to the first one of its kind in the open change. -/
def addTo (r : Run) : Option Run → Option Run
  | none => some r
  | some s => some (s.extendBy r)

/-- The open change as runs, deletions first. A change that has both stands in the old text where
its deletions do and in the new text where its insertions do. -/
def flush : Option Run → Option Run → List Run
  | some d, some i => [{ d with new := i.new }, { i with old := d.old + d.oldLength }]
  | deleted, inserted => deleted.toList ++ inserted.toList

/-- Merges what stands between runs of equal lines, and equal runs that are neighbours. -/
def mergeFrom (equal deleted inserted : Option Run) : List Run → List Run
  | [] => equal.toList ++ flush deleted inserted
  | r :: rest =>
    match r.kind with
    | .equal =>
      if deleted.isNone && inserted.isNone then mergeFrom (addTo r equal) none none rest
      else equal.toList ++ flush deleted inserted ++ mergeFrom (some r) none none rest
    | .delete => mergeFrom equal (addTo r deleted) inserted rest
    | .insert => mergeFrom equal deleted (addTo r inserted) rest

/-- The merged script. -/
def merge (runs : List Run) : List Run := mergeFrom none none none runs

/-- The last `n` lines of an equal run. -/
def lastLines (n : Nat) (r : Run) : Run := r.shrinkLeft (r.oldLength - n)

/-- The first `n` lines of an equal run. -/
def firstLines (n : Nat) (r : Run) : Run := r.shrinkRight (r.oldLength - n)

/-- Cuts the equal runs at both ends of the script to the lines that are shown. -/
def cutEnds (runs : List Run) : List Run :=
  let runs := match runs with
    | r :: rest => if r.kind = Kind.equal then lastLines contextLines r :: rest else r :: rest
    | [] => []
  match runs.getLast? with
  | some r =>
    if r.kind = Kind.equal then runs.dropLast ++ [firstLines contextLines r] else runs
  | none => []

/-- Splits the script at long equal runs, where `hunk` holds the runs of the open hunk in reverse
order. -/
def hunksFrom (hunk : List Run) : List Run → List (List Run)
  | [] => [hunk.reverse]
  | r :: rest =>
    if r.kind = Kind.equal ∧ 2 * contextLines < r.oldLength then
      (firstLines contextLines r :: hunk).reverse :: hunksFrom [lastLines contextLines r] rest
    else hunksFrom (r :: hunk) rest

/-- Whether a hunk shows a change. -/
def showsChange : List Run → Bool
  | [] => false
  | [r] => r.kind ≠ .equal
  | _ => true

/-- The hunks of a merged script. -/
def hunks (runs : List Run) : List (List Run) :=
  if runs = [] then [] else (hunksFrom [] (cutEnds runs)).filter showsChange

/-- A range of lines in a hunk's heading: its first line, counted from 1, and its length unless
that is 1. -/
def rangeText (start stop : Nat) : String :=
  if stop = start + 1 then toString (start + 1)
  else if stop = start then toString start ++ ",0"
  else toString (start + 1) ++ "," ++ toString (stop - start)

/-- A shown line. One without a line break gets a remark. -/
def lineText (sign : Char) (line : List Char) : List Char :=
  let missing : Bool := match line.getLast? with
    | some c => c ≠ '\n' ∧ c ≠ '\r'
    | none => true
  sign :: line ++ (if missing then "\n\\ No newline at end of file\n".toList else [])

/-- The lines of a run. -/
def runText (p : Pair) (r : Run) : List Char :=
  match r.kind with
  | .equal => (p.old.extract r.old (r.old + r.oldLength)).toList.flatMap (lineText ' ')
  | .delete => (p.old.extract r.old (r.old + r.oldLength)).toList.flatMap (lineText '-')
  | .insert => (p.new.extract r.new (r.new + r.newLength)).toList.flatMap (lineText '+')

/-- A hunk: its heading and its lines. -/
def hunkText (p : Pair) (hunk : List Run) : List Char :=
  match hunk.head?, hunk.getLast? with
  | some first, some last =>
    ("@@ -" ++ rangeText first.old (last.old + last.oldLength) ++ " +" ++
      rangeText first.new (last.new + last.newLength) ++ " @@\n").toList ++
      hunk.flatMap (runText p)
  | _, _ => []

/-- The unified diff of two texts, with the path in its heading. -/
def unified (path old new : List Char) : List Char :=
  let p : Pair := ⟨(linesOf old).toArray, (linesOf new).toArray⟩
  match hunks (merge (p.compact p.script)) with
  | [] => []
  | hs => "--- a/".toList ++ path ++ "\n+++ b/".toList ++ path ++ ['\n'] ++ hs.flatMap (hunkText p)

end ProgramRepair.Diff
