import ProgramRepair.Config.Basic
import ProgramRepair.Random.Stream
import ProgramRepair.Search.Patch

/-!
# Programs as a search sees them

A search knows a program only by what it can do with it: evaluate a patch, make
a new edit, and show patches and edits. Evaluations may change the world that
they run in, and need not give the same answer twice.

With the edits that a program makes, a search goes from a patch to a neighbour,
which has one edit more or one edit less. Candidates are drawn until one is not
in the tabu set, and that one enters the set.
-/

namespace ProgramRepair

/-- A computation in a world of type `σ` that may end in a fault. -/
abbrev Run (σ : Type) := StateT σ (Except Fault)

/-- A program with edits of type `ε` in a world of type `σ`. -/
structure Program (ε σ : Type) where
  /-- Runs the tests against a patched program, for a limited time. What goes wrong is part of the
  evaluation. -/
  evaluate : Patch ε → Duration → Run σ Evaluation
  /-- Makes an edit of a given kind, if there is anything to edit. -/
  createEdit : EditOperator → SelectionMethod → Stream → Except Fault (Option ε × Stream)
  /-- A patch as a unified diff. -/
  diff : Patch ε → String
  /-- An edit in words. -/
  describe : ε → Except Fault String

/-- The same program in a larger world. -/
def Program.inLargerWorld (τ : Type) (p : Program ε σ) : Program ε (σ × τ) where
  evaluate patch timeout := fun (w, rest) => do
    let (e, w) ← p.evaluate patch timeout w
    return (e, w, rest)
  createEdit := p.createEdit
  diff := p.diff
  describe := p.describe

/-! ## Neighbours -/

variable {ε σ : Type} [DecidableEq ε] [Hashable ε]

/-- One draw: an edit is taken away with probability one half if there is one, otherwise an edit
with a drawn operator is added. There is no candidate without an operator or an edit to add. -/
def drawCandidate (p : Program ε σ) (operators : List EditOperator) (base : Patch ε) (s : Stream) :
    Except Fault (Option (Patch ε) × Stream) :=
  let (shrink, s) := if base.isEmpty then (false, s) else s.coin
  if shrink then
    let (i, s) := s.below .double base.length
    .ok (some (base.eraseAt i), s)
  else
    match s.choose operators with
    | (none, s) => .ok (none, s)
    | (some op, s) => do
      let (edit, s) ← p.createEdit op .weighted s
      return (edit.map base.add, s)

/-- What a search for a neighbour leaves behind. -/
structure NeighbourDraw (ε : Type) [DecidableEq ε] [Hashable ε] where
  /-- The neighbour, if one was found. -/
  found : Option (Patch ε)
  tabu : Tabu ε
  stream : Stream

/-- A fresh neighbour within a number of draws. -/
def drawNeighbour (p : Program ε σ) (operators : List EditOperator) (base : Patch ε)
    (tabu : Tabu ε) : Nat → Stream → Except Fault (NeighbourDraw ε)
  | 0, s => .ok ⟨none, tabu, s⟩
  | draws + 1, s => do
    match ← drawCandidate p operators base s with
    | (none, s) => return ⟨none, tabu, s⟩
    | (some candidate, s) =>
      if tabu.contains candidate then drawNeighbour p operators base tabu draws s
      else return ⟨some candidate, tabu.insert candidate, s⟩

/-- The number of draws after which the neighbourhood counts as exhausted. -/
def maxNeighbourDraws : Nat := 1000

/-- A neighbour of `base` that is not in the tabu set. -/
def neighbour (p : Program ε σ) (operators : List EditOperator) (base : Patch ε) (tabu : Tabu ε)
    (s : Stream) : Except Fault (NeighbourDraw ε) :=
  drawNeighbour p operators base tabu maxNeighbourDraws s

end ProgramRepair
