import ProgramRepair.Fault
import Std.Data.HashSet

/-!
# Patches and the tabu set

A patch is a sequence of edits; two patches are equal if they have the same
edits in the same order. The tabu set holds the patches that a search has
already tried.
-/

namespace ProgramRepair

/-- A sequence of edits, applied in order. -/
structure Patch (ε : Type) where
  edits : List ε
deriving DecidableEq, Hashable, Repr

namespace Patch

variable {ε : Type}

instance : Inhabited (Patch ε) := ⟨⟨[]⟩⟩

/-- The patch that changes nothing. -/
def empty : Patch ε := ⟨[]⟩

def length (p : Patch ε) : Nat := p.edits.length

def isEmpty (p : Patch ε) : Bool := p.edits.isEmpty

/-- The patch with one more edit at its end. -/
def add (p : Patch ε) (edit : ε) : Patch ε := ⟨p.edits ++ [edit]⟩

/-- The patch without the edit at a place. -/
def eraseAt (p : Patch ε) (index : Nat) : Patch ε := ⟨p.edits.eraseIdx index⟩

/-- The edit at a place, and the patch without it. -/
def remove (p : Patch ε) (index : Nat) : Except Fault (ε × Patch ε) :=
  match p.edits[index]? with
  | some edit => .ok (edit, p.eraseAt index)
  | none => .error (.noSuchEdit index)

@[simp] theorem length_empty : (empty : Patch ε).length = 0 := rfl

@[simp] theorem length_add (p : Patch ε) (edit : ε) : (p.add edit).length = p.length + 1 := by
  simp [add, length]

end Patch

/-- The patches that were already tried. -/
structure Tabu (ε : Type) [DecidableEq ε] [Hashable ε] where
  seen : Std.HashSet (Patch ε)

namespace Tabu

variable {ε : Type} [DecidableEq ε] [Hashable ε]

def empty : Tabu ε := ⟨{}⟩

instance : Inhabited (Tabu ε) := ⟨empty⟩

def contains (t : Tabu ε) (p : Patch ε) : Bool := t.seen.contains p

def insert (t : Tabu ε) (p : Patch ε) : Tabu ε := ⟨t.seen.insert p⟩

def size (t : Tabu ε) : Nat := t.seen.size

def isEmpty (t : Tabu ε) : Bool := t.seen.isEmpty

@[simp] theorem contains_empty (p : Patch ε) : (empty : Tabu ε).contains p = false := by
  simp [empty, contains]

/-- After an insertion the set holds the new patch and what it held before. -/
@[simp] theorem contains_insert (t : Tabu ε) (p q : Patch ε) :
    (t.insert p).contains q = (p == q || t.contains q) := by
  simp [insert, contains]

end Tabu

end ProgramRepair
