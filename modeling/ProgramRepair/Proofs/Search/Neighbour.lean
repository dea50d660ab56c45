import ProgramRepair.Proofs.Random.Stream
import ProgramRepair.Search.Program

/-!
# What a search for a neighbour finds

A candidate has one edit more than its base at its end, or one edit less, and
the search passes over candidates in the tabu set. Every draw starts from the same
base. Main statements:

* `drawCandidate_drawn`, `drawNeighbour_searched`: everything that one draw and a search can
  come to;
* `neighbour_isFor`: what the search finds is a neighbour outside the tabu set and
  enters it; where it finds none, the set stays as it is;
* `Program.Makes.neighbour`: what is true of all edits that a program makes is true of
  the edits of a neighbour.
-/

namespace ProgramRepair

variable {ε σ : Type}

/-- One edit more at the end, or one edit less. -/
inductive Patch.IsNeighbour (base : Patch ε) : Patch ε → Prop
  | grown (edit : ε) : IsNeighbour base (base.add edit)
  | shrunk (index : Nat) (h : index < base.length) : IsNeighbour base (base.eraseAt index)

/-- All edits of the patch are good. -/
def Patch.All (Good : ε → Prop) (p : Patch ε) : Prop := ∀ e ∈ p.edits, Good e

namespace Patch

variable {Good : ε → Prop} {p : Patch ε}

theorem all_empty : (empty : Patch ε).All Good := List.forall_mem_nil _

theorem All.add (h : p.All Good) {e : ε} (he : Good e) : (p.add e).All Good :=
  List.forall_mem_append.mpr ⟨h, List.forall_mem_singleton.mpr he⟩

theorem All.eraseAt (h : p.All Good) (i : Nat) : (p.eraseAt i).All Good :=
  fun e he => h e (List.mem_of_mem_eraseIdx he)

theorem eq_empty_of_all (h : p.All fun _ => False) : p = empty :=
  congrArg mk (List.eq_nil_iff_forall_not_mem.mpr h)

end Patch

/-- All edits that the program makes by weight, as a search asks for them, are good. -/
def Program.Makes (program : Program ε σ) (Good : ε → Prop) : Prop :=
  ∀ op s edit s', program.createEdit op .weighted s = .ok (some edit, s') → Good edit

theorem Patch.length_pos_of_not_isEmpty {p : Patch ε} (h : p.isEmpty = false) : 0 < p.length := by
  rw [Patch.isEmpty, List.isEmpty_eq_false_iff] at h
  exact List.length_pos_iff.mpr h

/-! ## One draw -/

section Drawn

variable (p : Program ε σ) (operators : List EditOperator) (base : Patch ε) (s : Stream)

/-- A draw that takes no edit away: there is none, or the coin says so. The rest of the stream is for
the new edit. -/
inductive Grows : Stream → Prop
  | empty (hempty : base.isEmpty = true) : Grows s
  | tails {s' : Stream} (hne : base.isEmpty = false) (hcoin : s.coin = (false, s')) : Grows s'

/-- Everything that one draw can come to. -/
inductive Drawn : Except Fault (Option (Patch ε) × Stream) → Prop
  | shrunk {i : Nat} {s₁ s₂ : Stream} (hne : base.isEmpty = false) (hcoin : s.coin = (true, s₁))
      (hindex : s₁.below .double base.length = (i, s₂)) : Drawn (.ok (some (base.eraseAt i), s₂))
  | noOperator {s₁ : Stream} (hgrows : Grows base s s₁) (hnone : operators = []) :
      Drawn (.ok (none, s₁))
  | grown {op : EditOperator} {edit : ε} {s₁ s₂ s₃ : Stream} (hgrows : Grows base s s₁)
      (hop : s₁.choose operators = (some op, s₂))
      (hedit : p.createEdit op .weighted s₂ = .ok (some edit, s₃)) :
      Drawn (.ok (some (base.add edit), s₃))
  | noEdit {op : EditOperator} {s₁ s₂ s₃ : Stream} (hgrows : Grows base s s₁)
      (hop : s₁.choose operators = (some op, s₂))
      (hedit : p.createEdit op .weighted s₂ = .ok (none, s₃)) : Drawn (.ok (none, s₃))
  | fault {op : EditOperator} {s₁ s₂ : Stream} {fault : Fault} (hgrows : Grows base s s₁)
      (hop : s₁.choose operators = (some op, s₂))
      (hedit : p.createEdit op .weighted s₂ = .error fault) : Drawn (.error fault)

end Drawn

variable {p : Program ε σ} {operators : List EditOperator} {base candidate : Patch ε}
  {s s' : Stream}

/-- A draw that takes no edit away goes on with an operator, if there is one. -/
theorem drawn_of_grows {s₁ : Stream} (hgrows : Grows base s s₁) :
    Drawn p operators base s
      (match s₁.choose operators with
      | (none, s₂) => .ok (none, s₂)
      | (some op, s₂) => do
        let (edit, s₃) ← p.createEdit op .weighted s₂
        return (edit.map base.add, s₃)) := by
  by_cases hoperators : operators = []
  · have hchoose : s₁.choose operators = (none, s₁) := by
      rw [Stream.choose, if_pos (by simp [hoperators])]
    rw [hchoose]
    exact .noOperator hgrows hoperators
  · obtain ⟨op, -, s₂, hchoose⟩ := Stream.exists_choose hoperators s₁
    rw [hchoose]
    dsimp only
    cases hedit : p.createEdit op .weighted s₂ with
    | error fault => exact .fault hgrows hchoose hedit
    | ok made =>
      obtain ⟨edit, s₃⟩ := made
      cases edit with
      | none => exact .noEdit hgrows hchoose hedit
      | some edit => exact .grown hgrows hchoose hedit

theorem drawCandidate_drawn (p : Program ε σ) (operators : List EditOperator) (base : Patch ε)
    (s : Stream) : Drawn p operators base s (drawCandidate p operators base s) := by
  unfold drawCandidate
  cases hempty : base.isEmpty with
  | true =>
    rw [if_pos rfl]
    exact drawn_of_grows (.empty hempty)
  | false =>
    rw [if_neg Bool.false_ne_true]
    cases hcoin : s.coin with
    | mk shrink s₁ =>
      cases shrink with
      | true =>
        dsimp only
        rw [if_pos rfl]
        cases hindex : s₁.below .double base.length with
        | mk i s₂ => exact .shrunk hempty hcoin hindex
      | false => exact drawn_of_grows (.tails hempty hcoin)

/-- A candidate has one edit less than its base, or one more that the program made. -/
theorem drawCandidate_ok (h : drawCandidate p operators base s = .ok (some candidate, s')) :
    (∃ i < base.length, candidate = base.eraseAt i) ∨
      ∃ op ∈ operators, ∃ s₁ s₂ edit, p.createEdit op .weighted s₁ = .ok (some edit, s₂) ∧
        candidate = base.add edit := by
  have hdrawn := drawCandidate_drawn p operators base s
  rw [h] at hdrawn
  cases hdrawn with
  | @shrunk i s₁ s₂ hne hcoin hindex =>
    have hlt := s₁.below_lt .double (Patch.length_pos_of_not_isEmpty hne)
    rw [hindex] at hlt
    exact .inl ⟨i, hlt, rfl⟩
  | grown hgrows hop hedit => exact .inr ⟨_, Stream.mem_of_choose hop, _, _, _, hedit, rfl⟩

/-- An edit is taken away only where there is one, and a new one goes to the end. -/
theorem drawCandidate_isNeighbour {p : Program ε σ} {operators : List EditOperator}
    {base candidate : Patch ε} {s s' : Stream}
    (h : drawCandidate p operators base s = .ok (some candidate, s')) :
    base.IsNeighbour candidate := by
  obtain ⟨i, hi, rfl⟩ | ⟨op, -, s₁, s₂, edit, -, rfl⟩ := drawCandidate_ok h
  · exact .shrunk i hi
  · exact .grown edit

theorem Program.Makes.drawCandidate {program : Program ε σ} {Good : ε → Prop}
    (h : program.Makes Good) {operators : List EditOperator} {base candidate : Patch ε}
    {s s' : Stream} (hbase : base.All Good)
    (hcandidate : ProgramRepair.drawCandidate program operators base s = .ok (some candidate, s')) :
    candidate.All Good := by
  obtain ⟨i, -, rfl⟩ | ⟨op, -, s₁, s₂, edit, hedit, rfl⟩ := drawCandidate_ok hcandidate
  · exact hbase.eraseAt i
  · exact hbase.add (h op s₁ edit s₂ hedit)

/-- A patch without edits can only grow, by an edit with the operator that is drawn. -/
theorem drawCandidate_of_isEmpty {p : Program ε σ} {operators : List EditOperator} {base : Patch ε}
    {s s₁ s₂ : Stream} {op : EditOperator} {edit : ε} (hempty : base.isEmpty = true)
    (hchoose : s.choose operators = (some op, s₁))
    (hedit : p.createEdit op .weighted s₁ = .ok (some edit, s₂)) :
    drawCandidate p operators base s = .ok (some (base.add edit), s₂) := by
  unfold drawCandidate
  rw [if_pos hempty]
  dsimp only
  rw [if_neg Bool.false_ne_true, hchoose]
  dsimp only
  rw [hedit]
  rfl

/-! ## The search for a fresh one -/

variable [DecidableEq ε] [Hashable ε]

section Searched

variable (p : Program ε σ) (operators : List EditOperator) (base : Patch ε) (tabu : Tabu ε)

/-- A number of draws in a row whose candidates are in the tabu set. -/
inductive Hits : Nat → Stream → Stream → Prop
  | none (s : Stream) : Hits 0 s s
  | next {n : Nat} {s s₁ s' : Stream} {candidate : Patch ε}
      (hcandidate : drawCandidate p operators base s = .ok (some candidate, s₁))
      (hknown : tabu.contains candidate = true) (hrest : Hits n s₁ s') : Hits (n + 1) s s'

/-- Everything that a search within `n` draws can come to. -/
inductive Searched (n : Nat) (s : Stream) : Except Fault (NeighbourDraw ε) → Prop
  | found {k : Nat} {s₁ s' : Stream} {candidate : Patch ε} (hk : k < n)
      (hhits : Hits p operators base tabu k s s₁)
      (hcandidate : drawCandidate p operators base s₁ = .ok (some candidate, s'))
      (hfresh : tabu.contains candidate = false) :
      Searched n s (.ok ⟨some candidate, tabu.insert candidate, s'⟩)
  | known {s' : Stream} (hhits : Hits p operators base tabu n s s') :
      Searched n s (.ok ⟨none, tabu, s'⟩)
  | nothing {k : Nat} {s₁ s' : Stream} (hk : k < n) (hhits : Hits p operators base tabu k s s₁)
      (hnothing : drawCandidate p operators base s₁ = .ok (none, s')) :
      Searched n s (.ok ⟨none, tabu, s'⟩)
  | fault {k : Nat} {s₁ : Stream} {fault : Fault} (hk : k < n)
      (hhits : Hits p operators base tabu k s s₁)
      (hfault : drawCandidate p operators base s₁ = .error fault) : Searched n s (.error fault)

end Searched

variable {tabu : Tabu ε}

/-- After a candidate from the tabu set, the search goes on with one draw less. -/
theorem Searched.next {n : Nat} {s₁ : Stream} {r : Except Fault (NeighbourDraw ε)}
    (hcandidate : drawCandidate p operators base s = .ok (some candidate, s₁))
    (hknown : tabu.contains candidate = true) (h : Searched p operators base tabu n s₁ r) :
    Searched p operators base tabu (n + 1) s r := by
  cases h with
  | found hk hhits hfound hfresh =>
    exact .found (Nat.succ_lt_succ hk) (.next hcandidate hknown hhits) hfound hfresh
  | known hhits => exact .known (.next hcandidate hknown hhits)
  | nothing hk hhits hnothing =>
    exact .nothing (Nat.succ_lt_succ hk) (.next hcandidate hknown hhits) hnothing
  | fault hk hhits hfault =>
    exact .fault (Nat.succ_lt_succ hk) (.next hcandidate hknown hhits) hfault

theorem drawNeighbour_searched (p : Program ε σ) (operators : List EditOperator) (base : Patch ε)
    (tabu : Tabu ε) (draws : Nat) (s : Stream) :
    Searched p operators base tabu draws s (drawNeighbour p operators base tabu draws s) := by
  induction draws generalizing s with
  | zero => exact .known (.none s)
  | succ draws ih =>
    rw [drawNeighbour]
    cases hcandidate : drawCandidate p operators base s with
    | error fault => exact .fault (Nat.succ_pos draws) (.none s) hcandidate
    | ok drawn =>
      obtain ⟨candidate, s₁⟩ := drawn
      cases candidate with
      | none => exact .nothing (Nat.succ_pos draws) (.none s) hcandidate
      | some candidate =>
        change Searched p operators base tabu (draws + 1) s
          (if tabu.contains candidate = true then drawNeighbour p operators base tabu draws s₁
            else .ok ⟨some candidate, tabu.insert candidate, s₁⟩)
        cases hfresh : tabu.contains candidate with
        | true => exact (ih s₁).next hcandidate hfresh
        | false => exact .found (Nat.succ_pos draws) (.none s) hcandidate hfresh

/-- A first draw that is not in the tabu set is the neighbour. -/
theorem neighbour_of_fresh (hcandidate : drawCandidate p operators base s = .ok (some candidate, s'))
    (hfresh : tabu.contains candidate = false) :
    neighbour p operators base tabu s = .ok ⟨some candidate, tabu.insert candidate, s'⟩ := by
  rw [neighbour, maxNeighbourDraws, drawNeighbour, hcandidate]
  exact if_neg (by simp [hfresh])

/-- What a search finds is a candidate, outside the tabu set, that enters it. -/
theorem drawNeighbour_ok {draws : Nat} {draw : NeighbourDraw ε}
    (h : drawNeighbour p operators base tabu draws s = .ok draw) :
    (draw.found = none ∧ draw.tabu = tabu) ∨
      ∃ candidate s₁ s₂, drawCandidate p operators base s₁ = .ok (some candidate, s₂) ∧
        tabu.contains candidate = false ∧ draw = ⟨some candidate, tabu.insert candidate, s₂⟩ := by
  have hsearched := drawNeighbour_searched p operators base tabu draws s
  rw [h] at hsearched
  cases hsearched with
  | found hk hhits hcandidate hfresh => exact .inr ⟨_, _, _, hcandidate, hfresh, rfl⟩
  | known | nothing => exact .inl ⟨rfl, rfl⟩

/-- What a search for a neighbour of `base` outside `tabu` leaves behind. -/
inductive NeighbourDraw.IsFor (base : Patch ε) (tabu : Tabu ε) : NeighbourDraw ε → Prop
  | found {candidate : Patch ε} (s : Stream) (hneighbour : base.IsNeighbour candidate)
      (hfresh : tabu.contains candidate = false) :
      IsFor base tabu ⟨some candidate, tabu.insert candidate, s⟩
  | exhausted (s : Stream) : IsFor base tabu ⟨none, tabu, s⟩

theorem neighbour_isFor {p : Program ε σ} {operators : List EditOperator} {base : Patch ε}
    {tabu : Tabu ε} {s : Stream} {draw : NeighbourDraw ε}
    (h : neighbour p operators base tabu s = .ok draw) : draw.IsFor base tabu := by
  obtain ⟨hfound, htabu⟩ | ⟨candidate, s₁, s₂, hcandidate, hfresh, rfl⟩ := drawNeighbour_ok h
  · obtain ⟨found, tabu', s'⟩ := draw
    cases hfound
    cases htabu
    exact .exhausted s'
  · exact .found s₂ (drawCandidate_isNeighbour hcandidate) hfresh

theorem Program.Makes.neighbour {program : Program ε σ} {Good : ε → Prop}
    (h : program.Makes Good) {operators : List EditOperator} {base candidate : Patch ε}
    {tabu : Tabu ε} {s : Stream} {draw : NeighbourDraw ε} (hbase : base.All Good)
    (hdraw : ProgramRepair.neighbour program operators base tabu s = .ok draw)
    (hfound : draw.found = some candidate) : candidate.All Good := by
  obtain ⟨hnone, -⟩ | ⟨c, s₁, s₂, hcandidate, -, rfl⟩ := drawNeighbour_ok hdraw
  · rw [hnone] at hfound
    cases hfound
  · cases hfound
    exact h.drawCandidate hbase hcandidate

end ProgramRepair
