import Mathlib.Data.Finset.Card
import Mathlib.Data.Finset.Image
import ProgramRepair.Proofs.Search.Reachable

/-!
# The neighbourhood of a best patch

An epoch looks for candidates around its best patch. What it finds is one edit away and
was not tried before in this epoch, so the neighbours of a patch bound how long the epoch
can stay with it. A `Round` is a candidate with the patch that it was drawn around. Main
statements:

* `Advances.best_of_between`: no draw changes the best patch;
* `neighbour_contract`: all that a draw finds and does;
* `Reachable.exists_rounds`: wherever an epoch stands, it has come there by some rounds;
* `Rounds.explored`: no candidate is drawn twice, and each is a neighbour of its base;
* `Explored.length_around_le`: the rounds around one patch are at most as many as the edits
  that the program can make and those that the patch has.
-/

namespace ProgramRepair

variable {ε σ : Type}

namespace Search

open Epoch

section Draws

variable [DecidableEq ε] [Hashable ε] {ctx : SearchContext ε σ} {seed : UInt64} {epoch : Nat}
  {more : List (Sighting ε)} {g : Stage ε} {q : Position ε} {w w' : σ}

/-! ## The contract of a draw -/

/-- The best patch of an epoch that is on its way. -/
def Position.best? : Position ε → Option (Patch ε)
  | .waiting | .done _ => none
  | .between g | .drawn g _ _ | .evaluated g _ _ _ => some g.state.best
  | .ended s _ => some s.best

/-- Whether a candidate is found or not, the best patch that it is drawn around stays. -/
theorem Advances.best_of_between (h : Advances ctx seed epoch (.between g) w more q w') :
    q.best? = some g.state.best := by
  cases h with
  | spends | stops | exhausts | draws => rfl

end Draws

end Search

/-- The place of an edit that is taken away parts the edits before it from those after it. -/
theorem Patch.exists_edits_eraseAt {p : Patch ε} {i : Nat} (hi : i < p.length) :
    ∃ before edit after, p.edits = before ++ edit :: after ∧
      (p.eraseAt i).edits = before ++ after := by
  have hlt : i < p.edits.length := hi
  refine ⟨p.edits.take i, p.edits[i], p.edits.drop (i + 1), ?_, List.eraseIdx_eq_take_drop_succ _ _⟩
  rw [List.getElem_cons_drop]
  exact (List.take_append_drop i p.edits).symm

section Contract

variable [DecidableEq ε] [Hashable ε] {p : Program ε σ} {operators : List EditOperator}
  {tabu tabu' : Tabu ε} {base candidate : Patch ε} {s s' : Stream}

omit [DecidableEq ε] [Hashable ε] in
/-- A candidate is its base without one of the edits, or with a new one at the end. -/
theorem drawCandidate_edits (h : drawCandidate p operators base s = .ok (some candidate, s')) :
    ((∃ before edit after, base.edits = before ++ edit :: after ∧
        candidate.edits = before ++ after) ∨
      ∃ op ∈ operators, ∃ s₁ s₂ edit, p.createEdit op .weighted s₁ = .ok (some edit, s₂) ∧
        candidate.edits = base.edits ++ [edit]) ∧
    (base = .empty → candidate.length = 1) := by
  rcases drawCandidate_ok h with ⟨i, hi, rfl⟩ | ⟨op, hop, s₁, s₂, edit, hedit, rfl⟩
  · refine ⟨.inl (Patch.exists_edits_eraseAt hi), fun hempty => ?_⟩
    -- the empty patch has no edit to take away
    rw [hempty] at hi
    exact absurd hi (Nat.not_lt_zero i)
  · refine ⟨.inr ⟨op, hop, s₁, s₂, edit, hedit, rfl⟩, fun hempty => ?_⟩
    rw [hempty, Patch.length_add, Patch.length_empty]

/-- Nothing is found because all draws led to known patches, or because one could not grow its
patch. -/
theorem neighbour_none (h : neighbour p operators base tabu s = .ok ⟨none, tabu', s'⟩) :
    tabu' = tabu ∧
    (Hits p operators base tabu 1000 s s' ∨
      ∃ draws < 1000, ∃ s₁ s₂, Hits p operators base tabu draws s s₁ ∧ Grows base s₁ s₂ ∧
        (operators = [] ∨ ∃ op s₃, s₂.choose operators = (some op, s₃) ∧
          p.createEdit op .weighted s₃ = .ok (none, s'))) := by
  have hsearched : Searched p operators base tabu 1000 s (neighbour p operators base tabu s) :=
    drawNeighbour_searched p operators base tabu 1000 s
  rw [h] at hsearched
  cases hsearched with
  | known hhits => exact ⟨rfl, .inl hhits⟩
  | @nothing draws s₁ _ hdraws hhits hnothing =>
    refine ⟨rfl, .inr ⟨draws, hdraws, s₁, ?_⟩⟩
    have hdrawn := drawCandidate_drawn p operators base s₁
    rw [hnothing] at hdrawn
    cases hdrawn with
    | noOperator hgrows hoperators => exact ⟨_, hhits, hgrows, .inl hoperators⟩
    | noEdit hgrows hop hedit => exact ⟨_, hhits, hgrows, .inr ⟨_, _, hop, hedit⟩⟩

/-- A search only faults where the program faults to make an edit. -/
theorem neighbour_error {fault : Fault} (h : neighbour p operators base tabu s = .error fault) :
    ∃ op ∈ operators, ∃ s₁, p.createEdit op .weighted s₁ = .error fault := by
  have hsearched : Searched p operators base tabu 1000 s (neighbour p operators base tabu s) :=
    drawNeighbour_searched p operators base tabu 1000 s
  rw [h] at hsearched
  cases hsearched with
  | @fault draws s₁ _ hdraws hhits hfault =>
    have hdrawn := drawCandidate_drawn p operators base s₁
    rw [hfault] at hdrawn
    cases hdrawn with
    | fault hgrows hop hedit => exact ⟨_, Stream.mem_of_choose hop, _, hedit⟩

/-- A search for a neighbour. What it finds was not in the tabu set and is all that enters the set;
it is the base without one of its edits, or with a new edit that the program made with one of the
operators, so around a patch without edits it has one. If it finds nothing, the set is as before,
and all draws led to patches in it, or they did up to a draw that had to grow the patch and had no
operator for that or was not given an edit. It faults only where the program faults to make an edit.
All draws are around the same patch, and an epoch keeps it as its best one. -/
theorem neighbour_contract (p : Program ε σ) (operators : List EditOperator) (tabu : Tabu ε)
    (base : Patch ε) (s : Stream) :
    (∀ candidate tabu' s', neighbour p operators base tabu s = .ok ⟨some candidate, tabu', s'⟩ →
      tabu.contains candidate = false ∧
      (∀ patch, tabu'.contains patch = true ↔
        patch = candidate ∨ tabu.contains patch = true) ∧
      ((∃ before edit after, base.edits = before ++ edit :: after ∧
          candidate.edits = before ++ after) ∨
        ∃ op ∈ operators, ∃ s₁ s₂ edit, p.createEdit op .weighted s₁ = .ok (some edit, s₂) ∧
          candidate.edits = base.edits ++ [edit]) ∧
      (base = .empty → candidate.length = 1)) ∧
    (∀ tabu' s', neighbour p operators base tabu s = .ok ⟨none, tabu', s'⟩ →
      tabu' = tabu ∧
      (Hits p operators base tabu 1000 s s' ∨
        ∃ draws < 1000, ∃ s₁ s₂, Hits p operators base tabu draws s s₁ ∧ Grows base s₁ s₂ ∧
          (operators = [] ∨ ∃ op s₃, s₂.choose operators = (some op, s₃) ∧
            p.createEdit op .weighted s₃ = .ok (none, s')))) ∧
    (∀ fault, neighbour p operators base tabu s = .error fault →
      ∃ op ∈ operators, ∃ s₁, p.createEdit op .weighted s₁ = .error fault) ∧
    ∀ (ctx : SearchContext ε σ) seed epoch (g : Search.Stage ε) w more q w',
      Search.Advances ctx seed epoch (.between g) w more q w' → q.best? = some g.state.best := by
  refine ⟨?_, fun tabu' s' => neighbour_none, fun fault => neighbour_error,
    fun ctx seed epoch g w more q w' hstep => hstep.best_of_between⟩
  intro candidate tabu' s' hfound
  rcases drawNeighbour_ok hfound with ⟨hnone, -⟩ | ⟨c, s₁, s₂, hcandidate, hfresh, heq⟩
  · cases hnone
  · cases heq
    refine ⟨hfresh, fun patch => ?_, drawCandidate_edits hcandidate⟩
    rw [Tabu.contains_insert, Bool.or_eq_true, beq_iff_eq, eq_comm]

end Contract

/-! ### Draws of tokens -/

section Tokens

open Rehearsal Search

/-- The tokens of an alphabet, of which none can be made. -/
def unmade : Program Token World :=
  { tokens [] 3 with createEdit := fun _ _ _ => .error .emptyRange }

/-- From the empty patch a deletion is found and enters the tabu set; without operators nothing is
found, at the first draw; and a fault is one of the program. -/
theorem deletionOf_zero_is_found :
    (∃ tabu s', neighbour (tokens [] 3) [.deletion] .empty .empty zeroThenOne =
        .ok ⟨some (deletionOf 0), tabu, s'⟩ ∧
      (∀ patch, tabu.contains patch = true ↔
        patch = deletionOf 0 ∨ Tabu.empty.contains patch = true) ∧ (deletionOf 0).length = 1) ∧
    (∃ tabu s', neighbour (tokens [] 3) [] .empty .empty zeroThenOne = .ok ⟨none, tabu, s'⟩ ∧
      tabu = .empty) ∧
    (neighbour unmade [.deletion] .empty .empty zeroThenOne = .error .emptyRange ∧
      ∃ op ∈ [EditOperator.deletion], ∃ s₁,
        unmade.createEdit op .weighted s₁ = .error .emptyRange) ∧
    ∃ q : Position Token, Advances (secondPasses.context observer none) 0 1
        (.between ⟨⟨0⟩, 0, 1, Epoch.start none zeroThenOne⟩) ⟨[0], [], none, false⟩ [] q
        ⟨[0], [], none, false⟩ ∧ q.best? = some .empty := by
  obtain ⟨hfinds, -, -, hkeeps⟩ := neighbour_contract (tokens [] 3) [.deletion] .empty .empty
    zeroThenOne
  obtain ⟨-, hnothing, -, -⟩ := neighbour_contract (tokens [] 3) [] .empty .empty zeroThenOne
  obtain ⟨-, -, hfaults, -⟩ := neighbour_contract unmade [.deletion] .empty .empty zeroThenOne
  have hfound : neighbour (tokens [] 3) [.deletion] .empty .empty zeroThenOne =
      .ok ⟨some (deletionOf 0), _, _⟩ := neighbour_of_fresh rfl (Tabu.contains_empty _)
  obtain ⟨-, hgrown, -, hlength⟩ := hfinds _ _ _ hfound
  have hnone : neighbour (tokens [] 3) [] .empty .empty zeroThenOne =
      .ok ⟨none, .empty, zeroThenOne⟩ := rfl
  have hfault : neighbour unmade [.deletion] .empty .empty zeroThenOne = .error .emptyRange := rfl
  have hstep : Advances (secondPasses.context observer none) 0 1
      (.between ⟨⟨0⟩, 0, 1, Epoch.start none zeroThenOne⟩) ⟨[0], [], none, false⟩ [] _
      ⟨[0], [], none, false⟩ := .spends
  exact ⟨⟨_, _, hfound, hgrown, hlength rfl⟩, ⟨_, _, hnone, (hnothing _ _ hnone).1⟩,
    ⟨hfault, hfaults _ hfault⟩, _, hstep, hkeeps _ _ _ _ _ _ _ _ hstep⟩

end Tokens

/-! ## Neighbours within a set of edits -/

/-- All edits that the program makes with these operators are in the set. -/
def Program.MakesWithin (program : Program ε σ) (operators : List EditOperator) (E : Finset ε) :
    Prop :=
  ∀ op ∈ operators, ∀ method s edit s',
    program.createEdit op method s = .ok (some edit, s') → edit ∈ E

section Neighbours

variable [DecidableEq ε] {E : Finset ε} {b : Patch ε}

/-- The neighbours of a patch with new edits from a set. -/
def Patch.neighbours (b : Patch ε) (E : Finset ε) : Finset (Patch ε) :=
  (Finset.range b.length).image b.eraseAt ∪ E.image b.add

/-- There is at most one neighbour for each edit of the patch and one for each new edit. -/
theorem Patch.card_neighbours_le : (b.neighbours E).card ≤ E.card + b.length :=
  calc (b.neighbours E).card
      ≤ ((Finset.range b.length).image b.eraseAt).card + (E.image b.add).card :=
        Finset.card_union_le _ _
    _ ≤ (Finset.range b.length).card + E.card :=
        Nat.add_le_add Finset.card_image_le Finset.card_image_le
    _ = E.card + b.length := by rw [Finset.card_range, Nat.add_comm]

theorem Program.MakesWithin.mem_neighbours {program : Program ε σ} {operators : List EditOperator}
    (h : program.MakesWithin operators E) {candidate : Patch ε} {s s' : Stream}
    (hcandidate : drawCandidate program operators b s = .ok (some candidate, s')) :
    candidate ∈ b.neighbours E := by
  rcases drawCandidate_ok hcandidate with ⟨i, hi, rfl⟩ | ⟨op, hop, s₁, s₂, edit, hedit, rfl⟩
  · exact Finset.mem_union_left _ (Finset.mem_image_of_mem _ (Finset.mem_range.mpr hi))
  · exact Finset.mem_union_right _ (Finset.mem_image_of_mem _ (h op hop _ s₁ edit s₂ hedit))

end Neighbours

namespace Search

/-! ## Rounds -/

open Epoch

/-- A candidate of an epoch, with the best patch that it was drawn around. -/
structure Round (ε : Type) where
  base : Patch ε
  candidate : Patch ε

variable [DecidableEq ε] [Hashable ε]

/-- The round that starts with the step to a position, if one does. -/
def Position.opened : Position ε → List (Round ε)
  | .drawn g _ candidate => [⟨g.state.best, candidate⟩]
  | _ => []

/-- The candidate that is still to be evaluated. -/
def Position.pending : Position ε → List (Patch ε)
  | .drawn _ _ candidate => [candidate]
  | _ => []

/-- The tabu set of an epoch that is not done. -/
def Position.tabu? : Position ε → Option (Tabu ε)
  | .waiting => some .empty
  | .between g => some g.state.tabu
  | .drawn _ draw _ | .evaluated _ draw _ _ => some draw.tabu
  | .ended s _ => some s.tabu
  | .done _ => none

/-- The number of evaluations that the epoch counts, with those that it is about to count. -/
def Position.counted : Position ε → Nat
  | .waiting | .done none => 0
  | .between g => g.state.evaluations
  | .drawn g _ _ | .evaluated g _ _ _ => g.state.evaluations + 1
  | .ended s _ => s.evaluations
  | .done (some r) => r.fitnessEvaluations

section Rounds

variable (ctx : SearchContext ε σ) (seed : UInt64) (epoch : Nat)

/-- An epoch of which `seen` was seen may stand at a position after these rounds. -/
inductive Rounds : List (Round ε) → List (Sighting ε) → Position ε → Prop
  | waiting : Rounds [] [] .waiting
  | started {timeout : Duration} {stream : Stream} :
      Rounds [] [] (.between ⟨timeout, ctx.config.maxIter, 1, start ctx.original stream⟩)
  | next {rounds : List (Round ε)} {seen more : List (Sighting ε)} {p q : Position ε} {w w' : σ}
      (hearlier : Rounds rounds seen p) (hstep : Advances ctx seed epoch p w more q w') :
      Rounds (rounds ++ q.opened) (seen ++ more) q

end Rounds

variable {ctx : SearchContext ε σ} {seed : UInt64} {epoch : Nat} {rounds : List (Round ε)}
  {seen more : List (Sighting ε)} {p q : Position ε} {w w' : σ} {E : Finset ε}

/-- Wherever an epoch stands, it has come there by some rounds. -/
theorem Reachable.exists_rounds (h : Reachable ctx seed epoch seen p) :
    ∃ rounds, Rounds ctx seed epoch rounds seen p := by
  induction h with
  | waiting => exact ⟨[], .waiting⟩
  | started => exact ⟨[], .started⟩
  | next hearlier hstep ih =>
    obtain ⟨rounds, hrounds⟩ := ih
    exact ⟨_, hrounds.next hstep⟩

/-- What an epoch has explored by its rounds, where new edits come from a set. -/
structure Explored (E : Finset ε) (rounds : List (Round ε)) (seen : List (Sighting ε))
    (p : Position ε) : Prop where
  /-- No candidate is drawn twice, whichever patch it is drawn around. -/
  nodup : (rounds.map (·.candidate)).Nodup
  neighbours : ∀ r ∈ rounds, r.candidate ∈ r.base.neighbours E
  /-- The tabu set holds the candidates and nothing else. -/
  tabu : ∀ t, p.tabu? = some t → ∀ patch,
    t.contains patch = true ↔ patch ∈ rounds.map (·.candidate)
  /-- Each candidate is evaluated before the next one is drawn. -/
  evaluated : rounds.map (·.candidate) = (evaluations seen).map Prod.fst ++ p.pending
  counted : p.counted = rounds.length

/-- Steps that draw nothing keep the rounds. -/
theorem Explored.of_opened_nil (h : Explored E rounds seen p) (hopened : q.opened = [])
    (htabu : ∀ t, q.tabu? = some t → p.tabu? = some t)
    (hevaluated : p.pending = (evaluations more).map Prod.fst ++ q.pending)
    (hcounted : q.counted = p.counted) :
    Explored E (rounds ++ q.opened) (seen ++ more) q := by
  rw [hopened, List.append_nil]
  refine ⟨h.nodup, h.neighbours, fun t ht => h.tabu t (htabu t ht), ?_, hcounted.trans h.counted⟩
  rw [h.evaluated, hevaluated, evaluations_append, List.map_append, List.append_assoc]

/-- A fresh candidate is not one of those before. -/
theorem Explored.draws {timeout : Duration} {left iteration : Nat} {s : State ε}
    {draw : NeighbourDraw ε} {candidate : Patch ε}
    (h : Explored E rounds seen (.between ⟨timeout, left + 1, iteration, s⟩))
    (hdraw : Draws ctx s draw) (hfound : draw.found = some candidate)
    (hmakes : ctx.program.MakesWithin ctx.config.operators E) :
    Explored E (rounds ++ [⟨s.best, candidate⟩]) seen
      (.drawn ⟨timeout, left, iteration, s⟩ draw candidate) := by
  rcases drawNeighbour_ok hdraw with ⟨hnone, -⟩ | ⟨c, s₁, s₂, hcandidate, hfresh, rfl⟩
  · rw [hnone] at hfound
    cases hfound
  · obtain rfl : c = candidate := Option.some.inj hfound
    -- the tabu set is kept when the best patch changes, so it has all candidates of the epoch
    have hnew : c ∉ rounds.map (·.candidate) := by
      rw [← h.tabu s.tabu rfl, hfresh]
      exact Bool.false_ne_true
    constructor
    case nodup =>
      rw [List.map_append]
      exact h.nodup.append (List.nodup_singleton c)
        (List.disjoint_singleton.mpr hnew)
    case neighbours =>
      intro r hr
      rcases List.mem_append.mp hr with hr | hr
      · exact h.neighbours r hr
      · obtain rfl := List.mem_singleton.mp hr
        exact hmakes.mem_neighbours hcandidate
    case tabu =>
      rintro t ⟨⟩ patch
      rw [Tabu.contains_insert, Bool.or_eq_true, h.tabu s.tabu rfl, List.map_append,
        List.mem_append, beq_iff_eq, List.map_singleton, List.mem_singleton, or_comm, eq_comm]
    case evaluated =>
      rw [List.map_append, h.evaluated]
      exact congrArg (· ++ [c]) (List.append_nil _)
    case counted =>
      rw [List.length_append, ← h.counted]
      rfl

theorem Explored.next (h : Explored E rounds seen p) (hstep : Advances ctx seed epoch p w more q w')
    (hmakes : ctx.program.MakesWithin ctx.config.operators E) :
    Explored E (rounds ++ q.opened) (seen ++ more) q := by
  cases hstep with
  | opens | spends | stops | evaluates | solves | goesOn =>
    exact h.of_opened_nil rfl (fun t ht => ht) rfl rfl
  | skips => exact h.of_opened_nil rfl (fun t ht => nomatch ht) rfl rfl
  | concludes hresult =>
    obtain ⟨words, -, rfl⟩ := result_ok_iff.mp hresult
    exact h.of_opened_nil rfl (fun t ht => nomatch ht) rfl rfl
  | @exhausts timeout left iteration s draw w hgo hdraw hfound =>
    refine h.of_opened_nil rfl (fun t ht => ?_) rfl rfl
    -- the tabu set is that of the draw now, which has found nothing to enter it
    rcases drawNeighbour_ok hdraw with ⟨-, htabu⟩ | ⟨c, s₁, s₂, -, -, rfl⟩
    · rw [← ht]
      exact congrArg some htabu.symm
    · cases hfound
  | draws hgo hdraw hfound =>
    rw [List.append_nil]
    exact h.draws hdraw hfound hmakes

/-- Wherever an epoch has come by some rounds, these have explored neighbours. -/
theorem Rounds.explored (h : Rounds ctx seed epoch rounds seen p)
    (hmakes : ctx.program.MakesWithin ctx.config.operators E) : Explored E rounds seen p := by
  induction h with
  | waiting | started =>
    refine ⟨List.nodup_nil, List.forall_mem_nil _, ?_, rfl, rfl⟩
    rintro t ⟨⟩ patch
    simp [start]
  | next hearlier hstep ih => exact ih.next hstep hmakes

/-- Only so many rounds are around one patch. -/
theorem Explored.length_around_le (h : Explored E rounds seen p) (b : Patch ε) :
    (rounds.filter (·.base = b)).length ≤ E.card + b.length := by
  have hnodup : ((rounds.filter (·.base = b)).map (·.candidate)).Nodup :=
    h.nodup.sublist (List.filter_sublist.map _)
  have hsub : ((rounds.filter (·.base = b)).map (·.candidate)).toFinset ⊆ b.neighbours E := by
    intro candidate hcandidate
    obtain ⟨r, hr, rfl⟩ := List.mem_map.mp (List.mem_toFinset.mp hcandidate)
    obtain ⟨hr, hbase⟩ := List.mem_filter.mp hr
    rw [← of_decide_eq_true hbase]
    exact h.neighbours r hr
  calc (rounds.filter (·.base = b)).length
      = ((rounds.filter (·.base = b)).map (·.candidate)).toFinset.card := by
        rw [List.toFinset_card_of_nodup hnodup, List.length_map]
    _ ≤ (b.neighbours E).card := Finset.card_le_card hsub
    _ ≤ E.card + b.length := Patch.card_neighbours_le

/-! ## Bounded work -/

/-- The work of a search is bounded by the neighbourhoods of its best patches, where `k` edits can
be made. -/
structure BoundedBy (search : Search ε σ) (observer : Observer σ) (k : Nat) : Prop where
  /-- Every epoch goes by rounds. -/
  rounds : ∀ {original epoch seen p},
    Reachable (search.context observer original) search.seed epoch seen p →
      ∃ rounds, Rounds (search.context observer original) search.seed epoch rounds seen p
  reported : ∀ {report}, MayReport search observer report → ∀ r ∈ report.epochs, ∃ rounds seen,
    Rounds (search.context observer report.originalFitness) search.seed r.epoch rounds seen
      (.done (some r))
  /-- The candidates of the rounds are the patches that are evaluated, none of them twice. -/
  evaluated : ∀ {original epoch rounds seen p},
    Rounds (search.context observer original) search.seed epoch rounds seen p →
      rounds.map (·.candidate) = (evaluations seen).map Prod.fst ++ p.pending ∧
      (rounds.map (·.candidate)).Nodup
  /-- Around one best patch, an epoch has as many rounds as there are edits at most. -/
  around : ∀ {original epoch rounds seen p},
    Rounds (search.context observer original) search.seed epoch rounds seen p →
      ∀ best, (rounds.filter (·.base = best)).length ≤ k + best.length
  /-- If the empty patch is never replaced, these are all evaluations of the epoch. -/
  unreplaced : ∀ {original epoch rounds seen r},
    Rounds (search.context observer original) search.seed epoch rounds seen (.done (some r)) →
      (∀ round ∈ rounds, round.base = .empty) → r.fitnessEvaluations ≤ k

theorem boundedBy_card {search : Search ε σ} {observer : Observer σ} {E : Finset ε}
    (hmakes : search.program.MakesWithin search.config.operators E) :
    search.BoundedBy observer E.card where
  rounds h := h.exists_rounds
  reported h r hr := by
    obtain ⟨seen, hcomes⟩ := h.exists_comesTo r hr
    obtain ⟨rounds, hrounds⟩ := hcomes.reachable.2.exists_rounds
    exact ⟨rounds, seen, hrounds⟩
  evaluated h := ⟨(h.explored hmakes).evaluated, (h.explored hmakes).nodup⟩
  around h := (h.explored hmakes).length_around_le
  unreplaced {original epoch rounds seen r} h hbase := by
    have hexplored : Explored E rounds seen (.done (some r)) := h.explored hmakes
    have hall : rounds.filter (·.base = .empty) = rounds :=
      List.filter_eq_self.mpr fun round hround => decide_eq_true (hbase round hround)
    calc r.fitnessEvaluations
        = rounds.length := hexplored.counted
      _ = (rounds.filter (·.base = .empty)).length := by rw [hall]
      _ ≤ E.card + Patch.empty.length := hexplored.length_around_le .empty
      _ = E.card := rfl

end Search

end ProgramRepair
