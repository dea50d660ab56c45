import ProgramRepair.CommandLine
import ProgramRepair.Proofs.Json.Records
import ProgramRepair.Proofs.Report.Aggregation

/-!
# Reports that were loaded

A report from a file can hold whatever its decoder lets through. `Reader.Gives` says what a reader
can return, and every way to put readers together keeps that apart for the parts. The decoder of
reports lets through counters of 64 bits and no larger ones, so the work of a single repair can
always be summarized, but that of several ones need not fit. Main statements:

* `Fields.gives_of_read`: each part of a record comes from the reader of its field or is a default;
* `Loadable.isWord`: the counters of a loaded report;
* `summary_of_loadable`: which loaded reports have a mean and a text.
-/

namespace ProgramRepair.Json

variable {α β τ : Type} {a : α} {b : β} {n : Int} {cause : Cause}

/-! ## What a reader can return -/

/-- From some text the reader returns `a`. -/
def Reader.Gives (r : Reader α) (a : α) : Prop := ∃ s s', r s = (.ok a, s')

namespace Reader

variable {r : Reader α} {f : α → Reader β}

theorem gives_pure {a' : α} (h : Gives (pure a) a') : a = a' := by
  obtain ⟨s, s', h⟩ := h
  cases h
  rfl

theorem not_gives_failAt {further : Nat} : ¬ Gives (failAt further cause) a := by
  rintro ⟨s, s', h⟩
  cases h

theorem not_gives_failHere : ¬ Gives (failHere cause) a := not_gives_failAt

theorem not_gives_failNext : ¬ Gives (failNext cause) a := not_gives_failAt

theorem not_gives_failNowhere : ¬ Gives (failNowhere cause) a := by
  rintro ⟨s, s', h⟩
  cases h

theorem Gives.of_bind (h : Gives (r >>= f) b) : ∃ a, Gives r a ∧ Gives (f a) b := by
  obtain ⟨s, s'', h⟩ := h
  obtain ⟨a, s', hr, hf⟩ := exists_of_bind_ok h
  exact ⟨a, ⟨s, s', hr⟩, ⟨s', s'', hf⟩⟩

theorem Gives.of_map {g : α → β} (h : Gives (g <$> r) b) : ∃ a, Gives r a ∧ g a = b := by
  rw [map_eq_pure_bind] at h
  obtain ⟨a, hr, hg⟩ := h.of_bind
  exact ⟨a, hr, gives_pure hg⟩

theorem Gives.of_placed (h : Gives (placed r) a) : Gives r a := by
  obtain ⟨s, s', h⟩ := h
  exact ⟨s, s', of_placed_ok h⟩

theorem Gives.of_closedBy {closing : Reader Unit} (h : Gives (closedBy r closing) a) :
    Gives r a := by
  obtain ⟨s, s'', h⟩ := h
  unfold closedBy at h
  rcases hr : r s with ⟨x, s'⟩
  cases x with
  | error e =>
    rw [hr] at h
    cases h
  | ok a' =>
    rw [hr] at h
    dsimp only at h
    split at h
    · cases h
      exact ⟨s, s', hr⟩
    · cases h

theorem not_gives_bind (h : ∀ a, ¬ Gives (f a) b) : ¬ Gives (r >>= f) b := by
  intro hbind
  obtain ⟨a, -, hf⟩ := hbind.of_bind
  exact h a hf

/-- Whatever comes next instead of the expected value is an error. -/
theorem not_gives_mismatch {expected : String} : ¬ Gives (mismatch expected) a := by
  intro h
  obtain ⟨next, -, h⟩ := h.of_placed.of_bind
  split at h
  · exact not_gives_bind (fun _ => not_gives_bind fun _ => not_gives_failNowhere) h
  · exact not_gives_bind (fun _ => not_gives_bind fun _ => not_gives_failNowhere) h
  · exact not_gives_bind (fun _ => not_gives_bind fun _ => not_gives_failNowhere) h
  · exact not_gives_bind (fun _ => not_gives_failNowhere) h
  · exact not_gives_failNowhere h
  · exact not_gives_failNowhere h
  · split at h
    · exact not_gives_bind (fun _ => not_gives_failNowhere) h
    · exact not_gives_failNext h
  · exact not_gives_failNext h

end Reader

open Reader

/-! ## Numbers and lists -/

theorem Codec.gives_wholeNumber {expected : String} {low high : Int}
    (h : Gives (wholeNumber expected low high) n) : low ≤ n ∧ n ≤ high := by
  obtain ⟨next, -, h⟩ := h.of_placed.of_bind
  split at h
  · obtain ⟨number, -, h⟩ := h.of_bind
    split at h
    · next m =>
      split at h
      · next hbounds =>
        obtain rfl := gives_pure h
        exact hbounds
      · exact absurd h not_gives_failNowhere
    · exact absurd h not_gives_failNowhere
  · exact absurd h not_gives_mismatch

/-- No count beyond 64 bits is read. -/
theorem Codec.gives_size {n : Nat} (h : Gives Codec.size.read n) : IsWord n := by
  obtain ⟨m, hm, rfl⟩ := h.of_map
  obtain ⟨hlow, hhigh⟩ := gives_wholeNumber hm
  have hword : m.toNat < 18446744073709551616 := by
    have hlargest : largestWord = 18446744073709551615 := rfl
    omega
  exact hword

theorem Codec.gives_itemsWithin {item : Reader α} {first : Bool} {fuel : Nat} {items : List α}
    (h : Gives (itemsWithin item first fuel) items) : ∀ a ∈ items, Gives item a := by
  induction fuel generalizing first items with
  | zero => exact absurd h not_gives_failHere
  | succ fuel ih =>
    obtain ⟨more, -, h⟩ := h.of_bind
    cases more with
    | false =>
      obtain rfl := gives_pure h
      nofun
    | true =>
      obtain ⟨a, ha, h⟩ := h.of_bind
      obtain ⟨rest, hrest, h⟩ := h.of_bind
      obtain rfl := gives_pure h
      intro a' ha'
      rcases List.mem_cons.mp ha' with rfl | ha'
      · exact ha
      · exact ih hrest a' ha'

/-- The items of a list are read by the reader of the items. -/
theorem Codec.gives_list {c : Codec α} {items : List α} (h : Gives c.list.read items) :
    ∀ a ∈ items, Gives c.read a := by
  obtain ⟨next, -, h⟩ := h.of_placed.of_bind
  split at h
  · obtain ⟨-, -, h⟩ := h.of_bind
    obtain ⟨s, -, h⟩ := h.of_bind
    exact gives_itemsWithin h.of_closedBy
  · exact absurd h not_gives_mismatch

/-! ## Records -/

/-- What a field can be: something that its reader returns, or a default. -/
def Field.Gives (f : Field α) (a : α) : Prop :=
  Reader.Gives f.read a ∨ f.inObject = some a ∨ f.inList = some a

/-- A field that has to be there has no default. -/
theorem Field.gives_required {name : String} {c : Codec α} (h : (Field.required name c).Gives a) :
    Reader.Gives c.read a := by
  rcases h with hread | hobject | hlist
  · exact hread
  · cases hobject
  · cases hlist

namespace Fields

/-- What a record can be: each part is what its field can be. -/
def Gives : {τ : Type} → Fields τ → τ → Prop
  | _, nil, _ => True
  | _, cons field rest, (a, b) => field.Gives a ∧ rest.Gives b

/-- What was stored so far was returned by the readers of the fields. -/
def Filled : {τ : Type} → (fs : Fields τ) → fs.Slots → Prop
  | _, nil, _ => True
  | _, @cons α _ field rest, slots =>
    let (slot, slots) : Option α × rest.Slots := slots
    (∀ a, slot = some a → Reader.Gives field.read a) ∧ rest.Filled slots

theorem filled_noSlots (fs : Fields τ) : fs.Filled fs.noSlots := by
  induction fs with
  | nil => trivial
  | cons field rest ih => exact ⟨nofun, ih⟩

theorem Filled.store {fs : Fields τ} {key : String} {slots slots' : fs.Slots}
    {r : Reader fs.Slots} (h : fs.Filled slots) (hstore : fs.store key slots = some r)
    (hr : Reader.Gives r slots') : fs.Filled slots' := by
  induction fs with
  | nil => cases hstore
  | @cons α β field rest ih =>
    obtain ⟨slot, later⟩ := slots
    obtain ⟨hslot, hlater⟩ := h
    have heq : (cons field rest).store key (slot, later) =
        if key = field.name then
          some do
            if slot.isSome then failNowhere (.duplicateField key)
            colon
            let a ← field.read
            return ((some a, later) : Option α × rest.Slots)
        else (rest.store key later).map fun r => do
          return ((slot, ← r) : Option α × rest.Slots) := rfl
    rw [heq] at hstore
    split at hstore
    · obtain rfl := Option.some.inj hstore
      cases slot with
      | some a =>
        -- the field was read before
        obtain ⟨u, hfail, -⟩ := Gives.of_bind (r := failNowhere (.duplicateField key)) hr
        exact absurd hfail not_gives_failNowhere
      | none =>
        obtain ⟨-, -, hr⟩ := Gives.of_bind (r := colon) hr
        obtain ⟨a, ha, hr⟩ := hr.of_bind
        obtain rfl := gives_pure hr
        refine ⟨?_, hlater⟩
        rintro a' ⟨⟩
        exact ha
    · obtain ⟨r', hstore', rfl⟩ := Option.map_eq_some_iff.mp hstore
      obtain ⟨later', hlater', hr⟩ := Gives.of_bind (r := r') hr
      obtain rfl := gives_pure hr
      exact ⟨hslot, ih hlater hstore' hlater'⟩

theorem filled_of_slotsWithin {fs : Fields τ} {first : Bool} {slots slots' : fs.Slots} {fuel : Nat}
    (h : fs.Filled slots) (hread : Reader.Gives (fs.slotsWithin first slots fuel) slots') :
    fs.Filled slots' := by
  induction fuel generalizing first slots with
  | zero => exact absurd hread not_gives_failHere
  | succ fuel ih =>
    obtain ⟨more, -, hread⟩ := hread.of_bind
    cases more with
    | false =>
      obtain rfl := gives_pure hread
      exact h
    | true =>
      obtain ⟨key, -, hread⟩ := hread.of_bind
      split at hread
      · next store hstore =>
        obtain ⟨between, hbetween, hread⟩ := hread.of_bind
        exact ih (h.store hstore hbetween) hread
      · -- an unknown key is passed over
        obtain ⟨-, -, hread⟩ := hread.of_bind
        obtain ⟨-, -, hread⟩ := hread.of_bind
        exact ih h hread

theorem Filled.finish {fs : Fields τ} {slots : fs.Slots} {t : τ} (h : fs.Filled slots)
    (hfinish : Reader.Gives (fs.finish slots) t) : fs.Gives t := by
  induction fs with
  | nil => trivial
  | cons field rest ih =>
    obtain ⟨slot, later⟩ := slots
    obtain ⟨hslot, hlater⟩ := h
    simp only [Fields.finish] at hfinish
    cases slot with
    | some a =>
      obtain ⟨b, hb, hfinish⟩ := hfinish.of_bind
      obtain rfl := gives_pure hfinish
      exact ⟨.inl (hslot a rfl), ih hlater hb⟩
    | none =>
      cases hdefault : field.inObject with
      | none =>
        rw [hdefault] at hfinish
        exact absurd hfinish not_gives_failNowhere
      | some a =>
        rw [hdefault] at hfinish
        obtain ⟨b, hb, hfinish⟩ := hfinish.of_bind
        obtain rfl := gives_pure hfinish
        exact ⟨.inr (.inl hdefault), ih hlater hb⟩

theorem gives_of_readItems {title : String} {total index : Nat} {fs : Fields τ} {t : τ}
    (h : Reader.Gives (fs.readItems title total index) t) : fs.Gives t := by
  induction fs generalizing index with
  | nil => trivial
  | cons field rest ih =>
    obtain ⟨more, -, h⟩ := h.of_bind
    cases more with
    | true =>
      obtain ⟨a, ha, h⟩ := h.of_bind
      obtain ⟨b, hb, h⟩ := h.of_bind
      obtain rfl := gives_pure h
      exact ⟨.inl ha, ih hb⟩
    | false =>
      cases hdefault : field.inList with
      | none =>
        rw [hdefault] at h
        exact absurd h not_gives_failNowhere
      | some a =>
        rw [hdefault] at h
        obtain ⟨b, hb, h⟩ := h.of_bind
        obtain rfl := gives_pure h
        exact ⟨.inr (.inr hdefault), ih hb⟩

/-- Whether a record is read from a list or from an object with its fields in any order, each of
its parts is what its field can be. -/
theorem gives_of_read {title : String} {fs : Fields τ} {t : τ}
    (h : Reader.Gives (fs.read title) t) : fs.Gives t := by
  obtain ⟨next, -, h⟩ := h.of_placed.of_bind
  split at h
  · obtain ⟨-, -, h⟩ := h.of_bind
    exact gives_of_readItems h.of_closedBy
  · obtain ⟨-, -, h⟩ := h.of_bind
    obtain ⟨s, -, h⟩ := h.of_bind
    obtain ⟨slots, hslots, h⟩ := h.of_closedBy.of_bind
    exact (filled_of_slotsWithin fs.filled_noSlots hslots).finish h
  · exact absurd h not_gives_mismatch

end Fields

end ProgramRepair.Json

namespace ProgramRepair

open Json

/-! ## Reports -/

/-- What a loaded epoch counts fits into 64 bits. -/
structure EpochResult.CountsInWords (e : EpochResult) : Prop where
  epoch : IsWord e.epoch
  fitnessEvaluations : IsWord e.fitnessEvaluations
  invalidPatchCount : IsWord e.invalidPatchCount

theorem EpochResult.countsInWords_of_gives {e : EpochResult}
    (h : Reader.Gives EpochResult.codec.read e) : e.CountsInWords := by
  obtain ⟨⟨epoch, success, evaluations, invalid, best, patch, diff, elapsed, _⟩, hread, rfl⟩ :=
    h.of_map
  obtain ⟨hepoch, -, hevaluations, hinvalid, -⟩ := Fields.gives_of_read hread
  exact ⟨Codec.gives_size (Field.gives_required hepoch),
    Codec.gives_size (Field.gives_required hevaluations),
    Codec.gives_size (Field.gives_required hinvalid)⟩

namespace Report

variable {r : Report}

/-- The decoder of reports accepts some text as this report. -/
def Loadable (r : Report) : Prop := ∃ source, Report.codec.parse source = .ok r

theorem loadable_of_load {d : Disk} {cwd : Place} {path : String}
    (h : Report.load d cwd path = .ok r) : r.Loadable := by
  obtain ⟨source, -, h⟩ := Disk.bind_eq_ok.mp h
  cases hparse : Report.codec.parse source with
  | error e =>
    rw [hparse] at h
    cases h
  | ok r' =>
    rw [hparse] at h
    cases h
    exact ⟨source, hparse⟩

/-- Reports with any counters of 64 bits can be loaded. -/
theorem IsStorable.loadable (h : r.IsStorable) : r.Loadable :=
  ⟨r.stored, (Report.roundTrips h).keeps.pretty⟩

theorem Loadable.isWord (h : r.Loadable) : ∀ e ∈ r.epochs, e.CountsInWords := by
  obtain ⟨source, hparse⟩ := h
  obtain ⟨rest, hread, -⟩ := exists_of_decode hparse
  have hgives : Reader.Gives Report.codec.read r := ⟨_, _, hread⟩
  obtain ⟨⟨original, epochs, elapsed, _⟩, hfields, rfl⟩ := hgives.of_map
  obtain ⟨-, hepochs, -⟩ := Fields.gives_of_read hfields
  intro e he
  exact EpochResult.countsInWords_of_gives
    (Codec.gives_list (Field.gives_required hepochs) e he)

/-! ## Summaries -/

/-- Without a repair there is no work. -/
theorem repairWork_eq_zero (h : r.successCount = 0) : r.repairWork = 0 := by
  rw [successCount, List.length_eq_zero_iff] at h
  rw [repairWork, h]
  rfl

theorem averageEvaluations_of_lt (h : r.repairWork < counterLimit) :
    r.averageEvaluations =
      .ok (if r.successCount = 0 then none
        else some (.ofNat r.repairWork / .ofNat r.successCount)) := by
  rw [averageEvaluations_eq, if_pos h]
  split
  · rfl
  · rfl

theorem averageEvaluations_of_le (h : counterLimit ≤ r.repairWork) :
    r.averageEvaluations = .error .countOverflow := by
  have hsuccess : r.successCount ≠ 0 := by
    intro hnone
    rw [repairWork_eq_zero hnone] at h
    exact absurd h (by decide)
  rw [averageEvaluations_eq, if_neg hsuccess, if_neg (Nat.not_lt.mpr h)]

/-- The mean is all that can be missing from the text of a report. -/
theorem exists_text_of_lt (h : r.repairWork < counterLimit) : ∃ text, r.toText = .ok text := by
  rw [toText, averageEvaluations_of_lt h]
  exact ⟨_, rfl⟩

theorem toText_of_le (h : counterLimit ≤ r.repairWork) : r.toText = .error .countOverflow := by
  rw [toText, averageEvaluations_of_le h]
  rfl

/-- One counter always fits, and with it the work of a single repair. -/
theorem Loadable.repairWork_lt (h : r.Loadable) (hone : r.successCount ≤ 1) :
    r.repairWork < counterLimit := by
  rw [successCount] at hone
  rw [repairWork]
  rcases hrepairs : r.successful with _ | ⟨e, _ | ⟨e', rest⟩⟩
  · decide
  · have he : e ∈ r.epochs := by
      refine (mem_successful.mp ?_).1
      rw [hrepairs]
      exact List.mem_singleton_self e
    rw [List.map_singleton, List.sum_singleton]
    exact (h.isWord e he).fitnessEvaluations
  · rw [hrepairs, List.length_cons, List.length_cons] at hone
    omega

/-- A report from a file, or from any text that its decoder accepts, has counters of 64 bits, and
reports with any such counters can come from there. If the evaluations of its repairs add up to a
number of 64 bits, as those of a single repair always do, then it has a text, and where there is a
repair the mean is the sum divided by the number of repairs. If they add up to more, the sum
overflows, and there is neither a mean nor a text. -/
theorem summary_of_loadable (r : Report) :
    (∀ d cwd path, Report.load d cwd path = .ok r → r.Loadable) ∧
    (r.IsStorable → r.Loadable) ∧
    (r.Loadable →
      (∀ e ∈ r.epochs, e.CountsInWords) ∧
      (r.successCount ≤ 1 → r.repairWork < counterLimit) ∧
      (r.repairWork < counterLimit → (∃ text, r.toText = .ok text) ∧ r.averageEvaluations =
        .ok (if r.successCount = 0 then none
          else some (.ofNat r.repairWork / .ofNat r.successCount))) ∧
      (counterLimit ≤ r.repairWork →
        r.toText = .error .countOverflow ∧ r.averageEvaluations = .error .countOverflow)) := by
  refine ⟨?_, ?_, ?_⟩
  · intro d cwd path hload
    exact loadable_of_load hload
  · intro hstorable
    exact hstorable.loadable
  · intro h
    refine ⟨h.isWord, h.repairWork_lt, ?_, ?_⟩
    · intro hfits
      exact ⟨exists_text_of_lt hfits, averageEvaluations_of_lt hfits⟩
    · intro hlarge
      exact ⟨toText_of_le hlarge, averageEvaluations_of_le hlarge⟩

theorem readsBack_zero : ReadsBack .zero := ⟨by decide, by decide +kernel⟩

/-- Epochs that count in 64 bits and take no time can be stored. -/
theorem isStorable_of_epochOf {number evaluations : Nat} (success : Bool) (diff : String)
    (hnumber : IsWord number) (hevaluations : IsWord evaluations) :
    (epochOf number success evaluations diff).IsStorable where
  epoch := hnumber
  fitnessEvaluations := hevaluations
  invalidPatchCount := show 0 < 2 ^ 64 by decide
  bestFitness x hx := Option.some.inj hx ▸ readsBack_zero
  elapsedSeconds := readsBack_zero

/-- A report of three epochs, the first and the last of which found a repair. What the last one
counts is left open. -/
def fullReport (last : Nat) : Report :=
  ⟨none, [epochOf 1 true (2 ^ 64 - 2) "-a\n", epochOf 2 false (2 ^ 64 - 1) "",
    epochOf 3 true last "-a\n"], .zero⟩

theorem isStorable_fullReport {last : Nat} (h : IsWord last) : (fullReport last).IsStorable where
  originalFitness := nofun
  epochs := by
    intro e he
    simp only [fullReport, List.mem_cons, List.not_mem_nil, or_false] at he
    rcases he with rfl | rfl | rfl
    · exact isStorable_of_epochOf _ _ (show 1 < 2 ^ 64 by decide)
        (show 2 ^ 64 - 2 < 2 ^ 64 by decide)
    · exact isStorable_of_epochOf _ _ (show 2 < 2 ^ 64 by decide)
        (show 2 ^ 64 - 1 < 2 ^ 64 by decide)
    · exact isStorable_of_epochOf _ _ (show 3 < 2 ^ 64 by decide) h
  elapsedSeconds := readsBack_zero

/-- The evaluations of two repairs add up to the largest number of 64 bits. -/
theorem summary_of_fullReport :
    (fullReport 1).Loadable ∧ (∃ text, (fullReport 1).toText = .ok text) ∧
    (fullReport 1).averageEvaluations = .ok (some (.ofNat (2 ^ 64 - 1) / .ofNat 2)) := by
  obtain ⟨-, hstorable, hsummary⟩ := summary_of_loadable (fullReport 1)
  have hload : (fullReport 1).Loadable :=
    hstorable (isStorable_fullReport (show 1 < 2 ^ 64 by decide))
  obtain ⟨-, -, hfits, -⟩ := hsummary hload
  obtain ⟨htext, hmean⟩ := hfits (by decide)
  exact ⟨hload, htext, hmean⟩

/-- One more evaluation, and the report that was loaded has neither a mean nor a text. -/
theorem loadable_without_summary :
    (fullReport 2).Loadable ∧ (fullReport 2).averageEvaluations = .error .countOverflow ∧
    (fullReport 2).toText = .error .countOverflow := by
  have hload : (fullReport 2).Loadable :=
    (isStorable_fullReport (show 2 < 2 ^ 64 by decide)).loadable
  have hlarge : counterLimit ≤ (fullReport 2).repairWork := by decide
  exact ⟨hload, averageEvaluations_of_le hlarge, toText_of_le hlarge⟩

end Report

end ProgramRepair
