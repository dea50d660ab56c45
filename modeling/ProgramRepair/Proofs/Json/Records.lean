import ProgramRepair.CommandLine
import ProgramRepair.Proofs.Disk.Reaching
import ProgramRepair.Proofs.Json.Codecs
import ProgramRepair.Proofs.Text.Utf8

/-!
# Records survive being stored

Every record that is written as JSON is read back as it was, from its compact text and from its
indented one. The predicates `IsStorable` say what the numbers of a record have to be: counts of 64
bits, exit codes of 32 bits, and doubles that read back. Strings can be any. Main statements:

* `Status.recovers`: a status is read from the object that its name and its counts make;
* `Report.load_of_save`: a report that was saved is loaded again;
* `records_survive`: all of this for every record.
-/

namespace ProgramRepair

open Json Json.Reader

/-! ## Numbers -/

/-- A number of 64 bits. -/
def IsWord (n : Nat) : Prop := n < 2 ^ 64

theorem roundTrips_size {n : Nat} (h : IsWord n) : Codec.size.RoundTrips n := roundTrips_count _ h

/-- A double that may be absent. -/
def ReadsBackIfAny (o : Option Binary64) : Prop := ∀ x, o = some x → ReadsBack x

theorem roundTrips_optionalFloat {o : Option Binary64} (h : ReadsBackIfAny o) :
    Codec.float.option.RoundTrips o := by
  cases o with
  | none => exact roundTrips_none
  | some x =>
    have hx := h x rfl
    refine (roundTrips_float hx).option_some ?_
    show (if x.isFinite then Value.float x else .null).isNull = false
    rw [if_pos hx.isFinite]
    simp [Value.isNull, hx.isFinite]

/-! ## Choices -/

theorem Source.Granularity.roundTrips (g : Granularity) : codec.RoundTrips g := by
  cases g <;> exact roundTrips_names rfl rfl

theorem Classifier.roundTrips (c : Classifier) : codec.RoundTrips c := by
  cases c <;> exact roundTrips_names rfl rfl

theorem EditOperator.roundTrips (op : EditOperator) : codec.RoundTrips op := by
  cases op <;> exact roundTrips_names rfl rfl

theorem Phase.roundTrips (p : Phase) : codec.RoundTrips p := by
  cases p <;> exact roundTrips_names rfl rfl

/-! ## Edits -/

namespace Source

structure Site.IsStorable (s : Site) : Prop where
  file : IsWord s.file
  unit : IsWord s.unit

theorem Site.roundTrips {s : Site} (h : s.IsStorable) : codec.RoundTrips s :=
  Fields.roundTrips_codec (by decide) rfl
    ⟨Field.recovers_required (roundTrips_size h.file) _,
      Field.recovers_required (roundTrips_size h.unit) _, trivial⟩

/-- The sites that an edit is made of. -/
def Edit.sites : Edit → List Site
  | .replacement target ingredient => [target, ingredient]
  | .insertion target ingredient => [target, ingredient]
  | .deletion target => [target]

def Edit.IsStorable (e : Edit) : Prop := ∀ s ∈ e.sites, s.IsStorable

theorem Edit.recovers_pair {target ingredient : Site} (htarget : target.IsStorable)
    (hingredient : ingredient.IsStorable) (title : String) :
    (pairCodec title).RoundTrips (target, ingredient) :=
  Fields.roundTrips_codec (by decide) rfl
    ⟨Field.recovers_required (Site.roundTrips htarget) _,
      Field.recovers_required (Site.roundTrips hingredient) _, trivial⟩

theorem Edit.recovers_target {target : Site} (h : target.IsStorable) (title : String) :
    (targetCodec title).RoundTrips target :=
  Fields.roundTrips_codec (by decide) rfl
    ⟨Field.recovers_required (Site.roundTrips h) _, trivial⟩

/-- The name of an edit stands before what it is made of. -/
theorem Edit.roundTrips {e : Edit} (h : e.IsStorable) : codec.RoundTrips e := by
  cases e with
  | replacement target ingredient =>
    refine recovers_choice (b := .replacement) rfl ?_
    intro style depth blanks rest hblanks hrest
    exact bind_of_ok (recovers_pair (h target (by simp [sites])) (h ingredient (by simp [sites])) _
      style depth blanks rest hblanks hrest)
  | insertion target ingredient =>
    refine recovers_choice (b := .insertion) rfl ?_
    intro style depth blanks rest hblanks hrest
    exact bind_of_ok (recovers_pair (h target (by simp [sites])) (h ingredient (by simp [sites])) _
      style depth blanks rest hblanks hrest)
  | deletion target =>
    refine recovers_choice (b := .deletion) rfl ?_
    intro style depth blanks rest hblanks hrest
    exact bind_of_ok (recovers_target (h target (by simp [sites])) _ style depth blanks rest hblanks
      hrest)

end Source

/-! ## Status -/

namespace Status

def IsStorable : Status → Prop
  | .failing failed total => IsWord failed ∧ IsWord total
  | _ => True

/-- A value that begins like a number is one. -/
theorem value_cons {c : Char} (hc : startsNumber c = true) {blanks : List Char}
    (hblanks : IsBlank blanks) (depth fuel : Nat) (s : List Char) :
    value depth (fuel + 1) (blanks ++ c :: s) = (do
      match ← number with
      | .integer n => return .integer n
      | .float x => return .float x : Reader Value) (c :: s) := by
  unfold value
  refine (bind_of_ok (peekValue_cons hblanks (ne_of_startsNumber hc).1)).trans (congrFun ?_ _)
  -- no other kind of value begins like a number
  split
  · exact absurd hc (by decide)
  · exact absurd hc (by decide)
  · exact absurd hc (by decide)
  · exact absurd hc (by decide)
  · exact absurd hc (by decide)
  · exact absurd hc (by decide)
  · exact (if_pos (by simpa [startsNumber] using hc)).trans rfl

/-- A whole number is read as a value of any kind. -/
theorem value_integer {n : Nat} (hn : IsWord n) (depth fuel : Nat) {blanks rest : List Char}
    (hblanks : IsBlank blanks) (hrest : Follows rest) :
    value depth (fuel + 1) (blanks ++ ((toString (n : Int)).toList ++ rest)) =
      (.ok (.integer n), rest) := by
  have hlimit : (largestSignificand : Int) = 2 ^ 64 - 1 := by decide
  have hlow : -(Nat.pow 2 63 : Int) ≤ n := Int.le_trans (by decide) (Int.natCast_nonneg n)
  have hhigh : (n : Int) ≤ largestSignificand := by
    have hword : n < 2 ^ 64 := hn
    rw [hlimit]
    omega
  have hnumber := number_toString hlow hhigh hrest
  obtain ⟨c, text, htext, hc⟩ := exists_toString_int n
  rw [htext] at hnumber ⊢
  exact (value_cons hc hblanks depth fuel (text ++ rest)).trans (bind_of_ok hnumber)

/-- Fields that hold counts. -/
def countFields (fields : List (String × Nat)) : List (String × Value) :=
  fields.map fun (key, n) => (key, .integer n)

/-- Once the name of a status is known, its counts are kept as they come. -/
theorem readFields_counts {fields : List (String × Nat)} (hkeys : ∀ p ∈ fields, p.1 ≠ "status")
    (hwords : ∀ p ∈ fields, IsWord p.2) (tag : Tag) (bracketDepth : Nat) (style : Value.Style)
    (depth : Nat) {fuel : Nat} (hfuel : fields.length < fuel) {gap : List Char} (hgap : IsBlank gap)
    (hfollows : ∀ s, Follows (gap ++ '\x7d' :: s)) (rest : List Char) :
    readFields bracketDepth false (some tag) fuel
      (Value.writeFields style depth (countFields fields) ++ (gap ++ '\x7d' :: rest)) =
        (.ok (tag, countFields fields), '\x7d' :: rest) := by
  induction fields generalizing fuel with
  | nil =>
    obtain ⟨fuel, rfl⟩ : ∃ n, fuel = n + 1 := ⟨fuel - 1, by simp at hfuel; omega⟩
    exact bind_of_ok (nextKey_closing hgap rest)
  | cons field fields ih =>
    obtain ⟨key, n⟩ := field
    obtain ⟨fuel, rfl⟩ : ∃ n, fuel = n + 1 := ⟨fuel - 1, by simp at hfuel; omega⟩
    obtain ⟨hkey, hkeys⟩ := List.forall_mem_cons.mp hkeys
    obtain ⟨hword, hwords⟩ := List.forall_mem_cons.mp hwords
    have hlater := ih hkeys hwords (show fields.length < fuel by simpa using hfuel)
    have hwrite : Value.writeFields style depth (countFields ((key, n) :: fields)) ++
          (gap ++ '\x7d' :: rest) =
        ',' :: (style.gap depth ++ (Value.stringText key.toList ++ (style.colon ++
          ((toString (n : Int)).toList ++ (Value.writeFields style depth (countFields fields) ++
            (gap ++ '\x7d' :: rest)))))) := by
      show Value.writeFields style depth ((key, .integer n) :: countFields fields) ++ _ = _
      rw [Value.writeFields]
      show _ ++ (toString (n : Int)).toList ++ _ ++ _ = _
      simp
    rw [hwrite]
    refine (bind_of_ok (nextKey_comma (isBlank_gap style depth) key _)).trans ?_
    rw [if_pos rfl]
    refine (bind_of_ok (string_stringText key _)).trans ?_
    rw [if_neg hkey]
    refine (bind_of_ok (colon_append style _)).trans ?_
    refine (bind_of_ok ((bind_of_ok (get_eq _)).trans (value_integer hword bracketDepth _
      (isBlank_afterColon style)
      (Fields.follows_writeFields style depth (countFields fields) (hfollows rest))))).trans ?_
    exact bind_of_ok hlater

/-- What a status is written with besides its name. -/
def counts : Status → List (String × Nat)
  | .failing failed total => [("failed", failed), ("total", total)]
  | _ => []

/-- The name that a status is written with. -/
def name : Status → String
  | .failing _ _ => "FAILING"
  | s => s.toText

/-- The kind of a status. -/
def tag : Status → Tag
  | .success => .success
  | .failing _ _ => .failing
  | .invalid => .invalid
  | .timeout => .timeout
  | .parseError => .parseError

theorem write_eq (s : Status) :
    s.write = .object (("status", .string s.name) :: countFields s.counts) := by
  cases s <;> rfl

theorem lookup_name (s : Status) : tags.lookup s.name = some s.tag := by
  cases s <;> rfl

/-- The name and the counts of a status make it up. -/
theorem ofFields_counts (s : Status) : ofFields s.tag (countFields s.counts) = .ok s := by
  cases s with
  | failing failed total =>
    show countsOfFields none none [("failed", .integer failed), ("total", .integer total)] = _
    have hcount : ∀ n : Nat, countOf (.integer n) = .ok n := by
      intro n
      show (if (n : Int) < 0 then .error (.invalidValue (.integer n) "u64")
        else .ok (n : Int).toNat : Except Cause Nat) = _
      rw [if_neg (Int.not_lt.mpr (Int.natCast_nonneg n))]
      rfl
    simp [countsOfFields, hcount, bind, Except.bind]
  | _ => rfl

/-- A status is recovered wherever it stands. -/
theorem recovers {s : Status} (h : s.IsStorable) (bracketDepth : Nat) :
    Recovers (read bracketDepth) s.write s := by
  intro style depth blanks rest hblanks hrest
  have hgap := isBlank_gap style depth
  have hfollows : ∀ t, Follows (style.gap depth ++ '\x7d' :: t) :=
    fun t => follows_gap style depth (follows_cons rfl t)
  have hkeys : ∀ p ∈ s.counts, p.1 ≠ "status" := by
    cases s with
    | failing failed total =>
      intro p hp
      rcases List.mem_cons.mp hp with rfl | hp
      · exact show "failed" ≠ "status" by decide
      · rw [List.mem_singleton.mp hp]
        exact show "total" ≠ "status" by decide
    | _ => nofun
  have hwords : ∀ p ∈ s.counts, IsWord p.2 := by
    cases s with
    | failing failed total =>
      intro p hp
      rcases List.mem_cons.mp hp with rfl | hp
      · exact h.1
      · rw [List.mem_singleton.mp hp]
        exact h.2
    | _ => nofun
  have hwrite : s.write.write style depth ++ rest =
      '\x7b' :: (style.gap (depth + 1) ++ (Value.stringText "status".toList ++ (style.colon ++
        (Value.stringText s.name.toList ++ (Value.writeFields style (depth + 1)
          (countFields s.counts) ++ (style.gap depth ++ '\x7d' :: rest)))))) := by
    rw [write_eq, Value.write]
    show _ ++ Value.stringText s.name.toList ++ _ ++ _ ++ _ ++ _ = _
    simp
  rw [hwrite]
  refine (bind_of_ok (placed_of_ok ?_)).trans ((congrArg (fun x => lift x rest)
    (ofFields_counts s)).trans rfl)
  refine (bind_of_ok (peekValue_cons hblanks rfl)).trans ?_
  refine (bind_of_ok (skip_cons _ _)).trans ?_
  refine (bind_of_ok (get_eq _)).trans ?_
  refine (bind_of_ok (closedBy_of_ok (a := (s.tag, countFields s.counts)) ?_
    (endObject_closing rest))).trans rfl
  refine (bind_of_ok (nextKey_first (isBlank_gap style (depth + 1)) "status" _)).trans ?_
  rw [if_pos rfl]
  refine (bind_of_ok (string_stringText "status" _)).trans ?_
  rw [if_pos rfl]
  refine (bind_of_ok (colon_append style _)).trans ?_
  refine (bind_of_ok (nameOf_stringText (lookup_name s) (isBlank_afterColon style) _)).trans ?_
  refine readFields_counts hkeys hwords s.tag _ style (depth + 1) ?_ hgap hfollows rest
  have hlength := Fields.length_le_writeFields style (depth + 1) (countFields s.counts)
  simp only [countFields, List.length_map] at hlength
  simp only [countFields, List.length_append, List.length_cons]
  omega

end Status

/-! ## Results -/

structure Evaluation.IsStorable (e : Evaluation) : Prop where
  status : e.status.IsStorable
  fitness : ReadsBackIfAny e.fitness
  returnCode : ∀ n, e.returnCode = some n → InCodeRange n
  elapsedSeconds : ReadsBack e.elapsedSeconds

structure EpochResult.IsStorable (e : EpochResult) : Prop where
  epoch : IsWord e.epoch
  fitnessEvaluations : IsWord e.fitnessEvaluations
  invalidPatchCount : IsWord e.invalidPatchCount
  bestFitness : ReadsBackIfAny e.bestFitness
  elapsedSeconds : ReadsBack e.elapsedSeconds

structure Event.IsStorable (e : Event) : Prop where
  epoch : IsWord e.epoch
  totalEpochs : IsWord e.totalEpochs
  iteration : IsWord e.iteration
  maxIter : IsWord e.maxIter
  status : ∀ s, e.status = some s → s.IsStorable
  fitness : ReadsBackIfAny e.fitness
  bestFitness : ReadsBackIfAny e.bestFitness
  patchLength : IsWord e.patchLength

structure Report.IsStorable (r : Report) : Prop where
  originalFitness : ReadsBackIfAny r.originalFitness
  epochs : ∀ e ∈ r.epochs, e.IsStorable
  elapsedSeconds : ReadsBack r.elapsedSeconds

theorem Evaluation.roundTrips {e : Evaluation} (h : e.IsStorable) : codec.RoundTrips e := by
  have hcode : Codec.code.option.RoundTrips e.returnCode := by
    cases hreturn : e.returnCode with
    | none => exact roundTrips_none
    | some n => exact (roundTrips_code (h.returnCode n hreturn)).option_some rfl
  refine Fields.roundTrips_codec (by decide) rfl ⟨?_, ?_, ?_, ?_, ?_, ?_, trivial⟩
  · exact Status.recovers h.status _
  · exact Field.recovers_optional (roundTrips_optionalFloat h.fitness) _
  · exact Field.recovers_required (roundTrips_text _ _) _
  · exact Field.recovers_required (roundTrips_text _ _) _
  · exact Field.recovers_optional hcode _
  · exact Field.recovers_required (roundTrips_float h.elapsedSeconds) _

theorem EpochResult.roundTrips {e : EpochResult} (h : e.IsStorable) : codec.RoundTrips e := by
  refine Fields.roundTrips_codec (by decide) rfl ⟨?_, ?_, ?_, ?_, ?_, ?_, ?_, ?_, trivial⟩
  · exact Field.recovers_required (roundTrips_size h.epoch) _
  · exact Field.recovers_required (roundTrips_boolean _) _
  · exact Field.recovers_required (roundTrips_size h.fitnessEvaluations) _
  · exact Field.recovers_required (roundTrips_size h.invalidPatchCount) _
  · exact Field.recovers_optional (roundTrips_optionalFloat h.bestFitness) _
  · exact Field.recovers_required (Codec.RoundTrips.list fun s _ => roundTrips_text _ s) _
  · exact Field.recovers_required (roundTrips_text _ _) _
  · exact Field.recovers_required (roundTrips_float h.elapsedSeconds) _

theorem Event.roundTrips {e : Event} (h : e.IsStorable) : codec.RoundTrips e := by
  have hstatus : Status.fieldCodec.option.RoundTrips e.status := by
    cases hs : e.status with
    | none => exact roundTrips_none
    | some s =>
      have hread : Status.fieldCodec.RoundTrips s := Status.recovers (h.status s hs) _
      refine hread.option_some ?_
      show s.write.isNull = false
      rw [Status.write_eq]
      rfl
  refine Fields.roundTrips_codec (by decide) rfl
    ⟨?_, ?_, ?_, ?_, ?_, ?_, ?_, ?_, ?_, ?_, trivial⟩
  · exact Field.recovers_required (Phase.roundTrips _) _
  · exact Field.recovers_required (roundTrips_size h.epoch) _
  · exact Field.recovers_required (roundTrips_size h.totalEpochs) _
  · exact Field.recovers_required (roundTrips_size h.iteration) _
  · exact Field.recovers_required (roundTrips_size h.maxIter) _
  · exact Field.recovers_optional hstatus _
  · exact Field.recovers_optional (roundTrips_optionalFloat h.fitness) _
  · exact Field.recovers_optional (roundTrips_optionalFloat h.bestFitness) _
  · exact Field.recovers_required (roundTrips_size h.patchLength) _
  · exact Field.recovers_required (roundTrips_boolean _) _

theorem Report.roundTrips {r : Report} (h : r.IsStorable) : codec.RoundTrips r := by
  refine Fields.roundTrips_codec (by decide) rfl ⟨?_, ?_, ?_, trivial⟩
  · exact Field.recovers_optional (roundTrips_optionalFloat h.originalFitness) _
  · exact Field.recovers_required
      (Codec.RoundTrips.list fun e he => EpochResult.roundTrips (h.epochs e he)) _
  · exact Field.recovers_required (roundTrips_float h.elapsedSeconds) _

/-! ## Configurations -/

structure SearchConfig.IsStorable (c : SearchConfig) : Prop where
  warmupReps : IsWord c.warmupReps
  epoch : IsWord c.epoch
  maxIter : IsWord c.maxIter
  timeoutSecs : ReadsBack c.timeoutSecs
  randomSeed : ∀ n, c.randomSeed = some n → IsWord n

theorem TargetFile.roundTrips (t : TargetFile) : codec.RoundTrips t := by
  refine Fields.roundTrips_codec (by decide) rfl ⟨?_, ?_, trivial⟩
  · exact Field.recovers_required (Codec.RoundTrips.list fun s _ => roundTrips_text _ s) _
  · exact Field.recovers_required (roundTrips_text _ _) _

theorem ProgramConfig.roundTrips (c : ProgramConfig) : codec.RoundTrips c := by
  have htarget : Codec.path.option.RoundTrips c.targetConfig := by
    cases c.targetConfig with
    | none => exact roundTrips_none
    | some s => exact (roundTrips_text _ s).option_some rfl
  refine Fields.roundTrips_codec (by decide) rfl ⟨?_, ?_, ?_, ?_, ?_, ?_, trivial⟩
  · exact Field.recovers_required (roundTrips_text _ _) _
  · exact Field.recovers_omitted htarget _
  · exact Field.recovers_defaulted (Codec.RoundTrips.list fun s _ => roundTrips_text _ s) _ _
  · exact Field.recovers_defaulted (roundTrips_text _ _) _ _
  · exact Field.recovers_defaulted (Source.Granularity.roundTrips _) _ _
  · exact Field.recovers_defaulted (Classifier.roundTrips _) _ _

theorem SearchConfig.roundTrips {c : SearchConfig} (h : c.IsStorable) : codec.RoundTrips c := by
  have hseed : Codec.word.option.RoundTrips c.randomSeed := by
    cases hs : c.randomSeed with
    | none => exact roundTrips_none
    | some n => exact (roundTrips_count "u64" (h.randomSeed n hs)).option_some rfl
  refine Fields.roundTrips_codec (by decide) rfl ⟨?_, ?_, ?_, ?_, ?_, ?_, ?_, trivial⟩
  · exact Field.recovers_defaulted (roundTrips_size h.warmupReps) _ _
  · exact Field.recovers_defaulted (roundTrips_size h.epoch) _ _
  · exact Field.recovers_defaulted (roundTrips_size h.maxIter) _ _
  · exact Field.recovers_defaulted (roundTrips_float h.timeoutSecs) _ _
  · exact Field.recovers_defaulted
      (Codec.RoundTrips.list fun op _ => EditOperator.roundTrips op) _ _
  · exact Field.recovers_defaulted hseed _ _
  · exact Field.recovers_defaulted (roundTrips_boolean _) _ _

theorem RepairConfig.roundTrips {c : RepairConfig} (h : c.search.IsStorable) :
    codec.RoundTrips c := by
  refine Fields.roundTrips_codec (by decide) rfl ⟨?_, ?_, trivial⟩
  · exact Field.recovers_required (ProgramConfig.roundTrips _) _
  · exact Field.recovers_defaulted (SearchConfig.roundTrips h) _ _

/-! ## Whole texts -/

/-- A value is parsed from its compact text and from its indented text. -/
structure Json.Codec.Keeps {α : Type} (c : Codec α) (a : α) : Prop where
  compact : c.parse (c.write a).compact = .ok a
  pretty : c.parse (c.write a).pretty = .ok a

theorem Json.Codec.RoundTrips.keeps {α : Type} {c : Codec α} {a : α} (h : c.RoundTrips a) :
    c.Keeps a where
  compact := by
    rw [Codec.parse, Value.compact, String.toList_ofList]
    exact h.decode_eq .compact
  pretty := by
    rw [Codec.parse, Value.pretty, String.toList_ofList]
    exact h.decode_eq .pretty

/-- A report that was saved to a file that may be read is loaded from it again. -/
theorem Report.load_of_save {r : Report} (h : r.IsStorable) {d d' : Disk} {cwd place : Place}
    {path : String} {bytes : Bytes} {a : Attributes} (hsave : r.save d cwd path = .ok d')
    (hfile : d'.find cwd path = .ok (place, .file bytes a)) (hread : a.allows .read = true) :
    Report.load d' cwd path = .ok r := by
  have hbytes : bytes = Text.bytesOf r.stored := by
    obtain ⟨p, hp, hwritten⟩ := Disk.find_of_write hsave
    rcases hwritten with ⟨b, hfind⟩ | ⟨rfl, hdevice⟩
    · have hsame := Except.ok.inj (hfile.symm.trans hfind)
      cases hsame
      rfl
    · -- what keeps nothing is no file
      obtain ⟨q, hq, hentry⟩ := Disk.bind_eq_ok.mp hfile
      obtain rfl := Except.ok.inj (hq.symm.trans hp)
      obtain ⟨rfl, hlookup⟩ := Disk.entryAt_ok.mp hentry
      rcases hdevice with hnull | ⟨b, hpipe⟩
      · cases hlookup.symm.trans hnull
      · cases hlookup.symm.trans hpipe
  have htext : d'.readText cwd path = .ok r.stored := by
    have hcontents : d'.read cwd path = .ok (Text.bytesOf r.stored) := by
      refine Disk.bind_eq_ok.mpr ⟨_, hfile, ?_⟩
      rw [Disk.contentsOf, if_pos hread, hbytes]
    refine Disk.bind_eq_ok.mpr ⟨_, hcontents, ?_⟩
    rw [Text.bytesOf, Text.decode_encode]
    exact congrArg Except.ok String.ofList_toList
  have hparse : Report.codec.parse r.stored = .ok r := (Report.roundTrips h).keeps.pretty
  refine Disk.bind_eq_ok.mpr ⟨r.stored, htext, ?_⟩
  rw [hparse]
  rfl

/-- Every record is read back as it was written, with any strings, any counts of 64 bits, any exit
codes of 32 bits and any doubles that read back. A report that was saved to a file is loaded as the
same report, so it tells the same of its repairs. -/
theorem records_survive :
    (∀ r : Report, r.IsStorable → Report.codec.Keeps r) ∧
    (∀ e : EpochResult, e.IsStorable → EpochResult.codec.Keeps e) ∧
    (∀ e : Evaluation, e.IsStorable → Evaluation.codec.Keeps e) ∧
    (∀ e : Event, e.IsStorable → Event.codec.Keeps e) ∧
    (∀ c : RepairConfig, c.search.IsStorable → RepairConfig.codec.Keeps c) ∧
    (∀ c : ProgramConfig, ProgramConfig.codec.Keeps c) ∧
    (∀ c : SearchConfig, c.IsStorable → SearchConfig.codec.Keeps c) ∧
    (∀ t : TargetFile, TargetFile.codec.Keeps t) ∧
    (∀ e : Source.Edit, e.IsStorable → Source.Edit.codec.Keeps e) ∧
    (∀ s : Source.Site, s.IsStorable → Source.Site.codec.Keeps s) ∧
    (∀ s : Status, s.IsStorable → Status.codec.Keeps s) ∧
    (∀ (r : Report) (d d' : Disk) (cwd place : Place) (path : String) (bytes : Bytes)
      (a : Attributes), r.IsStorable → r.save d cwd path = .ok d' →
      d'.find cwd path = .ok (place, .file bytes a) → a.allows .read = true →
      ∃ r', Report.load d' cwd path = .ok r' ∧ r' = r ∧ r'.successCount = r.successCount ∧
        r'.uniqueRepairs = r.uniqueRepairs ∧ r'.toText = r.toText) := by
  refine ⟨?_, ?_, ?_, ?_, ?_, ?_, ?_, ?_, ?_, ?_, ?_, ?_⟩
  · exact fun r hr => (Report.roundTrips hr).keeps
  · exact fun e he => (EpochResult.roundTrips he).keeps
  · exact fun e he => (Evaluation.roundTrips he).keeps
  · exact fun e he => (Event.roundTrips he).keeps
  · exact fun c hc => (RepairConfig.roundTrips hc).keeps
  · exact fun c => (ProgramConfig.roundTrips c).keeps
  · exact fun c hc => (SearchConfig.roundTrips hc).keeps
  · exact fun t => (TargetFile.roundTrips t).keeps
  · exact fun e he => (Source.Edit.roundTrips he).keeps
  · exact fun s hs => (Source.Site.roundTrips hs).keeps
  · intro s hs
    have hstatus : Status.codec.RoundTrips s := Status.recovers hs _
    exact hstatus.keeps
  · intro r d d' cwd place path bytes a hr hsave hfile hread
    exact ⟨r, Report.load_of_save hr hsave hfile hread, rfl, rfl, rfl, rfl⟩

/-- One half. -/
def oneHalf : Binary64 := ⟨false, 0x3FE * Nat.pow 2 52⟩

theorem readsBack_oneHalf : ReadsBack oneHalf := ⟨by decide, by decide +kernel⟩

/-- A report with the largest count and with all kinds of characters in its strings. -/
def largeReport : Report :=
  ⟨some oneHalf, [⟨1, true, 2 ^ 64 - 1, 0, none, ["at \"a\\b\"\t1"], "-\x00\x1f\u2028\né\n", oneHalf⟩],
    oneHalf⟩

theorem isStorable_largeReport : largeReport.IsStorable where
  originalFitness x hx := Option.some.inj hx ▸ readsBack_oneHalf
  epochs e he := by
    obtain rfl := List.mem_singleton.mp he
    exact ⟨show 1 < 2 ^ 64 by decide, show 2 ^ 64 - 1 < 2 ^ 64 by decide,
      show 0 < 2 ^ 64 by decide, nofun, readsBack_oneHalf⟩
  elapsedSeconds := readsBack_oneHalf

/-- A disk with a directory for reports. -/
def reportDisk : Disk := ⟨[(["w"], .directory ⟨0o755, true, 0, none⟩)], [], 0, 0⟩

/-- The large report, the number of a unit, a status with counts and a configuration with the
standard settings are read back, and the report also after it was saved. -/
theorem records_survive_largest :
    Report.codec.Keeps largeReport ∧ Source.Site.codec.Keeps ⟨0, 2 ^ 64 - 1⟩ ∧
    Status.codec.Keeps (.failing 1 (2 ^ 64 - 1)) ∧ RepairConfig.codec.Keeps .standard ∧
    ∃ d', largeReport.save reportDisk [] "/w/r.json" = .ok d' ∧
      Report.load d' [] "/w/r.json" = .ok largeReport := by
  obtain ⟨hreport, -, -, -, hconfig, -, -, -, -, hsite, hstatus, hstored⟩ := records_survive
  have hsearch : SearchConfig.standard.IsStorable :=
    ⟨show 1 < 2 ^ 64 by decide, show 10 < 2 ^ 64 by decide, show 100 < 2 ^ 64 by decide,
      ⟨by decide +kernel, by decide +kernel⟩, nofun⟩
  have hsite' : Source.Site.IsStorable ⟨0, 2 ^ 64 - 1⟩ :=
    ⟨show 0 < 2 ^ 64 by decide, show 2 ^ 64 - 1 < 2 ^ 64 by decide⟩
  have hstatus' : Status.IsStorable (.failing 1 (2 ^ 64 - 1)) :=
    ⟨show 1 < 2 ^ 64 by decide, show 2 ^ 64 - 1 < 2 ^ 64 by decide⟩
  have hresolve : reportDisk.resolve [] "/w/r.json" = .ok ["w", "r.json"] :=
    Disk.ok_of_toOption (by decide +kernel)
  have hplace : reportDisk.placeForWriting [] "/w/r.json" = .ok ["w", "r.json"] :=
    (Disk.placeForWriting_eq (by decide)).trans hresolve
  have hnone : reportDisk.lookup ["w", "r.json"] = none := by decide
  have hsave : largeReport.save reportDisk [] "/w/r.json" = .ok (reportDisk.put ["w", "r.json"]
      (.file (Text.bytesOf largeReport.stored) (reportDisk.newAttributes Disk.fileMode))) :=
    Disk.bind_eq_ok.mpr ⟨_, hplace, Disk.writeAt_new _ _ hnone (by decide)⟩
  obtain ⟨p, hp, hwritten⟩ := Disk.find_of_write hsave
  obtain rfl := Except.ok.inj (hp.symm.trans hresolve)
  rcases hwritten with ⟨a, hfile⟩ | ⟨-, hnull | ⟨b, hpipe⟩⟩
  · obtain ⟨q, -, hentry⟩ := Disk.bind_eq_ok.mp hfile
    obtain ⟨-, hlookup⟩ := Disk.entryAt_ok.mp hentry
    rw [Disk.lookup_put _ (by decide), if_pos rfl] at hlookup
    have hread : a.allows .read = true := by
      cases hlookup
      decide
    obtain ⟨r', hload, rfl, -⟩ := hstored largeReport reportDisk _ [] _ _ _ a
      isStorable_largeReport hsave hfile hread
    exact ⟨hreport _ isStorable_largeReport, hsite _ hsite', hstatus _ hstatus',
      hconfig _ hsearch, _, hsave, hload⟩
  · cases hnone.symm.trans hnull
  · cases hnone.symm.trans hpipe

end ProgramRepair
