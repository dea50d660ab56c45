import ProgramRepair.Config.Basic
import ProgramRepair.Json.Codec
import ProgramRepair.Report

/-!
# Records as JSON

The codecs of everything that is stored as JSON: configurations, reports and
what they are made of. A status is an object whose field `status` says which of
the other fields belong to it; its other fields are read before they are looked
at, so errors in them have no place of their own.
-/

namespace ProgramRepair

open Json

/-- A count of things in memory. -/
def Json.Codec.size : Codec Nat := .count "usize"

/-- A number of 64 bits. -/
def Json.Codec.word : Codec Nat := .count "u64"

/-- A path. -/
def Json.Codec.path : Codec String := .text "path string"

/-- Any text. -/
def Json.Codec.plain : Codec String := .text "a string"

/-! ## Choices -/

def Source.Granularity.codec : Codec Granularity :=
  .names [("line", .line), ("statement", .statement)]

def Classifier.codec : Codec Classifier :=
  .names [("pytest_summary", .pytestSummary), ("exit_code", .exitCode)]

def EditOperator.codec : Codec EditOperator :=
  .names [("replacement", .replacement), ("insertion", .insertion), ("deletion", .deletion)]

def Phase.codec : Codec Phase :=
  .names [("Warmup", .warmup), ("Searching", .searching), ("EpochComplete", .epochComplete)]

/-! ## Edits -/

namespace Source

def Site.codec : Codec Site :=
  Fields.codec "struct UnitRef"
    (.cons (.required "file" .size) (.cons (.required "unit" .size) .nil))
    (fun (file, unit, _) => ⟨file, unit⟩) (fun s => (s.file, s.unit, ()))

/-- A codec for what an edit of two sites is made of. -/
def Edit.pairCodec (title : String) : Codec (Site × Site) :=
  Fields.codec title
    (.cons (.required "target" Site.codec) (.cons (.required "ingredient" Site.codec) .nil))
    (fun (target, ingredient, _) => (target, ingredient)) (fun p => (p.1, p.2, ()))

/-- A codec for what a deletion is made of. -/
def Edit.targetCodec (title : String) : Codec Site :=
  Fields.codec title (.cons (.required "target" Site.codec) .nil)
    (fun (target, _) => target) (fun s => (s, ()))

/-- What belongs to the name of an edit. -/
def Edit.readBody : EditOperator → Reader Edit
  | .replacement => do
    let (target, ingredient) ← (pairCodec "struct variant SourceEdit::Replacement").read
    return .replacement target ingredient
  | .insertion => do
    let (target, ingredient) ← (pairCodec "struct variant SourceEdit::Insertion").read
    return .insertion target ingredient
  | .deletion => return .deletion (← (targetCodec "struct variant SourceEdit::Deletion").read)

def Edit.codec : Codec Edit where
  read := Codec.choice (EditOperator.all.map fun op => (op.name, op))
    (fun _ => Reader.failNowhere (.invalidType .unitVariant "struct variant")) readBody
  write
    | .replacement target ingredient =>
      .object [("Replacement", (pairCodec "").write (target, ingredient))]
    | .insertion target ingredient =>
      .object [("Insertion", (pairCodec "").write (target, ingredient))]
    | .deletion target => .object [("Deletion", (targetCodec "").write target)]

end Source

/-! ## Status -/

namespace Status

/-- The name of each kind of status. -/
inductive Tag where
  | success
  | failing
  | invalid
  | timeout
  | parseError
deriving DecidableEq, Repr

def tags : List (String × Tag) :=
  [("SUCCESS", .success), ("FAILING", .failing), ("INVALID", .invalid), ("TIMEOUT", .timeout),
    ("PARSE_ERROR", .parseError)]

/-- What a status is called in messages. -/
def title : String := "internally tagged enum Status"

/-- What a value is called that is not what was expected. -/
def found : Value → Found
  | .null => .null
  | .boolean b => .boolean b
  | .integer n => .integer n
  | .float x => .float x
  | .string s => .string s
  | .array _ => .sequence
  | .object _ => .map

/-- A count that was read before. -/
def countOf : Value → Except Cause Nat
  | .integer n =>
    if n < 0 then .error (.invalidValue (.integer n) "u64") else .ok n.toNat
  | v => .error (.invalidType (found v) "u64")

/-- The counts of failed and all tests from the fields of an object. -/
def countsOfFields (failed total : Option Nat) : List (String × Value) → Except Cause Status
  | [] =>
    match failed, total with
    | some f, some t => .ok (.failing f t)
    | none, _ => .error (.missingField "failed")
    | _, none => .error (.missingField "total")
  | (key, v) :: rest =>
    if key = "failed" then
      if failed.isSome then .error (.duplicateField key)
      else do countsOfFields (some (← countOf v)) total rest
    else if key = "total" then
      if total.isSome then .error (.duplicateField key)
      else do countsOfFields failed (some (← countOf v)) rest
    else countsOfFields failed total rest

/-- An error for a list that goes on after its last item. -/
def tooLong (length expected : Nat) : Cause :=
  .invalidLength length
    (toString expected ++ (if expected = 1 then " element" else " elements") ++ " in sequence")

/-- What a list is called that is too short for the counts. -/
def tooShort (length : Nat) : Cause :=
  .invalidLength length "struct variant Status::Failing with 2 elements"

/-- The counts of failed and all tests from a list. -/
def countsOfItems : List Value → Except Cause Status
  | [] => .error (tooShort 0)
  | [f] => do
    let _ ← countOf f
    .error (tooShort 1)
  | [f, t] => do return .failing (← countOf f) (← countOf t)
  | f :: t :: rest => do
    let _ ← countOf f
    let _ ← countOf t
    .error (tooLong (rest.length + 2) 2)

/-- The status with a given name and the other fields of its object. -/
def ofFields (tag : Tag) (fields : List (String × Value)) : Except Cause Status :=
  match tag with
  | .success => .ok .success
  | .failing => countsOfFields none none fields
  | .invalid => .ok .invalid
  | .timeout => .ok .timeout
  | .parseError => .ok .parseError

/-- The status with a given name and the other items of its list. -/
def ofItems (tag : Tag) (items : List Value) : Except Cause Status :=
  match tag with
  | .failing => countsOfItems items
  | other =>
    if items.isEmpty then ofFields other [] else .error (tooLong items.length 0)

/-- Turns an error about values that were read before into one without a place. -/
def lift : Except Cause α → Reader α
  | .ok a => pure a
  | .error cause => Reader.failNowhere cause

/-- The name of a status and the other fields of its object, at most `fuel` of them. -/
def readFields (depth : Nat) (first : Bool) (tag : Option Tag) :
    Nat → Reader (Tag × List (String × Value))
  | 0 => Reader.failHere .endInObject
  | fuel + 1 => do
    if ← Reader.nextKey first then
      let key ← Reader.string
      if key = "status" then
        if tag.isSome then Reader.failNowhere (.duplicateField key)
        Reader.colon
        let t ← Codec.nameOf tags
        readFields depth false (some t) fuel
      else
        Reader.colon
        let v ← Reader.anyValue depth
        let (t, fields) ← readFields depth false tag fuel
        return (t, (key, v) :: fields)
    else
      match tag with
      | some t => return (t, [])
      | none => Reader.failNowhere (.missingField "status")

/-- The name of a status and the other items of its list. -/
def readItems (depth : Nat) : Reader (Tag × List Value) := do
  if ← Reader.nextItem true then
    let tag ← Codec.nameOf tags
    let s ← get
    let rest ← Codec.itemsWithin (Reader.anyValue depth) false (s.length + 1)
    return (tag, rest)
  else Reader.failNowhere (.missingField "status")

/-- Reads a status that stands inside `128 - depth` brackets. -/
def read (depth : Nat) : Reader Status := do
  let result : Except Cause Status ← Reader.placed do
    match ← Reader.peekValue with
    | '\x7b' =>
      Reader.skip
      let s ← get
      let (tag, fields) ←
        Reader.closedBy (readFields (depth - 1) true none (s.length + 1)) Reader.endObject
      return ofFields tag fields
    | '[' =>
      Reader.skip
      let (tag, items) ← Reader.closedBy (readItems (depth - 1)) Reader.endList
      return ofItems tag items
    | _ => Reader.mismatch title
  lift result

def write : Status → Value
  | .failing failed total =>
    .object [("status", .string "FAILING"), ("failed", .integer failed), ("total", .integer total)]
  | s => .object [("status", .string s.toText)]

/-- The codec of a status on its own. -/
def codec : Codec Status := ⟨read Reader.depthLimit, write⟩

/-- The codec of a status in a record. -/
def fieldCodec : Codec Status := ⟨read (Reader.depthLimit - 1), write⟩

end Status

/-! ## Results -/

def Evaluation.codec : Codec Evaluation :=
  Fields.codec "struct EvaluationResult"
    (.cons (.required "status" Status.fieldCodec) <|
      .cons (.optional "fitness" .float) <|
      .cons (.required "stdout" .plain) <|
      .cons (.required "stderr" .plain) <|
      .cons (.optional "return_code" .code) <|
      .cons (.required "elapsed_seconds" .float) .nil)
    (fun (status, fitness, stdout, stderr, code, elapsed, _) =>
      ⟨status, fitness, stdout, stderr, code, elapsed⟩)
    (fun e => (e.status, e.fitness, e.stdout, e.stderr, e.returnCode, e.elapsedSeconds, ()))

def EpochResult.codec : Codec EpochResult :=
  Fields.codec "struct EpochResult"
    (.cons (.required "epoch" .size) <|
      .cons (.required "success" .boolean) <|
      .cons (.required "fitness_evaluations" .size) <|
      .cons (.required "invalid_patch_count" .size) <|
      .cons (.optional "best_fitness" .float) <|
      .cons (.required "best_patch" (.list .plain)) <|
      .cons (.required "diff" .plain) <|
      .cons (.required "elapsed_seconds" .float) .nil)
    (fun (epoch, success, evaluations, invalid, best, patch, diff, elapsed, _) =>
      ⟨epoch, success, evaluations, invalid, best, patch, diff, elapsed⟩)
    (fun e => (e.epoch, e.success, e.fitnessEvaluations, e.invalidPatchCount, e.bestFitness,
      e.bestPatch, e.diff, e.elapsedSeconds, ()))

def Event.codec : Codec Event :=
  Fields.codec "struct SearchProgress"
    (.cons (.required "phase" Phase.codec) <|
      .cons (.required "epoch" .size) <|
      .cons (.required "total_epochs" .size) <|
      .cons (.required "iteration" .size) <|
      .cons (.required "max_iter" .size) <|
      .cons (.optional "status" Status.fieldCodec) <|
      .cons (.optional "fitness" .float) <|
      .cons (.optional "best_fitness" .float) <|
      .cons (.required "patch_len" .size) <|
      .cons (.required "improved" .boolean) .nil)
    (fun (phase, epoch, total, iteration, maxIter, status, fitness, best, length, improved, _) =>
      ⟨phase, epoch, total, iteration, maxIter, status, fitness, best, length, improved⟩)
    (fun e => (e.phase, e.epoch, e.totalEpochs, e.iteration, e.maxIter, e.status, e.fitness,
      e.bestFitness, e.patchLength, e.improved, ()))

def Report.codec : Codec Report :=
  Fields.codec "struct RepairReport"
    (.cons (.optional "original_fitness" .float) <|
      .cons (.required "epochs" (.list EpochResult.codec)) <|
      .cons (.required "elapsed_seconds" .float) .nil)
    (fun (original, epochs, elapsed, _) => ⟨original, epochs, elapsed⟩)
    (fun r => (r.originalFitness, r.epochs, r.elapsedSeconds, ()))

/-! ## Configurations -/

def TargetFile.codec : Codec TargetFile :=
  Fields.codec "struct TargetFile"
    (.cons (.required "target_files" (.list .path)) <|
      .cons (.required "test_command" .plain) .nil)
    (fun (files, command, _) => ⟨files, command⟩) (fun t => (t.targetFiles, t.testCommand, ()))

def ProgramConfig.codec : Codec ProgramConfig :=
  Fields.codec "struct ProgramConfig"
    (.cons (.required "project_path" .path) <|
      .cons (.omitted "target_config" .path) <|
      .cons (.defaulted "target_files" (.list .path) []) <|
      .cons (.defaulted "test_command" .plain "") <|
      .cons (.defaulted "granularity" Source.Granularity.codec .statement) <|
      .cons (.defaulted "classifier" Classifier.codec .pytestSummary) .nil)
    (fun (project, target, files, command, granularity, classifier, _) =>
      ⟨project, target, files, command, granularity, classifier⟩)
    (fun c => (c.projectPath, c.targetConfig, c.targetFiles, c.testCommand, c.granularity,
      c.classifier, ()))

/-- A field that may be null and has a default. -/
def Json.Field.nullable (name : String) (c : Codec α) : Field (Option α) :=
  .defaulted name c.option none

def SearchConfig.codec : Codec SearchConfig :=
  Fields.codec "struct SearchConfig"
    (.cons (.defaulted "warmup_reps" .size SearchConfig.standard.warmupReps) <|
      .cons (.defaulted "epoch" .size SearchConfig.standard.epoch) <|
      .cons (.defaulted "max_iter" .size SearchConfig.standard.maxIter) <|
      .cons (.defaulted "timeout_secs" .float SearchConfig.standard.timeoutSecs) <|
      .cons (.defaulted "operators" (.list EditOperator.codec) SearchConfig.standard.operators) <|
      .cons (.nullable "random_seed" .word) <|
      .cons (.defaulted "parallel_epochs" .boolean false) .nil)
    (fun (warmup, epoch, maxIter, timeout, operators, seed, parallel, _) =>
      ⟨warmup, epoch, maxIter, timeout, operators, seed, parallel⟩)
    (fun c => (c.warmupReps, c.epoch, c.maxIter, c.timeoutSecs, c.operators, c.randomSeed,
      c.parallelEpochs, ()))

def RepairConfig.codec : Codec RepairConfig :=
  Fields.codec "struct RepairConfig"
    (.cons (.required "program" ProgramConfig.codec) <|
      .cons (.defaulted "search" SearchConfig.codec .standard) .nil)
    (fun (program, search, _) => ⟨program, search⟩) (fun c => (c.program, c.search, ()))

/-- Reads a record from a whole text. -/
def Json.Codec.parse (c : Codec α) (text : String) : Except Json.Error α :=
  decode c.read text.toList

end ProgramRepair
