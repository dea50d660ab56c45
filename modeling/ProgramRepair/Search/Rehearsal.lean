import ProgramRepair.Search.Engine
import ProgramRepair.Text.Lines

/-!
# Rehearsals

A rehearsal is a search without a test command: a script says what the result
of each evaluation is. Its rules look at the patch as a text and at its number
of edits; the first one that holds gives its results in turn. A rehearsal keeps
the events of a run and can ask to stop after a number of them. A program for
rehearsals that needs no files has tokens for edits: an operator and a number.
-/

namespace ProgramRepair.Rehearsal

/-! ## Scripts -/

/-- A rule of a script with the conditions on the patch that it is for. -/
structure Rule where
  /-- All of these stand in the text. -/
  contains : List String
  /-- None of these stands in the text. -/
  lacks : List String
  minLength : Option Nat
  maxLength : Option Nat
  /-- A text and how often it stands there. -/
  count : Option (String × Nat)
  /-- The results, used in turn and again from the first one. -/
  results : List Evaluation
deriving Repr, Inhabited

/-- Whether a rule is for a patch with this text and number of edits. -/
def Rule.holds (r : Rule) (text : List Char) (length : Nat) : Bool :=
  r.contains.all (fun s => Text.occursIn s.toList text) &&
  r.lacks.all (fun s => !Text.occursIn s.toList text) &&
  r.minLength.all (· ≤ length) &&
  r.maxLength.all (length ≤ ·) &&
  r.count.all fun (s, n) => Text.countOccurrences s.toList text = n

/-- What a rehearsal knows while it runs. -/
structure World where
  /-- How often each rule was used. -/
  uses : List Nat
  /-- The events of this run, the last one first. -/
  events : List Event
  /-- The number of events after which the search is asked to stop. -/
  stopAfter : Option Nat
  cancelled : Bool
deriving Repr, Inhabited

/-- The world before the first run. -/
def World.start (script : List Rule) (stopAfter : Option Nat) : World :=
  ⟨script.map fun _ => 0, [], stopAfter, stopAfter = some 0⟩

/-- The world before another run, without the events of the one before. -/
def World.again (w : World) : World := { w with events := [] }

/-- The result that a script has for a text that no rule is for. -/
def unscripted : Evaluation := .ofInvalid "no rule"

/-- The result that a script has for a patch. -/
def judge (script : List Rule) (text : List Char) (length : Nat) (w : World) : Evaluation × World :=
  match script.findIdx? fun r => r.holds text length with
  | none => (unscripted, w)
  | some i =>
    let used := w.uses[i]?.getD 0
    let results := (script[i]?.map (·.results)).getD []
    (results[used % results.length]?.getD unscripted, { w with uses := w.uses.set i (used + 1) })

/-- Keeps the events and asks to stop after enough of them. -/
def observer : Observer World where
  notify e w :=
    let events := e :: w.events
    { w with events, cancelled := w.cancelled || w.stopAfter = some events.length }
  cancelled w := w.cancelled

/-- A program whose evaluations follow a script. -/
def scripted (script : List Rule) (text : Patch ε → List Char)
    (createEdit : EditOperator → SelectionMethod → Stream → Except Fault (Option ε × Stream))
    (diff : Patch ε → String) (describe : ε → Except Fault String) : Program ε World where
  evaluate p _ := fun w => .ok (judge script (text p) p.length w)
  createEdit := createEdit
  diff := diff
  describe := describe

/-! ## Tokens -/

/-- An edit without a file. -/
structure Token where
  op : EditOperator
  number : Nat
deriving DecidableEq, Hashable, Repr, Inhabited

/-- The letter of an operator. -/
def letter : EditOperator → String
  | .replacement => "R"
  | .insertion => "I"
  | .deletion => "D"

/-- A token as a word. -/
def Token.text (t : Token) : String := letter t.op ++ toString t.number

/-- A patch of tokens as a text. -/
def tokensText (p : Patch Token) : List Char :=
  p.edits.flatMap fun t => t.text.toList ++ [';']

/-- A token with a number below the size of the alphabet. -/
def createToken (alphabet : Nat) (op : EditOperator) (_ : SelectionMethod) (s : Stream) :
    Except Fault (Option Token × Stream) :=
  if alphabet = 0 then .ok (none, s)
  else
    let (n, s) := s.below .single alphabet
    .ok (some ⟨op, n⟩, s)

/-- A program of tokens. -/
def tokens (script : List Rule) (alphabet : Nat) : Program Token World :=
  scripted script tokensText (createToken alphabet)
    (fun p => String.join (p.edits.map fun t => "+" ++ t.text ++ "\n"))
    fun t => .ok t.text

end ProgramRepair.Rehearsal
