import ProgramRepair.Proofs.Source.Splitting

/-!
# Reading a line character by character

The scanner of a line looks ahead and passes over characters. Here a line is read without
either: `Reading.read` takes one character, and a `Place` says what the characters before it
were part of. A short literal goes on to the next line if a backslash stands before the line
break. Main statements:

* `scan_unread`: on a line, the scanner comes to the same depth and mode;
* `feedAll_eq_ofReading`: on many lines it does as long as no short literal goes on.
-/

namespace ProgramRepair.Source

/-- What the characters before some place in a line are part of. -/
inductive Place where
  | code
  /-- A comment, to the end of the line. -/
  | comment
  /-- The first mark of a literal. -/
  | opened (q : Quote)
  /-- Two marks, which are an empty literal unless a third one follows. -/
  | emptied (q : Quote)
  /-- A short literal, which ends at the next mark. -/
  | short (q : Quote)
  /-- A short literal and a backslash, which hides the next character. -/
  | shortEscape (q : Quote)
  /-- A long literal, which ends at three marks in a row. -/
  | long (q : Quote)
  /-- A long literal and one mark. -/
  | closing (q : Quote)
  /-- A long literal and two marks. -/
  | closingTwice (q : Quote)
  /-- A long literal and a backslash, which hides the next character. -/
  | longEscape (q : Quote)
deriving DecidableEq, Repr

/-- A place with the depth of the brackets that are open there. -/
structure Reading where
  place : Place := .code
  depth : Nat := 0
deriving DecidableEq, Repr

namespace Reading

/-- The depth after a character of code. -/
def bracketed (depth : Nat) (c : Char) : Nat :=
  if c = '(' ∨ c = '[' ∨ c = '\x7b' then depth + 1
  else if c = ')' ∨ c = ']' ∨ c = '\x7d' then depth - 1
  else depth

def readCode (depth : Nat) (c : Char) : Reading :=
  match Quote.ofChar? c with
  | some q => ⟨.opened q, depth⟩
  | none => if c = '#' then ⟨.comment, depth⟩ else ⟨.code, bracketed depth c⟩

/-- A character of a literal, where `escaped`, `marked` and `inside` are the places after a
backslash, a mark and any other character. -/
def readLiteral (q : Quote) (escaped marked inside : Place) (c : Char) : Place :=
  if c = '\\' then escaped else if c = q.mark then marked else inside

/-- One more character. -/
def read (r : Reading) (c : Char) : Reading :=
  match r.place with
  | .code => readCode r.depth c
  | .comment => r
  | .opened q => ⟨readLiteral q (.shortEscape q) (.emptied q) (.short q) c, r.depth⟩
  | .emptied q => if c = q.mark then ⟨.long q, r.depth⟩ else readCode r.depth c
  | .short q => ⟨readLiteral q (.shortEscape q) .code (.short q) c, r.depth⟩
  | .shortEscape q => ⟨.short q, r.depth⟩
  | .long q => ⟨readLiteral q (.longEscape q) (.closing q) (.long q) c, r.depth⟩
  | .closing q => ⟨readLiteral q (.longEscape q) (.closingTwice q) (.long q) c, r.depth⟩
  | .closingTwice q => ⟨readLiteral q (.longEscape q) .code (.long q) c, r.depth⟩
  | .longEscape q => ⟨.long q, r.depth⟩

def readLine (r : Reading) (line : List Char) : Reading := line.foldl read r

end Reading

/-! ## The scanner -/

namespace Place

/-- The characters before a place that the scanner has yet to look at. -/
def unread : Place → List Char
  | code | short _ | long _ => []
  | comment => ['#']
  | opened q | closing q => [q.mark]
  | emptied q | closingTwice q => [q.mark, q.mark]
  | shortEscape _ | longEscape _ => ['\\']

/-- The mode in which the scanner looks at them. -/
def mode : Place → ScanMode
  | code | comment | opened _ | emptied _ => .code
  | short q | shortEscape q => .quoted q
  | long q | closing q | closingTwice q | longEscape q => .triple q

/-- The mode of the scanner if the line ends here. -/
def endMode : Place → ScanMode
  | code | comment | emptied _ => .code
  | opened q | short q | shortEscape q => .quoted q
  | long q | closing q | closingTwice q | longEscape q => .triple q

end Place

theorem Quote.mark_ne_backslash (q : Quote) : q.mark ≠ '\\' := by cases q <;> decide

theorem Quote.mark_ne_hash (q : Quote) : q.mark ≠ '#' := by cases q <;> decide

theorem Quote.ofChar?_mark (q : Quote) : Quote.ofChar? q.mark = some q := by cases q <;> rfl

theorem Quote.eq_mark_of_ofChar? {q : Quote} {c : Char} (h : Quote.ofChar? c = some q) :
    c = q.mark := by
  unfold Quote.ofChar? at h
  split at h
  · next hsingle => cases h; exact hsingle
  · split at h
    · next hdouble => cases h; exact hdouble
    · cases h

section Scan

variable {q : Quote} {c : Char} {depth : Nat} {s : List Char}

theorem scan_unread_nil (p : Place) (depth : Nat) :
    scan p.mode depth p.unread = (depth, p.endMode) := by
  cases p with
  | code | comment => rfl
  | opened q | emptied q | short q | shortEscape q | long q | closing q | closingTwice q
  | longEscape q => cases q <;> rfl

theorem scan_code (hquote : Quote.ofChar? c = none) (hhash : c ≠ '#') :
    scan .code depth (c :: s) = scan .code (Reading.bracketed depth c) s := by
  rw [scan.eq_def]
  simp only [hquote, hhash, if_false, Reading.bracketed]
  split
  · rfl
  · split <;> rfl

theorem scan_comment : scan .code depth ('#' :: s) = (depth, .code) := rfl

theorem scan_quoted_hidden :
    scan (.quoted q) depth ('\\' :: c :: s) = scan (.quoted q) depth s := rfl

theorem scan_quoted_mark : scan (.quoted q) depth (q.mark :: s) = scan .code depth s := by
  -- the scanner looks ahead, so it unfolds only if it is known whether the line goes on
  cases s <;> exact (if_neg q.mark_ne_backslash).trans (if_pos rfl)

theorem scan_quoted (hbackslash : c ≠ '\\') (hmark : c ≠ q.mark) :
    scan (.quoted q) depth (c :: s) = scan (.quoted q) depth s := by
  cases s <;> exact (if_neg hbackslash).trans (if_neg hmark)

theorem scan_triple_hidden :
    scan (.triple q) depth ('\\' :: c :: s) = scan (.triple q) depth s := by
  cases s <;> rfl

theorem scan_triple_marks :
    scan (.triple q) depth (q.mark :: q.mark :: q.mark :: s) = scan .code depth s :=
  (if_neg q.mark_ne_backslash).trans (if_pos ⟨rfl, rfl, rfl⟩)

/-- Fewer than three marks do not end a long literal. -/
theorem scan_triple_mark (hmark : c ≠ q.mark) :
    scan (.triple q) depth (q.mark :: c :: s) = scan (.triple q) depth (c :: s) := by
  cases s with
  | nil => exact if_neg q.mark_ne_backslash
  | cons _ _ => exact (if_neg q.mark_ne_backslash).trans (if_neg fun h => hmark h.2.1)

theorem scan_triple_mark_mark (hmark : c ≠ q.mark) :
    scan (.triple q) depth (q.mark :: q.mark :: c :: s) = scan (.triple q) depth (c :: s) :=
  ((if_neg q.mark_ne_backslash).trans (if_neg fun h => hmark h.2.2)).trans
    (scan_triple_mark hmark)

theorem scan_triple (hbackslash : c ≠ '\\') (hmark : c ≠ q.mark) :
    scan (.triple q) depth (c :: s) = scan (.triple q) depth s := by
  rcases s with _ | ⟨a, _ | ⟨b, rest⟩⟩
  · exact if_neg hbackslash
  · exact if_neg hbackslash
  · exact (if_neg hbackslash).trans (if_neg fun h => hmark h.1)

theorem scan_open_marks :
    scan .code depth (q.mark :: q.mark :: q.mark :: s) = scan (.triple q) depth s := by
  cases q <;> rfl

theorem scan_open_mark (hmark : c ≠ q.mark) :
    scan .code depth (q.mark :: c :: s) = scan (.quoted q) depth (c :: s) := by
  cases s with
  | nil => cases q <;> rfl
  | cons _ _ => cases q <;> exact if_neg fun h => hmark h.1

theorem scan_open_mark_mark (hmark : c ≠ q.mark) :
    scan .code depth (q.mark :: q.mark :: c :: s) = scan .code depth (c :: s) := by
  have hopen : scan .code depth (q.mark :: q.mark :: c :: s) =
      scan (.quoted q) depth (q.mark :: c :: s) := by
    cases q <;> exact if_neg fun h => hmark h.2
  exact hopen.trans scan_quoted_mark

end Scan

theorem Reading.readLiteral_cases (q : Quote) (escaped marked inside : Place) (c : Char) :
    (c = '\\' ∧ readLiteral q escaped marked inside c = escaped) ∨
      (c = q.mark ∧ readLiteral q escaped marked inside c = marked) ∨
      (c ≠ '\\' ∧ c ≠ q.mark ∧ readLiteral q escaped marked inside c = inside) := by
  unfold readLiteral
  by_cases hbackslash : c = '\\'
  · exact .inl ⟨hbackslash, if_pos hbackslash⟩
  · by_cases hmark : c = q.mark
    · exact .inr (.inl ⟨hmark, by rw [if_neg hbackslash, if_pos hmark]⟩)
    · exact .inr (.inr ⟨hbackslash, hmark, by rw [if_neg hbackslash, if_neg hmark]⟩)

/-- A character of code moves the scanner as it moves a reading. -/
theorem scan_code_cons (depth : Nat) (c : Char) (s : List Char) :
    scan .code depth (c :: s) =
      scan (Reading.readCode depth c).place.mode (Reading.readCode depth c).depth
        ((Reading.readCode depth c).place.unread ++ s) := by
  unfold Reading.readCode
  cases hquote : Quote.ofChar? c with
  | some q =>
    rw [Quote.eq_mark_of_ofChar? hquote]
    rfl
  | none =>
    by_cases hhash : c = '#'
    · simp only [hhash, if_true]
      rfl
    · simp only [hhash, if_false]
      exact scan_code hquote hhash

/-- One character moves the scanner and a reading in the same way. -/
theorem scan_unread_cons (r : Reading) (c : Char) (s : List Char) :
    scan r.place.mode r.depth (r.place.unread ++ c :: s) =
      scan (r.read c).place.mode (r.read c).depth ((r.read c).place.unread ++ s) := by
  obtain ⟨place, depth⟩ := r
  cases place with
  | code => exact scan_code_cons depth c s
  | comment => exact scan_comment.trans scan_comment.symm
  | opened q =>
    rcases Reading.readLiteral_cases q (.shortEscape q) (.emptied q) (.short q) c with
      ⟨rfl, h⟩ | ⟨rfl, h⟩ | ⟨hbackslash, hmark, h⟩ <;> simp only [Reading.read, h]
    · exact scan_open_mark q.mark_ne_backslash.symm
    · rfl
    · exact (scan_open_mark hmark).trans (scan_quoted hbackslash hmark)
  | emptied q =>
    by_cases hmark : c = q.mark
    · simp only [Reading.read, hmark, if_true]
      exact scan_open_marks
    · simp only [Reading.read, hmark, if_false]
      exact (scan_open_mark_mark hmark).trans (scan_code_cons depth c s)
  | short q =>
    rcases Reading.readLiteral_cases q (.shortEscape q) .code (.short q) c with
      ⟨rfl, h⟩ | ⟨rfl, h⟩ | ⟨hbackslash, hmark, h⟩ <;> simp only [Reading.read, h]
    · rfl
    · exact scan_quoted_mark
    · exact scan_quoted hbackslash hmark
  | shortEscape q => exact scan_quoted_hidden
  | long q =>
    rcases Reading.readLiteral_cases q (.longEscape q) (.closing q) (.long q) c with
      ⟨rfl, h⟩ | ⟨rfl, h⟩ | ⟨hbackslash, hmark, h⟩ <;> simp only [Reading.read, h]
    · rfl
    · rfl
    · exact scan_triple hbackslash hmark
  | closing q =>
    rcases Reading.readLiteral_cases q (.longEscape q) (.closingTwice q) (.long q) c with
      ⟨rfl, h⟩ | ⟨rfl, h⟩ | ⟨hbackslash, hmark, h⟩ <;> simp only [Reading.read, h]
    · exact scan_triple_mark q.mark_ne_backslash.symm
    · rfl
    · exact (scan_triple_mark hmark).trans (scan_triple hbackslash hmark)
  | closingTwice q =>
    rcases Reading.readLiteral_cases q (.longEscape q) .code (.long q) c with
      ⟨rfl, h⟩ | ⟨rfl, h⟩ | ⟨hbackslash, hmark, h⟩ <;> simp only [Reading.read, h]
    · exact scan_triple_mark_mark q.mark_ne_backslash.symm
    · exact scan_triple_marks
    · exact (scan_triple_mark_mark hmark).trans (scan_triple hbackslash hmark)
  | longEscape q => exact scan_triple_hidden

/-- The scanner comes to where a reading comes, from any place that it starts at with nothing left
to look at. -/
theorem scan_unread (r : Reading) (line : List Char) :
    scan r.place.mode r.depth (r.place.unread ++ line) =
      ((r.readLine line).depth, (r.readLine line).place.endMode) := by
  induction line generalizing r with
  | nil =>
    rw [List.append_nil]
    exact scan_unread_nil r.place r.depth
  | cons c s ih =>
    rw [scan_unread_cons, ih (r.read c)]
    rfl

/-! ## Line breaks -/

namespace Place

/-- The place at which the next line starts. A backslash carries a short literal over the line
break; one that is cut off ends there. -/
def afterBreak : Place → Place
  | code | comment | opened _ | emptied _ | short _ => code
  | shortEscape q => short q
  | long q | closing q | closingTwice q | longEscape q => long q

/-- The long literal that is open at a place. -/
def long? : Place → Option Quote
  | code | comment | opened _ | emptied _ | short _ | shortEscape _ => none
  | long q | closing q | closingTwice q | longEscape q => some q

/-- Whether a literal without an end is cut off if the line ends here. -/
def isCutOff : Place → Bool
  | opened _ | short _ => true
  | _ => false

/-- Whether a short literal is open at a place, cut off or carried over by a line break. -/
def inShort : Place → Bool
  | opened _ | short _ | shortEscape _ => true
  | _ => false

end Place

namespace Reading

/-- The reading at the start of the next line. -/
def endLine (r : Reading) : Reading := ⟨r.place.afterBreak, r.depth⟩

def readLines (r : Reading) (lines : List (List Char)) : Reading :=
  lines.foldl (fun r line => (r.readLine line).endLine) r

/-- The places at which the lines end. -/
def lineEnds (r : Reading) : List (List Char) → List Place
  | [] => []
  | line :: rest => (r.readLine line).place :: (r.readLine line).endLine.lineEnds rest

end Reading

namespace ScanState

/-- The reading at the start of a line. -/
def reading (s : ScanState) : Reading :=
  match s.triple with
  | none => ⟨.code, s.depth⟩
  | some q => ⟨.long q, s.depth⟩

/-- What a reading leaves open at the end of a line. -/
def ofReading (r : Reading) : ScanState := ⟨r.depth, r.place.long?⟩

/-- The scan of a line from its start. -/
theorem scan_eq_readLine (s : ScanState) (line : List Char) :
    scan s.mode s.depth line =
      ((s.reading.readLine line).depth, (s.reading.readLine line).place.endMode) := by
  rw [← scan_unread]
  obtain ⟨depth, triple⟩ := s
  cases triple <;> rfl

theorem feed_eq_ofReading (s : ScanState) (line : List Char) :
    s.feed line = ofReading (s.reading.readLine line) := by
  rw [feed, scan_eq_readLine]
  cases h : (s.reading.readLine line).place <;> simp [ofReading, h, Place.endMode, Place.long?]

/-- A line break loses a short literal that it should carry, and nothing else. -/
theorem reading_ofReading {r : Reading} (h : r.place.inShort = false) :
    (ofReading r).reading = r.endLine := by
  obtain ⟨place, depth⟩ := r
  cases place with
  | opened _ | short _ | shortEscape _ => cases h
  | code | comment | emptied _ | long _ | closing _ | closingTwice _ | longEscape _ => rfl

/-- The scanner knows what lines leave open as long as no short literal goes on to another line. -/
theorem feedAll_eq_ofReading (s : ScanState) (lines : List (List Char))
    (h : ∀ p ∈ s.reading.lineEnds lines, p.inShort = false) :
    s.feedAll lines = ofReading (s.reading.readLines lines) := by
  induction lines generalizing s with
  | nil =>
    obtain ⟨depth, triple⟩ := s
    cases triple <;> rfl
  | cons line rest ih =>
    obtain ⟨hline, hrest⟩ := List.forall_mem_cons.mp h
    have hnext : (s.feed line).reading = (s.reading.readLine line).endLine := by
      rw [feed_eq_ofReading, reading_ofReading hline]
    have hih := ih (s.feed line)
    rw [hnext] at hih
    exact hih hrest

end ScanState

end ProgramRepair.Source
