import ProgramRepair.Proofs.Source.Grouping
import ProgramRepair.Proofs.Source.Lexing

/-!
# What statement boundaries depend on

Two files that differ in their comments only, or in what their string literals say, should be
grouped in the same way. Main statements:

* `trailing_comment_keeps_boundaries`: a comment after code changes nothing that the line leaves
  open, and the statement goes on after it as after the code alone, unless the comment ends in a
  backslash: that one goes on (`comment_takes_in_next_line`);
* `literal_contents_keep_boundaries`: characters inside literals do not matter, as long as no
  short literal goes on to the next line: there the scanner takes what is left of the literal for
  code (`carried_literal_is_read_as_code`).
-/

namespace ProgramRepair.Source

open Text

/-- Whether the last character of a line that is no blank is a backslash. -/
def endsInBackslash (line : List Char) : Bool := (trimEnd line).getLast? == some '\\'

theorem ScanState.continues_eq (s : ScanState) (line : List Char) :
    s.continues line = (s.triple.isSome || 0 < s.depth || endsInBackslash line) := rfl

/-! ## Comments -/

section Comment

variable {code comment comment' : List Char}

theorem Reading.readLine_comment (depth : Nat) (text : List Char) :
    readLine ⟨.comment, depth⟩ text = ⟨.comment, depth⟩ := by
  induction text with
  | nil => rfl
  | cons c rest ih => exact ih

/-- A `#` outside of literals starts a comment or stands in one. -/
theorem Reading.readLine_hash {r : Reading} (h : r.place.endMode = .code) (text : List Char) :
    r.readLine ('#' :: text) = ⟨.comment, r.depth⟩ := by
  have hread : r.read '#' = ⟨.comment, r.depth⟩ := by
    obtain ⟨place, depth⟩ := r
    cases place with
    | code | comment => rfl
    | emptied q => cases q <;> rfl
    | opened q | short q | shortEscape q | long q | closing q | closingTwice q | longEscape q =>
      cases h
  rw [readLine, List.foldl_cons, hread]
  exact readLine_comment r.depth text

namespace ScanState

/-- A comment leaves nothing else open than the code before it. -/
theorem feed_append_comment {s : ScanState} (h : (scan s.mode s.depth code).2 = .code)
    (comment : List Char) : s.feed (code ++ '#' :: comment) = s.feed code := by
  rw [scan_eq_readLine] at h
  rw [feed_eq_ofReading, feed_eq_ofReading]
  have happend : s.reading.readLine (code ++ '#' :: comment) =
      (s.reading.readLine code).readLine ('#' :: comment) := List.foldl_append
  rw [happend, Reading.readLine_hash h, ofReading, ofReading]
  congr 1
  cases hplace : (s.reading.readLine code).place <;> rw [hplace] at h <;>
    first | rfl | cases h

/-- Of a line with a comment only the end of the comment is looked at. -/
theorem continues_append_comment (s : ScanState) (code comment : List Char) :
    s.continues (code ++ '#' :: comment) =
      (s.triple.isSome || 0 < s.depth || endsInBackslash comment) := by
  have hend : endsInBackslash (code ++ '#' :: comment) = endsInBackslash comment := by
    have hhash : isBlank '#' = false := by decide
    unfold endsInBackslash
    rw [getLast?_trimEnd, getLast?_trimEnd, List.reverse_append, List.reverse_cons,
      List.append_assoc, List.find?_append, List.singleton_append,
      List.find?_cons_of_pos (by rw [hhash]; rfl)]
    cases comment.reverse.find? fun c => !isBlank c <;> rfl
  rw [continues_eq, hend]

end ScanState

/-- A comment does not make a line blank, and a blank line with a comment is a comment. -/
theorem isFixedLine_append_comment (code comment : List Char) :
    isFixedLine (code ++ '#' :: comment) = isFixedLine code := by
  unfold isFixedLine trimStart
  rw [List.dropWhile_append]
  cases hcode : code.dropWhile isBlank with
  | nil => rfl
  | cons c rest => rfl

/-- Lines whose comments have other texts, which agree on whether they end in a backslash. -/
inductive Recommented : Option ScanState → List (List Char) → List (List Char) → Prop
  | nil (opened : Option ScanState) : Recommented opened [] []
  | same {opened : Option ScanState} (line : List Char) {rest rest' : List (List Char)} :
    Recommented (advance opened line) rest rest' →
    Recommented opened (line :: rest) (line :: rest')
  | comment {opened : Option ScanState} (code comment comment' : List Char)
      {rest rest' : List (List Char)} :
    (scan (opened.getD {}).mode (opened.getD {}).depth code).2 = .code →
    endsInBackslash comment = endsInBackslash comment' →
    Recommented (advance opened (code ++ '#' :: comment)) rest rest' →
    Recommented opened ((code ++ '#' :: comment) :: rest) ((code ++ '#' :: comment') :: rest')

theorem Recommented.inStep {opened : Option ScanState} {lines lines' : List (List Char)}
    (h : Recommented opened lines lines') : InStep opened lines lines' := by
  induction h with
  | nil opened => exact .nil opened
  | same line _ ih => exact .cons (fun _ => rfl) rfl ih
  | @comment opened code comment comment' _ _ hcode hend _ ih =>
    refine .cons (fun _ => ?_) ?_ ih
    · rw [isFixedLine_append_comment, isFixedLine_append_comment]
    · unfold advance
      simp only [isFixedLine_append_comment, ScanState.feed_append_comment hcode,
        ScanState.continues_append_comment, hend]

/-- A comment after code is no part of the statement. The line leaves open what its code leaves
open, and the statement goes on after it if it does after the code, or if the comment ends in a
backslash. Other comments that agree on the latter keep the grouping of all lines. -/
theorem trailing_comment_keeps_boundaries {s : ScanState} {code : List Char}
    (hcode : (scan s.mode s.depth code).2 = .code) (hend : endsInBackslash code = false)
    (comment : List Char) :
    s.feed (code ++ '#' :: comment) = s.feed code ∧
    (s.feed (code ++ '#' :: comment)).continues (code ++ '#' :: comment) =
      ((s.feed code).continues code || endsInBackslash comment) ∧
    ∀ lines lines', (∀ line ∈ lines, '\n' ∉ line) → (∀ line ∈ lines', '\n' ∉ line) →
      Recommented none lines lines' →
      SameGrouping (splitLines .statement lines) (splitLines .statement lines') := by
  have hfeed := ScanState.feed_append_comment hcode comment
  refine ⟨hfeed, ?_, fun lines lines' hlines hlines' h => h.inStep.sameGrouping hlines hlines'⟩
  rw [hfeed, ScanState.continues_append_comment, ScanState.continues_eq, hend, Bool.or_false]

/-- A comment inside of a call, which ends in no backslash. -/
theorem trailing_comment_in_call :
    (({} : ScanState).feed "f(1, # one".toList).continues "f(1, # one".toList = true ∧
      SameGrouping (splitLines .statement ["f(1, # one".toList, "  2) # \\.".toList])
        (splitLines .statement ["f(1, # (".toList, "  2) #".toList]) := by
  have hcode : (scan ({} : ScanState).mode ({} : ScanState).depth "f(1, ".toList).2 = .code := by
    decide
  obtain ⟨-, hcont, hgroups⟩ :=
    trailing_comment_keeps_boundaries hcode (by decide) " one".toList
  refine ⟨hcont.trans (by decide), hgroups _ _ (by decide) (by decide) ?_⟩
  exact .comment "f(1, ".toList " one".toList " (".toList (by decide) (by decide)
    (.comment "  2) ".toList " \\.".toList [] (by decide) (by decide) (.nil _))

/-- A comment that ends in a backslash takes in the next line, although its code alone does not. -/
theorem comment_takes_in_next_line :
    let code := "x = 1 ".toList
    let comment := " c \\".toList
    (scan .code 0 code).2 = .code ∧ endsInBackslash code = false ∧
      (({} : ScanState).feed code).continues code = false ∧
      (({} : ScanState).feed (code ++ '#' :: comment)).continues (code ++ '#' :: comment) = true ∧
      splitLines .statement [code, "y = 2".toList] = ⟨[.unit 0, .unit 1], [code, "y = 2".toList]⟩ ∧
      splitLines .statement [code ++ '#' :: comment, "y = 2".toList] =
        ⟨[.unit 0], ["x = 1 # c \\\ny = 2".toList]⟩ := by
  decide

end Comment

/-! ## String literals -/

namespace Place

/-- The literal that the next character stands in, if it is no mark. -/
def literal? : Place → Option Quote
  | code | comment | emptied _ => none
  | opened q | short q | shortEscape q | long q | closing q | closingTwice q | longEscape q =>
    some q

/-- A character that means nothing at a place, because it stands inside a literal: anything but the
literal's mark, a backslash or a line break, so every letter and also the other mark. -/
def IsFree (p : Place) (c : Char) : Prop :=
  ∃ q ∈ p.literal?, c ≠ q.mark ∧ c ≠ '\\' ∧ c ≠ '\n'

instance (p : Place) (c : Char) : Decidable (p.IsFree c) :=
  inferInstanceAs (Decidable (∃ q ∈ p.literal?, _))

end Place

/-- Two lines that differ only in characters inside literals, where `r` is the reading before
them. -/
inductive RewritesLine : Reading → List Char → List Char → Prop
  | nil (r : Reading) : RewritesLine r [] []
  | keep {r : Reading} (c : Char) {text text' : List Char} :
    RewritesLine (r.read c) text text' → RewritesLine r (c :: text) (c :: text')
  | replace {r : Reading} {c d : Char} {text text' : List Char} :
    r.place.IsFree c → r.place.IsFree d →
    RewritesLine (r.read c) text text' → RewritesLine r (c :: text) (d :: text')

/-- Lines that differ only in characters inside literals. -/
inductive Rewrites : Reading → List (List Char) → List (List Char) → Prop
  | nil (r : Reading) : Rewrites r [] []
  | cons {r : Reading} {line line' : List Char} {rest rest' : List (List Char)} :
    RewritesLine r line line' → Rewrites (r.readLine line).endLine rest rest' →
    Rewrites r (line :: rest) (line' :: rest')

namespace Reading

variable {r : Reading} {c d : Char}

/-- Inside a literal a reading stays until there is a mark or a backslash. -/
theorem literal?_read {q : Quote} (h : r.place.literal? = some q) (hmark : c ≠ q.mark)
    (hbackslash : c ≠ '\\') : (r.read c).place.literal? = some q := by
  obtain ⟨place, depth⟩ := r
  cases place with
  | code | comment | emptied _ => cases h
  | shortEscape q' | longEscape q' => exact h
  | opened q' | short q' | long q' | closing q' | closingTwice q' =>
    obtain rfl : q' = q := Option.some.inj h
    simp only [read, readLiteral, hbackslash, hmark, if_false, Place.literal?]

/-- Free characters are all read alike. -/
theorem read_congr (hc : r.place.IsFree c) (hd : r.place.IsFree d) : r.read c = r.read d := by
  obtain ⟨q, hq, hmark, hbackslash, -⟩ := hc
  obtain ⟨q', hq', hmark', hbackslash', -⟩ := hd
  obtain rfl : q = q' := Option.some.inj (hq.symm.trans hq')
  obtain ⟨place, depth⟩ := r
  cases place with
  | code | comment | emptied _ => cases hq
  | shortEscape _ | longEscape _ => rfl
  | opened q' | short q' | long q' | closing q' | closingTwice q' =>
    obtain rfl : q' = q := Option.some.inj hq
    simp only [read, readLiteral, hbackslash, hmark, hbackslash', hmark', if_false]

/-- A blank inside a literal does not end it. -/
theorem literal?_readLine_blanks {q : Quote} {text : List Char}
    (h : r.place.literal? = some q) (hblank : ∀ c ∈ text, isBlank c = true) :
    (r.readLine text).place.literal? = some q := by
  induction text generalizing r with
  | nil => exact h
  | cons c rest ih =>
    obtain ⟨hc, hrest⟩ := List.forall_mem_cons.mp hblank
    have hplain := isPlain_of_isBlank hc
    exact ih (literal?_read h (hplain.ne_mark q) hplain.ne_backslash) hrest

/-- Blanks in code are passed over. -/
theorem read_blank (hcode : r.place = .code) (hblank : isBlank c = true) : r.read c = r := by
  have hplain := isPlain_of_isBlank hblank
  obtain ⟨place, depth⟩ := r
  subst hcode
  simp only [read, readCode, bracketed, hplain.not_quote, hplain.ne_hash, hplain.not_open,
    hplain.not_close, if_false]

theorem readLine_append_blanks {blanks : List Char} (hcode : r.place = .code)
    (hblank : ∀ c ∈ blanks, isBlank c = true) (text : List Char) :
    r.readLine (blanks ++ text) = r.readLine text := by
  induction blanks with
  | nil => rfl
  | cons c rest ih =>
    obtain ⟨hc, hrest⟩ := List.forall_mem_cons.mp hblank
    rw [List.cons_append, readLine, List.foldl_cons, read_blank hcode hc]
    exact ih hrest

/-- A blank line or a comment leaves a reading in code as it is. -/
theorem endLine_of_isFixedLine {line : List Char} (hcode : r.place = .code)
    (hfixed : isFixedLine line = true) : (r.readLine line).endLine = r := by
  have hend : r.place.endMode = .code := by rw [hcode]; rfl
  obtain ⟨place, depth⟩ := r
  subst hcode
  rcases (isFixedLine_iff line).mp hfixed with hblank | ⟨blanks, rest, rfl, hblanks⟩
  · rw [← List.append_nil line, readLine_append_blanks rfl hblank]
    rfl
  · rw [readLine_append_blanks rfl hblanks, readLine_hash hend]
    rfl

end Reading

namespace RewritesLine

variable {r : Reading} {line line' : List Char}

theorem keepAll (text : List Char) (h : RewritesLine (r.readLine text) line line') :
    RewritesLine r (text ++ line) (text ++ line') := by
  induction text generalizing r with
  | nil => exact h
  | cons c rest ih => exact .keep c (ih h)

theorem refl (r : Reading) (text : List Char) : RewritesLine r text text := by
  induction text generalizing r with
  | nil => exact .nil r
  | cons c rest ih => exact .keep c (ih (r.read c))

theorem readLine_eq (h : RewritesLine r line line') : r.readLine line = r.readLine line' := by
  induction h with
  | nil r => rfl
  | keep c _ ih => exact ih
  | @replace r c d text text' hc hd _ ih =>
    rw [Reading.read_congr hc hd] at ih
    show (r.read c).readLine text = _
    rw [Reading.read_congr hc hd]
    exact ih

theorem noBreak (h : RewritesLine r line line') (hline : '\n' ∉ line) : '\n' ∉ line' := by
  induction h with
  | nil r => exact hline
  | keep c _ ih =>
    rw [List.mem_cons, not_or] at hline ⊢
    exact ⟨hline.1, ih hline.2⟩
  | replace _ hd _ ih =>
    obtain ⟨-, -, -, -, hbreak⟩ := hd
    have htext := ih fun hmem => hline (List.mem_cons_of_mem _ hmem)
    simpa [hbreak.symm] using htext

/-- A line that starts in code starts with the same code. -/
theorem isFixedLine_eq (h : RewritesLine r line line') (hcode : r.place = .code) :
    isFixedLine line = isFixedLine line' := by
  induction h with
  | nil r => rfl
  | @keep r c text text' _ ih =>
    by_cases hblank : isBlank c = true
    · have hall : ∀ a ∈ [c], isBlank a = true := List.forall_mem_singleton.mpr hblank
      have htext := ih (by rw [Reading.read_blank hcode hblank, hcode])
      rw [← List.singleton_append, isFixedLine_append_blanks hall, htext,
        ← @List.singleton_append _ c text', isFixedLine_append_blanks hall]
    · simp [isFixedLine, trimStart, hblank]
  | replace hc _ _ _ =>
    obtain ⟨q, hq, -⟩ := hc
    rw [hcode] at hq
    cases hq

/-- A line that ends outside of literals has its last character that is no blank there. -/
theorem endsInBackslash_eq (h : RewritesLine r line line')
    (hend : (r.readLine line).place.literal? = none) :
    endsInBackslash line = endsInBackslash line' := by
  have hlast : line.reverse.find? (fun c => !isBlank c) =
      line'.reverse.find? fun c => !isBlank c := by
    induction h with
    | nil r => rfl
    | keep c _ ih =>
      rw [List.reverse_cons, List.find?_append, ih hend, List.reverse_cons, List.find?_append]
    | @replace r c d text text' hc _ _ ih =>
      rw [List.reverse_cons, List.find?_append, ih hend, List.reverse_cons, List.find?_append]
      cases hfind : text'.reverse.find? fun c => !isBlank c with
      | some last => rfl
      | none =>
        -- only blanks are left, and they would not end the literal
        obtain ⟨q, hq, hmark, hbackslash, -⟩ := hc
        have hblank : ∀ a ∈ text, isBlank a = true := by
          intro a ha
          simpa using List.find?_eq_none.mp ((ih hend).trans hfind) a (List.mem_reverse.mpr ha)
        have hopen := Reading.literal?_readLine_blanks
          (Reading.literal?_read hq hmark hbackslash) hblank
        exact absurd (hopen.symm.trans hend) (by simp)
  rw [endsInBackslash, endsInBackslash, getLast?_trimEnd, getLast?_trimEnd, hlast]

end RewritesLine

theorem Place.literal?_eq_none {p : Place} (hshort : p.inShort = false) (hlong : p.long? = none) :
    p.literal? = none := by
  cases p with
  | code | comment | emptied _ => rfl
  | opened _ | short _ | shortEscape _ => cases hshort
  | long _ | closing _ | closingTwice _ | longEscape _ => cases hlong

namespace ScanState

theorem eq_of_continues {s : ScanState} {line : List Char} (h : s.continues line = false) :
    s = {} := by
  obtain ⟨depth, triple⟩ := s
  cases triple with
  | none =>
    obtain rfl : depth = 0 := by simp [continues_eq] at h; exact h.1
    rfl
  | some q => simp [continues_eq] at h

/-- The splitter keeps up with a reading if the line ends in no short literal. -/
theorem reading_advance {opened : Option ScanState} {line : List Char}
    (hshort : ((opened.getD {}).reading.readLine line).place.inShort = false) :
    ((advance opened line).getD {}).reading =
      ((opened.getD {}).reading.readLine line).endLine := by
  by_cases hfixed : opened = none ∧ isFixedLine line = true
  · obtain ⟨rfl, hline⟩ := hfixed
    rw [advance_of_fixed hline]
    exact (Reading.endLine_of_isFixedLine rfl hline).symm
  · have hfeed := feed_eq_ofReading (opened.getD {}) line
    rw [advance, if_neg hfixed, ← reading_ofReading hshort, ← hfeed]
    dsimp only
    split
    · rfl
    · next hcont => rw [eq_of_continues (eq_false_of_ne_true hcont), Option.getD_none]

/-- Lines that differ inside literals leave the same open, and the statement goes on after both or
after none of them. -/
theorem advance_rewrites {opened : Option ScanState} {line line' : List Char}
    (h : RewritesLine (opened.getD {}).reading line line')
    (hshort : ((opened.getD {}).reading.readLine line).place.inShort = false)
    (hfixed : opened = none → isFixedLine line = isFixedLine line') :
    advance opened line = advance opened line' := by
  have hfeed : (opened.getD {}).feed line = (opened.getD {}).feed line' := by
    rw [feed_eq_ofReading, feed_eq_ofReading, h.readLine_eq]
  have hcont : ((opened.getD {}).feed line).continues line =
      ((opened.getD {}).feed line).continues line' := by
    rw [continues_eq, continues_eq]
    cases htriple : ((opened.getD {}).feed line).triple with
    | some q => rfl
    | none =>
      rw [feed_eq_ofReading] at htriple
      rw [h.endsInBackslash_eq (Place.literal?_eq_none hshort htriple)]
  unfold advance
  dsimp only
  rw [← hfeed, ← hcont]
  by_cases hnone : opened = none
  · rw [hfixed hnone]
  · simp only [hnone, false_and, if_false]

end ScanState

/-- The induction is on the lines; between them the reading is the one of what is open. -/
theorem Rewrites.inStep {r : Reading} {lines lines' : List (List Char)}
    (h : Rewrites r lines lines') {opened : Option ScanState} (hr : r = (opened.getD {}).reading)
    (hshort : ∀ p ∈ r.lineEnds lines, p.inShort = false) : InStep opened lines lines' := by
  induction h generalizing opened with
  | nil r => exact .nil opened
  | @cons r line line' rest rest' hline _ ih =>
    subst hr
    obtain ⟨hend, hrest⟩ := List.forall_mem_cons.mp hshort
    have hfixed : opened = none → isFixedLine line = isFixedLine line' := by
      rintro rfl
      exact hline.isFixedLine_eq rfl
    exact .cons hfixed (ScanState.advance_rewrites hline hend hfixed)
      (ih (ScanState.reading_advance hend).symm hrest)

theorem Rewrites.noBreak {r : Reading} {lines lines' : List (List Char)}
    (h : Rewrites r lines lines') (hlines : ∀ line ∈ lines, '\n' ∉ line) :
    ∀ line ∈ lines', '\n' ∉ line := by
  induction h with
  | nil r => exact hlines
  | cons hline _ ih =>
    obtain ⟨hfirst, hrest⟩ := List.forall_mem_cons.mp hlines
    exact List.forall_mem_cons.mpr ⟨hline.noBreak hfirst, ih hrest⟩

/-- What literals say does not show in the grouping of lines. If no short literal goes on to
another line, lines that differ only in characters inside literals are grouped in the same way, and
what the scanner takes for open is what a reading of the lines finds open: brackets in code, and a
long literal. -/
theorem literal_contents_keep_boundaries {lines lines' : List (List Char)}
    (hlines : ∀ line ∈ lines, '\n' ∉ line)
    (hshort : ∀ p ∈ Reading.lineEnds {} lines, p.inShort = false)
    (hrewrites : Rewrites {} lines lines') :
    SameGrouping (splitLines .statement lines) (splitLines .statement lines') ∧
      ({} : ScanState).feedAll lines = .ofReading (Reading.readLines {} lines) :=
  have hsteps : InStep none lines lines' := hrewrites.inStep rfl hshort
  ⟨hsteps.sameGrouping hlines (hrewrites.noBreak hlines),
    ScanState.feedAll_eq_ofReading {} lines hshort⟩

/-- A long literal over two lines, in which brackets, a `#` and the other mark stand. -/
theorem long_literal_keeps_boundaries :
    SameGrouping
        (splitLines .statement ["d = '''a (".toList, "\"#''' + f('[',".toList, "  1)".toList])
        (splitLines .statement ["d = '''a x".toList, "xx''' + f('x',".toList, "  1)".toList]) ∧
      ({} : ScanState).feedAll ["d = '''a (".toList, "\"#''' + f('[',".toList] = ⟨1, none⟩ := by
  have hfirst : RewritesLine {} "d = '''a (".toList "d = '''a x".toList :=
    .keepAll "d = '''a ".toList (.replace (by decide) (by decide) (.nil _))
  have hsecond : RewritesLine ⟨.long .single, 0⟩ "\"#''' + f('[',".toList
      "xx''' + f('x',".toList :=
    .replace (by decide) (by decide) (.replace (by decide) (by decide)
      (.keepAll "''' + f('".toList (.replace (by decide) (by decide)
        (.refl _ "',".toList))))
  have hrewrites : Rewrites {} ["d = '''a (".toList, "\"#''' + f('[',".toList, "  1)".toList]
      ["d = '''a x".toList, "xx''' + f('x',".toList, "  1)".toList] :=
    .cons hfirst (.cons hsecond (.cons (.refl _ "  1)".toList) (.nil _)))
  exact ⟨(literal_contents_keep_boundaries (by decide) (by decide) hrewrites).1,
    (literal_contents_keep_boundaries (by decide) (by decide)
      (.cons hfirst (.cons hsecond (.nil _)))).2⟩

/-- A short literal that a backslash carries over a line break. What is left of it on the next line
is read as code, so a bracket in it takes in the line after, and a letter does not. -/
theorem carried_literal_is_read_as_code :
    let lines := ["s = 'a \\".toList, "(b'".toList, "z = 1".toList]
    let lines' := ["s = 'a \\".toList, "xb'".toList, "z = 1".toList]
    (∀ p ∈ Reading.lineEnds {} lines, p.isCutOff = false) ∧ Rewrites {} lines lines' ∧
      splitLines .statement lines = ⟨[.unit 0], ["s = 'a \\\n(b'\nz = 1".toList]⟩ ∧
      splitLines .statement lines' =
        ⟨[.unit 0, .unit 1], ["s = 'a \\\nxb'".toList, "z = 1".toList]⟩ ∧
      ¬ SameGrouping (splitLines .statement lines) (splitLines .statement lines') := by
  intro lines lines'
  have hsplit : splitLines .statement lines = ⟨[.unit 0], ["s = 'a \\\n(b'\nz = 1".toList]⟩ := by
    decide +kernel
  have hsplit' : splitLines .statement lines' =
      ⟨[.unit 0, .unit 1], ["s = 'a \\\nxb'".toList, "z = 1".toList]⟩ := by
    decide +kernel
  have hsecond : RewritesLine ⟨.short .single, 0⟩ "(b'".toList "xb'".toList :=
    .replace (by decide) (by decide) (.refl _ "b'".toList)
  have hrewrites : Rewrites {} lines lines' :=
    .cons (.refl _ "s = 'a \\".toList)
      (.cons hsecond (.cons (.refl _ "z = 1".toList) (.nil _)))
  refine ⟨by decide, hrewrites, hsplit, hsplit', fun h => ?_⟩
  rw [hsplit, hsplit'] at h
  exact absurd h.kinds (by decide)

end ProgramRepair.Source
