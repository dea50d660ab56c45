import Mathlib.Algebra.Group.Int.Defs
import Mathlib.Algebra.Group.Nat.Defs
import ProgramRepair.Proofs.Source.Lexing

/-!
# A cursor that runs over a line

A line can also be scanned by number: a cursor stands at a place, looks at the character there and
at the two after it, and jumps one, two or three places on. Its depth is a signed number of 32 bits,
and it may neither look for a character where there is none nor leave the range of its depth. Main
statements:

* `turnsAs`: one turn of the cursor is a step of the scanner on the rest of the line;
* `Reached.sound`: what holds of every cursor that the loop comes to;
* `run_ofMode`: the loop ends, without a fault, where the scanner ends;
* `cursor_reads_lines`: on any line it finds out what reading the line character by character does.
-/

namespace ProgramRepair.Source

open Text

/-- A place in a line by its number, and what is open there. -/
structure Cursor where
  place : Nat
  depth : Int
  /-- The long literal that is open. -/
  triple : Option Quote
  /-- The short literal that is open. -/
  quote : Option Quote
deriving DecidableEq, Repr

namespace Cursor

/-- Why a cursor cannot go on. -/
inductive Fault where
  /-- The line has no character at this place. -/
  | outside (place : Nat)
  /-- A depth does not fit into 32 bits. -/
  | depthRange
  /-- There are no turns left. -/
  | unfinished
deriving DecidableEq, Repr

/-- A depth that has to fit into 32 bits. -/
def fitted (n : Int) : Except Fault Int :=
  if -2 ^ 31 ≤ n ∧ n < 2 ^ 31 then .ok n else .error .depthRange

/-- Whether two marks stand after a place. -/
def marksFollow (text : List Char) (place : Nat) (q : Quote) : Prop :=
  text[place + 1]? = some q.mark ∧ text[place + 2]? = some q.mark

instance (text : List Char) (place : Nat) (q : Quote) : Decidable (marksFollow text place q) :=
  inferInstanceAs (Decidable (_ ∧ _))

/-- One turn of the loop, which is done at a comment. -/
def turn (text : List Char) (c : Cursor) : Except Fault (ForInStep Cursor) :=
  match text[c.place]? with
  | none => .error (.outside c.place)
  | some x =>
    match c.triple with
    | some q =>
      -- the hidden character may be missing, and then the cursor is past the end
      if x = '\\' then .ok (.yield { c with place := c.place + 2 })
      else if x = q.mark ∧ marksFollow text c.place q then
        .ok (.yield { c with place := c.place + 3, triple := none })
      else .ok (.yield { c with place := c.place + 1 })
    | none =>
      match c.quote with
      | some q =>
        if x = '\\' then .ok (.yield { c with place := c.place + 2 })
        else if x = q.mark then .ok (.yield { c with place := c.place + 1, quote := none })
        else .ok (.yield { c with place := c.place + 1 })
      | none =>
        match Quote.ofChar? x with
        | some q =>
          if marksFollow text c.place q then
            .ok (.yield { c with place := c.place + 3, triple := some q })
          else .ok (.yield { c with place := c.place + 1, quote := some q })
        | none =>
          if x = '#' then .ok (.done c)
          else if x = '(' ∨ x = '[' ∨ x = '\x7b' then do
            let depth ← fitted (c.depth + 1)
            return .yield { c with place := c.place + 1, depth }
          else if x = ')' ∨ x = ']' ∨ x = '\x7d' then do
            let depth ← fitted (c.depth - 1)
            return .yield { c with place := c.place + 1, depth := max depth 0 }
          else .ok (.yield { c with place := c.place + 1 })

/-- The loop over a line, with at most `turns` turns. -/
def run (text : List Char) (turns : Nat) (c : Cursor) : Except Fault Cursor :=
  if c.place < text.length then
    match turns with
    | 0 => .error .unfinished
    | turns + 1 => do
      match ← turn text c with
      | .done c => return c
      | .yield c => run text turns c
  else .ok c

/-- One line: what is open after it, and whether the statement goes on. -/
def feed (turns : Nat) (depth : Int) (triple : Option Quote) (text : List Char) :
    Except Fault ((Int × Option Quote) × Bool) := do
  let c ← run text turns ⟨0, depth, triple, none⟩
  return ((c.depth, c.triple),
    c.triple.isSome || 0 < c.depth || (trimEnd text).getLast? == some '\\')

/-- The loop comes from one cursor to another. -/
inductive Reached (text : List Char) (start : Cursor) : Cursor → Prop
  | start : Reached text start start
  | turn {c c' : Cursor} (hearlier : Reached text start c) (hinside : c.place < text.length)
      (hturn : turn text c = .ok (.yield c')) : Reached text start c'

end Cursor

/-! ## The scanner on part of a line -/

namespace ScanMode

/-- The long literal of a mode. -/
def triple? : ScanMode → Option Quote
  | triple q => some q
  | _ => none

/-- The short literal of a mode. -/
def quote? : ScanMode → Option Quote
  | quoted q => some q
  | _ => none

end ScanMode

section Skips

variable {q : Quote} {x : Char} {mode mode' : ScanMode} {depth depth' k : Nat} {s text : List Char}

/-- The scan of a text, and that of its beginnings, goes on in another mode after `k` characters. -/
def Skips (mode : ScanMode) (depth : Nat) (text : List Char) (k : Nat) (mode' : ScanMode)
    (depth' : Nat) : Prop :=
  ∀ j, scan mode depth (text.take (k + j)) = scan mode' depth' ((text.drop k).take j)

/-- On no beginning of a text does the depth leave the range of 32 bits. -/
def StaysInRange (mode : ScanMode) (depth : Nat) (text : List Char) : Prop :=
  ∀ j, (scan mode depth (text.take j)).1 < 2 ^ 31

theorem Skips.scan_eq (h : Skips mode depth text k mode' depth') :
    scan mode depth text = scan mode' depth' (text.drop k) := by
  have hall := h text.length
  rw [List.take_of_length_le (by omega), List.take_of_length_le (by simp)] at hall
  exact hall

theorem Skips.staysInRange (h : Skips mode depth text k mode' depth')
    (hrange : StaysInRange mode depth text) : StaysInRange mode' depth' (text.drop k) := by
  intro j
  rw [← h j]
  exact hrange (k + j)

theorem StaysInRange.depth_lt (h : StaysInRange mode depth text) : depth < 2 ^ 31 := by
  have hstart := h 0
  rw [List.take_zero] at hstart
  exact hstart

/-- A step that needs no more than the next character holds of every beginning. -/
theorem skips_one (h : ∀ s, scan mode depth (x :: s) = scan mode' depth' s) :
    Skips mode depth (x :: s) 1 mode' depth' := by
  intro j
  rw [Nat.add_comm, List.take_succ_cons]
  exact h _

/-- A backslash hides the next character, and there need not be one. -/
theorem skips_hidden (hlast : scan mode depth ['\\'] = (depth, mode))
    (h : ∀ x s, scan mode depth ('\\' :: x :: s) = scan mode depth s) :
    Skips mode depth ('\\' :: s) 2 mode depth := by
  intro j
  cases s with
  | nil =>
    have hdrop : (['\\'].drop 2).take j = ([] : List Char) := List.take_nil
    rw [List.take_of_length_le (by simp; omega), hdrop, hlast]
    rfl
  | cons x s =>
    rw [Nat.add_comm, List.take_succ_cons, List.take_succ_cons]
    exact h x _

theorem skips_marks (h : ∀ s, scan mode depth (q.mark :: q.mark :: q.mark :: s) =
    scan mode' depth s) : Skips mode depth (q.mark :: q.mark :: q.mark :: s) 3 mode' depth := by
  intro j
  rw [Nat.add_comm, List.take_succ_cons, List.take_succ_cons, List.take_succ_cons]
  exact h _

/-- Two more marks stand in front. -/
def StartsTwice (q : Quote) (s : List Char) : Prop := ∃ rest, s = q.mark :: q.mark :: rest

theorem StartsTwice.of_take {j : Nat} (h : StartsTwice q (s.take j)) : StartsTwice q s := by
  obtain ⟨rest, hrest⟩ := h
  refine ⟨rest ++ s.drop j, ?_⟩
  calc s = s.take j ++ s.drop j := (List.take_append_drop j s).symm
    _ = q.mark :: q.mark :: (rest ++ s.drop j) := by
      rw [hrest]
      rfl

/-- Without three marks a long literal goes on. -/
theorem scan_triple_on (hbackslash : x ≠ '\\') (h : ¬ (x = q.mark ∧ StartsTwice q s)) :
    scan (.triple q) depth (x :: s) = scan (.triple q) depth s := by
  by_cases hmark : x = q.mark
  · subst hmark
    rcases s with _ | ⟨a, _ | ⟨b, rest⟩⟩
    · exact if_neg q.mark_ne_backslash
    · exact if_neg q.mark_ne_backslash
    · refine (if_neg q.mark_ne_backslash).trans (if_neg ?_)
      rintro ⟨-, rfl, rfl⟩
      exact h ⟨rfl, rest, rfl⟩
  · exact scan_triple hbackslash hmark

/-- Without three marks the first one opens a short literal. -/
theorem scan_open_on (h : ¬ StartsTwice q s) :
    scan .code depth (q.mark :: s) = scan (.quoted q) depth s := by
  rcases s with _ | ⟨a, _ | ⟨b, rest⟩⟩
  · cases q <;> rfl
  · cases q <;> rfl
  · have hmarks : ¬ (a = q.mark ∧ b = q.mark) := by
      rintro ⟨rfl, rfl⟩
      exact h ⟨rest, rfl⟩
    cases q <;> exact if_neg hmarks

theorem skips_triple_on (hbackslash : x ≠ '\\') (h : ¬ (x = q.mark ∧ StartsTwice q s)) :
    Skips (.triple q) depth (x :: s) 1 (.triple q) depth := by
  intro j
  rw [Nat.add_comm, List.take_succ_cons]
  refine scan_triple_on hbackslash ?_
  rintro ⟨hmark, htwice⟩
  exact h ⟨hmark, htwice.of_take⟩

theorem skips_open_on (h : ¬ StartsTwice q s) :
    Skips .code depth (q.mark :: s) 1 (.quoted q) depth := by
  intro j
  rw [Nat.add_comm, List.take_succ_cons]
  exact scan_open_on fun htwice => h htwice.of_take

end Skips

/-! ## Turns -/

namespace Cursor

variable {text : List Char} {i : Nat} {mode : ScanMode} {depth : Nat} {q : Quote} {x : Char}

/-- The cursor at a place of a line that the scanner comes to in some mode. -/
def ofMode (place : Nat) (mode : ScanMode) (depth : Nat) : Cursor :=
  ⟨place, depth, mode.triple?, mode.quote?⟩

/-- A turn of a cursor is a step of the scanner on the rest of the line. -/
inductive TurnsAs (text : List Char) (i : Nat) (mode : ScanMode) (depth : Nat) : Prop
  | on (k : Nat) (mode' : ScanMode) (depth' : Nat) (hpos : 0 < k) (hthree : k ≤ 3)
      (hturn : turn text (ofMode i mode depth) = .ok (.yield (ofMode (i + k) mode' depth')))
      (hskips : Skips mode depth (text.drop i) k mode' depth')
  | ends (hturn : turn text (ofMode i mode depth) = .ok (.done (ofMode i mode depth)))
      (hscan : scan mode depth (text.drop i) = (depth, mode))

theorem marksFollow_iff : marksFollow text i q ↔ StartsTwice q (text.drop (i + 1)) := by
  have hfirst : text[i + 1]? = (text.drop (i + 1))[0]? := by rw [List.getElem?_drop]
  have hsecond : text[i + 2]? = (text.drop (i + 1))[1]? := by rw [List.getElem?_drop]
  rw [marksFollow, hfirst, hsecond]
  constructor
  · rintro ⟨h₀, h₁⟩
    match hrest : text.drop (i + 1) with
    | [] =>
      rw [hrest] at h₀
      cases h₀
    | [a] =>
      rw [hrest] at h₁
      cases h₁
    | a :: b :: rest =>
      rw [hrest] at h₀ h₁
      obtain rfl := Option.some.inj h₀
      obtain rfl := Option.some.inj h₁
      exact ⟨rest, rfl⟩
  · rintro ⟨rest, hrest⟩
    rw [hrest]
    exact ⟨rfl, rfl⟩

theorem fitted_of_lt {n : Int} (hlow : -1 ≤ n) (hhigh : n < 2 ^ 31) : fitted n = .ok n :=
  if_pos ⟨by omega, hhigh⟩

section

variable (hx : text[i]? = some x) (htext : text.drop i = x :: text.drop (i + 1))

include hx

theorem turn_triple : turn text (ofMode i (.triple q) depth) =
    if x = '\\' then .ok (.yield (ofMode (i + 2) (.triple q) depth))
    else if x = q.mark ∧ marksFollow text i q then .ok (.yield (ofMode (i + 3) .code depth))
    else .ok (.yield (ofMode (i + 1) (.triple q) depth)) := by
  simp only [turn, ofMode, hx, ScanMode.triple?, ScanMode.quote?]
  rfl

theorem turn_quoted : turn text (ofMode i (.quoted q) depth) =
    if x = '\\' then .ok (.yield (ofMode (i + 2) (.quoted q) depth))
    else if x = q.mark then .ok (.yield (ofMode (i + 1) .code depth))
    else .ok (.yield (ofMode (i + 1) (.quoted q) depth)) := by
  simp only [turn, ofMode, hx, ScanMode.triple?, ScanMode.quote?]

theorem turn_quote (hquote : Quote.ofChar? x = some q) : turn text (ofMode i .code depth) =
    if marksFollow text i q then .ok (.yield (ofMode (i + 3) (.triple q) depth))
    else .ok (.yield (ofMode (i + 1) (.quoted q) depth)) := by
  simp only [turn, ofMode, hx, ScanMode.triple?, ScanMode.quote?, hquote]
  rfl

theorem turn_comment (hquote : Quote.ofChar? x = none) (hhash : x = '#') :
    turn text (ofMode i .code depth) = .ok (.done (ofMode i .code depth)) := by
  subst hhash
  simp only [turn, ofMode, hx, ScanMode.triple?, ScanMode.quote?, hquote, if_true]

/-- A character of code changes the depth as it does for a reading, if there is room for that. -/
theorem turn_code (hquote : Quote.ofChar? x = none) (hhash : x ≠ '#') (hdepth : depth < 2 ^ 31)
    (hroom : Reading.bracketed depth x < 2 ^ 31) : turn text (ofMode i .code depth) =
      .ok (.yield (ofMode (i + 1) .code (Reading.bracketed depth x))) := by
  simp only [turn, ofMode, hx, ScanMode.triple?, ScanMode.quote?, hquote, hhash, if_false]
  unfold Reading.bracketed at hroom ⊢
  by_cases hopens : x = '(' ∨ x = '[' ∨ x = '\x7b'
  · rw [if_pos hopens] at hroom
    rw [if_pos hopens, if_pos hopens, fitted_of_lt (by omega) (by omega)]
    rfl
  · by_cases hcloses : x = ')' ∨ x = ']' ∨ x = '\x7d'
    · rw [if_neg hopens, if_pos hcloses, if_neg hopens, if_pos hcloses,
        fitted_of_lt (by omega) (by omega)]
      -- where nothing is open, the depth goes below zero and back
      have hclamped : max ((depth : Int) - 1) 0 = ((depth - 1 : Nat) : Int) := by omega
      show Except.ok (ForInStep.yield (⟨i + 1, max ((depth : Int) - 1) 0, none, none⟩ : Cursor)) = _
      rw [hclamped]
    · rw [if_neg hopens, if_neg hcloses, if_neg hopens, if_neg hcloses]

include htext

theorem turnsAs_triple : TurnsAs text i (.triple q) depth := by
  by_cases hbackslash : x = '\\'
  · refine .on 2 (.triple q) depth (by omega) (by omega) ?_ ?_
    · rw [turn_triple hx, if_pos hbackslash]
    · rw [htext, hbackslash]
      exact skips_hidden rfl fun _ _ => scan_triple_hidden
  · by_cases hmarks : x = q.mark ∧ marksFollow text i q
    · refine .on 3 .code depth (by omega) (by omega) ?_ ?_
      · rw [turn_triple hx, if_neg hbackslash, if_pos hmarks]
      · obtain ⟨rest, hrest⟩ := marksFollow_iff.mp hmarks.2
        rw [htext, hrest, hmarks.1]
        exact skips_marks fun _ => scan_triple_marks
    · refine .on 1 (.triple q) depth (by omega) (by omega) ?_ ?_
      · rw [turn_triple hx, if_neg hbackslash, if_neg hmarks]
      · rw [htext]
        exact skips_triple_on hbackslash fun h => hmarks ⟨h.1, marksFollow_iff.mpr h.2⟩

theorem turnsAs_quoted : TurnsAs text i (.quoted q) depth := by
  by_cases hbackslash : x = '\\'
  · refine .on 2 (.quoted q) depth (by omega) (by omega) ?_ ?_
    · rw [turn_quoted hx, if_pos hbackslash]
    · rw [htext, hbackslash]
      exact skips_hidden rfl fun _ _ => scan_quoted_hidden
  · by_cases hmark : x = q.mark
    · refine .on 1 .code depth (by omega) (by omega) ?_ ?_
      · rw [turn_quoted hx, if_neg hbackslash, if_pos hmark]
      · rw [htext, hmark]
        exact skips_one fun _ => scan_quoted_mark
    · refine .on 1 (.quoted q) depth (by omega) (by omega) ?_ ?_
      · rw [turn_quoted hx, if_neg hbackslash, if_neg hmark]
      · rw [htext]
        exact skips_one fun _ => scan_quoted hbackslash hmark

theorem turnsAs_code (hrange : StaysInRange .code depth (text.drop i)) :
    TurnsAs text i .code depth := by
  cases hquote : Quote.ofChar? x with
  | some q =>
    have hmark := Quote.eq_mark_of_ofChar? hquote
    by_cases hmarks : marksFollow text i q
    · refine .on 3 (.triple q) depth (by omega) (by omega) ?_ ?_
      · rw [turn_quote hx hquote, if_pos hmarks]
      · obtain ⟨rest, hrest⟩ := marksFollow_iff.mp hmarks
        rw [htext, hrest, hmark]
        exact skips_marks fun _ => scan_open_marks
    · refine .on 1 (.quoted q) depth (by omega) (by omega) ?_ ?_
      · rw [turn_quote hx hquote, if_neg hmarks]
      · rw [htext, hmark]
        exact skips_open_on fun h => hmarks (marksFollow_iff.mpr h)
  | none =>
    by_cases hhash : x = '#'
    · refine .ends (turn_comment hx hquote hhash) ?_
      rw [htext, hhash]
      exact scan_comment
    · have hskips : Skips .code depth (text.drop i) 1 .code (Reading.bracketed depth x) := by
        rw [htext]
        exact skips_one fun _ => scan_code hquote hhash
      have hroom := (hskips.staysInRange hrange).depth_lt
      exact .on 1 .code _ (by omega) (by omega)
        (turn_code hx hquote hhash hrange.depth_lt hroom) hskips

end

/-- Inside a line every turn is a step of the scanner. -/
theorem turnsAs (hinside : i < text.length) (hrange : StaysInRange mode depth (text.drop i)) :
    TurnsAs text i mode depth := by
  have hx : text[i]? = some text[i] := List.getElem?_eq_getElem hinside
  have htext : text.drop i = text[i] :: text.drop (i + 1) := List.drop_eq_getElem_cons hinside
  cases mode with
  | code => exact turnsAs_code hx htext hrange
  | quoted q => exact turnsAs_quoted hx htext
  | triple q => exact turnsAs_triple hx htext

/-! ## The loop -/

/-- Past the end of a line there is nothing left to scan, and the loop ends. -/
theorem run_outside (h : ¬ i < text.length) (turns : Nat) : run text turns (ofMode i mode depth) =
    .ok (ofMode i (scan mode depth (text.drop i)).2 (scan mode depth (text.drop i)).1) := by
  have houtside : ¬ (ofMode i mode depth).place < text.length := h
  unfold run
  rw [if_neg houtside, List.drop_of_length_le (Nat.not_lt.mp h)]
  rfl

/-- Enough turns for the rest of the line bring the cursor to where the scanner ends. The induction
is on the turns, each of which takes at least one character. -/
theorem run_ofMode {turns : Nat} (hturns : text.length ≤ i + turns)
    (hrange : StaysInRange mode depth (text.drop i)) :
    ∃ place, run text turns (ofMode i mode depth) =
      .ok (ofMode place (scan mode depth (text.drop i)).2 (scan mode depth (text.drop i)).1) := by
  induction turns generalizing i mode depth with
  | zero =>
    have houtside : ¬ i < text.length := by omega
    exact ⟨i, run_outside houtside 0⟩
  | succ turns ih =>
    by_cases hinside : i < text.length
    · have hplace : (ofMode i mode depth).place < text.length := hinside
      rw [run, if_pos hplace]
      cases turnsAs hinside hrange with
      | on k mode' depth' hpos hthree hturn hskips =>
        have hnext := hskips.staysInRange hrange
        rw [List.drop_drop] at hnext
        obtain ⟨place, hrun⟩ := ih (by omega) hnext
        refine ⟨place, ?_⟩
        rw [hturn, hskips.scan_eq, List.drop_drop]
        exact hrun
      | ends hturn hscan =>
        refine ⟨i, ?_⟩
        rw [hturn, hscan]
        rfl
    · exact ⟨i, run_outside hinside _⟩

/-- What holds of every cursor that the loop comes to: it is at most two places behind the line,
its depth is in range, and what is left to scan is what the whole line comes to. -/
theorem Reached.sound {c : Cursor} (hrange : StaysInRange mode depth text)
    (h : Reached text (ofMode 0 mode depth) c) :
    ∃ i mode' depth', c = ofMode i mode' depth' ∧ i ≤ text.length + 2 ∧
      StaysInRange mode' depth' (text.drop i) ∧
      scan mode depth text = scan mode' depth' (text.drop i) := by
  induction h with
  | start => exact ⟨0, mode, depth, rfl, by omega, hrange, rfl⟩
  | turn hearlier hinside hturn ih =>
    obtain ⟨i, mode', depth', rfl, -, hrange', hscan⟩ := ih
    -- the loop looks at a character only inside the line, so a jump begins there
    have hi : i < text.length := hinside
    cases turnsAs hi hrange' with
    | on k mode'' depth'' hpos hthree hturn' hskips =>
      obtain rfl := ForInStep.yield.inj (Except.ok.inj (hturn.symm.trans hturn'))
      have hnext := hskips.staysInRange hrange'
      have hstep := hskips.scan_eq
      rw [List.drop_drop] at hnext hstep
      exact ⟨i + k, mode'', depth'', rfl, by omega, hnext, hscan.trans hstep⟩
    | ends hturn' _ =>
      cases hturn.symm.trans hturn'

/-- Where nothing is open, a closing bracket of code is passed over. -/
theorem turn_unopened {c : Cursor} {x : Char} (hx : text[c.place]? = some x)
    (hcloses : x = ')' ∨ x = ']' ∨ x = '\x7d') (htriple : c.triple = none) (hquote : c.quote = none)
    (hdepth : c.depth = 0) : turn text c = .ok (.yield { c with place := c.place + 1 }) := by
  obtain ⟨i, depth, triple, quote⟩ := c
  subst htriple hquote hdepth
  have hplain : Quote.ofChar? x = none ∧ x ≠ '#' ∧ Reading.bracketed 0 x = 0 := by
    rcases hcloses with rfl | rfl | rfl <;> decide
  obtain ⟨hmark, hhash, hdepth⟩ := hplain
  have hturn : turn text (ofMode i .code 0) =
      .ok (.yield (ofMode (i + 1) .code (Reading.bracketed 0 x))) :=
    turn_code hx hmark hhash (by decide) (by rw [hdepth]; decide)
  rw [hdepth] at hturn
  exact hturn

end Cursor

/-! ## Lines -/

namespace ScanState

variable {s : ScanState} {text : List Char}

theorem feed_eq_scan (s : ScanState) (text : List Char) :
    s.feed text = ⟨(scan s.mode s.depth text).1, (scan s.mode s.depth text).2.triple?⟩ := by
  rw [feed]
  rcases scan s.mode s.depth text with ⟨depth, mode⟩
  cases mode with
  | code | quoted q | triple q => rfl

/-- A line that keeps the depth of a reading in range keeps that of the scanner there, too. -/
theorem staysInRange (h : ∀ before, before <+: text → (s.reading.readLine before).depth < 2 ^ 31) :
    StaysInRange s.mode s.depth text := by
  intro j
  rw [scan_eq_readLine]
  exact h _ (List.take_prefix j text)

/-- The cursor at the start of a line. -/
def cursor (s : ScanState) : Cursor := ⟨0, s.depth, s.triple, none⟩

theorem cursor_eq_ofMode (s : ScanState) : s.cursor = .ofMode 0 s.mode s.depth := by
  obtain ⟨depth, triple⟩ := s
  cases triple with
  | none => rfl
  | some q => rfl

/-- With a turn for each character the loop feeds a line as the scanner does. -/
theorem cursor_feed (hrange : StaysInRange s.mode s.depth text) {turns : Nat}
    (hturns : text.length ≤ turns) : Cursor.feed turns s.depth s.triple text =
      .ok (((s.feed text).depth, (s.feed text).triple), (s.feed text).continues text) := by
  have henough : text.length ≤ 0 + turns := by omega
  obtain ⟨place, hrun⟩ := Cursor.run_ofMode henough hrange
  rw [← cursor_eq_ofMode, List.drop_zero] at hrun
  rw [feed_eq_scan, Cursor.feed]
  change (Cursor.run text turns s.cursor >>= _) = _
  rw [hrun]
  show Except.ok _ = _
  simp only [Cursor.ofMode, continues, Int.natCast_pos]

end ScanState

/-- On a line that never takes the depth out of the range of 32 bits, the loop over the numbers of
its characters ends within a turn for each of them and without a fault. It finds the depth, the long
literal and the answer that reading the line character by character comes to, in code, in literals
of both kinds and in comments, and so does the scanner. Wherever the loop gets, it is at most two
places behind the line, the depth is in range and not negative, and a turn inside the line has a
result; a closing bracket that nothing opened changes nothing. A short literal without an end leaves
nothing open for the next line. -/
theorem cursor_reads_lines (s : ScanState) (text : List Char)
    (hdepth : ∀ before, before <+: text → (s.reading.readLine before).depth < 2 ^ 31) :
    let r := s.reading.readLine text
    (∀ turns, text.length ≤ turns → Cursor.feed turns s.depth s.triple text =
      .ok ((r.depth, r.place.long?),
        r.place.long?.isSome || 0 < r.depth || (trimEnd text).getLast? == some '\\')) ∧
    s.feed text = ⟨r.depth, r.place.long?⟩ ∧
    (s.feed text).continues text =
      (r.place.long?.isSome || 0 < r.depth || (trimEnd text).getLast? == some '\\') ∧
    (∀ c, Cursor.Reached text s.cursor c → c.place ≤ text.length + 2 ∧
      0 ≤ c.depth ∧ c.depth < 2 ^ 31 ∧
      (c.place < text.length → ∃ next, Cursor.turn text c = .ok next) ∧
      ∀ x, text[c.place]? = some x → x = ')' ∨ x = ']' ∨ x = '\x7d' →
        c.triple = none → c.quote = none → c.depth = 0 →
          Cursor.turn text c = .ok (.yield { c with place := c.place + 1 })) ∧
    (r.place.inShort = true →
      (s.feed text).triple = none ∧ (s.feed text).reading.place = .code) := by
  intro r
  have hrange := ScanState.staysInRange hdepth
  have hfeed : s.feed text = ⟨r.depth, r.place.long?⟩ := s.feed_eq_ofReading text
  refine ⟨?_, hfeed, ?_, ?_, ?_⟩
  · intro turns hturns
    rw [ScanState.cursor_feed hrange hturns, hfeed]
    rfl
  · rw [hfeed]
    rfl
  · intro c hreached
    rw [ScanState.cursor_eq_ofMode] at hreached
    obtain ⟨i, mode, depth, rfl, hplace, hrest, -⟩ := hreached.sound hrange
    have hlow : (0 : Int) ≤ depth := by omega
    have hhigh : (depth : Int) < 2 ^ 31 := by
      have hlt := hrest.depth_lt
      omega
    refine ⟨hplace, hlow, hhigh, ?_, ?_⟩
    · intro hinside
      cases Cursor.turnsAs hinside hrest with
      | on k mode' depth' hpos hthree hturn hskips => exact ⟨_, hturn⟩
      | ends hturn hscan => exact ⟨_, hturn⟩
    · intro x hx hcloses htriple hquote hzero
      exact Cursor.turn_unopened hx hcloses htriple hquote hzero
  · intro hshort
    have hnone : r.place.long? = none := by
      cases hplace : r.place with
      | opened q | short q | shortEscape q => rfl
      | code | comment | emptied q | long q | closing q | closingTwice q | longEscape q =>
        rw [hplace] at hshort
        cases hshort
    rw [hfeed, hnone]
    exact ⟨rfl, rfl⟩

/-- A line with two brackets that nothing opened, a short literal with a mark in it and a long
literal that goes on. -/
def tangledLine : List Char := ")](\x27a\\\x27b\x27\x22\x22\x22(#".toList

/-- The loop leaves one bracket and the long literal open. -/
theorem cursor_on_tangledLine :
    (∀ before, before <+: tangledLine →
      (ScanState.reading {} |>.readLine before).depth < 2 ^ 31) ∧
    Cursor.feed 14 0 none tangledLine = .ok ((1, some .double), true) := by
  have hdepth : ∀ before, before <+: tangledLine →
      (ScanState.reading {} |>.readLine before).depth < 2 ^ 31 := by
    have hall : ∀ n ≤ tangledLine.length,
        (ScanState.reading {} |>.readLine (tangledLine.take n)).depth < 2 ^ 31 := by
      decide +kernel
    intro before hbefore
    rw [List.prefix_iff_eq_take.mp hbefore]
    exact hall _ hbefore.length_le
  obtain ⟨hfeed, -⟩ := cursor_reads_lines {} tangledLine hdepth
  exact ⟨hdepth, hfeed 14 (by decide +kernel)⟩

end ProgramRepair.Source
