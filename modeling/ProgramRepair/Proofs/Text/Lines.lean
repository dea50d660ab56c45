import ProgramRepair.Text.Lines

/-!
# Cutting and gluing

`cut` and `glue` are the library's `splitOn` and `intercalate`, so their laws
come from there:

* `cut_glue`: pieces without the separator come back from the glued text;
* `cut_glue_flatMap`: pieces with separators in them are cut up one by one;
* `dropFinalBreak_append_break`: a text is what is left of it without its final
  line break, and that line break;
* `lastLine_dropFinalBreak`: a line after whole lines is the last one, whether or
  not a line break ends it.
-/

namespace ProgramRepair.Text

variable {sep : Char} {s t : List Char} {pieces : List (List Char)}

/-! ## The library's functions -/

theorem cut_eq_splitOn (sep : Char) (s : List Char) : cut sep s = s.splitOn sep := by
  induction s with
  | nil => rfl
  | cons c cs ih =>
    rw [List.splitOn_cons_eq_if_modifyHead, ← ih]
    by_cases h : c = sep
    · simp [cut, h]
    · cases hc : cut sep cs with
      | nil => exact absurd hc (cut_ne_nil sep cs)
      | cons piece rest => simp [cut, h, hc]

theorem glue_eq_intercalate (sep : Char) (pieces : List (List Char)) :
    glue sep pieces = [sep].intercalate pieces := by
  induction pieces with
  | nil => simp [glue]
  | cons piece rest ih =>
    cases rest with
    | nil => simp [glue]
    | cons next rest =>
      rw [List.intercalate_cons_cons, ← ih]
      simp [glue]

/-! ## Cutting what was glued -/

/-- Pieces are glued one after the other. -/
theorem glue_append {more : List (List Char)} (hne : pieces ≠ []) (hmore : more ≠ []) :
    glue sep (pieces ++ more) = glue sep pieces ++ sep :: glue sep more := by
  induction pieces with
  | nil => exact absurd rfl hne
  | cons piece rest ih =>
    cases rest with
    | nil =>
      obtain ⟨next, more, rfl⟩ := List.exists_cons_of_ne_nil hmore
      rfl
    | cons next rest =>
      have hrest := ih (List.cons_ne_nil next rest)
      show piece ++ sep :: glue sep ((next :: rest) ++ more) = _
      rw [hrest]
      simp [glue]

/-- A text without the separator is one piece. -/
theorem cut_of_not_mem (h : sep ∉ s) : cut sep s = [s] := by
  rw [cut_eq_splitOn, List.splitOn_eq_singleton h]

/-- A separator ends a piece wherever it stands. -/
theorem cut_append_sep (sep : Char) (s t : List Char) :
    cut sep (s ++ sep :: t) = cut sep s ++ cut sep t := by
  simp only [cut_eq_splitOn, List.splitOn_append_cons_self]

theorem cut_glue (hne : pieces ≠ []) (h : ∀ piece ∈ pieces, sep ∉ piece) :
    cut sep (glue sep pieces) = pieces := by
  rw [cut_eq_splitOn, glue_eq_intercalate]
  exact List.splitOn_intercalate sep h hne

/-- Pieces that have separators in them are cut up one by one. -/
theorem cut_glue_flatMap (hne : pieces ≠ []) :
    cut sep (glue sep pieces) = pieces.flatMap (cut sep) := by
  induction pieces with
  | nil => exact absurd rfl hne
  | cons piece rest ih =>
    -- the last piece has no separator after it
    cases rest with
    | nil => simp [glue]
    | cons next rest =>
      have hrest : cut sep (glue sep (next :: rest)) = (next :: rest).flatMap (cut sep) :=
        ih (by simp)
      rw [List.flatMap_cons, ← hrest]
      exact cut_append_sep sep piece (glue sep (next :: rest))

/-- No piece holds the separator. -/
theorem not_mem_of_mem_cut {piece : List Char} (h : piece ∈ cut sep s) : sep ∉ piece := by
  induction s generalizing piece with
  | nil =>
    have hpiece : piece = [] := by simpa [cut] using h
    simp [hpiece]
  | cons c cs ih =>
    cases hc : cut sep cs with
    | nil => exact absurd hc (cut_ne_nil sep cs)
    | cons first rest =>
      rw [hc] at ih
      by_cases hsep : c = sep
      · have hcut : cut sep (c :: cs) = [] :: first :: rest := by simp [cut, hsep, hc]
        rw [hcut] at h
        rcases List.mem_cons.mp h with rfl | hrest
        · simp
        · exact ih hrest
      · have hcut : cut sep (c :: cs) = (c :: first) :: rest := by simp [cut, hsep, hc]
        rw [hcut] at h
        rcases List.mem_cons.mp h with rfl | hrest
        · have hfirst : sep ∉ first := ih List.mem_cons_self
          simp [Ne.symm hsep, hfirst]
        · exact ih (List.mem_cons_of_mem first hrest)

/-- Cutting up the pieces does not show in the glued text. -/
theorem glue_flatMap_cut (pieces : List (List Char)) :
    glue sep (pieces.flatMap (cut sep)) = glue sep pieces := by
  by_cases hne : pieces = []
  · simp [hne]
  · rw [← cut_glue_flatMap hne, glue_cut]

/-- The first piece is what stands before the first separator. -/
theorem head?_cut (sep : Char) (s : List Char) :
    (cut sep s).head? = some (s.takeWhile (· ≠ sep)) := by
  induction s with
  | nil => rfl
  | cons c cs ih =>
    cases hc : cut sep cs with
    | nil => exact absurd hc (cut_ne_nil sep cs)
    | cons first rest =>
      rw [hc] at ih
      by_cases hsep : c = sep
      · simp [cut, hsep]
      · simpa [cut, hsep, hc] using ih

/-! ## The final line break -/

@[simp] theorem dropFinalBreak_append (s : List Char) : dropFinalBreak (s ++ ['\n']) = s := by
  simp [dropFinalBreak]

/-- A text is what `dropFinalBreak` leaves of it and the line break that was taken off. -/
theorem dropFinalBreak_append_break (s : List Char) :
    dropFinalBreak s ++ (if s.getLast? = some '\n' then ['\n'] else []) = s := by
  by_cases h : s.getLast? = some '\n'
  · obtain ⟨init, rfl⟩ := List.getLast?_eq_some_iff.mp h
    simp
  · simp [dropFinalBreak, h]

/-! ## The last line -/

/-- A line that stands alone or after whole lines is the last one. -/
theorem lastLine_append {lines line : List Char}
    (hlines : lines = [] ∨ lines.getLast? = some '\n') (hline : '\n' ∉ line) :
    lastLine (lines ++ line) = line := by
  have hall : ∀ c ∈ line.reverse, decide (c ≠ '\n') = true := by
    intro c hc
    refine decide_eq_true ?_
    rintro rfl
    exact hline (List.mem_reverse.mp hc)
  unfold lastLine
  rw [List.reverse_append, List.takeWhile_append_of_pos hall]
  rcases hlines with rfl | hlast
  · simp
  · obtain ⟨init, rfl⟩ := List.getLast?_eq_some_iff.mp hlast
    simp

/-- A line break after the last line does not start another one. -/
theorem lastLine_dropFinalBreak {lines line tail : List Char}
    (hlines : lines = [] ∨ lines.getLast? = some '\n') (hne : line ≠ []) (hline : '\n' ∉ line)
    (htail : tail = [] ∨ tail = ['\n']) :
    lastLine (dropFinalBreak (lines ++ line ++ tail)) = line := by
  rcases htail with rfl | rfl
  · have hend : (lines ++ line).getLast? ≠ some '\n' := by
      rw [List.getLast?_append]
      cases hlast : line.getLast? with
      | none => exact absurd (List.getLast?_eq_none_iff.mp hlast) hne
      | some c =>
        rw [Option.some_or, Ne, Option.some.injEq]
        rintro rfl
        exact hline (List.mem_of_getLast? hlast)
    rw [List.append_nil, dropFinalBreak, if_neg hend, lastLine_append hlines hline]
  · rw [dropFinalBreak_append, lastLine_append hlines hline]

end ProgramRepair.Text
