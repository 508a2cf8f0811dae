import SqlComposer.Proofs.Marks
import SqlComposer.Proofs.Refusals
import SqlComposer.SubQuery.Layout
import Mathlib.Tactic.SplitIfs

/-!
The steps of the layout: the search for the end mark of a pair, one pair laid out with what follows
it, columns and indentation of texts, and all that a layout can be refused for.
-/
namespace SqlComposer.SubQuery

open Text (afterMark? cutAt? hasMark)

inductive LayoutRefusal : ClauseError → Prop where
  | endWithoutBegin : LayoutRefusal (.illegalState .endWithoutBegin)
  | unterminated (text : String) : LayoutRefusal (.illegalState (.unterminatedBegin text))
  | beginWithoutEnd (identity : String) :
      LayoutRefusal (.illegalState (.beginWithoutEnd identity))

theorem without_end_refusal {chars : List Char} {refusal : ClauseError}
    (refused : withoutEnd chars = .error refusal) : LayoutRefusal refusal := by
  unfold withoutEnd at refused
  split at refused
  · obtain rfl := Except.error.inj refused
    exact .endWithoutBegin
  · cases refused

theorem layout_from_refusal {column : Nat} {chars : List Char} {refusal : ClauseError}
    (refused : layoutFrom column chars = .error refusal) : LayoutRefusal refusal := by
  revert refused
  fun_induction layoutFrom column chars with
  | case1 => exact without_end_refusal
  | case2 column chars before marked begun refusal dangling =>
      intro refused
      obtain rfl := Except.error.inj refused
      exact without_end_refusal dangling
  | case3 =>
      intro refused
      obtain rfl := Except.error.inj refused
      exact .unterminated _
  | case4 =>
      intro refused
      obtain rfl := Except.error.inj refused
      exact .beginWithoutEnd _
  | case5 column chars before marked begun kept clean identity rest named body after closed refusal
      inner ih =>
      intro refused
      obtain rfl := Except.error.inj refused
      exact ih inner
  | case6 column chars before marked begun kept clean identity rest named body after closed laid
      inner begins indented ihInner ihAfter =>
      intro refused
      exact ihAfter (map_error_iff.mp refused)

theorem layout_refusal {sql : String} {refusal : ClauseError}
    (refused : layout sql = .error refusal) : LayoutRefusal refusal :=
  layout_from_refusal (map_error_iff.mp refused)

/-- The body found so far, put before what a further search finds. -/
def prepend (chars : List Char) (found : Option (List Char × List Char)) :
    Option (List Char × List Char) :=
  found.map fun (body, after) => (chars ++ body, after)

theorem prepend_nil (found : Option (List Char × List Char)) : prepend [] found = found := by
  cases found <;> rfl

theorem prepend_append (first second : List Char) (found : Option (List Char × List Char)) :
    prepend (first ++ second) found = prepend first (prepend second found) := by
  cases found <;> simp [prepend]

theorem prepend_cons (c : Char) (chars : List Char) (found : Option (List Char × List Char)) :
    prepend (c :: chars) found =
      (prepend chars found).map fun (body, after) => (c :: body, after) := by
  cases found <;> simp [prepend]

section

variable {opening closing tail : List Char} {depth : Nat}

theorem close_at_skipped (chars : List Char) :
    closeAt? opening closing depth chars.length (chars ++ tail) =
      prepend chars (closeAt? opening closing depth 0 tail) := by
  induction chars with
  | nil => exact (prepend_nil _).symm
  | cons c chars ih => rw [List.cons_append, List.length_cons, closeAt?, ih, prepend_cons]

/-- The search passes over characters at which neither mark starts. -/
theorem close_at_silent {chars : List Char} (noClosing : Silent closing tail chars)
    (noOpening : Silent opening tail chars) :
    closeAt? opening closing depth 0 (chars ++ tail) =
      prepend chars (closeAt? opening closing depth 0 tail) := by
  induction chars with
  | nil => exact (prepend_nil _).symm
  | cons c chars ih =>
      have first := noClosing.1
      have second := noOpening.1
      rw [List.cons_append] at first second
      rw [List.cons_append, closeAt?, first, prepend_cons, ← ih noClosing.2 noOpening.2]
      simp only [second]

theorem close_at_opening (filled : opening ≠ [])
    (noClosing : afterMark? closing (opening ++ tail) = none) :
    closeAt? opening closing depth 0 (opening ++ tail) =
      prepend opening (closeAt? opening closing (depth + 1) 0 tail) := by
  have found := after_mark_append opening tail
  cases shape : opening with
  | nil => exact absurd shape filled
  | cons c chars =>
      rw [shape, List.cons_append] at found noClosing
      rw [List.cons_append, closeAt?, noClosing, prepend_cons, ← close_at_skipped]
      simp only [found, List.length_cons, Nat.add_sub_cancel]

theorem close_at_inner_closing (filled : closing ≠ []) :
    closeAt? opening closing (depth + 1) 0 (closing ++ tail) =
      prepend closing (closeAt? opening closing depth 0 tail) := by
  have found := after_mark_append closing tail
  cases shape : closing with
  | nil => exact absurd shape filled
  | cons c chars =>
      rw [shape, List.cons_append] at found
      rw [List.cons_append, closeAt?, found, prepend_cons, ← close_at_skipped]
      simp only [List.length_cons, Nat.add_sub_cancel]

theorem close_at_closing (filled : closing ≠ []) :
    closeAt? opening closing 0 0 (closing ++ tail) = some ([], tail) := by
  have found := after_mark_append closing tail
  cases shape : closing with
  | nil => exact absurd shape filled
  | cons c chars =>
      rw [shape, List.cons_append] at found
      rw [List.cons_append, closeAt?, found]

end

theorem layout_from_of_no_begin {column : Nat} {chars : List Char}
    (unmarked : cutAt? beginStem chars = none) : layoutFrom column chars = withoutEnd chars := by
  rw [layoutFrom]
  split
  · rfl
  · next cut => rw [unmarked] at cut; cases cut

theorem layout_of_no_marks {sql : String} (noBegin : Text.hasMark beginStem sql.toList = false)
    (noEnd : Text.hasMark endStem sql.toList = false) : layout sql = .ok sql := by
  have unmarked : cutAt? beginStem sql.toList = none := by
    simpa [Text.hasMark] using noBegin
  rw [layout, layout_from_of_no_begin unmarked, withoutEnd, noEnd]
  simp [Except.map]

/-- Without a begin mark a text is laid out as it is. -/
theorem eq_of_no_begin {sql laid : String} (noBegin : Text.hasMark beginStem sql.toList = false)
    (kept : layout sql = .ok laid) : sql = laid := by
  have unmarked : cutAt? beginStem sql.toList = none := by
    simpa [Text.hasMark] using noBegin
  rw [layout, layout_from_of_no_begin unmarked, withoutEnd] at kept
  split_ifs at kept
  · cases kept
  · obtain ⟨chars, same, rfl⟩ := map_eq_ok kept
    rw [← Except.ok.inj same, String.ofList_toList]

/-- A text, a pair of marks that match, and what follows. -/
theorem layout_from_of_pair {column : Nat}
    {chars before marked identity rest body after : List Char}
    (begun : cutAt? beginStem chars = some (before, marked))
    (clean : withoutEnd before = .ok before)
    (named : cutAt? identityEnd marked = some (identity, rest))
    (closed : closeAt? (beginMark identity) (endMark identity) 0 0 rest = some (body, after)) :
    layoutFrom column chars =
      (layoutFrom 0 (dropLineBreak body)) >>= fun inner =>
        let begins := columnAfter column before
        let indented := indentLines begins inner
        (layoutFrom (columnAfter begins indented) after).map fun rest =>
          before ++ indented ++ rest := by
  rw [layoutFrom]
  split
  · next cut => rw [begun] at cut; cases cut
  · next cut =>
      rw [begun] at cut
      obtain ⟨rfl, rfl⟩ := Prod.mk.inj (Option.some.inj cut)
      rw [clean]
      dsimp only
      split
      · next cut => rw [named] at cut; cases cut
      · next cut =>
          rw [named] at cut
          obtain ⟨rfl, rfl⟩ := Prod.mk.inj (Option.some.inj cut)
          split
          · next search => rw [closed] at search; cases search
          · next search =>
              rw [closed] at search
              obtain ⟨rfl, rfl⟩ := Prod.mk.inj (Option.some.inj search)
              cases layoutFrom 0 (dropLineBreak body) <;> rfl

theorem indent_lines_append (column : Nat) (first second : List Char) :
    indentLines column (first ++ second) =
      indentLines column first ++ indentLines column second := by
  simp [indentLines]

theorem indent_lines_cons (column : Nat) (c : Char) (chars : List Char) :
    indentLines column (c :: chars) =
      (if c = '\n' then '\n' :: List.replicate column ' ' else [c]) ++
        indentLines column chars := rfl

section

variable {chars first : List Char} {later : List (List Char)}

theorem lines_of_line_break (lines : chars.splitOn '\n' = first :: later) :
    ('\n' :: chars).splitOn '\n' = [] :: first :: later := by
  rw [List.splitOn_eq_splitOnP] at *
  rw [List.splitOnP_cons_eq_if_modifyHead, lines]
  rfl

theorem lines_of_cons {c : Char} (unbroken : c ≠ '\n')
    (lines : chars.splitOn '\n' = first :: later) :
    (c :: chars).splitOn '\n' = (c :: first) :: later := by
  rw [List.splitOn_eq_splitOnP] at *
  rw [List.splitOnP_cons_eq_if_modifyHead, lines, if_neg (by simpa using unbroken)]
  rfl

theorem lines_of_blanks (count : Nat) (lines : chars.splitOn '\n' = first :: later) :
    (List.replicate count ' ' ++ chars).splitOn '\n' =
      (List.replicate count ' ' ++ first) :: later := by
  induction count with
  | zero => exact lines
  | succ count ih => exact lines_of_cons (by decide) ih

end

/-- Every line but the first starts behind the blanks, and nothing else changes. -/
theorem lines_of_indented (column : Nat) (chars : List Char) :
    ∃ first later, chars.splitOn '\n' = first :: later ∧
      (indentLines column chars).splitOn '\n' =
        first :: later.map (List.replicate column ' ' ++ ·) := by
  induction chars with
  | nil => exact ⟨[], [], rfl, rfl⟩
  | cons c chars ih =>
      obtain ⟨first, later, lines, indented⟩ := ih
      by_cases broken : c = '\n'
      · subst broken
        exact ⟨[], first :: later, lines_of_line_break lines,
          lines_of_line_break (lines_of_blanks column indented)⟩
      · have kept : indentLines column (c :: chars) = c :: indentLines column chars := by
          rw [indent_lines_cons, if_neg broken]
          rfl
        rw [kept]
        exact ⟨c :: first, later, lines_of_cons broken lines, lines_of_cons broken indented⟩

theorem column_after_append (column : Nat) (first second : List Char) :
    columnAfter column (first ++ second) = columnAfter (columnAfter column first) second := by
  simp [columnAfter]

theorem column_after_blanks (column count : Nat) :
    columnAfter column (List.replicate count ' ') = column + count := by
  induction count generalizing column with
  | zero => rfl
  | succ count ih =>
      rw [List.replicate_succ, columnAfter, List.foldl_cons]
      change columnAfter (column + 1) (List.replicate count ' ') = _
      rw [ih]
      omega

theorem indent_lines_of_blanks (column count : Nat) :
    indentLines column (List.replicate count ' ') = List.replicate count ' ' := by
  induction count with
  | zero => rfl
  | succ count ih => rw [List.replicate_succ, indent_lines_cons, ih]; rfl

theorem indent_lines_zero (chars : List Char) : indentLines 0 chars = chars := by
  induction chars with
  | nil => rfl
  | cons c chars ih =>
      rw [indent_lines_cons, ih]
      split_ifs with broken
      · rw [broken]
        rfl
      · rfl

/-- Two indentations of the same lines add up. -/
theorem indent_lines_twice (outer inner : Nat) (chars : List Char) :
    indentLines outer (indentLines inner chars) = indentLines (outer + inner) chars := by
  induction chars with
  | nil => rfl
  | cons c chars ih =>
      rw [indent_lines_cons, indent_lines_append, ih, indent_lines_cons (outer + inner)]
      split_ifs with broken
      · rw [indent_lines_cons, indent_lines_of_blanks, if_pos rfl, List.replicate_add]
        rfl
      · simp [indentLines, broken]

/-- Indented lines end further right by the indentation, where their first line starts so. -/
theorem column_after_indented (shift column : Nat) (chars : List Char) :
    columnAfter (shift + column) (indentLines shift chars) =
      shift + columnAfter column chars := by
  induction chars generalizing column with
  | nil => rfl
  | cons c chars ih =>
      rw [indent_lines_cons, column_after_append]
      by_cases broken : c = '\n'
      · subst broken
        have start : columnAfter (shift + column) ('\n' :: List.replicate shift ' ') =
            shift + 0 := by
          change columnAfter 0 (List.replicate shift ' ') = _
          rw [column_after_blanks, Nat.add_comm]
        rw [if_pos rfl, start, ih]
        rfl
      · have step : columnAfter column (c :: chars) = columnAfter (column + 1) chars := by
          simp [columnAfter, broken]
        have further : columnAfter (shift + column) [c] = shift + (column + 1) := by
          simp [columnAfter, broken]
          omega
        rw [if_neg broken, further, ih, step]

end SqlComposer.SubQuery
