import SqlComposer.Proofs.Layout

/-!
Sub-queries enclosed in texts, nested to any depth, and the layout that they are meant to have. The
reference knows no marks: it only keeps the column at which the output stands and the indentation of
the lines, which inside a sub-query is the column at which the sub-query starts.
-/
namespace SqlComposer.SubQuery

open Text (afterMark? cutAt? hasMark)

/-- A text that has neither kind of mark in it. -/
structure Plain where
  text : String
  noBegin : hasMark beginStem text.toList = false
  noEnd : hasMark endStem text.toList = false

structure Identity where
  text : String
  free : '#' ∉ text.toList

/-- Texts and sub-queries in turn. A text goes on to the next mark, so that two texts never stand
side by side; it may be empty. -/
inductive Forest where
  | text (piece : Plain)
  | enclosed (before : Plain) (identity : Identity) (body rest : Forest)

namespace Forest

def sql : Forest → String
  | text piece => piece.text
  | enclosed before identity body rest =>
      before.text ++ enclose identity.text body.sql ++ rest.sql

/-- What comes out at a column for a forest whose later lines are to be moved right by `shift`. -/
def lay : Forest → Nat → Nat → List Char
  | text piece, shift, _ => indentLines shift piece.text.toList
  | enclosed before _ body rest, shift, column =>
      let first := indentLines shift before.text.toList
      let mark := columnAfter column first
      let inner := body.lay mark mark
      first ++ inner ++ rest.lay shift (columnAfter mark inner)

theorem chars_enclosed (before : Plain) (identity : Identity) (body rest : Forest) :
    (enclosed before identity body rest).sql.toList =
      before.text.toList ++ (beginMark identity.text.toList ++ ('\n' :: body.sql.toList ++
        (endMark identity.text.toList ++ rest.sql.toList))) := by
  simp [sql, enclose, encloseChars]

/-- Indentations add up: to indent what has been laid out is to lay it out further right. -/
theorem indent_lay (forest : Forest) (outer shift column : Nat) :
    indentLines outer (forest.lay shift column) = forest.lay (outer + shift) (outer + column) := by
  induction forest generalizing shift column with
  | text piece => exact indent_lines_twice outer shift piece.text.toList
  | enclosed before identity body rest ihBody ihRest =>
      have mark : columnAfter (outer + column)
            (indentLines (outer + shift) before.text.toList) =
          outer + columnAfter column (indentLines shift before.text.toList) := by
        rw [← indent_lines_twice, column_after_indented]
      simp only [lay]
      rw [mark, indent_lines_append, indent_lines_append, indent_lines_twice, ihBody, ihRest,
        ← ihBody, column_after_indented]

/-- A sub-query that starts at a column has its own lines there, each but the first behind as many
blanks. -/
theorem lines_of_lay (forest : Forest) (column : Nat) :
    ∃ first later, (forest.lay 0 0).splitOn '\n' = first :: later ∧
      (forest.lay column column).splitOn '\n' =
        first :: later.map (List.replicate column ' ' ++ ·) := by
  have moved : indentLines column (forest.lay 0 0) = forest.lay column column :=
    indent_lay forest column 0 0
  rw [← moved]
  exact lines_of_indented column (forest.lay 0 0)

end Forest

theorem begin_mark_eq (identity : List Char) :
    beginMark identity = '-' :: '-' :: (beginMark identity).drop 2 := by
  rw [beginMark, begin_stem_eq]
  rfl

theorem end_mark_eq (identity : List Char) :
    endMark identity = '-' :: '-' :: (endMark identity).drop 2 := by
  rw [endMark, end_stem_eq]
  rfl

section

variable {identity other : List Char} {depth : Nat}

theorem close_at_begin (tail : List Char) :
    closeAt? (beginMark identity) (endMark identity) depth 0 (beginMark identity ++ tail) =
      prepend (beginMark identity)
        (closeAt? (beginMark identity) (endMark identity) (depth + 1) 0 tail) :=
  close_at_opening (by rw [begin_mark_eq]; exact List.cons_ne_nil _ _)
    (end_not_at_begin identity identity tail)

theorem close_at_inner_end (tail : List Char) :
    closeAt? (beginMark identity) (endMark identity) (depth + 1) 0 (endMark identity ++ tail) =
      prepend (endMark identity)
        (closeAt? (beginMark identity) (endMark identity) depth 0 tail) :=
  close_at_inner_closing (by rw [end_mark_eq]; exact List.cons_ne_nil _ _)

theorem close_at_end (tail : List Char) :
    closeAt? (beginMark identity) (endMark identity) 0 0 (endMark identity ++ tail) =
      some ([], tail) :=
  close_at_closing (by rw [end_mark_eq]; exact List.cons_ne_nil _ _)

theorem close_at_plain (piece : Plain) (tail : List Char) :
    closeAt? (beginMark identity) (endMark identity) depth 0
        (piece.text.toList ++ '-' :: '-' :: tail) =
      prepend piece.text.toList
        (closeAt? (beginMark identity) (endMark identity) depth 0 ('-' :: '-' :: tail)) :=
  close_at_silent
    (silent_of_extension (silent_of_extension (silent_of_clean end_is_stem piece.noEnd tail)))
    (silent_of_extension (silent_of_extension (silent_of_clean begin_is_stem piece.noBegin tail)))

theorem close_at_line_break (tail : List Char) :
    closeAt? (beginMark identity) (endMark identity) depth 0 ('\n' :: tail) =
      prepend ['\n'] (closeAt? (beginMark identity) (endMark identity) depth 0 tail) := by
  have ends : Silent endStem tail ['\n'] := silent_of_no_dash end_is_stem (by decide) tail
  have begins : Silent beginStem tail ['\n'] := silent_of_no_dash begin_is_stem (by decide) tail
  exact close_at_silent (silent_of_extension (silent_of_extension ends))
    (silent_of_extension (silent_of_extension begins))

/-- A mark at which neither mark of the searched pair starts is passed over as a whole. -/
theorem close_at_other_mark {stem : List Char} (isStem : IsStem stem) (free : '#' ∉ other)
    {tail : List Char}
    (noClosing : afterMark? (endMark identity) (stem ++ other ++ identityEnd ++ tail) = none)
    (noOpening : afterMark? (beginMark identity) (stem ++ other ++ identityEnd ++ tail) = none) :
    closeAt? (beginMark identity) (endMark identity) depth 0
        (stem ++ other ++ identityEnd ++ tail) =
      prepend (stem ++ other ++ identityEnd)
        (closeAt? (beginMark identity) (endMark identity) depth 0 tail) := by
  rw [mark_eq_cons isStem other] at noClosing noOpening ⊢
  have ends := silent_inside_mark end_is_stem isStem free tail
  have begins := silent_inside_mark begin_is_stem isStem free tail
  exact close_at_silent ⟨noClosing, silent_of_extension (silent_of_extension ends)⟩
    ⟨noOpening, silent_of_extension (silent_of_extension begins)⟩

theorem close_at_other_begin (free : '#' ∉ identity) (otherFree : '#' ∉ other)
    (different : identity ≠ other) (tail : List Char) :
    closeAt? (beginMark identity) (endMark identity) depth 0 (beginMark other ++ tail) =
      prepend (beginMark other)
        (closeAt? (beginMark identity) (endMark identity) depth 0 tail) :=
  close_at_other_mark begin_is_stem otherFree (end_not_at_begin identity other tail)
    (after_mark_of_other_identity free otherFree different tail)

theorem close_at_other_end (free : '#' ∉ identity) (otherFree : '#' ∉ other)
    (different : identity ≠ other) (tail : List Char) :
    closeAt? (beginMark identity) (endMark identity) depth 0 (endMark other ++ tail) =
      prepend (endMark other)
        (closeAt? (beginMark identity) (endMark identity) depth 0 tail) :=
  close_at_other_mark end_is_stem otherFree
    (after_mark_of_other_identity free otherFree different tail)
    (begin_not_at_end identity other tail)

end

/-- The search for an end mark passes over a whole forest: what the forest opens it closes. -/
theorem close_at_forest (forest : Forest) {identity : List Char} (free : '#' ∉ identity)
    (depth : Nat) (tail : List Char) :
    closeAt? (beginMark identity) (endMark identity) depth 0
        (forest.sql.toList ++ '-' :: '-' :: tail) =
      prepend forest.sql.toList
        (closeAt? (beginMark identity) (endMark identity) depth 0 ('-' :: '-' :: tail)) := by
  induction forest generalizing depth tail with
  | text piece => exact close_at_plain piece tail
  | enclosed before own body rest ihBody ihRest =>
      have inner : ∀ depth tail, closeAt? (beginMark identity) (endMark identity) depth 0
          ('\n' :: body.sql.toList ++ (endMark own.text.toList ++ tail)) =
          prepend ('\n' :: body.sql.toList)
            (closeAt? (beginMark identity) (endMark identity) depth 0
              (endMark own.text.toList ++ tail)) := by
        intro depth tail
        rw [end_mark_eq own.text.toList, List.cons_append, close_at_line_break, List.cons_append,
          List.cons_append, ihBody, ← prepend_append]
        rfl
      have start : ∀ tail, closeAt? (beginMark identity) (endMark identity) depth 0
          (before.text.toList ++ (beginMark own.text.toList ++ tail)) =
          prepend before.text.toList
            (closeAt? (beginMark identity) (endMark identity) depth 0
              (beginMark own.text.toList ++ tail)) := by
        intro tail
        rw [begin_mark_eq own.text.toList]
        exact close_at_plain before _
      rw [Forest.chars_enclosed, prepend_append, prepend_append, prepend_append, prepend_append,
        List.append_assoc, List.append_assoc, List.append_assoc, List.append_assoc, start]
      congr 1
      by_cases same : identity = own.text.toList
      · -- A pair of the same identity is counted: one deeper for its body, then back again.
        rw [← same] at inner ⊢
        rw [close_at_begin, inner, close_at_inner_end, ihRest]
      · rw [close_at_other_begin free own.free same, inner,
          close_at_other_end free own.free same, ihRest]

theorem identity_cut (identity : Identity) (rest : List Char) :
    cutAt? identityEnd (identity.text.toList ++ (identityEnd ++ rest)) =
      some (identity.text.toList, rest) := by
  refine cut_at_of_silent ?_
  have free := identity.free
  generalize identity.text.toList = chars at free
  induction chars with
  | nil => trivial
  | cons c chars ih =>
      rw [List.mem_cons, not_or] at free
      exact ⟨by simp [identity_end_eq, afterMark?, free.1], ih free.2⟩

theorem without_end_of_plain (piece : Plain) :
    withoutEnd piece.text.toList = .ok piece.text.toList := by
  rw [withoutEnd, piece.noEnd]
  rfl

theorem begin_cut (piece : Plain) (marked : List Char) :
    cutAt? beginStem (piece.text.toList ++ (beginStem ++ marked)) =
      some (piece.text.toList, marked) :=
  cut_at_of_silent (silent_before_stem begin_is_stem begin_is_stem piece.noBegin marked)

theorem close_at_body (identity : Identity) (body : Forest) (after : List Char) :
    closeAt? (beginMark identity.text.toList) (endMark identity.text.toList) 0 0
        ('\n' :: body.sql.toList ++ (endMark identity.text.toList ++ after)) =
      some ('\n' :: body.sql.toList, after) := by
  have passed := close_at_forest body identity.free 0
    ((endMark identity.text.toList).drop 2 ++ after)
  rw [← List.cons_append, ← List.cons_append, ← end_mark_eq, close_at_end] at passed
  rw [List.cons_append, close_at_line_break, passed]
  simp [prepend]

/-- The first pair of a forest is found with its identity and all of its body. -/
theorem pair_of_forest (before : Plain) (identity : Identity) (body rest : Forest) :
    ∃ marked following,
      cutAt? beginStem (Forest.enclosed before identity body rest).sql.toList =
        some (before.text.toList, marked) ∧
      cutAt? identityEnd marked = some (identity.text.toList, following) ∧
      closeAt? (beginMark identity.text.toList) (endMark identity.text.toList) 0 0 following =
        some ('\n' :: body.sql.toList, rest.sql.toList) := by
  have chars := Forest.chars_enclosed before identity body rest
  simp only [beginMark, List.append_assoc] at chars
  rw [chars]
  exact ⟨_, _, begin_cut before _, identity_cut identity _,
    close_at_body identity body rest.sql.toList⟩

/-- A forest is laid out as the reference says, from any column. -/
theorem layout_from_forest (forest : Forest) (column : Nat) :
    layoutFrom column forest.sql.toList = .ok (forest.lay 0 column) := by
  induction forest generalizing column with
  | text piece =>
      have unmarked : cutAt? beginStem piece.text.toList = none := by
        simpa [hasMark] using piece.noBegin
      change layoutFrom column piece.text.toList = .ok (indentLines 0 piece.text.toList)
      rw [layout_from_of_no_begin unmarked, without_end_of_plain, indent_lines_zero]
  | enclosed before identity body rest ihBody ihRest =>
      obtain ⟨_, _, begun, named, closed⟩ := pair_of_forest before identity body rest
      rw [layout_from_of_pair begun (without_end_of_plain before) named closed]
      have inner : layoutFrom 0 (dropLineBreak ('\n' :: body.sql.toList)) = .ok (body.lay 0 0) :=
        ihBody 0
      have moved : indentLines (columnAfter column before.text.toList) (body.lay 0 0) =
          body.lay (columnAfter column before.text.toList)
            (columnAfter column before.text.toList) := by
        rw [Forest.indent_lay]
        rfl
      rw [inner]
      simp only [bind, Except.bind, Forest.lay, indent_lines_zero, moved, ihRest]
      rfl

end SqlComposer.SubQuery
