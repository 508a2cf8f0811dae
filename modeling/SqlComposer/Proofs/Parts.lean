import SqlComposer.Proofs.Nesting

/-!
The parts of a text with marks in it: the marks, and the texts between them with the columns that
each of them moves right. Every text that can be laid out has its parts, and they say what comes
out.
-/
namespace SqlComposer.SubQuery

open Text (cutAt? hasMark eq_of_cutAt?)

theorem length_of_indented (column : Nat) (chars : List Char) :
    (indentLines column chars).length = chars.length + column * chars.count '\n' := by
  induction chars with
  | nil => rfl
  | cons c chars ih =>
      rw [indent_lines_cons, List.length_append, ih]
      by_cases broken : c = '\n'
      · subst broken
        rw [if_pos rfl, List.count_cons_self, List.length_cons, List.length_cons,
          List.length_replicate, Nat.mul_add]
        omega
      · rw [if_neg broken, List.count_cons_of_ne broken, List.length_cons, List.length_cons,
          List.length_nil]
        omega

/-- A part of a text. A begin mark takes the line break behind it with it. -/
inductive Part where
  | text (shift : Nat) (chars : List Char)
  | mark (chars : List Char)
  deriving DecidableEq

namespace Part

/-- The part as it stands in the text. -/
def raw : Part → List Char
  | text _ chars => chars
  | mark chars => chars

/-- What comes out for the part. -/
def shown : Part → List Char
  | text shift chars => indentLines shift chars
  | mark _ => []

def moveRight (columns : Nat) : Part → Part
  | text shift chars => text (columns + shift) chars
  | mark chars => mark chars

theorem raw_move_right (columns : Nat) (part : Part) : (part.moveRight columns).raw = part.raw := by
  cases part <;> rfl

theorem shown_move_right (columns : Nat) (part : Part) :
    (part.moveRight columns).shown = indentLines columns part.shown := by
  cases part with
  | text shift chars => exact (indent_lines_twice columns shift chars).symm
  | mark chars => rfl

end Part

def rawText (parts : List Part) : List Char := parts.flatMap Part.raw

def shownText (parts : List Part) : List Char := parts.flatMap Part.shown

theorem raw_text_append (first second : List Part) :
    rawText (first ++ second) = rawText first ++ rawText second := List.flatMap_append

theorem shown_text_append (first second : List Part) :
    shownText (first ++ second) = shownText first ++ shownText second := List.flatMap_append

theorem raw_text_move_right (columns : Nat) (parts : List Part) :
    rawText (parts.map (Part.moveRight columns)) = rawText parts := by
  induction parts with
  | nil => rfl
  | cons part rest ih =>
      change (part.moveRight columns).raw ++ rawText (rest.map _) = part.raw ++ rawText rest
      rw [ih, Part.raw_move_right]

theorem shown_text_move_right (columns : Nat) (parts : List Part) :
    shownText (parts.map (Part.moveRight columns)) = indentLines columns (shownText parts) := by
  induction parts with
  | nil => rfl
  | cons part rest ih =>
      change (part.moveRight columns).shown ++ shownText (rest.map _) =
        indentLines columns (part.shown ++ shownText rest)
      rw [ih, Part.shown_move_right, indent_lines_append]

/-- The line break that is dropped with a begin mark. -/
def lineBreak : List Char → List Char
  | '\n' :: _ => ['\n']
  | _ => []

theorem line_break_append (chars : List Char) : lineBreak chars ++ dropLineBreak chars = chars := by
  cases chars with
  | nil => rfl
  | cons c rest =>
      by_cases broken : c = '\n'
      · subst broken
        rfl
      · simp [lineBreak, dropLineBreak, broken]

/-- A text that starts at a column has these parts. The body of a pair moves right to the column at
which its begin mark stands in what comes out. -/
inductive Parted : Nat → List Char → List Part → Prop where
  | plain {column : Nat} {chars : List Char} (unmarked : cutAt? beginStem chars = none)
      (clean : withoutEnd chars = .ok chars) : Parted column chars [.text 0 chars]
  | pair {column : Nat} {chars before marked identity rest body after : List Char}
      {inner later : List Part} (begun : cutAt? beginStem chars = some (before, marked))
      (clean : withoutEnd before = .ok before)
      (named : cutAt? identityEnd marked = some (identity, rest))
      (closed : closeAt? (beginMark identity) (endMark identity) 0 0 rest = some (body, after))
      (inside : Parted 0 (dropLineBreak body) inner)
      (behind : Parted
        (columnAfter (columnAfter column before)
          (indentLines (columnAfter column before) (shownText inner))) after later) :
      Parted column chars
        (.text 0 before :: .mark (beginMark identity ++ lineBreak body) ::
          (inner.map (Part.moveRight (columnAfter column before)) ++
            .mark (endMark identity) :: later))

theorem shown_text_of_plain (chars : List Char) : shownText [.text 0 chars] = chars := by
  simp [shownText, Part.shown, indent_lines_zero]

theorem shown_text_of_pair (before opening closing : List Char) (shift : Nat)
    (inner later : List Part) :
    shownText (.text 0 before :: .mark opening :: (inner.map (Part.moveRight shift) ++
        .mark closing :: later)) =
      before ++ (indentLines shift (shownText inner) ++ shownText later) := by
  change indentLines 0 before ++ shownText (_ ++ _) = _
  rw [shown_text_append, shown_text_move_right, indent_lines_zero]
  rfl

theorem raw_text_of_parted {column : Nat} {chars : List Char} {parts : List Part}
    (parted : Parted column chars parts) : rawText parts = chars := by
  induction parted with
  | plain _ _ => exact List.append_nil _
  | @pair column chars before marked identity rest body after inner later begun clean named closed
      inside behind ihInside ihBehind =>
      have whole : chars =
          before ++ (beginMark identity ++ (body ++ (endMark identity ++ after))) := by
        rw [eq_of_cutAt? begun, eq_of_cutAt? named, eq_of_closeAt? closed]
        simp [beginMark]
      change before ++ ((beginMark identity ++ lineBreak body) ++ rawText (_ ++ _)) = chars
      rw [raw_text_append, raw_text_move_right, ihInside]
      change before ++ (_ ++ (_ ++ (endMark identity ++ rawText later))) = chars
      rw [ihBehind, whole, List.append_assoc, ← List.append_assoc (lineBreak body),
        line_break_append]

theorem layout_from_of_parted {column : Nat} {chars : List Char} {parts : List Part}
    (parted : Parted column chars parts) : layoutFrom column chars = .ok (shownText parts) := by
  induction parted with
  | @plain column chars unmarked clean =>
      rw [layout_from_of_no_begin unmarked, clean, shown_text_of_plain]
  | @pair column chars before marked identity rest body after inner later begun clean named closed
      inside behind ihInside ihBehind =>
      rw [layout_from_of_pair begun clean named closed, ihInside]
      change Except.map _ (layoutFrom _ after) = _
      rw [ihBehind, shown_text_of_pair, ← List.append_assoc]
      rfl

/-- Whatever is laid out has its parts. -/
theorem parted_of_layout {column : Nat} {chars laid : List Char}
    (accepted : layoutFrom column chars = .ok laid) : ∃ parts, Parted column chars parts := by
  revert laid
  fun_induction layoutFrom column chars with
  | case1 column chars unmarked =>
      intro laid accepted
      have same := (without_end_eq_ok accepted).1
      rw [same] at accepted
      exact ⟨_, .plain unmarked accepted⟩
  | case6 column chars before marked begun kept clean identity rest named body after closed
      laidInner inner begins indented ihInner =>
      rename_i ihAfter
      intro laid accepted
      obtain ⟨laidAfter, finished, _⟩ := map_eq_ok accepted
      obtain ⟨innerParts, inside⟩ := ihInner inner
      obtain ⟨laterParts, behind⟩ := ihAfter finished
      obtain ⟨rfl, _⟩ := without_end_eq_ok clean
      have shown : laidInner = shownText innerParts :=
        Except.ok.inj (inner.symm.trans (layout_from_of_parted inside))
      change Parted (columnAfter begins (indentLines begins laidInner)) after laterParts at behind
      rw [shown] at behind
      exact ⟨_, .pair begun clean named closed inside behind⟩
  | _ =>
      intro laid accepted
      cases accepted

def Forest.parts : Forest → Nat → List Part
  | text piece, _ => [.text 0 piece.text.toList]
  | enclosed before identity body rest, column =>
      let start := columnAfter column before.text.toList
      let inner := body.parts 0
      .text 0 before.text.toList :: .mark (beginMark identity.text.toList ++ ['\n']) ::
        (inner.map (Part.moveRight start) ++ .mark (endMark identity.text.toList) ::
          rest.parts (columnAfter start (indentLines start (shownText inner))))

theorem parted_of_forest (forest : Forest) (column : Nat) :
    Parted column forest.sql.toList (forest.parts column) := by
  induction forest generalizing column with
  | text piece =>
      have unmarked : cutAt? beginStem piece.text.toList = none := by
        simpa [hasMark] using piece.noBegin
      exact .plain unmarked (without_end_of_plain piece)
  | enclosed before identity body rest ihBody ihRest =>
      obtain ⟨_, _, begun, named, closed⟩ := pair_of_forest before identity body rest
      exact .pair begun (without_end_of_plain before) named closed (ihBody 0) (ihRest _)

end SqlComposer.SubQuery
