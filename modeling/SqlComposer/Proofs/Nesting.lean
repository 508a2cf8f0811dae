import SqlComposer.Proofs.Forest
import Mathlib.Tactic.SplitIfs

/-!
The marks of an arbitrary text, read at every character, and whether they nest. A text is only laid
out when its marks do, so that together with the layout of forests both directions are settled.
-/
namespace SqlComposer.SubQuery

open Text (afterMark? afterMark?_eq_some_iff cutAt? hasMark)

inductive Mark where
  | opening (identity : List Char)
  | closing (identity : List Char)
  deriving DecidableEq

def Mark.identity : Mark → List Char
  | opening identity | closing identity => identity

/-- The identity of the mark with a stem that a text begins with. -/
def identityAfter? (stem chars : List Char) : Option (List Char) :=
  (afterMark? stem chars).bind fun marked => (cutAt? identityEnd marked).map Prod.fst

def readMark? (chars : List Char) : Option Mark :=
  ((identityAfter? beginStem chars).map Mark.opening).or
    ((identityAfter? endStem chars).map Mark.closing)

/-- The marks that start at any character of a text, in order. -/
def marksOf : List Char → List Mark
  | [] => []
  | c :: chars => (readMark? (c :: chars)).toList ++ marksOf chars

/-- Whether marks nest while those of some identities are open, the innermost first. -/
def nested : List (List Char) → List Mark → Bool
  | opened, [] => opened.isEmpty
  | opened, .opening identity :: marks => nested (identity :: opened) marks
  | [], .closing _ :: _ => false
  | innermost :: opened, .closing identity :: marks =>
      decide (innermost = identity) && nested opened marks

theorem identity_after_none {stem chars : List Char} (absent : afterMark? stem chars = none) :
    identityAfter? stem chars = none := by
  rw [identityAfter?, absent]
  rfl

theorem read_mark_none {chars : List Char} (noBegin : afterMark? beginStem chars = none)
    (noEnd : afterMark? endStem chars = none) : readMark? chars = none := by
  rw [readMark?, identity_after_none noBegin, identity_after_none noEnd]
  rfl

theorem marks_of_silent {chars tail : List Char} (noBegin : Silent beginStem tail chars)
    (noEnd : Silent endStem tail chars) : marksOf (chars ++ tail) = marksOf tail := by
  induction chars with
  | nil => rfl
  | cons c chars ih =>
      have first := noBegin.1
      have second := noEnd.1
      rw [List.cons_append] at first second ⊢
      rw [marksOf, read_mark_none first second, ih noBegin.2 noEnd.2]
      rfl

theorem marks_of_clean {chars : List Char} (noBegin : hasMark beginStem chars = false)
    (noEnd : hasMark endStem chars = false) : marksOf chars = [] := by
  induction chars with
  | nil => rfl
  | cons c chars ih =>
      obtain ⟨first, beginLater⟩ := (has_mark_cons beginStem c chars).mp noBegin
      obtain ⟨second, endLater⟩ := (has_mark_cons endStem c chars).mp noEnd
      rw [marksOf, read_mark_none first second, ih beginLater endLater]
      rfl

theorem read_begin {marked identity rest : List Char}
    (named : cutAt? identityEnd marked = some (identity, rest)) :
    readMark? (beginStem ++ marked) = some (.opening identity) := by
  rw [readMark?, identityAfter?, after_mark_append, Option.bind_some, named]
  rfl

theorem read_end {marked identity rest : List Char}
    (named : cutAt? identityEnd marked = some (identity, rest)) :
    readMark? (endStem ++ marked) = some (.closing identity) := by
  have other : afterMark? beginStem (endStem ++ marked) = none := by
    simp [begin_stem_eq, end_stem_eq, afterMark?]
  rw [readMark?, identity_after_none other, identityAfter?, after_mark_append, Option.bind_some,
    named]
  rfl

/-- After the mark that a text begins with come the marks of the rest. -/
theorem marks_of_mark {stem identity rest : List Char} {mark : Mark} (isStem : IsStem stem)
    (free : '#' ∉ identity)
    (read : readMark? (stem ++ identity ++ identityEnd ++ rest) = some mark) :
    marksOf (stem ++ identity ++ identityEnd ++ rest) = mark :: marksOf rest := by
  rw [mark_eq_cons isStem, List.cons_append] at read ⊢
  rw [marksOf, read, marks_of_silent (silent_inside_mark begin_is_stem isStem free rest)
    (silent_inside_mark end_is_stem isStem free rest)]
  rfl

theorem mem_marks_of_read {chars : List Char} {mark : Mark} (read : readMark? chars = some mark) :
    mark ∈ marksOf chars := by
  cases chars with
  | nil => cases read
  | cons c chars =>
      rw [marksOf, read]
      exact List.mem_cons_self

theorem no_mark_in_longer {mark chars : List Char} (absent : afterMark? mark chars = none)
    (room : mark.length ≤ chars.length) (tail : List Char) :
    afterMark? mark (chars ++ tail) = none := by
  induction mark generalizing chars with
  | nil => simp [afterMark?] at absent
  | cons m mark ih =>
      cases chars with
      | nil => simp at room
      | cons c chars =>
          rw [List.cons_append, afterMark?]
          rw [afterMark?] at absent
          split_ifs at absent ⊢
          · exact ih absent (by simpa using room)
          · rfl

/-- What stands after a text does not move the first occurrence of a mark in it. -/
theorem cut_at_append {mark chars before after : List Char} (tail : List Char)
    (cut : cutAt? mark chars = some (before, after)) :
    cutAt? mark (chars ++ tail) = some (before, after ++ tail) := by
  have longer : ∀ start, Silent mark (mark ++ after) start →
      Silent mark (mark ++ (after ++ tail)) start := by
    intro start silent
    induction start with
    | nil => trivial
    | cons c start ih =>
        refine ⟨?_, ih silent.2⟩
        have absent := no_mark_in_longer silent.1 (by simp; omega) tail
        simpa only [List.append_assoc] using absent
  rw [Text.eq_of_cutAt? cut, List.append_assoc, List.append_assoc]
  exact cut_at_of_silent (longer before (silent_of_cut_at cut))

theorem cut_at_ne_none (mark before after : List Char) :
    cutAt? mark (before ++ (mark ++ after)) ≠ none := by
  induction before with
  | nil =>
      rw [List.nil_append, cut_at_of_after_mark (after_mark_append mark after)]
      exact Option.some_ne_none _
  | cons c chars ih =>
      rw [List.cons_append, cutAt?]
      split
      · exact Option.some_ne_none _
      · simpa using ih

/-- An identity that goes on into a mark after the text has the `#` of that mark in it. -/
theorem identity_across {other chars tail identity rest : List Char} (isOther : IsStem other)
    (open_ended : cutAt? identityEnd chars = none)
    (named : cutAt? identityEnd (chars ++ (other ++ tail)) = some (identity, rest)) :
    '#' ∈ identity := by
  obtain ⟨letters, rfl, _⟩ := isOther
  have whole := Text.eq_of_cutAt? named
  rw [List.append_assoc] at whole
  rcases List.append_eq_append_iff.mp whole with ⟨inside, rfl, across⟩ | ⟨inside, rfl, across⟩
  · rw [identity_end_eq] at across
    rcases inside with _ | ⟨a, _ | ⟨b, _ | ⟨c, inside⟩⟩⟩
    · simp at across
    · simp at across
    · simp at across
    · simp only [List.cons_append, List.cons.injEq] at across
      simp [← across.2.2.1]
  · rcases List.append_eq_append_iff.mp across with ⟨inner, rfl, _⟩ | ⟨inner, shape, dashes⟩
    · exact absurd open_ended (cut_at_ne_none identityEnd identity inner)
    · cases inner with
      | nil =>
          rw [List.append_nil] at shape
          have found := cut_at_ne_none identityEnd identity []
          rw [List.append_nil] at found
          rw [← shape] at open_ended
          exact absurd open_ended found
      | cons dash inner =>
          have dashed : '-' ∈ identityEnd := by
            rw [shape, ← (List.cons.inj dashes).1]
            simp
          exact absurd dashed (by decide)

/-- With identities free of `#`, what a text reads as its mark does not depend on the mark after
it. -/
theorem identity_after_append {stem other : List Char} (isStem : IsStem stem)
    (isOther : IsStem other) {c : Char} {chars tail : List Char}
    (free : ∀ identity, identityAfter? stem (c :: chars ++ (other ++ tail)) = some identity →
      '#' ∉ identity) :
    identityAfter? stem (c :: chars ++ (other ++ tail)) = identityAfter? stem (c :: chars) := by
  unfold identityAfter? at free ⊢
  cases found : afterMark? stem (c :: chars) with
  | none =>
      have dashes : ∃ inside, other ++ tail = '-' :: '-' :: inside := by
        obtain ⟨letters, rfl, _⟩ := isOther
        exact ⟨_, rfl⟩
      obtain ⟨inside, shape⟩ := dashes
      rw [shape, no_stem_across isStem found]
  | some marked =>
      rw [afterMark?_eq_some_iff.mp found, List.append_assoc, after_mark_append] at free ⊢
      simp only [Option.bind_some] at free ⊢
      cases named : cutAt? identityEnd marked with
      | some cut => rw [cut_at_append (other ++ tail) named]; rfl
      | none =>
          cases further : cutAt? identityEnd (marked ++ (other ++ tail)) with
          | none => rfl
          | some cut =>
              obtain ⟨identity, rest⟩ := cut
              rw [further] at free
              exact absurd (identity_across isOther named further) (free identity rfl)

theorem read_mark_append {other : List Char} (isOther : IsStem other) {c : Char}
    {chars tail : List Char}
    (free : ∀ mark ∈ marksOf (c :: chars ++ (other ++ tail)), '#' ∉ mark.identity) :
    readMark? (c :: chars ++ (other ++ tail)) = readMark? (c :: chars) := by
  have begins := identity_after_append begin_is_stem isOther fun identity read =>
    free (.opening identity) (mem_marks_of_read (by rw [readMark?, read]; rfl))
  rw [readMark?, readMark?, begins]
  cases first : identityAfter? beginStem (c :: chars) with
  | some identity => rfl
  | none =>
      have ends := identity_after_append end_is_stem isOther fun identity read =>
        free (.closing identity) (mem_marks_of_read (by rw [readMark?, begins, first, read]; rfl))
      rw [ends]

theorem marks_of_append {other : List Char} (isOther : IsStem other) {chars tail : List Char}
    (free : ∀ mark ∈ marksOf (chars ++ (other ++ tail)), '#' ∉ mark.identity) :
    marksOf (chars ++ (other ++ tail)) = marksOf chars ++ marksOf (other ++ tail) := by
  induction chars with
  | nil => rfl
  | cons c chars ih =>
      have here := read_mark_append isOther free
      rw [List.cons_append] at free here ⊢
      rw [marksOf] at free
      have later := ih fun mark member => free mark (List.mem_append_right _ member)
      rw [marksOf, here, later, marksOf, List.append_assoc]

theorem marks_of_drop_line_break (chars : List Char) :
    marksOf (dropLineBreak chars) = marksOf chars := by
  unfold dropLineBreak
  split
  · next rest =>
      have begins : Silent beginStem rest ['\n'] := silent_of_no_dash begin_is_stem (by decide) rest
      have ends : Silent endStem rest ['\n'] := silent_of_no_dash end_is_stem (by decide) rest
      exact (marks_of_silent begins ends).symm
  · rfl

theorem without_end_eq_ok {chars kept : List Char} (clean : withoutEnd chars = .ok kept) :
    kept = chars ∧ hasMark endStem chars = false := by
  unfold withoutEnd at clean
  split_ifs at clean with marked
  exact ⟨(Except.ok.inj clean).symm, by simpa using marked⟩

/-- The marks of a text that is laid out: a pair, with the marks of the body between. -/
theorem marks_of_pair {chars before marked identity rest body after : List Char}
    (begun : cutAt? beginStem chars = some (before, marked))
    (clean : hasMark endStem before = false)
    (named : cutAt? identityEnd marked = some (identity, rest))
    (closed : closeAt? (beginMark identity) (endMark identity) 0 0 rest = some (body, after))
    (free : ∀ mark ∈ marksOf chars, '#' ∉ mark.identity) :
    marksOf chars =
      .opening identity :: (marksOf body ++ .closing identity :: marksOf after) := by
  have quiet : marksOf chars = marksOf (beginStem ++ marked) := by
    rw [Text.eq_of_cutAt? begun, List.append_assoc]
    exact marks_of_silent (silent_of_cut_at begun)
      (silent_before_stem end_is_stem begin_is_stem clean marked)
  rw [quiet] at free ⊢
  have plain : '#' ∉ identity := free _ (mem_marks_of_read (read_begin named))
  have first : marksOf (beginStem ++ marked) = .opening identity :: marksOf rest := by
    have read := read_begin named
    rw [Text.eq_of_cutAt? named, ← List.append_assoc, ← List.append_assoc] at read ⊢
    exact marks_of_mark begin_is_stem plain read
  rw [first] at free ⊢
  have inside : rest = body ++ (endStem ++ (identity ++ (identityEnd ++ after))) := by
    rw [eq_of_closeAt? closed, endMark]
    simp only [List.append_assoc]
  rw [inside] at free ⊢
  rw [marks_of_append end_is_stem fun mark member => free mark (List.mem_cons_of_mem _ member)]
  have read := read_end (identity_cut ⟨String.ofList identity, by simpa using plain⟩ after)
  rw [String.toList_ofList, ← List.append_assoc, ← List.append_assoc] at read
  have last := marks_of_mark end_is_stem plain read
  simp only [List.append_assoc] at last
  rw [last]

/-- The marks of a text that is laid out close all that they open, whatever is open around them. -/
theorem nested_of_layout {column : Nat} {chars laid : List Char}
    (accepted : layoutFrom column chars = .ok laid)
    (free : ∀ mark ∈ marksOf chars, '#' ∉ mark.identity) (opened : List (List Char))
    (more : List Mark) : nested opened (marksOf chars ++ more) = nested opened more := by
  revert laid free opened more
  fun_induction layoutFrom column chars with
  | case1 column chars unmarked =>
      intro laid accepted _ opened more
      have noBegin : hasMark beginStem chars = false := by simp [hasMark, unmarked]
      rw [marks_of_clean noBegin (without_end_eq_ok accepted).2]
      rfl
  | case6 column chars before marked begun kept clean identity rest named body after closed
      laidInner inner begins indented ihInner =>
      rename_i ihAfter
      intro laid accepted free opened more
      obtain ⟨laidAfter, finished, _⟩ := map_eq_ok accepted
      have marks := marks_of_pair begun (without_end_eq_ok clean).2 named closed free
      rw [marks] at free ⊢
      have bodyFree : ∀ mark ∈ marksOf (dropLineBreak body), '#' ∉ mark.identity := by
        rw [marks_of_drop_line_break]
        exact fun mark member => free mark (by simp [member])
      have afterFree : ∀ mark ∈ marksOf after, '#' ∉ mark.identity :=
        fun mark member => free mark (by simp [member])
      have bodyNested := ihInner inner bodyFree (identity :: opened)
        (.closing identity :: (marksOf after ++ more))
      rw [marks_of_drop_line_break] at bodyNested
      rw [List.cons_append, List.append_assoc, List.cons_append, nested, bodyNested, nested,
        decide_eq_true rfl, Bool.true_and]
      exact ihAfter finished afterFree opened more
  | _ =>
      intro laid accepted
      cases accepted

theorem illegal_state_of_refusal {refusal : ClauseError} (refused : LayoutRefusal refusal) :
    ∃ cause, refusal = .illegalState cause := by
  cases refused with
  | endWithoutBegin => exact ⟨_, rfl⟩
  | unterminated text => exact ⟨_, rfl⟩
  | beginWithoutEnd identity => exact ⟨_, rfl⟩

/-- Every forest is laid out as the reference lays it out, which moves the lines of a sub-query to
the column of its mark, and a text whose marks do not nest is refused. -/
theorem layout_of_nested_marks :
    (∀ forest : Forest, layout forest.sql = .ok (String.ofList (forest.lay 0 0))) ∧
      (∀ (body : Forest) (column : Nat), ∃ first later,
        (body.lay 0 0).splitOn '\n' = first :: later ∧
          (body.lay column column).splitOn '\n' =
            first :: later.map (List.replicate column ' ' ++ ·)) ∧
      ∀ text : String, (∀ mark ∈ marksOf text.toList, '#' ∉ mark.identity) →
        nested [] (marksOf text.toList) = false →
          ∃ cause, layout text = .error (.illegalState cause) := by
  refine ⟨?_, Forest.lines_of_lay, ?_⟩
  · intro forest
    rw [layout, layout_from_forest forest 0]
    rfl
  · intro text free crossing
    cases outcome : layout text with
    | ok sql =>
        obtain ⟨laid, accepted, _⟩ := map_eq_ok outcome
        have balanced := nested_of_layout accepted free [] []
        rw [List.append_nil, crossing] at balanced
        cases balanced
    | error refusal =>
        obtain ⟨cause, rfl⟩ := illegal_state_of_refusal (layout_refusal outcome)
        exact ⟨cause, rfl⟩

/-- A sub-query in a sub-query of the same identity, each behind words of a line. -/
def twiceNested : Forest :=
  let identity : Identity := ⟨"m", by decide⟩
  .enclosed ⟨"a ", by decide, by decide⟩ identity
    (.enclosed ⟨"b\nc ", by decide, by decide⟩ identity
      (.text ⟨"d\ne", by decide, by decide⟩) (.text ⟨"f\ng", by decide, by decide⟩))
    (.text ⟨" h\ni", by decide, by decide⟩)

/-- Two pairs that cross: the outer one ends inside the inner one. -/
def crossing : String :=
  String.ofList (beginMark ['a'] ++ beginMark ['b'] ++ endMark ['a'] ++ endMark ['b'])

theorem layout_of_nested_and_crossing_marks :
    layout twiceNested.sql = .ok "a b\n  c d\n    ef\n  g h\ni" ∧
      (∀ mark ∈ marksOf crossing.toList, '#' ∉ mark.identity) ∧
      nested [] (marksOf crossing.toList) = false ∧
        ∃ cause, layout crossing = .error (.illegalState cause) := by
  have laid : twiceNested.lay 0 0 = "a b\n  c d\n    ef\n  g h\ni".toList := by decide
  have marks : marksOf crossing.toList =
      [.opening ['a'], .opening ['b'], .closing ['a'], .closing ['b']] := by decide +kernel
  have free : ∀ mark ∈ marksOf crossing.toList, '#' ∉ mark.identity := by
    rw [marks]
    decide
  have crossed : nested [] (marksOf crossing.toList) = false := by
    rw [marks]
    decide
  refine ⟨?_, free, crossed, layout_of_nested_marks.2.2 crossing free crossed⟩
  rw [layout_of_nested_marks.1 twiceNested, laid, String.ofList_toList]

end SqlComposer.SubQuery
