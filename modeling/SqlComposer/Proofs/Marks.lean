import SqlComposer.SubQuery.Marks
import Mathlib.Data.List.Basic

/-!
Where marks can start. Both stems begin with two dashes and have no further dash, and an identity
has no `#`. So no mark starts inside another one, and none starts in a text and ends in the mark
after that text.
-/
namespace SqlComposer.SubQuery

open Text (afterMark? afterMark?_eq_some_iff cutAt? hasMark)

theorem after_mark_append (mark rest : List Char) : afterMark? mark (mark ++ rest) = some rest :=
  afterMark?_eq_some_iff.mpr rfl

theorem after_mark_none_of_extension {mark more chars : List Char}
    (absent : afterMark? mark chars = none) : afterMark? (mark ++ more) chars = none := by
  cases found : afterMark? (mark ++ more) chars with
  | none => rfl
  | some rest =>
      rw [afterMark?_eq_some_iff.mp found, List.append_assoc, after_mark_append] at absent
      cases absent

/-- No occurrence of a mark starts in `chars` when `tail` comes after them. -/
def Silent (mark tail : List Char) : List Char → Prop
  | [] => True
  | c :: chars => afterMark? mark (c :: chars ++ tail) = none ∧ Silent mark tail chars

theorem silent_append {mark tail : List Char} {first second : List Char}
    (before : Silent mark (second ++ tail) first) (after : Silent mark tail second) :
    Silent mark tail (first ++ second) := by
  induction first with
  | nil => exact after
  | cons c chars ih =>
      refine ⟨?_, ih before.2⟩
      have here := before.1
      rw [← List.append_assoc] at here
      exact here

theorem silent_of_extension {mark more tail chars : List Char} (silent : Silent mark tail chars) :
    Silent (mark ++ more) tail chars := by
  induction chars with
  | nil => trivial
  | cons c chars ih => exact ⟨after_mark_none_of_extension silent.1, ih silent.2⟩

theorem cut_at_of_after_mark {mark chars rest : List Char}
    (found : afterMark? mark chars = some rest) : cutAt? mark chars = some ([], rest) := by
  cases chars with
  | nil => simp [cutAt?, found]
  | cons c chars => simp [cutAt?, found]

/-- A text is cut at the mark after it when no mark starts earlier. -/
theorem cut_at_of_silent {mark chars rest : List Char} (silent : Silent mark (mark ++ rest) chars) :
    cutAt? mark (chars ++ (mark ++ rest)) = some (chars, rest) := by
  induction chars with
  | nil => exact cut_at_of_after_mark (after_mark_append mark rest)
  | cons c chars ih =>
      rw [List.cons_append, cutAt?]
      have here : afterMark? mark (c :: (chars ++ (mark ++ rest))) = none := silent.1
      rw [here, ih silent.2]
      rfl

theorem silent_of_cut_at {mark chars before after : List Char}
    (cut : cutAt? mark chars = some (before, after)) : Silent mark (mark ++ after) before := by
  induction chars generalizing before with
  | nil =>
      rw [cutAt?] at cut
      obtain ⟨rest, _, shape⟩ := Option.map_eq_some_iff.mp cut
      obtain ⟨rfl, rfl⟩ := Prod.mk.inj shape
      trivial
  | cons c chars ih =>
      rw [cutAt?] at cut
      split at cut
      · obtain ⟨rfl, rfl⟩ := Prod.mk.inj (Option.some.inj cut)
        trivial
      · next absent =>
          obtain ⟨⟨inside, rest⟩, later, shape⟩ := Option.map_eq_some_iff.mp cut
          obtain ⟨rfl, rfl⟩ := Prod.mk.inj shape
          refine ⟨?_, ih later⟩
          rw [Text.eq_of_cutAt? later, List.append_assoc] at absent
          exact absent

theorem has_mark_cons (mark : List Char) (c : Char) (chars : List Char) :
    hasMark mark (c :: chars) = false ↔
      afterMark? mark (c :: chars) = none ∧ hasMark mark chars = false := by
  unfold hasMark
  rw [cutAt?]
  cases afterMark? mark (c :: chars) <;> simp

/-- Two dashes, `#df:s`, and no dash after them. -/
def IsStem (stem : List Char) : Prop :=
  ∃ rest, stem = '-' :: '-' :: '#' :: 'd' :: 'f' :: ':' :: 's' :: rest ∧ '-' ∉ rest

theorem begin_stem_eq :
    beginStem = '-' :: '-' :: '#' :: 'd' :: 'f' :: ':' :: 's' :: 'q' :: 'b' :: "egin#".toList := by
  decide

theorem end_stem_eq :
    endStem = '-' :: '-' :: '#' :: 'd' :: 'f' :: ':' :: 's' :: 'q' :: 'e' :: "nd#".toList := by
  decide

theorem begin_is_stem : IsStem beginStem := ⟨_, begin_stem_eq, by decide⟩

theorem end_is_stem : IsStem endStem := ⟨_, end_stem_eq, by decide⟩

theorem identity_end_eq : identityEnd = '#' :: 'd' :: 'f' :: ':' :: 'i' :: "dterm#".toList := by
  decide

theorem silent_of_no_dash {stem chars : List Char} (isStem : IsStem stem) (dashless : '-' ∉ chars)
    (tail : List Char) : Silent stem tail chars := by
  obtain ⟨rest, rfl, _⟩ := isStem
  induction chars with
  | nil => trivial
  | cons c chars ih =>
      rw [List.mem_cons, not_or] at dashless
      obtain ⟨different, later⟩ := dashless
      exact ⟨by simp [afterMark?, different], ih later⟩

/-- A stem that is not in a text does not reach from the text into two dashes after it either. -/
theorem no_stem_across {stem : List Char} (isStem : IsStem stem) {c : Char}
    {chars tail : List Char} (absent : afterMark? stem (c :: chars) = none) :
    afterMark? stem (c :: chars ++ '-' :: '-' :: tail) = none := by
  obtain ⟨letters, rfl, dashless⟩ := isStem
  cases found : afterMark? _ (c :: chars ++ '-' :: '-' :: tail) with
  | none => rfl
  | some rest =>
      rcases List.append_eq_append_iff.mp (afterMark?_eq_some_iff.mp found) with
        ⟨inside, whole, dashes⟩ | ⟨inside, whole, _⟩
      · cases inside with
        | nil =>
            have itself := after_mark_append (c :: chars) []
            rw [List.append_nil] at whole itself
            rw [whole, itself] at absent
            cases absent
        | cons dash inside =>
            obtain ⟨rfl, dashes⟩ := List.cons.inj dashes
            cases chars with
            | nil =>
                -- One dash is left for the text, so the second of the two would have to be a `#`.
                simp only [List.cons_append, List.nil_append, List.cons.injEq] at whole
                rw [← whole.2.2] at dashes
                simp at dashes
            | cons d chars =>
                simp only [List.cons_append, List.cons.injEq] at whole
                have among : '-' ∈ '#' :: 'd' :: 'f' :: ':' :: 's' :: letters := by
                  rw [whole.2.2]
                  simp
                simp [dashless] at among
      · rw [whole, after_mark_append] at absent
        cases absent

theorem silent_of_clean {stem chars : List Char} (isStem : IsStem stem)
    (clean : hasMark stem chars = false) (tail : List Char) :
    Silent stem ('-' :: '-' :: tail) chars := by
  induction chars with
  | nil => trivial
  | cons c chars ih =>
      obtain ⟨here, later⟩ := (has_mark_cons stem c chars).mp clean
      exact ⟨no_stem_across isStem here, ih later⟩

/-- No stem reaches from a clean text into a mark after it. -/
theorem silent_before_stem {stem other chars : List Char} (isStem : IsStem stem)
    (isOther : IsStem other) (clean : hasMark stem chars = false) (tail : List Char) :
    Silent stem (other ++ tail) chars := by
  obtain ⟨letters, rfl, _⟩ := isOther
  exact silent_of_clean isStem clean _

theorem silent_in_identity {stem identity : List Char} (isStem : IsStem stem)
    (free : '#' ∉ identity) (tail : List Char) : Silent stem (identityEnd ++ tail) identity := by
  obtain ⟨letters, rfl, _⟩ := isStem
  rw [identity_end_eq]
  induction identity with
  | nil => trivial
  | cons c chars ih =>
      rw [List.mem_cons, not_or] at free
      obtain ⟨_, later⟩ := free
      refine ⟨?_, ih later⟩
      -- The `#` of a stem comes third; behind two characters of an identity an `i` follows it.
      cases chars with
      | nil => simp [afterMark?]
      | cons d chars =>
          cases chars with
          | nil => simp [afterMark?]
          | cons e chars =>
              have different : '#' ≠ e := by
                rintro rfl
                simp at later
              simp [afterMark?, different]

/-- A mark with a stem, without its first dash. -/
def markInside (stem identity : List Char) : List Char := stem.tail ++ identity ++ identityEnd

theorem mark_eq_cons {stem : List Char} (isStem : IsStem stem) (identity : List Char) :
    stem ++ identity ++ identityEnd = '-' :: markInside stem identity := by
  obtain ⟨letters, rfl, _⟩ := isStem
  rfl

theorem silent_inside_mark {stem other identity : List Char} (isStem : IsStem stem)
    (isOther : IsStem other) (free : '#' ∉ identity) (tail : List Char) :
    Silent stem tail (markInside other identity) := by
  have identityPart : Silent stem (identityEnd ++ tail) identity :=
    silent_in_identity isStem free tail
  have endPart : Silent stem tail identityEnd := silent_of_no_dash isStem (by decide) tail
  obtain ⟨letters, rfl, dashless⟩ := isOther
  refine silent_append (silent_append ?_ identityPart) endPart
  refine ⟨?_, silent_of_no_dash isStem (by simp [dashless]) _⟩
  obtain ⟨others, rfl, _⟩ := isStem
  simp [afterMark?]

theorem identity_eq_of_marks {first second left right : List Char} (firstFree : '#' ∉ first)
    (secondFree : '#' ∉ second)
    (same : first ++ identityEnd ++ left = second ++ identityEnd ++ right) : first = second := by
  rw [identity_end_eq] at same
  induction first generalizing second with
  | nil =>
      cases second with
      | nil => rfl
      | cons c chars =>
          obtain ⟨rfl, _⟩ := List.cons.inj same
          simp at secondFree
  | cons c chars ih =>
      cases second with
      | nil =>
          obtain ⟨rfl, _⟩ := List.cons.inj same
          simp at firstFree
      | cons d others =>
          obtain ⟨rfl, later⟩ := List.cons.inj same
          rw [List.mem_cons, not_or] at firstFree secondFree
          rw [ih firstFree.2 secondFree.2 later]

theorem after_mark_of_other_identity {stem first second : List Char} (firstFree : '#' ∉ first)
    (secondFree : '#' ∉ second) (different : first ≠ second) (tail : List Char) :
    afterMark? (stem ++ first ++ identityEnd) (stem ++ second ++ identityEnd ++ tail) = none := by
  cases found : afterMark? (stem ++ first ++ identityEnd)
      (stem ++ second ++ identityEnd ++ tail) with
  | none => rfl
  | some rest =>
      have same := afterMark?_eq_some_iff.mp found
      simp only [List.append_assoc, List.append_cancel_left_eq] at same
      simp only [← List.append_assoc] at same
      exact absurd (identity_eq_of_marks secondFree firstFree same).symm different

theorem end_not_at_begin (first second tail : List Char) :
    afterMark? (endMark first) (beginMark second ++ tail) = none := by
  simp [endMark, beginMark, end_stem_eq, begin_stem_eq, afterMark?]

theorem begin_not_at_end (first second tail : List Char) :
    afterMark? (beginMark first) (endMark second ++ tail) = none := by
  simp [endMark, beginMark, end_stem_eq, begin_stem_eq, afterMark?]

end SqlComposer.SubQuery
