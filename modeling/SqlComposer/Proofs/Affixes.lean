import SqlComposer.Proofs.Parts

/-!
Texts put before and behind a text with marks. What has no `#` neither makes a mark nor lengthens
one, so it is written as it is; what comes before moves the sub-queries behind it to the right.
-/
namespace SqlComposer.SubQuery

open Text (afterMark? afterMark?_eq_some_iff cutAt? hasMark)

/-- The last character of every stem and of every mark. -/
def EndsInHash (mark : List Char) : Prop := ∃ inner, mark = inner ++ ['#']

theorem begin_stem_ends : EndsInHash beginStem := ⟨"--#df:sqbegin".toList, by decide⟩

theorem end_stem_ends : EndsInHash endStem := ⟨"--#df:sqend".toList, by decide⟩

theorem identity_end_ends : EndsInHash identityEnd := ⟨"#df:idterm".toList, by decide⟩

theorem begin_mark_ends (identity : List Char) : EndsInHash (beginMark identity) := by
  obtain ⟨inner, shape⟩ := identity_end_ends
  exact ⟨beginStem ++ identity ++ inner, by simp [beginMark, shape]⟩

theorem end_mark_ends (identity : List Char) : EndsInHash (endMark identity) := by
  obtain ⟨inner, shape⟩ := identity_end_ends
  exact ⟨endStem ++ identity ++ inner, by simp [endMark, shape]⟩

section

variable {mark opening closing tail : List Char} (free : '#' ∉ tail)

include free

theorem after_mark_of_tail (ends : EndsInHash mark) (chars : List Char) :
    afterMark? mark (chars ++ tail) = (afterMark? mark chars).map (· ++ tail) := by
  cases found : afterMark? mark chars with
  | some rest =>
      rw [afterMark?_eq_some_iff.mp found, List.append_assoc, after_mark_append]
      rfl
  | none =>
      cases across : afterMark? mark (chars ++ tail) with
      | none => rfl
      | some rest =>
          obtain ⟨inner, shape⟩ := ends
          rcases List.append_eq_append_iff.mp (afterMark?_eq_some_iff.mp across) with
            ⟨excess, whole, behind⟩ | ⟨excess, whole, _⟩
          · rcases List.eq_nil_or_concat excess with rfl | ⟨before, last, rfl⟩
            · have itself := after_mark_append chars []
              rw [List.append_nil] at whole itself
              rw [whole, itself] at found
              cases found
            · rw [List.concat_eq_append] at whole behind
              rw [shape, ← List.append_assoc] at whole
              obtain ⟨_, same⟩ := List.append_inj' whole rfl
              rw [behind, ← same] at free
              simp at free
          · rw [whole, after_mark_append] at found
            cases found

theorem cut_at_of_tail (ends : EndsInHash mark) (chars : List Char) :
    cutAt? mark (chars ++ tail) =
      (cutAt? mark chars).map fun (before, after) => (before, after ++ tail) := by
  induction chars with
  | nil =>
      have filled : afterMark? mark [] = none := by
        obtain ⟨inner, rfl⟩ := ends
        cases inner <;> rfl
      rw [List.nil_append, cutAt?, filled]
      induction tail with
      | nil => rw [cutAt?, filled]; rfl
      | cons c tail ih =>
          have here := after_mark_of_tail free ends []
          rw [List.nil_append, filled] at here
          rw [List.mem_cons, not_or] at free
          rw [cutAt?, here, ih free.2]
          rfl
  | cons c chars ih =>
      have here := after_mark_of_tail free ends (c :: chars)
      rw [List.cons_append] at here ⊢
      rw [cutAt?, cutAt?, here, ih]
      cases afterMark? mark (c :: chars) with
      | some rest => rfl
      | none => cases cutAt? mark chars <;> rfl

theorem close_at_of_free_tail (opens : EndsInHash opening) (closes : EndsInHash closing)
    (depth skipped : Nat) : closeAt? opening closing depth skipped tail = none := by
  have empty : ∀ {mark : List Char}, EndsInHash mark → afterMark? mark [] = none := by
    rintro mark ⟨inner, rfl⟩
    cases inner <;> rfl
  induction tail generalizing depth skipped with
  | nil => rfl
  | cons c tail ih =>
      have noClosing := after_mark_of_tail free closes []
      have noOpening := after_mark_of_tail free opens []
      rw [List.nil_append, empty closes] at noClosing
      rw [List.nil_append, empty opens] at noOpening
      rw [List.mem_cons, not_or] at free
      cases skipped with
      | succ skipped => rw [closeAt?, ih free.2]; rfl
      | zero =>
          rw [closeAt?, noClosing, noOpening]
          simp only [Option.map_none, ih free.2]

theorem close_at_of_tail (opens : EndsInHash opening) (closes : EndsInHash closing)
    (depth skipped : Nat) (chars : List Char) :
    closeAt? opening closing depth skipped (chars ++ tail) =
      (closeAt? opening closing depth skipped chars).map
        fun (body, after) => (body, after ++ tail) := by
  induction chars generalizing depth skipped with
  | nil => exact close_at_of_free_tail free opens closes depth skipped
  | cons c chars ih =>
      have closing? := after_mark_of_tail free closes (c :: chars)
      have opening? := after_mark_of_tail free opens (c :: chars)
      rw [List.cons_append] at closing? opening? ⊢
      cases skipped with
      | succ skipped =>
          rw [closeAt?, closeAt?, ih]
          cases closeAt? opening closing depth skipped chars <;> rfl
      | zero =>
          rw [closeAt?, closeAt?, closing?, opening?]
          cases afterMark? closing (c :: chars) with
          | some after =>
              cases depth with
              | zero => rfl
              | succ depth =>
                  simp only [Option.map_some, ih, Option.map_map]
                  rfl
          | none =>
              cases afterMark? opening (c :: chars) with
              | some after =>
                  simp only [Option.map_none, Option.map_some, ih, Option.map_map]
                  rfl
              | none =>
                  simp only [Option.map_none, ih, Option.map_map]
                  rfl

theorem has_mark_of_tail (ends : EndsInHash mark) (chars : List Char) :
    hasMark mark (chars ++ tail) = hasMark mark chars := by
  rw [hasMark, cut_at_of_tail free ends, Option.isSome_map]
  rfl

theorem Parted.of_append {column : Nat} {chars : List Char} {parts : List Part}
    (parted : Parted column (chars ++ tail) parts) :
    ∃ shorter, Parted column chars shorter ∧ shownText parts = shownText shorter ++ tail := by
  generalize whole : chars ++ tail = text at parted
  induction parted generalizing chars with
  | @plain column text unmarked clean =>
      subst whole
      rw [cut_at_of_tail free begin_stem_ends, Option.map_eq_none_iff] at unmarked
      have kept : withoutEnd chars = .ok chars := by
        have absent := (without_end_eq_ok clean).2
        rw [has_mark_of_tail free end_stem_ends] at absent
        rw [withoutEnd, absent]
        rfl
      exact ⟨_, .plain unmarked kept, by rw [shown_text_of_plain, shown_text_of_plain]⟩
  | @pair column text before marked identity rest body after inner later begun clean named closed
      inside behind ihInside ihBehind =>
      subst whole
      rw [cut_at_of_tail free begin_stem_ends] at begun
      obtain ⟨⟨before, marked⟩, begins, shape⟩ := Option.map_eq_some_iff.mp begun
      obtain ⟨rfl, rfl⟩ := Prod.mk.inj shape
      rw [cut_at_of_tail free identity_end_ends] at named
      obtain ⟨⟨identity, rest⟩, names, shape⟩ := Option.map_eq_some_iff.mp named
      obtain ⟨rfl, rfl⟩ := Prod.mk.inj shape
      rw [close_at_of_tail free (begin_mark_ends _) (end_mark_ends _)] at closed
      obtain ⟨⟨body, after⟩, closes, shape⟩ := Option.map_eq_some_iff.mp closed
      obtain ⟨rfl, rfl⟩ := Prod.mk.inj shape
      obtain ⟨shorter, parted, shown⟩ := ihBehind rfl
      refine ⟨_, .pair begins clean names closes inside parted, ?_⟩
      rw [shown_text_of_pair, shown_text_of_pair, shown]
      simp only [List.append_assoc]

theorem Parted.append {column : Nat} {chars : List Char} {parts : List Part}
    (parted : Parted column chars parts) :
    ∃ longer, Parted column (chars ++ tail) longer ∧
      shownText longer = shownText parts ++ tail := by
  induction parted with
  | @plain column chars unmarked clean =>
      have still : cutAt? beginStem (chars ++ tail) = none := by
        rw [cut_at_of_tail free begin_stem_ends, unmarked]
        rfl
      have kept : withoutEnd (chars ++ tail) = .ok (chars ++ tail) := by
        rw [withoutEnd, has_mark_of_tail free end_stem_ends, (without_end_eq_ok clean).2]
        rfl
      exact ⟨_, .plain still kept, by rw [shown_text_of_plain, shown_text_of_plain]⟩
  | @pair column chars before marked identity rest body after inner later begun clean named closed
      inside behind ihInside ihBehind =>
      obtain ⟨longer, parted, shown⟩ := ihBehind
      refine ⟨_, .pair (cut_at_append tail begun) clean (cut_at_append tail named) ?_ inside parted,
        ?_⟩
      · rw [close_at_of_tail free (begin_mark_ends _) (end_mark_ends _), closed]
        rfl
      · rw [shown_text_of_pair, shown_text_of_pair, shown]
        simp only [List.append_assoc]

end

/-- A text in which no stem starts, whatever comes behind it. -/
def Quiet (chars : List Char) : Prop :=
  ∀ tail, Silent beginStem tail chars ∧ Silent endStem tail chars

theorem cut_at_behind {mark tail chars : List Char} (silent : Silent mark tail chars) :
    cutAt? mark (chars ++ tail) =
      (cutAt? mark tail).map fun (before, after) => (chars ++ before, after) := by
  induction chars with
  | nil => simp
  | cons c chars ih =>
      have here : afterMark? mark (c :: (chars ++ tail)) = none := silent.1
      rw [List.cons_append, cutAt?, here, ih silent.2, Option.map_map]
      rfl

theorem without_end_behind {first chars : List Char} (quiet : Quiet first) :
    withoutEnd (first ++ chars) = .ok (first ++ chars) ↔ withoutEnd chars = .ok chars := by
  have marks : hasMark endStem (first ++ chars) = hasMark endStem chars := by
    rw [hasMark, cut_at_behind (quiet chars).2, Option.isSome_map]
    rfl
  rw [withoutEnd, withoutEnd, marks]
  split_ifs <;> simp

theorem Parted.of_behind {column : Nat} {first chars : List Char} {parts : List Part}
    (quiet : Quiet first) (parted : Parted column (first ++ chars) parts) :
    ∃ rest, Parted (columnAfter column first) chars rest ∧
      shownText parts = first ++ shownText rest := by
  generalize whole : first ++ chars = text at parted
  cases parted with
  | plain unmarked clean =>
      subst whole
      rw [cut_at_behind (quiet chars).1, Option.map_eq_none_iff] at unmarked
      refine ⟨_, .plain unmarked ((without_end_behind quiet).mp clean), ?_⟩
      rw [shown_text_of_plain, shown_text_of_plain]
  | pair begun clean named closed inside behind =>
      subst whole
      rw [cut_at_behind (quiet chars).1] at begun
      obtain ⟨⟨before, marked⟩, begins, shape⟩ := Option.map_eq_some_iff.mp begun
      obtain ⟨rfl, rfl⟩ := Prod.mk.inj shape
      rw [column_after_append] at behind
      refine ⟨_, .pair begins ((without_end_behind quiet).mp clean) named closed inside behind, ?_⟩
      rw [shown_text_of_pair, shown_text_of_pair, column_after_append, List.append_assoc]

theorem Parted.behind {column : Nat} {first chars : List Char} {parts : List Part}
    (quiet : Quiet first) (parted : Parted (columnAfter column first) chars parts) :
    ∃ whole, Parted column (first ++ chars) whole ∧
      shownText whole = first ++ shownText parts := by
  cases parted with
  | plain unmarked clean =>
      have still : cutAt? beginStem (first ++ chars) = none := by
        rw [cut_at_behind (quiet chars).1, unmarked]
        rfl
      refine ⟨_, .plain still ((without_end_behind quiet).mpr clean), ?_⟩
      rw [shown_text_of_plain, shown_text_of_plain]
  | pair begun clean named closed inside behind =>
      simp only [← column_after_append column first] at behind
      refine ⟨_, .pair ?_ ((without_end_behind quiet).mpr clean) named closed inside behind, ?_⟩
      · rw [cut_at_behind (quiet chars).1, begun]
        rfl
      · rw [shown_text_of_pair, shown_text_of_pair, column_after_append, List.append_assoc]

theorem column_after_mono {first second : Nat} (before : first ≤ second) (chars : List Char) :
    columnAfter first chars ≤ columnAfter second chars := by
  induction chars generalizing first second with
  | nil => exact before
  | cons c chars ih =>
      rw [columnAfter, columnAfter, List.foldl_cons, List.foldl_cons]
      apply ih
      split_ifs
      · exact Nat.le_refl 0
      · omega

/-- The same text is laid out from any column, and not shorter further to the right. -/
theorem Parted.moved {column : Nat} {chars : List Char} {parts : List Part}
    (parted : Parted column chars parts) {other : Nat} (before : other ≤ column) :
    ∃ nearer, Parted other chars nearer ∧
      (shownText nearer).length ≤ (shownText parts).length := by
  induction parted generalizing other with
  | plain unmarked clean => exact ⟨_, .plain unmarked clean, Nat.le_refl _⟩
  | @pair column chars start marked identity rest body after inner later begun clean named closed
      inside behind ihInside ihBehind =>
      have begins := column_after_mono before start
      have ends : columnAfter (columnAfter other start)
            (indentLines (columnAfter other start) (shownText inner)) ≤
          columnAfter (columnAfter column start)
            (indentLines (columnAfter column start) (shownText inner)) := by
        have stands := fun shift => column_after_indented shift 0 (shownText inner)
        simp only [Nat.add_zero] at stands
        rw [stands, stands]
        omega
      obtain ⟨nearer, parted, shorter⟩ := ihBehind ends
      refine ⟨_, .pair begun clean named closed inside parted, ?_⟩
      have lines : (indentLines (columnAfter other start) (shownText inner)).length ≤
          (indentLines (columnAfter column start) (shownText inner)).length := by
        rw [length_of_indented, length_of_indented]
        have scaled := Nat.mul_le_mul_right ((shownText inner).count '\n') begins
        omega
      rw [shown_text_of_pair, shown_text_of_pair]
      simp only [List.length_append]
      omega

/-- The `#` of a stem comes third, behind two dashes, so without it no stem ends in a text. -/
theorem quiet_of_hashless {chars : List Char} (hashless : '#' ∉ chars) :
    Quiet (chars ++ [' ']) := by
  have silent : ∀ {stem : List Char}, IsStem stem → ∀ tail, Silent stem tail (chars ++ [' ']) := by
    rintro stem ⟨letters, rfl, _⟩ tail
    induction chars with
    | nil => exact ⟨by simp [afterMark?], trivial⟩
    | cons c chars ih =>
        rw [List.mem_cons, not_or] at hashless
        refine ⟨?_, ih hashless.2⟩
        cases chars with
        | nil => simp [afterMark?]
        | cons d chars =>
            cases chars with
            | nil => simp [afterMark?]
            | cons e chars =>
                have different : '#' ≠ e := by
                  rintro rfl
                  simp at hashless
                simp [afterMark?, different]
  exact fun tail => ⟨silent begin_is_stem tail, silent end_is_stem tail⟩

theorem column_after_unbroken {chars : List Char} (unbroken : '\n' ∉ chars) (column : Nat) :
    columnAfter column chars = column + chars.length := by
  induction chars generalizing column with
  | nil => rfl
  | cons c chars ih =>
      rw [List.mem_cons, not_or] at unbroken
      have step : columnAfter column (c :: chars) = columnAfter (column + 1) chars := by
        rw [columnAfter, List.foldl_cons, if_neg (Ne.symm unbroken.1)]
        rfl
      rw [step, ih unbroken.2, List.length_cons]
      omega

/-- A text with a shorter start and without one of its last parts comes out shorter. -/
theorem layout_from_without {short long middle window ending laid : List Char}
    (quietShort : Quiet short) (quietLong : Quiet long)
    (before : columnAfter 0 short ≤ columnAfter 0 long) (freeWindow : '#' ∉ window)
    (freeEnding : '#' ∉ ending)
    (accepted : layoutFrom 0 (long ++ middle ++ (window ++ ending)) = .ok laid) :
    ∃ shorter, layoutFrom 0 (short ++ middle ++ ending) = .ok shorter ∧
      shorter.length + long.length + window.length ≤ laid.length + short.length := by
  have free : '#' ∉ window ++ ending := by simp [freeWindow, freeEnding]
  obtain ⟨whole, parted⟩ := parted_of_layout accepted
  have shown := Except.ok.inj (accepted.symm.trans (layout_from_of_parted parted))
  obtain ⟨body, partedBody, shownBody⟩ := parted.of_append free
  obtain ⟨inner, partedInner, shownInner⟩ := partedBody.of_behind quietLong
  obtain ⟨nearer, partedNearer, notLonger⟩ := partedInner.moved before
  obtain ⟨start, partedStart, shownStart⟩ := partedNearer.behind quietShort
  obtain ⟨shorter, partedShorter, shownShorter⟩ := partedStart.append freeEnding
  refine ⟨shownText shorter, layout_from_of_parted partedShorter, ?_⟩
  rw [shown, shownBody, shownInner, shownShorter, shownStart]
  simp only [List.length_append]
  omega

/-- A text without number signs has no marks. -/
theorem layout_of_hashless {sql : String} (free : '#' ∉ sql.toList) : layout sql = .ok sql := by
  apply layout_of_no_marks
  · exact has_mark_of_tail free begin_stem_ends []
  · exact has_mark_of_tail free end_stem_ends []

end SqlComposer.SubQuery
