import SqlComposer.Proofs.Exchange
import SqlComposer.Proofs.Quotation
import Mathlib.Data.List.Forall2

/-!
The layout of two texts with different values in their literals. Their parts are the same but for
the values, so one is laid out when the other one is. Only the columns by which sub-queries behind a
literal move right depend on how long it is.
-/
namespace SqlComposer.SubQuery

open Text (afterMark? afterMark?_eq_some_iff cutAt? hasMark)

/-- What starts a text without quotes that a quote comes after ends before that quote. -/
theorem prefix_before_quote {start before after : List Char} (quoteless : '\'' ∉ start)
    (present : start <+: before ++ '\'' :: after) : start <+: before := by
  obtain ⟨rest, shape⟩ := present
  rcases List.append_eq_append_iff.mp shape with ⟨excess, whole, _⟩ | ⟨excess, rfl, behind⟩
  · exact ⟨excess, whole.symm⟩
  · cases excess with
    | nil => simp
    | cons c excess =>
        obtain ⟨rfl, _⟩ := List.cons.inj behind
        simp at quoteless

theorem after_mark_before_quote {mark before : List Char} (quoteless : '\'' ∉ mark) :
    (∃ rest, before = mark ++ rest ∧
        ∀ tail, afterMark? mark (before ++ '\'' :: tail) = some (rest ++ '\'' :: tail)) ∨
      ∀ tail, afterMark? mark (before ++ '\'' :: tail) = none := by
  by_cases present : mark <+: before
  · obtain ⟨rest, rfl⟩ := present
    refine .inl ⟨rest, rfl, fun tail => ?_⟩
    rw [List.append_assoc]
    exact after_mark_append mark _
  · refine .inr fun tail => ?_
    by_contra found
    exact present (prefix_before_quote quoteless (Text.after_mark_ne_none_iff.mp found))

section

variable {opening closing : List Char}

/-- How the search for an end mark gets over a text with a quote behind it: the mark is found in the
text, or the search goes on at the quote. -/
def PassesTo (opening closing : List Char) (depth skipped : Nat) (before : List Char) : Prop :=
  (∃ body after, ∀ tail, closeAt? opening closing depth skipped (before ++ '\'' :: tail) =
      some (body, after ++ '\'' :: tail)) ∨
    ∃ depthAfter, ∀ tail, closeAt? opening closing depth skipped (before ++ '\'' :: tail) =
      prepend before (closeAt? opening closing depthAfter 0 ('\'' :: tail))

theorem PassesTo.step {depth skipped depthAfter skippedAfter : Nat} {c : Char}
    {before : List Char} (passes : PassesTo opening closing depthAfter skippedAfter before)
    (steps : ∀ tail, closeAt? opening closing depth skipped (c :: (before ++ '\'' :: tail)) =
      (closeAt? opening closing depthAfter skippedAfter (before ++ '\'' :: tail)).map
        fun (body, after) => (c :: body, after)) :
    PassesTo opening closing depth skipped (c :: before) := by
  rcases passes with ⟨body, after, found⟩ | ⟨further, found⟩
  · refine .inl ⟨c :: body, after, fun tail => ?_⟩
    rw [List.cons_append, steps, found]
    rfl
  · refine .inr ⟨further, fun tail => ?_⟩
    rw [List.cons_append, steps, found, prepend_cons]

/-- The search never reads over a quote: both marks are without. -/
theorem passes_to_quote (opens : '\'' ∉ opening) (closes : '\'' ∉ closing) (depth skipped : Nat)
    {before : List Char} (room : skipped ≤ before.length) :
    PassesTo opening closing depth skipped before := by
  induction before generalizing depth skipped with
  | nil =>
      obtain rfl := Nat.le_zero.mp room
      exact .inr ⟨depth, fun tail => (prepend_nil _).symm⟩
  | cons c before ih =>
      cases skipped with
      | succ skipped =>
          refine (ih depth skipped (Nat.le_of_succ_le_succ room)).step fun tail => ?_
          rw [closeAt?]
      | zero =>
          have fits : ∀ {mark rest : List Char}, c :: before = mark ++ rest →
              mark.length - 1 ≤ before.length := by
            intro mark rest shape
            have length := congrArg List.length shape
            rw [List.length_cons, List.length_append] at length
            omega
          rcases @after_mark_before_quote closing (c :: before) closes with
            ⟨rest, shape, found⟩ | noClosing
          · cases depth with
            | zero =>
                refine .inl ⟨[], rest, fun tail => ?_⟩
                have here := found tail
                rw [List.cons_append] at here ⊢
                rw [closeAt?, here]
            | succ depth =>
                refine (ih depth _ (fits shape)).step fun tail => ?_
                have here := found tail
                rw [List.cons_append] at here
                rw [closeAt?, here]
          · rcases @after_mark_before_quote opening (c :: before) opens with
              ⟨rest, shape, found⟩ | noOpening
            · refine (ih (depth + 1) _ (fits shape)).step fun tail => ?_
              have here := found tail
              have other := noClosing tail
              rw [List.cons_append] at here other
              rw [closeAt?, other]
              simp only [here]
            · refine (ih depth 0 (Nat.zero_le _)).step fun tail => ?_
              have here := noOpening tail
              have other := noClosing tail
              rw [List.cons_append] at here other
              rw [closeAt?, other]
              simp only [here]

end

/-- Values that hold neither a begin mark nor an end mark of a sub-query. -/
structure Unmarking (old new : String) : Prop where
  begins : IsUnread old new beginStem
  ends : IsUnread old new endStem

section

variable {old new : String} (unread : Unmarking old new) {first second : List Char}

include unread

theorem close_behind_literal {identity before : List Char} {depth depthAfter : Nat}
    (passes : ∀ tail, closeAt? (beginMark identity) (endMark identity) depth 0
      (before ++ '\'' :: tail) =
        prepend before (closeAt? (beginMark identity) (endMark identity) depthAfter 0
          ('\'' :: tail)))
    (dialect : Dialect) {value : String} (known : value = old ∨ value = new) (rest : List Char) :
    closeAt? (beginMark identity) (endMark identity) depth 0
        (before ++ (dialect.quotedChars value.toList ++ rest)) =
      prepend before (prepend (dialect.quotedChars value.toList)
        (closeAt? (beginMark identity) (endMark identity) depthAfter 0 rest)) := by
  have noBegin : ¬ beginStem <:+: value.toList := by
    rcases known with rfl | rfl
    · exact unread.begins.old
    · exact unread.begins.new
  have noEnd : ¬ endStem <:+: value.toList := by
    rcases known with rfl | rfl
    · exact unread.ends.old
    · exact unread.ends.new
  have begins := silent_literal unread.begins.toIsPlainMark dialect noBegin rest
  have ends := silent_literal unread.ends.toIsPlainMark dialect noEnd rest
  have opening : Silent (beginMark identity) rest (dialect.quotedChars value.toList) := by
    rw [beginMark, List.append_assoc]
    exact silent_of_extension begins
  have closing : Silent (endMark identity) rest (dialect.quotedChars value.toList) := by
    rw [endMark, List.append_assoc]
    exact silent_of_extension ends
  exact (passes _).trans (congrArg (prepend before) (close_at_silent closing opening))

/-- The end mark of a sub-query is at the same place in both texts. -/
theorem close_exchanged {identity : List Char} (quoteless : '\'' ∉ identity)
    (exchanged : Exchanged old new first second) (depth : Nat) :
    CutsExchanged old new (closeAt? (beginMark identity) (endMark identity) depth 0 first)
      (closeAt? (beginMark identity) (endMark identity) depth 0 second) := by
  have opens : '\'' ∉ beginMark identity := by
    simp only [beginMark, List.mem_append, not_or]
    exact ⟨⟨by decide, quoteless⟩, by decide⟩
  have closes : '\'' ∉ endMark identity := by
    simp only [endMark, List.mem_append, not_or]
    exact ⟨⟨by decide, quoteless⟩, by decide⟩
  induction exchanged generalizing depth with
  | same chars => exact cuts_exchanged_refl _
  | literal before dialect later ih =>
      rcases passes_to_quote opens closes depth 0 (Nat.zero_le before.length) with
        ⟨body, after, found⟩ | ⟨depthAfter, passes⟩
      · have here := fun value rest => found (value ++ ['\''] ++ rest)
        have shape : ∀ value rest : List Char, dialect.quotedChars value ++ rest =
            '\'' :: (value.flatMap dialect.quotedChar ++ ['\''] ++ rest) := fun _ _ => rfl
        rw [shape, shape, here, here, ← shape, ← shape]
        exact .some ⟨.same body, .literal after dialect later⟩
      · rw [close_behind_literal unread passes dialect (.inl rfl),
          close_behind_literal unread passes dialect (.inr rfl)]
        exact cuts_exchanged_prepend (.same before)
          (cuts_exchanged_prepend (Exchanged.literals dialect) (ih depthAfter))

theorem without_end_exchanged (exchanged : Exchanged old new first second)
    (clean : withoutEnd first = .ok first) : withoutEnd second = .ok second := by
  have absent := (without_end_eq_ok clean).2
  rw [withoutEnd, exchanged.has_mark unread.ends, absent]
  rfl

theorem plain_exchanged {column : Nat} (exchanged : Exchanged old new first second)
    (unmarked : cutAt? beginStem first = none) (clean : withoutEnd first = .ok first) :
    Parted column second [.text 0 second] := by
  have cuts := exchanged.cut unread.begins
  rw [unmarked] at cuts
  refine .plain ?_ (without_end_exchanged unread exchanged clean)
  generalize cutAt? beginStem second = cut at cuts ⊢
  cases cuts
  rfl

end

/-- An identity without quotes is read before the first literal. -/
theorem identity_exchanged {old new : String} {first second identity rest : List Char}
    (exchanged : Exchanged old new first second) (quoteless : '\'' ∉ identity)
    (named : cutAt? identityEnd first = some (identity, rest)) :
    ∃ other, cutAt? identityEnd second = some (identity, other) ∧ Exchanged old new rest other := by
  cases exchanged with
  | same chars => exact ⟨rest, named, .same rest⟩
  | literal before dialect later =>
      have within : identity ++ identityEnd <+: before := by
        have free : '\'' ∉ identity ++ identityEnd := by
          rw [List.mem_append, not_or]
          exact ⟨quoteless, by decide⟩
        exact prefix_before_quote free ⟨rest, (Text.eq_of_cutAt? named).symm⟩
      obtain ⟨inside, rfl⟩ := within
      cases found : cutAt? identityEnd (identity ++ identityEnd ++ inside) with
      | none =>
          rw [List.append_assoc] at found
          exact absurd found (cut_at_ne_none identityEnd identity inside)
      | some cut =>
          obtain ⟨start, more⟩ := cut
          rw [cut_at_append _ found] at named
          obtain ⟨rfl, rfl⟩ := Prod.mk.inj (Option.some.inj named)
          exact ⟨_, cut_at_append _ found, .literal more dialect later⟩

theorem line_break_exchanged {old new : String} {first second : List Char}
    (exchanged : Exchanged old new first second) :
    lineBreak second = lineBreak first ∧
      Exchanged old new (dropLineBreak first) (dropLineBreak second) := by
  cases exchanged with
  | same chars => exact ⟨rfl, .same _⟩
  | literal before dialect later =>
      cases before with
      | nil => exact ⟨rfl, .literal [] dialect later⟩
      | cons c before =>
          by_cases broken : c = '\n'
          · subst broken
            exact ⟨rfl, .literal before dialect later⟩
          · have same : ∀ chars, dropLineBreak (c :: chars) = c :: chars := by
              simp [dropLineBreak, broken]
            have none : ∀ chars, lineBreak (c :: chars) = [] := by simp [lineBreak, broken]
            rw [List.cons_append, List.cons_append, same, same, none, none]
            exact ⟨rfl, .literal (c :: before) dialect later⟩

/-- The same part of two texts. The columns by which it moves right may differ. -/
inductive PartExchanged (old new : String) : Part → Part → Prop where
  | text (shift shiftOther : Nat) {chars others : List Char}
      (exchanged : Exchanged old new chars others) :
      PartExchanged old new (.text shift chars) (.text shiftOther others)
  | mark (chars : List Char) : PartExchanged old new (.mark chars) (.mark chars)

theorem parts_exchanged_moved {old new : String} {parts others : List Part}
    (each : List.Forall₂ (PartExchanged old new) parts others) (columns columnsOther : Nat) :
    List.Forall₂ (PartExchanged old new) (parts.map (Part.moveRight columns))
      (others.map (Part.moveRight columnsOther)) := by
  rw [List.forall₂_map_left_iff, List.forall₂_map_right_iff]
  refine each.imp fun part other exchanged => ?_
  cases exchanged with
  | text shift shiftOther chars => exact .text _ _ chars
  | mark chars => exact .mark chars

def QuotelessMarks (parts : List Part) : Prop :=
  ∀ chars, .mark chars ∈ parts → '\'' ∉ chars

theorem quoteless_marks_of_pair {start opening closing : List Char} {columns : Nat}
    {inner later : List Part}
    (quoteless : QuotelessMarks (.text 0 start :: .mark opening ::
      (inner.map (Part.moveRight columns) ++ .mark closing :: later))) :
    '\'' ∉ opening ∧ QuotelessMarks inner ∧ QuotelessMarks later := by
  refine ⟨quoteless opening (by simp), fun chars member => quoteless chars ?_,
    fun chars member => quoteless chars (by simp [member])⟩
  have moved := List.mem_map_of_mem (f := Part.moveRight columns) member
  exact List.mem_cons_of_mem _ (List.mem_cons_of_mem _ (List.mem_append_left _ moved))

/-- What a text with a value in its literals is cut into, a text with another value is cut into
too. -/
theorem Parted.exchanged {old new : String} (unread : Unmarking old new) {column : Nat}
    {first second : List Char} {parts : List Part} (parted : Parted column first parts)
    (quoteless : QuotelessMarks parts) (exchanged : Exchanged old new first second)
    (columnOther : Nat) :
    ∃ others, Parted columnOther second others ∧
      List.Forall₂ (PartExchanged old new) parts others := by
  induction parted generalizing second columnOther with
  | plain unmarked clean =>
      exact ⟨_, plain_exchanged unread exchanged unmarked clean,
        .cons (.text 0 0 exchanged) .nil⟩
  | @pair column chars before marked identity rest body after inner later begun clean named closed
      inside behind ihInside ihBehind =>
      obtain ⟨opening, marksInner, marksLater⟩ := quoteless_marks_of_pair quoteless
      have free : '\'' ∉ identity := by
        intro quote
        exact opening (by simp [beginMark, quote])
      have cuts := exchanged.cut unread.begins
      rw [begun] at cuts
      generalize starts : cutAt? beginStem second = cut at cuts
      obtain @⟨_, ⟨start, enclosed⟩, befores, markeds⟩ := cuts
      obtain ⟨restOther, names, rests⟩ := identity_exchanged markeds free named
      have ends := close_exchanged unread free rests 0
      rw [closed] at ends
      generalize closes : closeAt? (beginMark identity) (endMark identity) 0 0 restOther = found
        at ends
      obtain @⟨_, ⟨bodyOther, afterOther⟩, bodies, afters⟩ := ends
      obtain ⟨sameBreak, lines⟩ := line_break_exchanged bodies
      obtain ⟨innerOther, insideOther, inners⟩ := ihInside marksInner lines 0
      obtain ⟨laterOther, behindOther, laters⟩ := ihBehind marksLater afters _
      refine ⟨_, .pair starts (without_end_exchanged unread befores clean) names closes insideOther
        behindOther, .cons (.text 0 0 befores) (.cons ?_ ?_)⟩
      · rw [sameBreak]
        exact .mark _
      · exact List.rel_append (parts_exchanged_moved inners _ _) (.cons (.mark _) laters)

def Part.shift : Part → Nat
  | text shift _ => shift
  | mark _ => 0

/-- Parts that stand in the same columns. A value with a line break must not move at all. -/
structure StandAlike (old new : String) (parts others : List Part) : Prop where
  shifts : parts.map Part.shift = others.map Part.shift
  unbroken : ('\n' ∉ old.toList ∧ '\n' ∉ new.toList) ∨ ∀ part ∈ parts, part.shift = 0

theorem literal_indented (columns : Nat) (dialect : Dialect) {value : List Char}
    (unbroken : '\n' ∉ value) :
    indentLines columns (dialect.quotedChars value) = dialect.quotedChars value := by
  refine (indent_lines_eq_iff columns _).mpr (.inr fun broken => ?_)
  simp only [Dialect.quotedChars, List.mem_cons, List.mem_append, List.mem_flatMap] at broken
  rcases broken with quote | ⟨c, member, same⟩ | quote
  · exact absurd quote (by decide)
  · rw [Dialect.quotedChar] at same
    split_ifs at same
    · exact absurd same (by decide)
    · exact absurd same (by decide)
    · exact unbroken (List.mem_singleton.mp same ▸ member)
  · exact absurd quote (by decide)

theorem indented_exchanged {old new : String} {first second : List Char} (columns : Nat)
    (unbroken : '\n' ∉ old.toList ∧ '\n' ∉ new.toList)
    (exchanged : Exchanged old new first second) :
    Exchanged old new (indentLines columns first) (indentLines columns second) := by
  induction exchanged with
  | same chars => exact .same _
  | literal before dialect later ih =>
      rw [indent_lines_append, indent_lines_append, indent_lines_append, indent_lines_append,
        literal_indented columns dialect unbroken.1, literal_indented columns dialect unbroken.2]
      exact .literal _ dialect ih

/-- Where the parts stand alike, what comes out is the same but for the values. -/
theorem shown_text_exchanged {old new : String} {parts others : List Part}
    (each : List.Forall₂ (PartExchanged old new) parts others)
    (alike : StandAlike old new parts others) :
    Exchanged old new (shownText parts) (shownText others) := by
  obtain ⟨shifts, unbroken⟩ := alike
  induction each with
  | nil => exact .same []
  | cons here _ ih =>
      rw [List.map_cons, List.map_cons] at shifts
      obtain ⟨shift, shifts⟩ := List.cons.inj shifts
      rw [List.forall_mem_cons] at unbroken
      have later := ih shifts (unbroken.imp_right And.right)
      refine Exchanged.append ?_ later
      cases here with
      | mark chars => exact .same []
      | text columns columnsOther exchanged =>
          obtain rfl : columns = columnsOther := shift
          rcases unbroken with unbroken | ⟨still, _⟩
          · exact indented_exchanged columns unbroken exchanged
          · obtain rfl : columns = 0 := still
            change Exchanged old new (indentLines 0 _) (indentLines 0 _)
            rw [indent_lines_zero, indent_lines_zero]
            exact exchanged

/-- Without a sub-query the whole text is one part, which stays where it is. -/
theorem stand_alike_of_unmarked {old new : String} {chars charsOther : List Char}
    {parts others : List Part} (parted : Parted 0 chars parts)
    (partedOther : Parted 0 charsOther others) (unmarked : hasMark beginStem chars = false)
    (each : List.Forall₂ (PartExchanged old new) parts others) :
    StandAlike old new parts others := by
  cases parted with
  | pair begun _ _ _ _ _ =>
      rw [hasMark, begun] at unmarked
      cases unmarked
  | plain _ _ =>
      cases partedOther with
      | pair _ _ _ _ _ _ =>
          cases each with
          | cons _ later => cases later
      | plain _ _ => exact ⟨rfl, .inr (by simp [Part.shift])⟩

/-- Two texts laid out part by part. -/
inductive LaidAlike (old new : String) (text textOther : String) : String → String → Prop where
  | of {laid laidOther : String} {parts others : List Part} (parted : Parted 0 text.toList parts)
      (partedOther : Parted 0 textOther.toList others) (shown : laid.toList = shownText parts)
      (shownOther : laidOther.toList = shownText others)
      (each : List.Forall₂ (PartExchanged old new) parts others) :
      LaidAlike old new text textOther laid laidOther

theorem layout_of_parted {sql : String} {parts : List Part} (parted : Parted 0 sql.toList parts) :
    layout sql = .ok (String.ofList (shownText parts)) := by
  rw [layout, layout_from_of_parted parted]
  rfl

theorem Unmarking.symm {old new : String} (unread : Unmarking old new) : Unmarking new old :=
  ⟨⟨unread.begins.toIsPlainMark, unread.begins.new, unread.begins.old⟩,
    ⟨unread.ends.toIsPlainMark, unread.ends.new, unread.ends.old⟩⟩

/-- A text with a value is laid out when the same text with another value is. -/
theorem layout_exchanged {old new : String} (unread : Unmarking old new) {first second : String}
    (exchanged : Exchanged old new first.toList second.toList)
    (quoteless : ∀ parts, Parted 0 first.toList parts → QuotelessMarks parts)
    (quotelessOther : ∀ parts, Parted 0 second.toList parts → QuotelessMarks parts) :
    Together (LaidAlike old new first second) (layout first) (layout second) := by
  by_cases known : ∃ parts, Parted 0 first.toList parts
  · obtain ⟨parts, parted⟩ := known
    obtain ⟨others, partedOther, each⟩ :=
      parted.exchanged unread (quoteless parts parted) exchanged 0
    rw [layout_of_parted parted, layout_of_parted partedOther]
    exact .accepted (.of parted partedOther String.toList_ofList String.toList_ofList each)
  · have unknown : ¬ ∃ others, Parted 0 second.toList others := by
      rintro ⟨others, parted⟩
      obtain ⟨parts, partedOther, _⟩ :=
        parted.exchanged unread.symm (quotelessOther others parted) exchanged.symm 0
      exact known ⟨parts, partedOther⟩
    have refused : ∀ {sql : String}, (¬ ∃ parts, Parted 0 sql.toList parts) →
        ∃ refusal, layout sql = .error refusal := by
      intro sql none
      refine refused_of_not_ok fun ⟨laid, accepted⟩ => ?_
      obtain ⟨chars, laidOut, _⟩ := map_eq_ok accepted
      exact none (parted_of_layout laidOut)
    obtain ⟨refusal, fails⟩ := refused known
    obtain ⟨other, failsToo⟩ := refused unknown
    rw [fails, failsToo]
    exact .refused

end SqlComposer.SubQuery
