import SqlComposer.Proofs.Gaps
import SqlComposer.Statement.Unions

/-!
Filling the gaps of a statement. The marks are replaced one after another, for a template and for
the branches of a union in different orders; either way every gap is filled with its own text, as if
all were filled at once.
-/
namespace SqlComposer.Template

open Text (afterMark? replaceChars)

theorem settled_unfilled (gap : Gap) : Settled gap (unfilled gap) := .unfilled

theorem settled_update {fill : Gap → List Char} (settled : ∀ gap, Settled gap (fill gap))
    {gap : Gap} {text : List Char} (fits : Settled gap text) (other : Gap) :
    Settled other (Function.update fill gap text other) := by
  by_cases same : other = gap
  · subst same
    rw [Function.update_self]
    exact fits
  · rw [Function.update_of_ne same]
    exact settled other

theorem to_list_replace (text mark replacement : String) :
    (Text.replace text mark replacement).toList =
      replaceChars mark.toList replacement.toList text.toList :=
  String.toList_ofList

section

variable {segments : List Segment} (fit : ∀ segment ∈ segments, segment.Fit)
  {fill : Gap → List Char} (settled : ∀ gap, Settled gap (fill gap)) {whole first : Gap}
  (different : first ≠ whole)
  (wholeUnfilled : fill whole = ' ' :: whole.mark)
  (firstUnfilled : fill first = ' ' :: first.mark)

include fit settled different wholeUnfilled firstUnfilled

theorem close_gaps_write (isWhole : whole.isWhole = true) {text : String}
    (shape : text.toList = write fill segments) :
    (closeGaps whole.text first.text text).toList =
      write (Function.update (Function.update fill whole []) first [' ']) segments := by
  have closed := settled_update settled (.closed isWhole)
  have spaced : (" " ++ whole.text).toList = ' ' :: whole.mark := String.toList_append
  have filled : Function.update fill whole [] whole ≠ ' ' :: whole.mark := by
    rw [Function.update_self]
    exact nofun
  have still : Function.update fill whole [] first = ' ' :: first.mark := by
    rw [Function.update_of_ne different]
    exact firstUnfilled
  simp only [closeGaps, to_list_replace, shape, spaced]
  change replaceChars first.mark [] (replaceChars whole.mark [] (replaceChars _ [] _)) = _
  rw [replace_spaced_mark settled wholeUnfilled [] fit, replace_filled closed filled [] fit,
    replace_mark closed still [] fit]

theorem add_condition_write {added text : String} (free : '#' ∉ added.toList)
    (shape : text.toList = write fill segments) :
    (addCondition whole.text first.text added text).toList =
      write (Function.update (Function.update fill whole (' ' :: ("where " ++ added).toList)) first
        (' ' :: (added ++ " and ").toList)) segments := by
  have clause : Settled whole (' ' :: ("where " ++ added).toList) := by
    refine .filled ?_
    rw [String.toList_append, List.mem_append, not_or]
    exact ⟨by decide, free⟩
  have still : Function.update fill whole (' ' :: ("where " ++ added).toList) first =
      ' ' :: first.mark := by
    rw [Function.update_of_ne different]
    exact firstUnfilled
  simp only [addCondition, to_list_replace, shape]
  change replaceChars first.mark _ (replaceChars whole.mark _ _) = _
  rw [replace_mark settled wholeUnfilled _ fit,
    replace_mark (settled_update settled clause) still _ fit]

end

/-- What comes in place of every gap and of the space before it, for a select clause and a trimmed
condition. -/
def filling (select condition : String) : Gap → List Char
  | .unionSelect => ' ' :: select.toList
  | .whereClause | .unionWhere =>
      if condition.isEmpty then [] else ' ' :: ("where " ++ condition).toList
  | .firstCondition | .unionFirstCondition =>
      if condition.isEmpty then [' '] else ' ' :: (condition ++ " and ").toList

theorem settled_clause {whole : Gap} (isWhole : whole.isWhole = true) {condition : String}
    (free : '#' ∉ condition.toList) :
    Settled whole (if condition.isEmpty then [] else ' ' :: ("where " ++ condition).toList) := by
  split_ifs
  · exact .closed isWhole
  · refine .filled ?_
    rw [String.toList_append, List.mem_append, not_or]
    exact ⟨by decide, free⟩

theorem settled_first (gap : Gap) {condition : String} (free : '#' ∉ condition.toList) :
    Settled gap (if condition.isEmpty then [' '] else ' ' :: (condition ++ " and ").toList) := by
  split_ifs
  · exact .filled List.not_mem_nil
  · refine .filled ?_
    rw [String.toList_append, List.mem_append, not_or]
    exact ⟨free, by decide⟩

theorem settled_filling {select condition : String} (selects : '#' ∉ select.toList)
    (free : '#' ∉ condition.toList) (gap : Gap) :
    Settled gap (filling select condition gap) := by
  cases gap with
  | unionSelect => exact .filled selects
  | whereClause | unionWhere => exact settled_clause rfl free
  | firstCondition | unionFirstCondition => exact settled_first _ free

section

variable {segments : List Segment} (fit : ∀ segment ∈ segments, segment.Fit)
  {fill : Gap → List Char} (settled : ∀ gap, Settled gap (fill gap)) {whole first : Gap}
  (isWhole : whole.isWhole = true) (different : first ≠ whole)
  (wholeUnfilled : fill whole = ' ' :: whole.mark) (firstUnfilled : fill first = ' ' :: first.mark)

/-- The two gaps for conditions of a statement or of a branch, closed or with a condition. -/
def filledPair (fill : Gap → List Char) (whole first : Gap) (condition : String) :
    Gap → List Char :=
  Function.update
    (Function.update fill whole
      (if condition.isEmpty then [] else ' ' :: ("where " ++ condition).toList))
    first (if condition.isEmpty then [' '] else ' ' :: (condition ++ " and ").toList)

include settled isWhole in
theorem settled_pair {condition : String} (free : '#' ∉ condition.toList) (gap : Gap) :
    Settled gap (filledPair fill whole first condition gap) :=
  settled_update (settled_update settled (settled_clause isWhole free)) (settled_first _ free) gap

include fit settled isWhole different wholeUnfilled firstUnfilled in
theorem pair_write {condition text : String} (free : '#' ∉ condition.toList)
    (shape : text.toList = write fill segments) :
    (if condition.isEmpty then closeGaps whole.text first.text text
      else addCondition whole.text first.text condition text).toList =
      write (filledPair fill whole first condition) segments := by
  unfold filledPair
  split_ifs with none
  · exact close_gaps_write fit settled different wholeUnfilled firstUnfilled isWhole shape
  · exact add_condition_write fit settled different wholeUnfilled firstUnfilled free shape

end

/-- Filling a template fills every gap on its own. -/
theorem fill_write {segments : List Segment} (fit : ∀ segment ∈ segments, segment.Fit)
    {template select condition : String} (shape : template.toList = write unfilled segments)
    (free : '#' ∉ (Text.trim condition).toList) :
    (fill template select condition).toList =
      select.toList ++ write (filling select (Text.trim condition)) segments := by
  generalize trimmed : Text.trim condition = added at free
  have own := pair_write fit settled_unfilled rfl
    (show Gap.firstCondition ≠ .whereClause by decide) rfl rfl free shape
  have settled : ∀ gap, Settled gap
      (filledPair unfilled .whereClause .firstCondition added gap) :=
    settled_pair settled_unfilled rfl free
  have both := pair_write fit settled rfl
    (show Gap.unionFirstCondition ≠ .unionWhere by decide) rfl rfl free own
  have done : ∀ gap, Settled gap
      (filledPair (filledPair unfilled .whereClause .firstCondition added) .unionWhere
        .unionFirstCondition added gap) :=
    settled_pair settled rfl free
  have all : Function.update
      (filledPair (filledPair unfilled .whereClause .firstCondition added) .unionWhere
        .unionFirstCondition added) .unionSelect (' ' :: select.toList) =
      filling select added := by
    funext gap
    cases gap <;> rfl
  have selected := replace_mark done
    (show _ = ' ' :: Gap.unionSelect.mark from rfl) select.toList fit
  rw [all] at selected
  unfold fill
  rw [trimmed, String.toList_append, to_list_replace, ← selected, ← both]
  split_ifs <;> rfl

/-- When no gap has its mark any more, there is none in the whole. -/
theorem unmarked_write {fill : Gap → List Char} (settled : ∀ gap, Settled gap (fill gap))
    (free : ∀ gap, '#' ∉ fill gap) {segments : List Segment}
    (fit : ∀ segment ∈ segments, segment.Fit) : Unmarked (write fill segments) := by
  induction segments with
  | nil => exact unmarked_of_hashless nofun
  | cons segment rest ih =>
      rw [List.forall_mem_cons] at fit
      have own : Unmarked (segment.write fill) := by
        refine fit.1.unmarked.behind ?_
        cases segment.gap? with
        | none => exact nofun
        | some gap => exact free gap
      have later := ih fit.2
      rw [write_cons]
      rcases write_cases settled fit.2 with empty | ⟨chars, shape⟩
      · rw [empty, List.append_nil]
        exact own
      · rw [shape] at later ⊢
        exact own.append (by decide) later

theorem hash_free_filling {select : String} (selects : '#' ∉ select.toList) (gap : Gap) :
    '#' ∉ filling select "" gap := by
  cases gap with
  | unionSelect =>
      have spaced : '#' ∉ ' ' :: select.toList := by simpa using selects
      exact spaced
  | whereClause | unionWhere | firstCondition | unionFirstCondition => simp [filling]

/-- The text of a union branch, cut into segments. The space that comes before it belongs to the
first one, and the gaps of the statement itself are not in it. -/
structure InSegments (text : List Char) (segments : List Segment) : Prop where
  shape : ' ' :: text = write unfilled segments
  fit : ∀ segment ∈ segments, segment.Fit
  inner : ∀ segment ∈ segments, segment.gap? ≠ some .whereClause ∧
    segment.gap? ≠ some .firstCondition
  leads : ∃ first rest, segments = first :: rest ∧ ∀ gap, first.gap? = some gap →
    gap.isWhole = false

/-- A segment that is no whole clause is not empty, and with no mark of one in it none starts there.
-/
theorem no_whole_at_start {fill : Gap → List Char} (settled : ∀ gap, Settled gap (fill gap))
    {first : Segment} {rest : List Segment} (fit : ∀ segment ∈ first :: rest, segment.Fit)
    (leads : ∀ gap, first.gap? = some gap → gap.isWhole = false) {whole : Gap}
    (isWhole : whole.isWhole = true) : ¬ ' ' :: whole.mark <+: write fill (first :: rest) := by
  rw [List.forall_mem_cons] at fit
  have other : first.gap? = some whole → fill whole ≠ ' ' :: whole.mark := by
    intro same
    rw [leads whole same] at isWhole
    cases isWhole
  have absent := fit.1.no_mark settled other
  have inside : ¬ ' ' :: whole.mark <+: first.write fill := fun present =>
    absent ((List.suffix_cons ' ' whole.mark).isInfix.trans present.isInfix)
  have some : first.write fill ≠ [] := by
    obtain ⟨gap?, text⟩ := first
    cases gap? with
    | none =>
        obtain ⟨chars, shape⟩ := fit.1.spaced rfl
        change text ≠ []
        rw [show text = _ from shape]
        exact List.cons_ne_nil _ _
    | some gap =>
        change fill gap ++ text ≠ []
        intro empty
        have shape := settled gap
        rw [(List.append_eq_nil_iff.mp empty).1] at shape
        cases shape with
        | closed closes =>
            rw [leads gap rfl] at closes
            cases closes
  rw [write_cons]
  intro present
  rcases write_cases settled fit.2 with empty | ⟨chars, shape⟩
  · rw [empty, List.append_nil] at present
    exact inside present
  · rw [shape] at present
    exact inside (Text.prefix_before (space_not_in_mark whole) some present)

theorem replace_behind_space {mark replacement text : String}
    (apart : ¬ mark.toList <+: ' ' :: text.toList) :
    Text.replace (" " ++ text) mark replacement = " " ++ Text.replace text mark replacement := by
  have absent : afterMark? mark.toList (' ' :: text.toList) = none := by
    by_contra found
    exact apart (Text.after_mark_ne_none_iff.mp found)
  apply String.toList_injective
  rw [String.toList_append, to_list_replace, to_list_replace, String.toList_append]
  exact Text.replace_chars_cons absent

theorem no_mark_at_space (gap : Gap) (chars : List Char) : ¬ gap.mark <+: ' ' :: chars := by
  intro present
  have found := Text.after_mark_ne_none_iff.mpr present
  cases gap <;> exact found rfl

/-- A branch is filled like the template that it stands in. -/
theorem filled_write {branch : UnionBranch} {segments : List Segment}
    (within : InSegments branch.text.toList segments) {select : String}
    (selects : '#' ∉ select.toList) :
    ' ' :: (branch.filled select).toList = write (filling select "") segments := by
  obtain ⟨shape, fit, inner, first, rest, rfl, leads⟩ := within
  have clause : Settled Gap.unionSelect (' ' :: select.toList) := .filled selects
  have settled := settled_update settled_unfilled clause
  have open_ : (" " ++ branch.text).toList = write unfilled (first :: rest) := by
    rw [String.toList_append]
    exact shape
  have selected : (" " ++ Text.replace branch.text unionSelectGap select).toList =
      write (Function.update unfilled .unionSelect (' ' :: select.toList)) (first :: rest) := by
    have leading : Text.replace (" " ++ branch.text) unionSelectGap select =
        " " ++ Text.replace branch.text unionSelectGap select :=
      replace_behind_space (no_mark_at_space .unionSelect _)
    have filled := replace_mark settled_unfilled
      (show unfilled .unionSelect = ' ' :: Gap.unionSelect.mark from rfl) select.toList fit
    rw [← leading, to_list_replace, open_]
    exact filled
  have closed := close_gaps_write fit settled
    (show Gap.unionFirstCondition ≠ .unionWhere by decide) rfl rfl rfl selected
  have moved : closeGaps unionWhereGap unionConditionGap
      (" " ++ Text.replace branch.text unionSelectGap select) = " " ++ branch.filled select := by
    unfold closeGaps UnionBranch.filled closeGaps
    have start : ¬ (" " ++ unionWhereGap).toList <+:
        ' ' :: (Text.replace branch.text unionSelectGap select).toList := by
      have absent :=
        no_whole_at_start settled fit leads (show Gap.unionWhere.isWhole = true from rfl)
      rw [← selected, String.toList_append] at absent
      exact absent
    rw [replace_behind_space start]
    refine (congrArg (Text.replace · _ _)
      (replace_behind_space (no_mark_at_space .unionWhere _))).trans ?_
    exact replace_behind_space (no_mark_at_space .unionFirstCondition _)
  have written := (congrArg String.toList moved).symm.trans closed
  rw [String.toList_append] at written
  refine written.trans ?_
  refine List.flatMap_congr fun segment member => ?_
  obtain ⟨gap?, text⟩ := segment
  have own := inner _ member
  cases gap? with
  | none => rfl
  | some gap =>
      cases gap with
      | whereClause => exact absurd rfl own.1
      | firstCondition => exact absurd rfl own.2
      | _ => rfl

end SqlComposer.Template
