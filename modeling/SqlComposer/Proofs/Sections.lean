import SqlComposer.Proofs.Filling
import SqlComposer.Proofs.HashFree

/-!
A statement with gaps as segments: the from clause, the where clause with its gap, and the segments
of every union branch behind its connector. The template of the statement and its union clause are
both written from them.
-/
namespace SqlComposer

open Condition (Clause)
open Template (Gap InSegments Segment filling unfilled write write_append write_cons)

/-- The word between a statement and a branch, without the space that belongs to the branch. -/
def connectorSegment (branch : UnionBranch) : Segment :=
  ⟨none, if branch.keepsDuplicates then " union all".toList else " union".toList⟩

theorem connector_segment_fit (branch : UnionBranch) : (connectorSegment branch).Fit := by
  have free : '#' ∉ (connectorSegment branch).rest := by
    unfold connectorSegment
    split_ifs <;> decide
  refine ⟨Template.unmarked_of_hashless free, Template.word_free_of_hashless free, fun _ => ?_,
    nofun⟩
  unfold connectorSegment
  split_ifs <;> exact ⟨_, rfl⟩

theorem connector_behind (branch : UnionBranch) (fill : Gap → List Char) (chars : List Char) :
    (connectorSegment branch).write fill ++ ' ' :: chars = branch.connector.toList ++ chars := by
  unfold connectorSegment UnionBranch.connector
  split_ifs <;> rfl

/-- The segments of the branches of a union, with those of their connectors. -/
inductive UnionSegments : List UnionBranch → List Segment → Prop where
  | nil : UnionSegments [] []
  | cons {branch : UnionBranch} {rest : List UnionBranch} {segments others : List Segment}
      (within : InSegments branch.text.toList segments) (later : UnionSegments rest others) :
      UnionSegments (branch :: rest) (connectorSegment branch :: (segments ++ others))

namespace UnionSegments

variable {branches : List UnionBranch} {segments : List Segment}

theorem fit (cut : UnionSegments branches segments) : ∀ segment ∈ segments, segment.Fit := by
  induction cut with
  | nil => exact nofun
  | @cons branch _ _ _ within _ ih =>
      intro segment member
      rcases List.mem_cons.mp member with rfl | member
      · exact connector_segment_fit branch
      · exact (List.mem_append.mp member).elim (within.fit segment) (ih segment)

theorem inner (cut : UnionSegments branches segments) :
    ∀ segment ∈ segments, segment.gap? ≠ some .whereClause ∧
      segment.gap? ≠ some .firstCondition := by
  induction cut with
  | nil => exact nofun
  | cons within _ ih =>
      intro segment member
      rcases List.mem_cons.mp member with rfl | member
      · exact ⟨nofun, nofun⟩
      · exact (List.mem_append.mp member).elim (within.inner segment) (ih segment)

theorem write_cons {branch : UnionBranch} (fill : Gap → List Char) {own others : List Segment}
    {chars : List Char} (shape : ' ' :: chars = write fill own) :
    write fill (connectorSegment branch :: (own ++ others)) =
      branch.connector.toList ++ chars ++ write fill others := by
  rw [Template.write_cons, write_append, ← shape, ← List.append_assoc, connector_behind]

theorem template (cut : UnionSegments branches segments) :
    (String.join (branches.map fun branch => branch.connector ++ branch.text)).toList =
      write unfilled segments := by
  induction cut with
  | nil => rfl
  | cons within _ ih =>
      rw [write_cons unfilled within.shape, ← ih, List.map_cons, String.join_cons,
        String.toList_append, String.toList_append]

/-- The branches of a template are filled as those of the statement are. -/
theorem clause (cut : UnionSegments branches segments) {select : String}
    (selects : HashFree select) :
    (String.join (branches.map fun branch => branch.connector ++ branch.filled select)).toList =
      write (filling select "") segments := by
  induction cut with
  | nil => rfl
  | cons within _ ih =>
      rw [write_cons _ (Template.filled_write within selects), ← ih, List.map_cons,
        String.join_cons, String.toList_append, String.toList_append]

end UnionSegments

/-- Two branches of which the second has in its where clause what is still to be filled into the
first one. -/
structure Early (condition : String) (first second : UnionBranch) : Prop where
  connector : second.keepsDuplicates = first.keepsDuplicates
  segments : ∃ segments others, InSegments first.text.toList segments ∧
    InSegments second.text.toList others ∧ ∀ select,
      write (filling select condition) segments = write (filling select "") others

theorem early_segments {condition : String} {firsts seconds : List UnionBranch}
    (each : List.Forall₂ (Early condition) firsts seconds) :
    ∃ segments others, UnionSegments firsts segments ∧ UnionSegments seconds others ∧
      ∀ select, write (filling select condition) segments = write (filling select "") others := by
  induction each with
  | nil => exact ⟨[], [], .nil, .nil, fun _ => rfl⟩
  | @cons first second _ _ here _ ih =>
      obtain ⟨segments, others, cut, cutOthers, agree⟩ := ih
      obtain ⟨own, other, within, withinOther, same⟩ := here.segments
      refine ⟨_, _, .cons within cut, .cons withinOther cutOthers, fun select => ?_⟩
      have connector : connectorSegment second = connectorSegment first := by
        rw [connectorSegment, connectorSegment, here.connector]
      rw [Template.write_cons, Template.write_cons, write_append, write_append, same, agree,
        connector]
      rfl

namespace Statement

/-- The from clause and the where clause, with what may come before them. -/
def openSegments (lead? : Option Gap) (whole first : Gap) (statement : Statement) :
    List Segment :=
  ⟨lead?, (statement.fromClause "").toList⟩ ::
    if statement.conditions.isEmpty then [⟨some whole, []⟩]
    else
      [⟨none, " where".toList⟩,
        ⟨some first, (Clause.joined " and " statement.conditions).toList⟩]

theorem from_clause_starts (statement : Statement) (hint : String) :
    ∃ chars, (statement.fromClause hint).toList = ' ' :: chars := by
  unfold fromClause
  simp only [String.toList_append]
  exact ⟨_, rfl⟩

theorem write_open_segments (lead? : Option Gap) (whole first : Gap) (statement : Statement) :
    write unfilled (statement.openSegments lead? whole first) =
      lead?.elim [] unfilled ++
        (statement.fromClause "" ++ statement.whereTemplate whole.text first.text).toList := by
  unfold openSegments whereTemplate
  split_ifs
  · simp [write, Segment.write, unfilled, Gap.mark]
  · simp [write, Segment.write, unfilled, Gap.mark]

/-- The two gaps for conditions: those of a statement, or those of a branch. -/
inductive ConditionGaps : Gap → Gap → Prop where
  | statement : ConditionGaps .whereClause .firstCondition
  | branch : ConditionGaps .unionWhere .unionFirstCondition

theorem ConditionGaps.filled {whole first : Gap} (gaps : ConditionGaps whole first)
    (select : String) {condition : String} (worded : condition.isEmpty = false) :
    filling select condition whole = ' ' :: ("where " ++ condition).toList ∧
      filling select condition first = ' ' :: (condition ++ " and ").toList := by
  have opened : (if condition.isEmpty = true then [] else ' ' :: ("where " ++ condition).toList) =
      ' ' :: ("where " ++ condition).toList := by rw [worded]; rfl
  have behind : (if condition.isEmpty = true then [' '] else ' ' :: (condition ++ " and ").toList) =
      ' ' :: (condition ++ " and ").toList := by rw [worded]; rfl
  cases gaps <;> exact ⟨opened, behind⟩

theorem ConditionGaps.closed {whole first : Gap} (gaps : ConditionGaps whole first)
    (select : String) : filling select "" first = [' '] := by
  cases gaps <;> rfl

theorem joined_cons (connector : String) (clause : Clause) (rest : List Clause) :
    Clause.joined connector (clause :: rest) =
      if rest.isEmpty then clause.sql
      else clause.sql ++ connector ++ Clause.joined connector rest := by
  cases rest <;> rfl

/-- The statement with a condition in front of the others. -/
def conditionFirst (condition : String) (statement : Statement) : Statement :=
  { statement with conditions := .text condition :: statement.conditions }

/-- The condition in the gap of a statement is the first one of its where clause, if that has it. -/
theorem open_segments_early {lead? : Option Gap} (leads : lead? = none ∨ lead? = some .unionSelect)
    {whole first : Gap} (gaps : ConditionGaps whole first) {statement other : Statement}
    (same : other.fromClause "" = statement.fromClause "")
    (texts : other.conditions.map Clause.sql = statement.conditions.map Clause.sql)
    {condition : String} (worded : condition.isEmpty = false) (select : String) :
    write (filling select condition) (statement.openSegments lead? whole first) =
      write (filling select "")
        ((other.conditionFirst condition).openSegments lead? whole first) := by
  have lead : lead?.elim [] (filling select condition) = lead?.elim [] (filling select "") := by
    rcases leads with rfl | rfl <;> rfl
  obtain ⟨filledWhole, filledFirst⟩ := gaps.filled select worded
  have closedFirst := gaps.closed select
  have joined : Clause.joined " and " other.conditions =
      Clause.joined " and " statement.conditions := by
    rw [Clause.joined, Clause.joined, texts]
  have empty : other.conditions.isEmpty = statement.conditions.isEmpty := by
    simpa using congrArg List.isEmpty texts
  have tables : (other.conditionFirst condition).fromClause "" = statement.fromClause "" := same
  have front : (other.conditionFirst condition).conditions =
      .text condition :: other.conditions := rfl
  unfold openSegments
  rw [tables, front, List.isEmpty_cons, joined_cons, joined, empty, Template.write_cons,
    Template.write_cons]
  congr 1
  · rw [Segment.write, lead]
    rfl
  · rw [if_neg Bool.false_ne_true]
    split_ifs <;>
      simp [write, Segment.write, filledWhole, filledFirst, closedFirst, Clause.sql]

theorem leading_segment_fit {lead? : Option Gap}
    (leads : lead? = none ∨ lead? = some .unionSelect) {text chars : List Char}
    (unmarked : Template.Unmarked text) (starts : text = ' ' :: chars) :
    Segment.Fit ⟨lead?, text⟩ := by
  refine ⟨unmarked, ?_, fun _ => ⟨chars, starts⟩, ?_⟩
  · rw [starts]
    exact Template.word_free_of_space chars
  · rintro gap rfl isWhole
    rcases leads with lead | lead
    · cases lead
    · obtain rfl := Option.some.inj lead
      cases isWhole

theorem open_segments_fit {lead? : Option Gap} (leads : lead? = none ∨ lead? = some .unionSelect)
    {whole first : Gap} (gaps : ConditionGaps whole first) {statement : Statement}
    (tables : Template.Unmarked (statement.fromClause "").toList)
    (filters : Clean (Clause.joined " and " statement.conditions)) :
    ∀ segment ∈ statement.openSegments lead? whole first, segment.Fit := by
  obtain ⟨chars, starts⟩ := statement.from_clause_starts ""
  have opening := leading_segment_fit leads tables starts
  have wholeFit : Segment.Fit ⟨some whole, []⟩ :=
    ⟨Template.unmarked_of_hashless nofun, Template.word_free_of_hashless nofun, nofun,
      fun _ _ _ => rfl⟩
  have word : Segment.Fit ⟨none, " where".toList⟩ :=
    ⟨Template.unmarked_of_hashless (by decide), Template.word_free_of_hashless (by decide),
      fun _ => ⟨_, rfl⟩, nofun⟩
  have behind : Segment.Fit ⟨some first, (Clause.joined " and " statement.conditions).toList⟩ := by
    refine ⟨filters.unmarked, filters.free, nofun, ?_⟩
    rintro gap same isWhole
    obtain rfl := Option.some.inj same
    cases gaps <;> cases isWhole
  unfold openSegments
  rw [List.forall_mem_cons]
  refine ⟨opening, ?_⟩
  split_ifs
  · simpa using wholeFit
  · simpa using ⟨word, behind⟩

theorem where_gapped_eq (statement : Statement) {segments : List Segment}
    (cut : UnionSegments statement.unions segments) :
    statement.whereGapped.toList =
      write unfilled (statement.openSegments none .whereClause .firstCondition ++ segments) := by
  rw [write_append, write_open_segments, ← cut.template, Option.elim_none, List.nil_append,
    ← String.toList_append]
  rfl

section

variable {statement : Statement} (tables : Template.Unmarked (statement.fromClause "").toList)
  (filters : Clean (Clause.joined " and " statement.conditions)) {segments : List Segment}
  (cut : UnionSegments statement.unions segments)

include tables filters cut

theorem all_segments_fit : ∀ segment ∈
    statement.openSegments none .whereClause .firstCondition ++ segments, segment.Fit := by
  intro segment member
  rcases List.mem_append.mp member with own | other
  · exact open_segments_fit (.inl rfl) .statement tables filters segment own
  · exact cut.fit segment other

theorem fill_where_gapped (select : String) {condition : String}
    (free : '#' ∉ (Text.trim condition).toList) :
    (Template.fill statement.whereGapped select condition).toList =
      select.toList ++ (write (filling select (Text.trim condition))
          (statement.openSegments none .whereClause .firstCondition) ++
        write (filling select (Text.trim condition)) segments) := by
  have fit := all_segments_fit tables filters cut
  rw [Template.fill_write fit (where_gapped_eq statement cut) free, write_append]

/-- The text of a branch is cut into its own segments and those of its branches. -/
theorem branch_in_segments :
    InSegments (Template.unionSelectGap ++ statement.unionGapped).toList
      (statement.openSegments (some .unionSelect) .unionWhere .unionFirstCondition ++
        segments) := by
  refine ⟨?_, ?_, ?_, ?_⟩
  · rw [write_append, write_open_segments, ← cut.template, Option.elim_some, List.append_assoc,
      ← String.toList_append, String.toList_append]
    rfl
  · intro segment member
    rcases List.mem_append.mp member with own | other
    · exact open_segments_fit (.inr rfl) .branch tables filters segment own
    · exact cut.fit segment other
  · intro segment member
    rcases List.mem_append.mp member with own | other
    · rcases List.mem_cons.mp own with rfl | later
      · exact ⟨nofun, nofun⟩
      · split_ifs at later
        · rw [List.mem_singleton.mp later]
          exact ⟨nofun, nofun⟩
        · rcases List.mem_cons.mp later with rfl | last
          · exact ⟨nofun, nofun⟩
          · rw [List.mem_singleton.mp last]
            exact ⟨nofun, nofun⟩
    · exact cut.inner segment other
  · exact ⟨_, _, rfl, fun gap same => by obtain rfl := Option.some.inj same; rfl⟩

end

end Statement

end SqlComposer
