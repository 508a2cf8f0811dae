import SqlComposer.Proofs.DirectForm
import SqlComposer.Proofs.TemplatePath

/-!
A condition filled into a template and the same condition registered before. The run that registers
it first has it in front of the where clause, in the statement and in every branch, exactly where
the gaps of the other run are.
-/
namespace SqlComposer.Statement

open Condition (Clause)
open Template (Gap InSegments Unmarked fill filling unfilled write)

/-- The statement after a condition is added and moved to the front. -/
def withCondition (condition : String) (statement : Statement) : Statement :=
  statement.afterAll [.addConditionText condition, .moveLastConditionFirst]

theorem after_move {statement : Statement} {init : List Clause} {last : Clause}
    (ends : statement.conditions = init ++ [last]) :
    statement.after .moveLastConditionFirst = { statement with conditions := last :: init } := by
  have ended : statement.conditions.getLast? = some last := by
    rw [ends, List.getLast?_concat]
  have begins : statement.conditions.dropLast = init := by
    rw [ends, List.dropLast_concat]
  rw [← begins]
  change (moveLastConditionFirst.run statement).2 = _
  simp only [moveLastConditionFirst, modify, modifyGet, MonadStateOf.modifyGet, ExceptT.run,
    monadLift, MonadLift.monadLift, ExceptT.lift, ExceptT.mk, StateT.modifyGet, Functor.map,
    StateT.map, bind, pure, ended]

theorem with_condition_eq {condition : String} (worded : Text.isBlank condition = false)
    {statement : Statement} (closed : statement.orScope.isOpen = false)
    (allowed : statement.purpose.forbids .condition = false) :
    statement.withCondition condition = statement.conditionFirst condition := by
  have frames : statement.orScope.frames = [] :=
    List.isEmpty_iff.mp (by simpa [Condition.OrScope.isOpen] using closed)
  have added : statement.after (.addConditionText condition) =
      { statement with conditions := statement.conditions ++ [.text condition] } := by
    rw [after_condition_text worded allowed, placeMain, frames]
  change (statement.after (.addConditionText condition)).after .moveLastConditionFirst = _
  rw [added]
  exact after_move rfl

/-- Two runs without number signs that differ in their branches: the second one has a condition in
front of each. The branches are runs without number signs and without branches themselves. -/
inductive EarlyRun (condition : String) : Schema → Statement → Statement → Prop where
  | new {schema : Schema} {settings : Settings} {tableName : String} {purpose : Purpose}
      {statement : Statement} (names : schema.HashFree)
      (created : ofTable schema settings tableName purpose = .ok statement) :
      EarlyRun condition schema statement statement
  | withResolver {schema : Schema} {statement other : Statement}
      (runs : EarlyRun condition schema statement other) (resolver : FixedCondition.Resolver) :
      EarlyRun condition schema { statement with resolver } { other with resolver }
  | nested {schema : Schema} {outer statement : Statement} {tableName : String}
      {purpose : Purpose} (names : schema.HashFree) (reached : Reachable schema outer)
      (created : outer.nested tableName purpose = .ok statement) :
      EarlyRun condition schema statement statement
  | after {schema : Schema} {statement other : Statement}
      (runs : EarlyRun condition schema statement other) {operation : Operation}
      (admits : statement.Admits operation) :
      EarlyRun condition schema (statement.after operation) (other.after operation)
  | union {schema branchSchema : Schema} {statement other branch : Statement}
      (runs : EarlyRun condition schema statement other)
      (branchRun : HashFreeRun branchSchema branch) (single : branch.unions = [])
      (closed : branch.orScope.isOpen = false)
      (allowed : branch.purpose.forbids .condition = false) (keepsDuplicates : Bool) :
      EarlyRun condition schema (statement.after (.addUnion branch keepsDuplicates))
        (other.after (.addUnion (branch.withCondition condition) keepsDuplicates))

/-- The run that fills its template is one without number signs. -/
theorem EarlyRun.late {condition : String} {schema : Schema} {statement other : Statement}
    (runs : EarlyRun condition schema statement other) : HashFreeRun schema statement := by
  induction runs with
  | new names created => exact .new names created
  | withResolver _ resolver ih => exact .withResolver ih resolver
  | nested names reached created => exact .nested names reached created
  | after _ admits ih => exact .after ih admits
  | union _ branchRun _ _ _ keepsDuplicates ih => exact .union ih branchRun keepsDuplicates

theorem texts_of_kept {property : String → Prop} {firsts seconds : List Clause}
    (each : List.Forall₂ (Alike (Kept property)) firsts seconds) :
    seconds.map Clause.sql = firsts.map Clause.sql := by
  induction each with
  | nil => rfl
  | cons here _ ih => rw [List.map_cons, List.map_cons, ih, here.texts.1]

theorem Coupled.conditions {likeness : Likeness} {first second : Statement}
    (coupled : Coupled likeness first second) :
    List.Forall₂ (Alike likeness.texts) first.conditions second.conditions := by
  obtain ⟨mains, _, _, _, _⟩ := coupled
  exact mains

theorem clean_with_condition {condition : String} (free : HashFree condition)
    {clauses : List Clause} (clean : Clean (Clause.joined " and " clauses)) :
    Clean (Clause.joined " and " (.text condition :: clauses)) := by
  have first : Kept Clean condition condition := ⟨rfl, free.clean⟩
  rw [joined_cons]
  split_ifs
  · exact free.clean
  · exact (clean_carries.across first (by decide) (by decide) ⟨rfl, clean⟩).2

theorem not_empty_of_not_blank {text : String} (worded : Text.isBlank text = false) :
    text.isEmpty = false := by
  by_contra empty
  rw [Bool.not_eq_false, String.isEmpty_iff] at empty
  subst empty
  cases worded

section

variable {condition : String} (worded : Text.isBlank condition = false)
  (free : HashFree condition)

include worded free

/-- A branch with the condition in front of it is the one that it is filled into. -/
theorem early_branch {branch : Statement} {schema : Schema} (run : HashFreeRun schema branch)
    (single : branch.unions = []) (closed : branch.orScope.isOpen = false)
    (allowed : branch.purpose.forbids .condition = false) (keepsDuplicates : Bool) :
    Early condition ⟨Template.unionSelectGap ++ branch.unionGapped, keepsDuplicates⟩
      ⟨Template.unionSelectGap ++ (branch.withCondition condition).unionGapped,
        keepsDuplicates⟩ := by
  have tables := (from_clause_kept run.coupled run.names).2
  have filters := (conditions_kept run.coupled).2
  rw [with_condition_eq worded closed allowed]
  have cut : UnionSegments branch.unions [] := by
    rw [single]
    exact .nil
  have late := branch_in_segments tables filters cut
  have early := @branch_in_segments (branch.conditionFirst condition) tables
    (clean_with_condition free filters) [] cut
  refine ⟨rfl, _, _, late, early, fun select => ?_⟩
  rw [List.append_nil, List.append_nil]
  exact open_segments_early (.inr rfl) .branch rfl rfl (not_empty_of_not_blank worded) select

/-- In the two runs the branches are what their templates are filled to. -/
theorem EarlyRun.coupled {schema : Schema} {statement other : Statement}
    (runs : EarlyRun condition schema statement other) :
    Coupled (cleanLikeness (Early condition)) statement other := by
  induction runs with
  | new _ created => exact coupled_of_created created
  | withResolver _ resolver ih => exact ih.with_resolver resolver
  | nested _ _ created => exact coupled_of_created (create_of_nested created)
  | after runs admits ih => exact ih.after clean_carries (matches_of_admits runs.late.names admits)
  | union _ branchRun single closed allowed keepsDuplicates ih =>
      have early := early_branch worded free branchRun single closed allowed keepsDuplicates
      exact ih.after clean_carries ⟨_, rfl, early⟩

/-- A template that is filled with a condition is the one of the run that registers it first. -/
theorem fill_of_early_run (trimmed : Text.trim condition = condition) {schema : Schema}
    {statement other : Statement} (runs : EarlyRun condition schema statement other)
    (closed : statement.orScope.isOpen = false)
    (allowed : statement.purpose.forbids .condition = false) (select : String) :
    fill statement.whereGapped select condition =
      fill (other.withCondition condition).whereGapped select "" := by
  have coupled := runs.coupled worded free
  obtain ⟨same, tables⟩ := from_clause_kept coupled runs.late.names
  obtain ⟨joined, filters⟩ := conditions_kept coupled
  have filtersOther := filters
  rw [← joined] at filtersOther
  have closedOther : other.orScope.isOpen = false := coupled.scopes.is_open.trans closed
  have allowedOther : other.purpose.forbids .condition = false := coupled.purpose ▸ allowed
  rw [with_condition_eq worded closedOther allowedOther]
  obtain ⟨segments, others, cut, cutOthers, agree⟩ := early_segments coupled.branches
  have late := fill_where_gapped tables filters cut select
    (show '#' ∉ (Text.trim condition).toList from trimmed.symm ▸ free)
  have early := @fill_where_gapped (other.conditionFirst condition) (same ▸ tables)
    (clean_with_condition free filtersOther) others cutOthers select "" (by decide)
  have written := open_segments_early (.inl rfl) .statement same
    (texts_of_kept coupled.conditions) (not_empty_of_not_blank worded) select
  have nothing : Text.trim "" = "" := by decide
  apply String.toList_injective
  rw [late, early, trimmed, nothing, written, agree]

end

/-- The divided members with a condition in front of the one of the branch. -/
def dividedEarly : Statement :=
  (newMember.after uninvited).after (.addUnion (invitedMembers.withCondition "MEMBER_ID > 9") false)

theorem divided_members_early :
    EarlyRun "MEMBER_ID > 9" memberSchema dividedMembers dividedEarly := by
  have created : EarlyRun "MEMBER_ID > 9" memberSchema newMember newMember :=
    .new member_schema_hash_free
      (show ofTable memberSchema {} "MEMBER" .normalUse = .ok newMember from rfl)
  exact .union (created.after uninvited_admitted) invited_members_run rfl rfl rfl false

theorem fill_of_divided_members :
    fill dividedMembers.whereGapped "select 1" "MEMBER_ID > 9" =
      fill (dividedEarly.withCondition "MEMBER_ID > 9").whereGapped "select 1" "" :=
  have state : dividedMembers.orScope.isOpen = false ∧
      dividedMembers.purpose.forbids .condition = false := by decide +kernel
  fill_of_early_run (by decide) (by decide) (by decide) divided_members_early state.1 state.2 _

theorem where_gapped_of_none {statement : Statement} (bare : statement.conditions = [])
    (single : statement.unions = []) :
    statement.whereGapped = statement.fromClause "" ++ " #df:whereClause#" := by
  rw [whereGapped, gapped, whereTemplate, bare, unionTemplate, single]
  exact String.append_empty

theorem where_gapped_of_one {statement : Statement} {clause : Clause}
    (only : statement.conditions = [clause]) (single : statement.unions = []) :
    statement.whereGapped =
      statement.fromClause "" ++ (" where " ++ Template.conditionGap ++ clause.sql) := by
  rw [whereGapped, gapped, whereTemplate, only, unionTemplate, single]
  exact String.append_empty

set_option maxRecDepth 2000 in
theorem dated_filled_apart {source : String} (same : source = datedSource) :
    fill (source ++ " #df:whereClause#") "select 1" "1 = 1" ≠
      fill (source ++ (" where " ++ Template.conditionGap ++ "1 = 1")) "select 1" "" := by
  have opened : datedSource.toList = _ := String.toList_append.trans
    (congrArg₂ (· ++ ·) String.toList_ofList String.toList_ofList)
  have chars : source.toList = _ := (congrArg String.toList same).trans opened
  have worded : (Text.trim "1 = 1").isEmpty = false := by decide
  have blank : (Text.trim "").isEmpty = true := by decide
  intro equal
  have filled := congrArg String.toList equal
  simp only [fill, worded, blank, Bool.false_eq_true, if_true, if_false, Template.closeGaps,
    Template.addCondition, Template.to_list_replace, String.toList_append, chars] at filled
  revert filled
  decide +kernel

/-- The condition is put between the days of the join as well when it is filled in. -/
theorem condition_between_days :
    let statement := datedMember.afterAll datedRun
    datedSchema.HashFree ∧ HashFree datedCondition ∧ Reachable datedSchema statement ∧
      statement.unions = [] ∧ statement.orScope.isOpen = false ∧
      statement.purpose.forbids .condition = false ∧
      fill statement.whereGapped "select 1" "1 = 1" ≠
        fill (statement.withCondition "1 = 1").whereGapped "select 1" "" := by
  intro statement
  have created : Reachable datedSchema datedMember :=
    .new (show ofTable datedSchema { dialect := .msAccess } "MEMBER" .normalUse = .ok datedMember
      from rfl)
  have shape : statement.unions = [] ∧ statement.orScope.isOpen = false ∧
      statement.purpose.forbids .condition = false ∧ statement.conditions = [] := by
    rw [show statement = _ from dated_run_eq]
    exact ⟨rfl, rfl, rfl, rfl⟩
  obtain ⟨single, closed, allowed, bare⟩ := shape
  refine ⟨member_schema_hash_free, by decide, created.afterAll datedRun, single, closed, allowed,
    ?_⟩
  have late := where_gapped_of_none bare single
  have early := @where_gapped_of_one (statement.conditionFirst "1 = 1") (.text "1 = 1")
    (congrArg (Clause.text "1 = 1" :: ·) bare) single
  rw [with_condition_eq (by decide) closed allowed, late, early]
  exact dated_filled_apart dated_source_eq

end SqlComposer.Statement
