import SqlComposer.Proofs.Membership
import SqlComposer.Proofs.ScopeGrowth

/-!
Registering a comparison of a column with an embedded list. The clauses go to the end of what is
held for their list: they are the whole list or its parts, or there are none because the value has
no elements.
-/
namespace SqlComposer.Statement

open Condition (Clause Holder Key LikeOption ListCondition ListTest OrScope Partition Split Target
  Terms)
open Registration

/-- Clauses at the end of what is held for a list: of the list itself or, while a scope is open, of
the terms of the innermost one. All other lists and terms stay. -/
inductive Appends (statement : Statement) (target : Target) (clauses : List Clause)
    (after : Statement) : Prop where
  | list (closed : statement.orScope.frames = []) (scopes : after.orScope = statement.orScope)
      (lists : ∀ other, after.listOf other =
        statement.listOf other ++ if other = target then clauses else [])
  | terms {frame next : Terms} {outer : List Terms}
      (frames : statement.orScope.frames = frame :: outer)
      (scopes : after.orScope = { statement.orScope with frames := next :: outer })
      (terms : ∀ other, next.clauses other =
        frame.clauses other ++
          if other = target then clauses.map statement.orScope.term else [])
      (lists : ∀ other, after.listOf other = statement.listOf other)

theorem appends_nothing (statement : Statement) (target : Target) :
    statement.Appends target [] statement := by
  cases frames : statement.orScope.frames with
  | nil => exact .list frames rfl fun other => by simp
  | cons frame outer =>
      have same : statement.orScope = { statement.orScope with frames := frame :: outer } := by
        rw [← frames]
      exact .terms frames same (fun other => by simp) fun other => rfl

theorem Placed.appends {statement after : Statement} {target : Target} {clause : Clause}
    (placed : Placed statement target clause after) :
    statement.Appends target [clause] after := by
  cases placed with
  | pushed frames =>
      exact .terms frames rfl (fun other => Condition.clauses_push _ _ _ _) fun other => rfl
  | appended closed kept =>
      obtain ⟨_, _, _, rfl, _, lists⟩ := append_clause_spec kept
      exact .list closed rfl lists

theorem ite_append_ite (holds : Prop) [Decidable holds] {α : Type} (first second : List α) :
    (if holds then first else []) ++ (if holds then second else []) =
      if holds then first ++ second else [] := by
  split_ifs <;> rfl

theorem Appends.trans {first second third : Statement} {target : Target}
    {clauses more : List Clause} (left : first.Appends target clauses second)
    (right : second.Appends target more third) : first.Appends target (clauses ++ more) third := by
  cases left with
  | list closed scopes lists =>
      cases right with
      | list _ scopesAgain listsAgain =>
          refine .list closed (scopesAgain.trans scopes) fun other => ?_
          rw [listsAgain, lists, List.append_assoc, ite_append_ite]
      | terms frames =>
          rw [scopes, closed] at frames
          cases frames
  | terms frames scopes terms lists =>
      cases right with
      | list closed =>
          rw [scopes] at closed
          cases closed
      | terms framesAgain scopesAgain termsAgain listsAgain =>
          rw [scopes] at framesAgain scopesAgain termsAgain
          obtain ⟨rfl, rfl⟩ := List.cons.inj framesAgain
          refine .terms frames scopesAgain (fun other => ?_) fun other =>
            (listsAgain other).trans (lists other)
          rw [termsAgain, terms, List.append_assoc, ite_append_ite, List.map_append]
          rfl

theorem Recorded.appends {statement after : Statement} {target : Target} {clauses : List Clause}
    (recorded : Recorded statement (clauses.map fun clause => (target, clause)) after) :
    statement.Appends target clauses after := by
  induction clauses generalizing statement with
  | nil =>
      cases recorded with
      | nil => exact appends_nothing _ target
  | cons clause rest ih =>
      cases recorded with
      | cons first later => exact first.appends.trans (ih later)

/-- The operations that compare a column with the values of a holder, each with the list that it
registers for and the column as it is written there. -/
inductive Compares (statement : Statement) (key : Key) (holder : Holder) :
    Operation → Target → ColumnRef → Prop where
  | condition {column : ColumnRef} :
      Compares statement key holder (.addCondition column key holder none) .main column
  | baseInline {name : String} {column : Column}
      (found : statement.table.requireColumn name = .ok column) :
      Compares statement key holder (.addBaseInline name key holder none) .baseInline
        (.qualified inlineAlias column.sqlName)
  | joinInline {aliasName name : String} {table : Table} {column : Column}
      (joined : aliasName ∈ statement.joins.keys)
      (known : statement.aliasTable aliasName = .ok table)
      (found : table.requireColumn name = .ok column) :
      Compares statement key holder (.addJoinCondition aliasName name key holder none false)
        (.joinInline aliasName) (.qualified inlineAlias column.sqlName)
  | joinOn {aliasName name : String} {table : Table} {column : Column}
      (joined : aliasName ∈ statement.joins.keys)
      (known : statement.aliasTable aliasName = .ok table)
      (found : table.requireColumn name = .ok column) :
      Compares statement key holder (.addJoinCondition aliasName name key holder none true)
        (.joinOn aliasName) (.qualified aliasName column.sqlName)

section

variable {statement : Statement} {key : Key} {holder : Holder} {operation : Operation}
  {target : Target} {column : ColumnRef}

theorem Compares.has_target (compares : statement.Compares key holder operation target column) :
    statement.HasTarget target := by
  cases compares with
  | condition | baseInline => trivial
  | joinInline joined _ _ | joinOn joined _ _ => exact joined

theorem Compares.outcome (compares : statement.Compares key holder operation target column) :
    operation.perform statement = (compare target column key holder none).outcome statement := by
  rw [Registration.perform_eq_outcome]
  cases compares with
  | condition => rfl
  | baseInline found =>
      change Registration.outcome (addBaseInline _ key holder none) statement = _
      rw [addBaseInline, outcome_bind_get, outcome_bind_lift, found]
  | joinInline joined known found | joinOn joined known found =>
      obtain ⟨join, required⟩ := require_join_of_mem joined
      change Registration.outcome (addJoinCondition _ _ key holder none _) statement = _
      rw [addJoinCondition, outcome_bind_get, outcome_bind_lift, required]
      dsimp only
      rw [outcome_bind_lift, known]
      dsimp only
      rw [outcome_bind_lift, found]
      rfl

theorem compare_outcome (allowed : statement.purpose.forbids .condition = false)
    {option? : Option LikeOption} :
    (compare target column key holder option?).outcome statement =
      match key.clauses statement.conditionMode column holder option? with
      | .ok clauses =>
          (registerClauses (clauses.map fun clause => (target, clause))).outcome statement
      | .error refusal => (.error refusal, statement) := by
  rw [compare, outcome_bind, outcome_allow, allowed, if_neg Bool.false_ne_true]
  dsimp only
  rw [outcome_bind_get, outcome_bind_lift]
  cases key.clauses statement.conditionMode column holder option? <;> rfl

theorem list_clauses_of_value (listed : key.isList = true) (embedded : holder.binding = .embedded)
    {value : Value} (given : holder.value? key = some value) (mode : Condition.Mode) :
    key.clauses mode column holder none =
      if value.isEmpty then
        if mode.refusesEmpty then .error (.illegalArgument (.missingValue key column.text))
        else .ok []
      else .ok (key.listClauses mode column value) := by
  have needed : key.needsValue = true := by
    cases key with
    | inScope | notInScope => rfl
    | _ => cases listed
  rw [Key.clauses, if_neg (by simp), if_neg (by simp [needed]), given, Option.filter_some]
  cases value.isEmpty with
  | true => rfl
  | false =>
      simp only [Bool.not_false, if_true, embedded, listed, Bool.false_eq_true, if_false]

theorem compare_empty (allowed : statement.purpose.forbids .condition = false)
    (compares : statement.Compares key holder operation target column)
    (listed : key.isList = true) (embedded : holder.binding = .embedded) {value : Value}
    (given : holder.value? key = some value) (empty : value.isEmpty = true) :
    operation.perform statement =
      (if statement.settings.refusesEmpty then
        .error (.illegalArgument (.missingValue key column.text)) else .ok (), statement) := by
  rw [compares.outcome, compare_outcome allowed, list_clauses_of_value listed embedded given,
    if_pos empty]
  have strict : statement.conditionMode.refusesEmpty = statement.settings.refusesEmpty := rfl
  rw [strict]
  cases statement.settings.refusesEmpty <;> rfl

theorem compare_filled (allowed : statement.purpose.forbids .condition = false)
    (compares : statement.Compares key holder operation target column)
    (listed : key.isList = true) (embedded : holder.binding = .embedded) {value : Value}
    (given : holder.value? key = some value) (filled : value.isEmpty = false) :
    (operation.perform statement).1 = .ok () ∧
      statement.Appends target (key.listClauses statement.conditionMode column value)
        (statement.after operation) := by
  have registers : operation.perform statement =
      (registerClauses ((key.listClauses statement.conditionMode column value).map
        fun clause => (target, clause))).outcome statement := by
    rw [compares.outcome, compare_outcome allowed, list_clauses_of_value listed embedded given,
      filled]
    rfl
  have there : ∀ entry ∈ (key.listClauses statement.conditionMode column value).map
      fun clause => (target, clause), statement.HasTarget entry.1 := by
    intro entry member
    obtain ⟨clause, _, rfl⟩ := List.mem_map.mp member
    exact compares.has_target
  obtain ⟨_, after, ran, recorded⟩ := register_clauses_completes _ statement there
  rw [Statement.after, registers, ran]
  exact ⟨rfl, recorded.appends⟩

/-- Texts that will be alternatives of one clause: whatever is done before the scope above a number
of others is closed, its clause for a list has them next to each other. -/
def Disjoins (statement : Statement) (depth : Nat) (target : Target) (texts : List String) : Prop :=
  ∀ run, statement.StaysAbove depth run →
    (statement.afterAll run).orScope.frames.length = depth + 1 →
    (Operation.closeOrScope.perform (statement.afterAll run)).1 = .ok () →
      ∃ before later, Clause.text (Condition.disjunction (before ++ texts ++ later)) ∈
        ((statement.afterAll run).after .closeOrScope).taken target

theorem Appends.disjoins {schema : Schema} {after : Statement} (reached : Reachable schema after)
    {clauses : List Clause} (appends : statement.Appends target clauses after)
    (outside : statement.orScope.andPart? = none) {frame : Terms} {outer : List Terms}
    (frames : statement.orScope.frames = frame :: outer)
    (plain : ∀ clause ∈ clauses, clause.andPart? = none) (some_clause : clauses ≠ []) :
    after.Disjoins outer.length target (clauses.map Clause.sql) := by
  intro run above innermost accepted
  cases appends with
  | list closed =>
      rw [closed] at frames
      cases frames
  | terms shape scopes terms _ =>
      obtain ⟨rfl, rfl⟩ := List.cons.inj (frames.symm.trans shape)
      have unlabelled : clauses.map statement.orScope.term = clauses := by
        have same : statement.orScope.term = id := by
          funext clause
          rw [OrScope.term, outside]
          rfl
        rw [same, List.map_id]
      have held := terms target
      rw [if_pos rfl, unlabelled] at held
      have top : after.orScope.frames = _ := congrArg OrScope.frames scopes
      obtain ⟨later, closed⟩ :=
        plain_terms_disjoined reached top held plain some_clause above innermost accepted
      exact ⟨_, later, closed⟩

theorem list_conditions_plain (column : ColumnRef) (conditions : List ListCondition) :
    ∀ clause ∈ conditions.map (ListCondition.clause column), clause.andPart? = none := by
  rw [List.forall_mem_map]
  rintro (own | tests | tests) _ <;> rfl

/-- A comparison with an embedded list either has no elements, and then it is ignored or refused, or
its clauses keep the list: their lists make up its elements within the limit, together they test
for the whole list, and what has been registered before stays in front of them. Terms of an or-scope
outside its and-parts will be alternatives of the clause that the scope leaves. -/
theorem list_comparison_keeps_list {schema : Schema} (reached : Reachable schema statement)
    (allowed : statement.purpose.forbids .condition = false)
    (compares : statement.Compares key holder operation target column)
    (listed : key.isList = true) (embedded : holder.binding = .embedded) {value : Value}
    (given : holder.value? key = some value) :
    (value.isEmpty = true ↔ value.effectiveElements = []) ∧
      (value.isEmpty = true → operation.perform statement =
        (if statement.settings.refusesEmpty then
          .error (.illegalArgument (.missingValue key column.text)) else .ok (), statement)) ∧
      (value.isEmpty = false → ∃ parts conditions,
        Partition statement.conditionMode.limit?
          (value.effectiveElements.map (Value.literal statement.dialect)) parts ∧
        Split key (statement.orScope.isOpen = true ∧ statement.orScope.inAndPart = false) parts
          conditions ∧
        (∀ equals, Condition.anyTruth (conditions.map (ListCondition.truth equals)) =
          ListTest.truth equals
            ⟨key, value.effectiveElements.map (Value.literal statement.dialect)⟩) ∧
        (operation.perform statement).1 = .ok () ∧
        statement.Appends target (conditions.map (ListCondition.clause column))
          (statement.after operation) ∧
        (statement.orScope.andPart? = none → ∀ frame outer,
          statement.orScope.frames = frame :: outer →
            (statement.after operation).Disjoins outer.length target
              ((conditions.map (ListCondition.clause column)).map Clause.sql))) := by
  refine ⟨(Value.effectiveElements_eq_nil_iff value).symm,
    compare_empty allowed compares listed embedded given, fun filled => ?_⟩
  obtain ⟨parts, conditions, partition, split, same⟩ :=
    Condition.list_clauses_split listed statement.conditionMode column filled
  obtain ⟨accepted, appends⟩ := compare_filled allowed compares listed embedded given filled
  have truth := fun equals => split.truth equals
  rw [partition.whole] at truth
  have some_clause : conditions.map (ListCondition.clause column) ≠ [] := by
    rw [ne_eq, List.map_eq_nil_iff]
    refine split.some_condition fun none => ?_
    have elements := partition.whole
    rw [none, List.flatten_nil, eq_comm, List.map_eq_nil_iff,
      Value.effectiveElements_eq_nil_iff, filled] at elements
    cases elements
  rw [same] at appends
  refine ⟨parts, conditions, partition, split, truth, accepted, appends, ?_⟩
  intro outside frame outer frames
  exact appends.disjoins (reached.after operation) outside frames
    (list_conditions_plain column conditions) some_clause

end

/-- Members in an open or-scope, with lists of at most two elements. -/
def scopedMember : Statement :=
  afterAll { newMember with settings := { listLimit? := some 2 } }
    [.openOrScope, .addConditionText "POINT > 0"]

theorem scoped_member_reachable : Reachable memberSchema scopedMember :=
  (Reachable.new (show ofTable memberSchema { listLimit? := some 2 } "MEMBER" .normalUse =
    .ok { newMember with settings := { listLimit? := some 2 } } from rfl)).afterAll _

def someMembers : Holder :=
  ({} : Holder).set .inScope (.list [.int 1, .null, .int 2, .text "", .int 3])

def amongMembers : Operation :=
  .addCondition (.qualified "dflocal" ⟨"MEMBER_ID"⟩) .inScope someMembers none

theorem three_members_split :
    ∃ (parts : List (List String)) (conditions : List ListCondition),
      Partition (some 2) ["1", "2", "3"] parts ∧
      (∀ equals, Condition.anyTruth (conditions.map (ListCondition.truth equals)) =
        ListTest.truth equals ⟨.inScope, ["1", "2", "3"]⟩) ∧
      scopedMember.Appends .main
        (conditions.map (ListCondition.clause (.qualified "dflocal" ⟨"MEMBER_ID"⟩)))
        (scopedMember.after amongMembers) := by
  obtain ⟨_, _, split⟩ := list_comparison_keeps_list scoped_member_reachable rfl
    (.condition : Compares scopedMember .inScope someMembers amongMembers .main _) rfl rfl rfl
  obtain ⟨parts, conditions, partition, _, truth, _, appends, _⟩ := split rfl
  exact ⟨parts, conditions, partition, truth, appends⟩

example :
    (afterAll scopedMember [amongMembers, .closeOrScope]).whereClause =
      " where (POINT > 0 or dflocal.MEMBER_ID in (1, 2) or dflocal.MEMBER_ID in (3))" := by
  decide +kernel

end SqlComposer.Statement
