import SqlComposer.Proofs.DeclaredAliases
import SqlComposer.Proofs.HashFree
import SqlComposer.Proofs.HeldClauses

/-!
What the purpose of a statement rules out is never in it. A registration that the purpose forbids is
refused before it writes, and no other registration writes what it would have written. A statement
inside another one forbids everything behind its where clause but the lock, and its select clause
writes no aliases.
-/
namespace SqlComposer.Statement

open Condition (Clause Terms)

theorem inherited_const (holds : Prop) : Condition.Inherited fun _ => holds where
  part _ _ known := known
  flatten clauses some_clause each := by
    obtain ⟨clause, member⟩ := List.exists_mem_of_ne_nil clauses some_clause
    exact each clause member

/-- Every clause of a statement is there with the leave of its purpose. -/
def ConditionsAllowed (statement : Statement) : Prop :=
  statement.Holds fun _ => statement.purpose.forbids .condition = false

theorem Effect.conditions_allowed {statement after : Statement} {operation : Operation}
    (effect : Effect statement operation after) (known : statement.ConditionsAllowed) :
    after.ConditionsAllowed := by
  unfold ConditionsAllowed
  rw [effect.same_origin.purpose]
  refine effect.holds (inherited_const _) (fun entry member => ?_) known
  cases effect with
  | recorded _ allowed _ _ => exact allowed
  | _ => cases member

theorem Reachable.conditions_allowed {schema : Schema} {statement : Statement}
    (reached : Reachable schema statement) : statement.ConditionsAllowed := by
  have holds : statement.schema = schema ∧ statement.ScopesJoined ∧
      statement.ConditionsAllowed := by
    refine reachable_invariant ?_ ?_ ?_ reached
    · intro settings resolver tableName purpose level statement created
      exact holds_of_new created
    · intro statement resolver known
      exact ⟨known.conditions, known.baseInline, known.joins, known.scopes⟩
    · intro statement operation after _ known effect
      exact effect.conditions_allowed known
  exact holds.2.2

/-- No list, no inline view and no open or-scope of a statement has a clause. -/
structure Unfiltered (statement : Statement) : Prop where
  conditions : statement.conditions = []
  baseInline : statement.baseInline = []
  joins : ∀ join ∈ statement.joins.values, join.inlineClauses = [] ∧ join.onClauses = []
  scopes : ∀ frame ∈ statement.orScope.frames, frame = OrderedMap.empty

theorem Holds.unfiltered {statement : Statement} {holds : Prop}
    (known : statement.Holds fun _ => holds) (fails : ¬ holds) : statement.Unfiltered := by
  have empty : ∀ clauses : List Clause, (∀ clause ∈ clauses, holds) → clauses = [] := by
    intro clauses each
    exact List.eq_nil_iff_forall_not_mem.mpr fun clause member => fails (each clause member)
  refine ⟨empty _ known.conditions, empty _ known.baseInline, fun join member => ?_,
    fun frame member => ?_⟩
  · obtain ⟨inline, on⟩ := known.joins join member
    exact ⟨empty _ inline, empty _ on⟩
  · obtain ⟨entries⟩ := frame
    have none : entries = [] := by
      rw [List.eq_nil_iff_forall_not_mem]
      intro entry present
      obtain ⟨some_clause, each⟩ := known.scopes _ member entry present
      exact some_clause (empty _ each)
    rw [none]
    rfl

/-- Order, window and selected columns as far as the purpose allows them. -/
structure SelectsPermitted (statement : Statement) : Prop where
  order : statement.purpose.forbids .order = true → statement.order.elements = []
  paging : statement.purpose.forbids .paging = true → statement.fetch.isSet = false
  relations : statement.purpose.forbids .relationSelect = true →
    statement.selectedRelations = OrderedMap.empty
  specified : statement.purpose.forbids .relationColumn = true →
    ∀ entry ∈ statement.specifiedColumns.entries, entry.1 = statement.baseAlias ∧
      ∀ name ∈ entry.2, ∃ column ∈ statement.table.columns, column.name = name
  single : statement.purpose.forbids .secondColumn = true → statement.specifiedCount ≤ 1

theorem not_forbidden {statement : Statement} {registration : Restricted}
    (allowed : statement.purpose.forbids registration = false) {conclusion : Prop} :
    statement.purpose.forbids registration = true → conclusion := by
  rw [allowed]
  exact nofun

theorem specified_count_alter (statement : Statement) (aliasName name : String) :
    specifiedCount { statement with
      specifiedColumns := statement.specifiedColumns.alter aliasName [] (· ++ [name]) } =
      statement.specifiedCount + 1 := by
  simp only [specifiedCount, OrderedMap.values, OrderedMap.alter]
  induction statement.specifiedColumns.entries with
  | nil => rfl
  | cons entry rest ih =>
      rw [OrderedMap.alterEntry]
      split_ifs
      · simp
        omega
      · simp_all
        omega

theorem SelectsPermitted.specify {statement : Statement} (permitted : statement.SelectsPermitted)
    {aliasName name : String} {table : Table} {column : Column}
    (specifiable : statement.specifiableTable aliasName = .ok table)
    (found : table.requireColumn name = .ok column)
    (room : 0 < statement.specifiedCount → statement.purpose.forbids .secondColumn = false) :
    SelectsPermitted { statement with
      specifiedColumns :=
        statement.specifiedColumns.alter aliasName [] (· ++ [column.name]) } := by
  refine ⟨permitted.order, permitted.paging, permitted.relations, fun forbidden => ?_,
    fun forbidden => ?_⟩
  · have base : aliasName = statement.baseAlias := by
      unfold specifiableTable at specifiable
      split_ifs at specifiable with base
      · exact base
    rw [specifiableTable, if_pos base] at specifiable
    obtain rfl := Except.ok.inj specifiable
    have known := permitted.specified forbidden
    rw [OrderedMap.alter_eq_insert]
    intro entry member
    rcases OrderedMap.mem_entries_insert member with old | rfl
    · exact known entry old
    · refine ⟨base, fun specified present => ?_⟩
      rcases List.mem_append.mp present with before | here
      · cases old : statement.specifiedColumns.find? aliasName with
        | none => simp [old] at before
        | some names =>
            have entered := OrderedMap.mem_of_find?_eq_some old
            exact (known _ entered).2 specified (by simpa [old] using before)
      · rw [List.mem_singleton.mp here]
        exact ⟨column, Table.mem_columns_of_required found, rfl⟩
  · rw [specified_count_alter]
    have none : ¬ 0 < statement.specifiedCount := fun some => by
      rw [room some] at forbidden
      cases forbidden
    omega

theorem Effect.selects_permitted {statement after : Statement} {operation : Operation}
    (effect : Effect statement operation after) (permitted : statement.SelectsPermitted) :
    after.SelectsPermitted := by
  obtain ⟨order, paging, relations, specified, single⟩ := permitted
  cases effect with
  | selectRelation allowed _ _ =>
      exact ⟨order, paging, not_forbidden allowed, specified, single⟩
  | specify specifiable found _ room =>
      exact SelectsPermitted.specify ⟨order, paging, relations, specified, single⟩ specifiable
        found room
  | recorded _ _ _ record | closeOrScope _ record =>
      obtain ⟨_, _, _, _, rfl, _⟩ := record.frame
      exact ⟨order, paging, relations, specified, single⟩
  | orderBy allowed _ | reverseOrReplaceOrder allowed _ | placeNulls allowed _
  | rankManually allowed _ _ | orderByDerived allowed _ =>
      exact ⟨not_forbidden allowed, paging, relations, specified, single⟩
  | clearOrder => exact ⟨fun _ => rfl, paging, relations, specified, single⟩
  | fetchFirst allowed _ | fetchPage allowed _ _ _ | fetchScope allowed _ _ _ =>
      exact ⟨order, not_forbidden allowed, relations, specified, single⟩
  | _ => exact ⟨order, paging, relations, specified, single⟩

theorem Reachable.selects_permitted {schema : Schema} {statement : Statement}
    (reached : Reachable schema statement) : statement.SelectsPermitted := by
  have holds : statement.schema = schema ∧ statement.ScopesJoined ∧
      statement.SelectsPermitted := by
    refine reachable_invariant ?_ ?_ ?_ reached
    · intro settings resolver tableName purpose level statement created
      obtain ⟨table, _, rfl⟩ := create_eq_ok created
      exact ⟨fun _ => rfl, fun _ => rfl, fun _ => rfl, fun _ => nofun, fun _ => Nat.zero_le 1⟩
    · intro statement resolver known
      exact ⟨known.order, known.paging, known.relations, known.specified, known.single⟩
    · intro statement operation after _ known effect
      exact effect.selects_permitted known
  exact holds.2.2

/-- A statement has nothing of what its purpose forbids. -/
structure WithinPurpose (statement : Statement) : Prop where
  condition : statement.purpose.forbids .condition = true → statement.Unfiltered
  order : statement.purpose.forbids .order = true → statement.order.elements = []
  union : statement.purpose.forbids .union = true → statement.unions = []
  paging : statement.purpose.forbids .paging = true → statement.fetch.isEffective = false
  relationSelect : statement.purpose.forbids .relationSelect = true →
    statement.selectedRelations = OrderedMap.empty
  derivedColumn : statement.purpose.forbids .derivedColumn = true →
    statement.derivedColumns = OrderedMap.empty
  relationColumn : statement.purpose.forbids .relationColumn = true →
    ∀ entry ∈ statement.specifiedColumns.entries, entry.1 = statement.baseAlias ∧
      ∀ name ∈ entry.2, ∃ column ∈ statement.table.columns, column.name = name
  secondColumn : statement.purpose.forbids .secondColumn = true → statement.specifiedCount ≤ 1

theorem Reachable.within_purpose {schema : Schema} {statement : Statement}
    (reached : Reachable schema statement) : statement.WithinPurpose := by
  have permitted := reached.permitted
  have selects := reached.selects_permitted
  refine ⟨fun forbidden => ?_, selects.order, fun forbidden => ?_, fun forbidden => ?_,
    selects.relations, fun forbidden => ?_, selects.specified, selects.single⟩
  · refine reached.conditions_allowed.unfiltered fun allowed => ?_
    rw [forbidden] at allowed
    cases allowed
  · by_contra some_branch
    exact not_forbidden (permitted.unions some_branch) forbidden
  · rw [FetchScope.isEffective, selects.paging forbidden]
    rfl
  · by_contra some_column
    refine not_forbidden (permitted.derived fun none => some_column ?_) forbidden
    exact congrArg OrderedMap.mk (List.map_eq_nil_iff.mp none)

/-- Only a sub-query is nested in another statement. -/
theorem Reachable.sub_query_of_level {schema : Schema} {statement : Statement}
    (reached : Reachable schema statement) (inside : statement.level ≠ 0) :
    statement.purpose.isSubQuery = true := by
  induction reached with
  | new created =>
      obtain ⟨_, _, rfl⟩ := create_eq_ok created
      exact absurd rfl inside
  | withResolver _ _ ih => exact ih inside
  | nested _ created _ =>
      unfold Statement.nested at created
      split_ifs at created with subQuery
      obtain ⟨_, _, rfl⟩ := create_eq_ok created
      exact subQuery
  | after reached operation ih =>
      rcases after_cases reached.scopes_joined operation with ⟨_, same⟩ | ⟨_, effect⟩
      · rw [same] at inside ⊢
        exact ih inside
      · rw [effect.same_origin.level] at inside
        rw [effect.same_origin.purpose]
        exact ih inside

/-- The select clause of a sub-query: the columns of its base table without aliases, or an aggregate
of the rows or of one column. -/
inductive BareSelect (statement : Statement) : String → Prop where
  | list (listed : statement.selectType = .columns) :
      BareSelect statement
        ("select " ++ Text.join ", " (statement.baseEntries.map SelectEntry.expression))
  | count (counts : statement.selectType = .count) : BareSelect statement "select count(*)"
  | aggregate {function column : String} (calls : statement.selectType.function? = some function)
      (found : statement.onlySpecified = .ok column) :
      BareSelect statement ("select " ++ function ++ "(" ++ column ++ ")")

theorem forbids_of_sub_query {purpose : Purpose} (subQuery : purpose.isSubQuery = true)
    {registration : Restricted} (other : registration ≠ .condition) :
    purpose.forbids registration = true := by
  cases registration with
  | condition => exact absurd rfl other
  | _ =>
      revert subQuery
      cases purpose <;> decide

/-- A statement without unions, order and window whose select list is that of its base table. -/
structure Bare (statement : Statement) : Prop where
  union : statement.hasUnion = false
  unionClause : ∀ select, statement.unionClause select = ""
  unionTemplate : statement.unionTemplate = ""
  order : statement.orderClause = .ok ""
  paging : statement.paging = PagingText.none
  columns : statement.selectColumns =
    .ok (giveAliases statement.selectIndex 1 statement.baseEntries)

theorem WithinPurpose.bare {statement : Statement} (within : statement.WithinPurpose)
    (subQuery : statement.purpose.isSubQuery = true) : statement.Bare where
  union := by
    rw [hasUnion, within.union (forbids_of_sub_query subQuery (by decide))]
    rfl
  unionClause select := by
    rw [Statement.unionClause, within.union (forbids_of_sub_query subQuery (by decide))]
    rfl
  unionTemplate := by
    rw [Statement.unionTemplate, within.union (forbids_of_sub_query subQuery (by decide))]
    rfl
  order := by
    rw [orderClause, isOrdered, within.order (forbids_of_sub_query subQuery (by decide))]
    simp
  paging := paging_of_no_window statement
    (within.paging (forbids_of_sub_query subQuery (by decide)))
  columns := by
    rw [selectColumns, derivedEntries,
      within.relationSelect (forbids_of_sub_query subQuery (by decide)),
      within.derivedColumn (forbids_of_sub_query subQuery (by decide))]
    simp [OrderedMap.empty, allRelationEntries, bind, Except.bind, pure, Except.pure]

theorem list_select_of_sub_query {statement : Statement}
    (subQuery : statement.purpose.isSubQuery = true) (hint : String) :
    statement.listSelect (giveAliases statement.selectIndex 1 statement.baseEntries) hint =
      "select" ++ hint ++ " " ++
        Text.join ", " (statement.baseEntries.map SelectEntry.expression) := by
  have written : statement.columnText = SelectColumn.expression := by
    funext column
    rw [columnText, if_pos subQuery]
  have shown := congrArg (List.map Prod.snd)
    (give_aliases_shown statement.selectIndex 1 statement.baseEntries)
  rw [List.map_map, List.map_map] at shown
  rw [listSelect, written]
  exact congrArg (fun texts => "select" ++ hint ++ " " ++ Text.join ", " texts) shown

theorem Bare.select {statement : Statement} (bare : statement.Bare)
    (subQuery : statement.purpose.isSubQuery = true) {select : String}
    (written : statement.selectClauseOf
      (giveAliases statement.selectIndex 1 statement.baseEntries) "" = .ok select) :
    statement.BareSelect select := by
  cases selects_of_accepted written with
  | list lists =>
      have calls := lists.resolve_right (Bool.eq_false_iff.mp bare.union)
      rw [list_select_of_sub_query subQuery]
      exact .list (columns_of_no_function calls)
  | count _ counts => exact .count counts
  | aggregate _ calls only => exact .aggregate calls only

theorem Bare.marked_text {statement : Statement} (bare : statement.Bare)
    (subQuery : statement.purpose.isSubQuery = true) {sql : String}
    (marked : statement.marked = .ok sql) :
    ∃ select lock, statement.BareSelect select ∧ statement.lockText = .ok lock ∧
      sql = select ++ statement.fromClause lock.hint ++ statement.whereClause ++ lock.suffix := by
  obtain ⟨columns, select, order, lock, composed⟩ := composed_of_marked marked
  obtain rfl := Except.ok.inj (bare.columns.symm.trans composed.listed)
  obtain rfl := Except.ok.inj (bare.order.symm.trans composed.ordered)
  have unhinted : statement.selectHint = "" := by
    rw [selectHint, bare.paging]
    rfl
  have ending : statement.paging.suffix ++ lock.suffix = lock.suffix := by
    rw [bare.paging]
    exact String.empty_append
  refine ⟨select, lock, bare.select subQuery composed.selected, composed.locked, ?_⟩
  have rows : statement.body lock.hint select =
      statement.fromClause lock.hint ++ statement.whereClause := by
    rw [body, bare.unionClause, String.append_empty]
  cases composed.shape with
  | single _ _ => rw [rows, ending, String.append_empty, ← String.append_assoc]
  | list calls _ =>
      have selected := (select_clause_lists (.inl calls) _ "").symm.trans composed.selected
      obtain rfl := Except.ok.inj selected
      rw [rows, ending, unhinted, String.append_empty, ← String.append_assoc]
  | aggregate union _ _ =>
      rw [bare.union] at union
      cases union
  | enclosed _ encloses =>
      rw [bare.union] at encloses
      cases encloses

/-- Whatever a run has asked for and been refused, a statement has nothing that its purpose forbids.
A sub-query is written without unions, order and window, and its columns without aliases. -/
theorem purpose_restrains_runs {schema : Schema} {statement : Statement}
    (reached : Reachable schema statement) :
    statement.WithinPurpose ∧
      (statement.level ≠ 0 → statement.purpose.isSubQuery = true) ∧
      (statement.purpose.isSubQuery = true →
        statement.Bare ∧
        (∀ select, statement.selectClause = .ok select → statement.BareSelect select) ∧
        ∀ sql, statement.render = .ok sql →
          ∃ select lock, statement.BareSelect select ∧ statement.lockText = .ok lock ∧
            SubQuery.layout (select ++ statement.fromClause lock.hint ++ statement.whereClause ++
              lock.suffix) = .ok sql) := by
  refine ⟨reached.within_purpose, reached.sub_query_of_level, fun subQuery => ?_⟩
  have bare := reached.within_purpose.bare subQuery
  refine ⟨bare, fun select written => ?_, fun sql rendered => ?_⟩
  · obtain ⟨columns, made, written⟩ := bind_eq_ok written
    obtain rfl := Except.ok.inj (bare.columns.symm.trans made)
    exact bare.select subQuery written
  · obtain ⟨text, marked, laid⟩ := bind_eq_ok rendered
    obtain ⟨select, lock, shape, locked, rfl⟩ := bare.marked_text subQuery marked
    exact ⟨select, lock, shape, locked, laid⟩

/-- Members who have invited another one; everything but the first column and the condition is
refused. -/
def inviting : Statement :=
  afterAll { newMember with purpose := .existsReferrer, level := 1 }
    [.specify "sub1loc" "MEMBER_ID", .specify "sub1loc" "INVITER_ID", .fetchFirst 1,
      .addUnionText "select 1" false, .orderBy "sub1loc.MEMBER_ID" .ascending,
      .derive "SCORE" "select 1", .join "sub1loc" "inviter", .selectRelation "sub1rel_MEMBER_0" "",
      .addConditionText "sub1loc.INVITER_ID = dflocal.MEMBER_ID", .lock]

theorem inviting_restrained :
    inviting.WithinPurpose ∧ ∃ select lock,
      inviting.BareSelect select ∧ inviting.lockText = .ok lock ∧
        SubQuery.layout (select ++ inviting.fromClause lock.hint ++ inviting.whereClause ++
          lock.suffix) =
          .ok ("select sub1loc.MEMBER_ID from MEMBER sub1loc left outer join MEMBER " ++
            "sub1rel_MEMBER_0 on sub1loc.INVITER_ID = sub1rel_MEMBER_0.MEMBER_ID " ++
            "where sub1loc.INVITER_ID = dflocal.MEMBER_ID for update") := by
  have created : newMember.nested "MEMBER" .existsReferrer =
      .ok { newMember with purpose := .existsReferrer, level := 1 } := rfl
  have reached : Reachable memberSchema inviting :=
    (Reachable.nested new_member_reachable created).afterAll _
  obtain ⟨within, _, plain⟩ := purpose_restrains_runs reached
  have marked : inviting.marked =
      .ok ("select sub1loc.MEMBER_ID from MEMBER sub1loc left outer join MEMBER " ++
        "sub1rel_MEMBER_0 on sub1loc.INVITER_ID = sub1rel_MEMBER_0.MEMBER_ID " ++
        "where sub1loc.INVITER_ID = dflocal.MEMBER_ID for update") := by decide +kernel
  have rendered := render_of_hashless marked (HashFree.append
    (HashFree.append (hash_free_of_chars (by decide)) (hash_free_of_chars (by decide)))
    (hash_free_of_chars (by decide)))
  exact ⟨within, (plain rfl).2.2 _ rendered⟩

end SqlComposer.Statement
