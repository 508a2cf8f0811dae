import SqlComposer.Proofs.Ordering
import SqlComposer.Proofs.TidyTemplate

/-!
Runs of registrations whose given texts are closed. Values, like options, or-scopes, in-lists, joins
and windows are arbitrary; whatever such a run makes of a statement holds closed texts only, and so
does the text of a branch that it adds to a union.
-/
namespace SqlComposer

open Condition (Clause Holder Key LikeOption Target)

namespace Order

theorem path_elements {before after : Order} {path : String} {direction : Direction}
    (changed : before.addPath path direction = .ok after ∨
      before.reverseOrReplace path direction = .ok after) :
    ∃ elements, Element.ofPath path direction = .ok elements ∧ ∀ element ∈ after.elements,
      element ∈ elements ∨ ∃ old ∈ before.elements,
        element.fullName = old.fullName ∧ element.manual? = old.manual? := by
  rcases changed with added | turned
  · obtain ⟨elements, read, rfl⟩ := map_eq_ok added
    refine ⟨elements, read, fun element member => ?_⟩
    rcases List.mem_append.mp member with old | new
    · exact .inr ⟨element, old, rfl, rfl⟩
    · exact .inl new
  · obtain ⟨elements, read, rfl⟩ := map_eq_ok turned
    refine ⟨elements, read, fun element member => ?_⟩
    split_ifs at member
    · obtain ⟨old, present, rfl⟩ := List.mem_map.mp member
      exact .inr ⟨old, present, rfl, rfl⟩
    · exact .inl member

end Order

/-- The name of an element and the literals that rank it are closed. -/
def Order.Element.Closed (element : Order.Element) : Prop :=
  SqlComposer.Closed element.fullName ∧
    ∀ literals, element.manual? = some literals →
      ∀ literal ∈ literals, SqlComposer.Closed literal

namespace Statement

/-- Operations whose given texts are closed, those that add a statement as a branch aside. -/
def AdmitsTidy (inBranch : Bool) (statement : Statement) : Operation → Prop
  | .selectRelation _ suffix => Closed suffix
  | .derive name subQuery => Closed name ∧ Closed subQuery
  | .join aliasName property =>
      ∀ added condition, statement.newJoin aliasName property = .ok added →
        added.fixedCondition? = some condition → Tidy inBranch condition
  | .addCondition column key holder option? =>
      Tidy inBranch column.text ∧ holder.Tidy inBranch key option?
  | .addConditionText text => Tidy inBranch text
  | .addBaseInline _ key holder option? => holder.Tidy inBranch key option?
  | .addJoinCondition _ _ key holder option? _ => holder.Tidy inBranch key option?
  | .orderBy path direction | .reverseOrReplaceOrder path direction =>
      ∀ elements, Order.Element.ofPath path direction = .ok elements →
        ∀ element ∈ elements, Closed element.fullName
  | .rankManually values => ∀ value ∈ values, value.Tidy false
  | .addUnionText text _ => Tidy true text
  | .addUnion _ _ => False
  | _ => True

variable {inBranch : Bool} {statement after : Statement}

theorem tidy_comparison {column : ColumnRef} (named : Tidy inBranch column.text) {key : Key}
    {holder : Holder} {option? : Option LikeOption} (tidy : holder.Tidy inBranch key option?)
    (target : Target) :
    ∀ entry ∈ statement.comparison target column key holder option?,
      Tidy inBranch entry.2.sql := by
  intro entry member
  unfold comparison at member
  split at member
  · next clauses made =>
      obtain ⟨clause, present, rfl⟩ := List.mem_map.mp member
      exact tidy_clauses named key _ tidy made clause present
  · cases member

/-- What an operation asks for is made of its own texts and of names that the statement knows. -/
theorem TidyTables.requested (tidy : statement.TidyTables inBranch) (tree : statement.JoinTree)
    {operation : Operation} (admits : statement.AdmitsTidy inBranch operation) :
    ∀ entry ∈ statement.requested operation, Tidy inBranch entry.2.sql := by
  have filtered : Tidy inBranch inlineAlias := scans_of_word (by decide)
  cases operation with
  | addCondition column key holder option? => exact tidy_comparison admits.1 admits.2 .main
  | addConditionText text =>
      intro entry member
      rw [List.mem_singleton.mp member]
      exact admits
  | addBaseInline name key holder option? =>
      dsimp only [Statement.requested]
      split
      · next column found =>
          have named := (tidy.table.columns column (Table.mem_columns_of_required found)).2
          exact tidy_comparison (tidy_qualified filtered named) admits .baseInline
      · exact nofun
  | addJoinCondition aliasName name key holder option? isOn =>
      dsimp only [Statement.requested]
      split
      · exact nofun
      · next table known =>
          have aliased := tidy.table_alias tree known
          split
          · exact nofun
          · next column found =>
              have columns := (tidy.alias_table known).columns
              have named := (columns column (Table.mem_columns_of_required found)).2
              split_ifs
              · exact tidy_comparison (tidy_qualified aliased named) admits _
              · exact tidy_comparison (tidy_qualified filtered named) admits _
  | _ => exact nofun

/-- The select list and the order of a statement are made of closed texts. -/
structure TidyList (statement : Statement) : Prop where
  relations : ∀ entry ∈ statement.selectedRelations.entries, Closed entry.1 ∧ Closed entry.2
  derived : ∀ entry ∈ statement.derivedColumns.entries, Closed entry.1 ∧ Closed entry.2
  specified : ∀ entry ∈ statement.specifiedColumns.entries, Closed entry.1
  order : ∀ element ∈ statement.order.elements, element.Closed

/-- What a statement holds after such a run. -/
structure AllTidy (inBranch : Bool) (statement : Statement) : Prop where
  tables : statement.TidyTables inBranch
  list : statement.TidyList

theorem TidyTables.of_new_join (tidy : statement.TidyTables inBranch) (tree : statement.JoinTree)
    {aliasName property : String} {added : Join}
    (made : statement.newJoin aliasName property = .ok added)
    (admits : statement.AdmitsTidy inBranch (.join aliasName property)) :
    ∀ join ∈ bareJoins { statement with
        joins := statement.joins.insert added.foreignAlias added },
      Tidy inBranch join.foreignAlias ∧
        ∀ condition, join.fixedCondition? = some condition → Tidy inBranch condition := by
  rw [bare_joins_of_new tree.numbered made]
  intro join member
  rcases List.mem_append.mp member with old | new
  · exact tidy.joins join old
  · rw [List.mem_singleton.mp new]
    obtain ⟨_, relation, farTable, _, _, found, named, _⟩ := new_join_spec made
    refine ⟨?_, fun condition given => admits added condition made given⟩
    rw [named]
    exact statement.tidy_relation_alias (tidy.schema.table found).name _

theorem TidyTables.of_same_joins (tidy : statement.TidyTables inBranch)
    (tree : statement.JoinTree) (same : SameJoins statement.joins after.joins) :
    ∀ join ∈ after.bareJoins, Tidy inBranch join.foreignAlias ∧
      ∀ condition, join.fixedCondition? = some condition → Tidy inBranch condition := by
  rw [bare_joins_of_same tree.distinct same]
  exact tidy.joins

theorem Effect.tidy_joins {operation : Operation} (effect : Effect statement operation after)
    (tidy : statement.TidyTables inBranch) (tree : statement.JoinTree)
    (admits : statement.AdmitsTidy inBranch operation) :
    ∀ join ∈ after.bareJoins, Tidy inBranch join.foreignAlias ∧
      ∀ condition, join.fixedCondition? = some condition → Tidy inBranch condition := by
  cases effect with
  | join _ made => exact tidy.of_new_join tree made admits
  | makeInner found => exact tidy.of_same_joins tree (same_joins_insert found rfl)
  | recorded _ _ _ record | closeOrScope _ record =>
      obtain ⟨_, _, _, _, rfl, same⟩ := record.frame
      exact tidy.of_same_joins tree same
  | _ => exact tidy.joins

theorem Effect.tidy_unions {operation : Operation} (effect : Effect statement operation after)
    (tidy : ∀ branch ∈ statement.unions, Tidy true branch.text)
    (admits : statement.AdmitsTidy inBranch operation) :
    ∀ branch ∈ after.unions, Tidy true branch.text := by
  cases effect with
  | addUnionText =>
      rw [List.forall_mem_append, List.forall_mem_singleton]
      exact ⟨tidy, admits⟩
  | addUnion => exact admits.elim
  | recorded _ _ _ record | closeOrScope _ record =>
      obtain ⟨_, _, _, _, rfl, _⟩ := record.frame
      exact tidy
  | _ => exact tidy

theorem Effect.tidy_order {operation : Operation} (effect : Effect statement operation after)
    (tidy : statement.TidyList) (admits : statement.AdmitsTidy inBranch operation) :
    ∀ element ∈ after.order.elements, element.Closed := by
  have turned : ∀ path direction order,
      (∀ elements, Order.Element.ofPath path direction = .ok elements →
        ∀ element ∈ elements, Closed element.fullName) →
      statement.order.addPath path direction = .ok order ∨
        statement.order.reverseOrReplace path direction = .ok order →
      ∀ element ∈ order.elements, element.Closed := by
    intro path direction order named changed element member
    obtain ⟨elements, read, known⟩ := Order.path_elements changed
    rcases known element member with new | ⟨old, present, name, ranked⟩
    · refine ⟨named elements read element new, fun literals manual => ?_⟩
      rw [(Order.path_plain read element new).2] at manual
      cases manual
    · have closed := tidy.order old present
      unfold Order.Element.Closed
      rw [name, ranked]
      exact closed
  cases effect with
  | orderBy _ changed => exact turned _ _ _ admits (.inl changed)
  | reverseOrReplaceOrder _ changed => exact turned _ _ _ admits (.inr changed)
  | placeNulls _ changed =>
      obtain ⟨last, present, known⟩ := Order.change_last_spec changed
      intro element member
      rcases known element member with old | rfl
      · exact tidy.order element old
      · exact tidy.order last present
  | @rankManually values _ _ _ changed =>
      unfold Order.rankManually at changed
      split_ifs at changed
      obtain ⟨last, present, known⟩ := Order.change_last_spec changed
      intro element member
      rcases known element member with old | rfl
      · exact tidy.order element old
      · refine ⟨(tidy.order last present).1, fun literals manual => ?_⟩
        obtain rfl := Option.some.inj manual
        exact List.forall_mem_map.mpr fun value given => (tidy_literal _ (admits value given)).read
  | orderByDerived _ derived =>
      intro element member
      rcases List.mem_append.mp member with old | new
      · exact tidy.order element old
      · rw [List.mem_singleton.mp new]
        have key := (OrderedMap.contains_iff_mem_keys _ _).mp derived
        obtain ⟨entry, present, rfl⟩ := List.mem_map.mp key
        exact ⟨(tidy.derived entry present).1, nofun⟩
  | clearOrder => exact nofun
  | recorded _ _ _ record | closeOrScope _ record =>
      obtain ⟨_, _, _, _, rfl, _⟩ := record.frame
      exact tidy.order
  | _ => exact tidy.order

theorem Effect.tidy_list {operation : Operation} (effect : Effect statement operation after)
    (tidy : statement.AllTidy inBranch) (tree : statement.JoinTree)
    (admits : statement.AdmitsTidy inBranch operation) : after.TidyList := by
  have list := tidy.list
  have order := effect.tidy_order list admits
  cases effect with
  | selectRelation _ joined =>
      refine ⟨fun entry member => ?_, list.derived, list.specified, order⟩
      rcases OrderedMap.mem_entries_insert member with old | rfl
      · exact list.relations entry old
      · have found := (require_join_eq_ok_iff _ _ _).mp joined
        have key := (OrderedMap.mem_keys_iff_find? _ _).mpr ⟨_, found⟩
        exact ⟨(tidy.tables.join_alias tree key).read, admits⟩
  | derive =>
      refine ⟨list.relations, fun entry member => ?_, list.specified, order⟩
      rcases OrderedMap.mem_entries_insert member with old | rfl
      · exact list.derived entry old
      · exact admits
  | @specify aliasName name table column specifiable =>
      refine ⟨list.relations, list.derived, fun entry member => ?_, order⟩
      rw [OrderedMap.alter_eq_insert] at member
      rcases OrderedMap.mem_entries_insert member with old | rfl
      · exact list.specified entry old
      · exact (tidy.tables.table_alias tree (specifiable_table_spec specifiable).2).read
  | recorded _ _ _ record | closeOrScope _ record =>
      obtain ⟨_, _, _, _, rfl, _⟩ := record.frame
      exact ⟨list.relations, list.derived, list.specified, order⟩
  | _ => exact ⟨list.relations, list.derived, list.specified, order⟩

theorem Effect.all_tidy {operation : Operation} (effect : Effect statement operation after)
    (tidy : statement.AllTidy inBranch) (tree : statement.JoinTree)
    (admits : statement.AdmitsTidy inBranch operation) : after.AllTidy inBranch := by
  have origin := effect.same_origin
  have requested := tidy.tables.requested tree admits
  refine ⟨⟨?_, ?_, effect.tidy_joins tidy.tables tree admits,
    effect.holds tidy_inherited requested tidy.tables.clauses,
    effect.tidy_unions tidy.tables.unions admits⟩, effect.tidy_list tidy tree admits⟩
  · rw [origin.schema]
    exact tidy.tables.schema
  · rw [origin.table]
    exact tidy.tables.table

theorem AllTidy.union (tidy : statement.AllTidy inBranch) {branch : Statement}
    {keepsDuplicates : Bool} (effect : Effect statement (.addUnion branch keepsDuplicates) after)
    (text : Tidy true (Template.unionSelectGap ++ branch.unionGapped)) :
    after.AllTidy inBranch := by
  obtain ⟨⟨schema, table, joins, clauses, unions⟩, list⟩ := tidy
  cases effect with
  | recorded recording => cases recording
  | addUnion =>
      refine ⟨⟨schema, table, joins, ⟨clauses.conditions, clauses.baseInline, clauses.joins,
        clauses.scopes⟩, ?_⟩, ⟨list.relations, list.derived, list.specified, list.order⟩⟩
      rw [List.forall_mem_append, List.forall_mem_singleton]
      exact ⟨unions, text⟩

theorem all_tidy_of_new {schema : Schema} {settings : Settings}
    {resolver : FixedCondition.Resolver} {tableName : String} {purpose : Purpose} {level : Nat}
    (names : schema.Tidy inBranch)
    (created : create schema settings resolver tableName purpose level = .ok statement) :
    statement.AllTidy inBranch := by
  have clauses : statement.Holds fun clause => Tidy inBranch clause.sql := holds_of_new created
  obtain ⟨table, found, rfl⟩ := create_eq_ok created
  exact ⟨⟨names, names.table found, nofun, clauses, nofun⟩, ⟨nofun, nofun, nofun, nofun⟩⟩

/-- Statements that are reached with closed texts only, over schemas with closed names. A branch of
a union is itself such a statement, in whose quoted parts no mark of a select clause stands. -/
inductive TidyRun : Bool → Schema → Statement → Prop where
  | new {inBranch : Bool} {schema : Schema} {settings : Settings} {tableName : String}
      {purpose : Purpose} {statement : Statement} (names : schema.Tidy inBranch)
      (created : ofTable schema settings tableName purpose = .ok statement) :
      TidyRun inBranch schema statement
  | withResolver {inBranch : Bool} {schema : Schema} {statement : Statement}
      (run : TidyRun inBranch schema statement) (resolver : FixedCondition.Resolver) :
      TidyRun inBranch schema { statement with resolver }
  | nested {inBranch : Bool} {schema : Schema} {outer statement : Statement} {tableName : String}
      {purpose : Purpose} (names : schema.Tidy inBranch) (reached : Reachable schema outer)
      (created : outer.nested tableName purpose = .ok statement) :
      TidyRun inBranch schema statement
  | after {inBranch : Bool} {schema : Schema} {statement : Statement}
      (run : TidyRun inBranch schema statement) {operation : Operation}
      (admits : statement.AdmitsTidy inBranch operation) :
      TidyRun inBranch schema (statement.after operation)
  | union {inBranch : Bool} {schema other : Schema} {statement branch : Statement}
      (run : TidyRun inBranch schema statement) (branchRun : TidyRun true other branch)
      (keepsDuplicates : Bool) :
      TidyRun inBranch schema (statement.after (.addUnion branch keepsDuplicates))

theorem TidyRun.reachable {schema : Schema} (run : TidyRun inBranch schema statement) :
    Reachable schema statement := by
  induction run with
  | new _ created => exact .new created
  | withResolver _ resolver ih => exact .withResolver ih resolver
  | nested _ reached created => exact .nested reached created
  | after _ _ ih => exact .after ih _
  | union _ _ _ ih _ => exact .after ih _

/-- An operation that is refused leaves the statement as it is, and one that is accepted brings in
closed texts only. -/
theorem TidyRun.all_tidy {schema : Schema} (run : TidyRun inBranch schema statement) :
    statement.AllTidy inBranch := by
  induction run with
  | new names created => exact all_tidy_of_new names created
  | withResolver _ resolver ih =>
      obtain ⟨⟨schema, table, joins, clauses, unions⟩, list⟩ := ih
      exact ⟨⟨schema, table, joins, ⟨clauses.conditions, clauses.baseInline, clauses.joins,
        clauses.scopes⟩, unions⟩, ⟨list.relations, list.derived, list.specified, list.order⟩⟩
  | nested names reached created =>
      have same := reached.same_schema
      exact all_tidy_of_new (same ▸ names) (create_of_nested created)
  | after run admits ih =>
      have reached := run.reachable
      rcases after_cases reached.scopes_joined _ with ⟨_, unchanged⟩ | ⟨_, effect⟩
      · rw [unchanged]
        exact ih
      · exact effect.all_tidy ih reached.join_tree admits
  | union run branchRun keepsDuplicates ih branch =>
      have text := branch.tables.branch branchRun.reachable.join_tree
      rcases after_cases run.reachable.scopes_joined _ with ⟨_, unchanged⟩ | ⟨_, effect⟩
      · rw [unchanged]
        exact ih
      · exact ih.union effect text

end Statement
end SqlComposer
