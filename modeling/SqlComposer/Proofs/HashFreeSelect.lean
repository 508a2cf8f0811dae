import SqlComposer.Proofs.Composition
import SqlComposer.Proofs.HashFreeRun
import SqlComposer.Proofs.SelectTexts

/-!
The select clause of a run without number signs: neither its columns nor their aliases hold one.
-/
namespace SqlComposer

namespace Statement

/-- Names and sub-queries that an operation brings into the select clause. -/
def SelectsFree : Operation → Prop
  | .selectRelation aliasName suffix => HashFree aliasName ∧ HashFree suffix
  | .specify aliasName _ => HashFree aliasName
  | .derive name subQuery => HashFree name ∧ HashFree subQuery
  | _ => True

theorem selects_free_of_admits {statement : Statement} {operation : Operation}
    (admits : statement.Admits operation) : SelectsFree operation := by
  cases operation with
  | selectRelation aliasName suffix => exact admits
  | specify aliasName name => exact admits
  | derive name subQuery => exact admits
  | _ => trivial

/-- What a select clause takes from the registrations. -/
structure SelectFree (statement : Statement) : Prop where
  relations : ∀ entry ∈ statement.selectedRelations.entries, HashFree entry.1 ∧ HashFree entry.2
  derived : ∀ entry ∈ statement.derivedColumns.entries, HashFree entry.1 ∧ HashFree entry.2
  specified : ∀ entry ∈ statement.specifiedColumns.entries, HashFree entry.1

theorem Effect.select_free {statement after : Statement} {operation : Operation}
    (effect : Effect statement operation after) (selects : SelectsFree operation)
    (free : statement.SelectFree) : after.SelectFree := by
  cases effect with
  | selectRelation =>
      refine ⟨fun entry member => ?_, free.derived, free.specified⟩
      rcases OrderedMap.mem_entries_insert member with old | rfl
      · exact free.relations entry old
      · exact selects
  | derive =>
      refine ⟨free.relations, fun entry member => ?_, free.specified⟩
      rcases OrderedMap.mem_entries_insert member with old | rfl
      · exact free.derived entry old
      · exact selects
  | specify =>
      refine ⟨free.relations, free.derived, fun entry member => ?_⟩
      rw [OrderedMap.alter_eq_insert] at member
      rcases OrderedMap.mem_entries_insert member with old | rfl
      · exact free.specified entry old
      · exact selects
  | recorded _ _ _ record | closeOrScope _ record =>
      obtain ⟨_, _, _, _, rfl, _⟩ := record.frame
      exact ⟨free.relations, free.derived, free.specified⟩
  | _ => exact ⟨free.relations, free.derived, free.specified⟩

theorem select_free_after {schema : Schema} {statement : Statement}
    (reached : Reachable schema statement) {operation : Operation}
    (selects : SelectsFree operation) (free : statement.SelectFree) :
    (statement.after operation).SelectFree := by
  cases answer : (operation.perform statement).1 with
  | ok value => exact (effect_of_accepted reached.scopes_joined answer).select_free selects free
  | error refusal =>
      rw [after_of_refused reached.scopes_joined answer]
      exact free

theorem new_select_free {schema : Schema} {settings : Settings}
    {resolver : FixedCondition.Resolver} {tableName : String} {purpose : Purpose} {level : Nat}
    {statement : Statement}
    (created : create schema settings resolver tableName purpose level = .ok statement) :
    statement.SelectFree := by
  obtain ⟨_, _, rfl⟩ := create_eq_ok created
  exact ⟨nofun, nofun, nofun⟩

theorem HashFreeRun.select_free {schema : Schema} {statement : Statement}
    (run : HashFreeRun schema statement) : statement.SelectFree := by
  induction run with
  | new _ created => exact new_select_free created
  | withResolver _ resolver ih => exact ⟨ih.relations, ih.derived, ih.specified⟩
  | nested _ _ created => exact new_select_free (create_of_nested created)
  | after run admits ih =>
      exact select_free_after run.reachable (selects_free_of_admits admits) ih
  | union run _ keepsDuplicates ih _ => exact select_free_after run.reachable trivial ih

/-- A column of the select list without number signs. -/
structure ColumnFree (column : SelectColumn) : Prop where
  expression : HashFree column.expression
  aliasName : HashFree column.aliasName

theorem hash_free_builds : Builds SqlComposer.HashFree where
  append before after := before.append after
  enclosed free := ((show HashFree "(" by decide).append free).append (by decide)
  point := by decide
  index number := HashFree.append (by decide) (.of_figures (figures_of_nat number))

theorem hash_free_parts {statement : Statement} (names : statement.NamesFree)
    (free : statement.SelectFree) : statement.SelectParts SqlComposer.HashFree where
  base := hash_not_in_base_alias statement
  tables known := (names.alias_table known).columns
  relations := free.relations
  derived := free.derived
  specified := free.specified

theorem select_columns_free {statement : Statement} (names : statement.NamesFree)
    (free : statement.SelectFree) {columns : List SelectColumn}
    (listed : statement.selectColumns = .ok columns) : ∀ column ∈ columns, ColumnFree column := by
  intro column member
  obtain ⟨expression, aliasName⟩ :=
    (hash_free_parts names free).select_columns hash_free_builds listed column member
  exact ⟨expression, aliasName⟩

theorem select_alias_free {statement : Statement} (names : statement.NamesFree)
    (free : statement.SelectFree) {aliases : OrderedMap String String}
    (listed : statement.selectAliases = .ok aliases) {key aliasName : String}
    (found : aliases.find? key = some aliasName) : HashFree aliasName :=
  (hash_free_parts names free).select_alias hash_free_builds listed found

theorem only_specified_free {statement : Statement} (names : statement.NamesFree)
    (free : statement.SelectFree) {column : String}
    (found : statement.onlySpecified = .ok column) : HashFree column :=
  (hash_free_parts names free).only_specified hash_free_builds found

theorem select_clause_free {statement : Statement} (names : statement.NamesFree)
    (free : statement.SelectFree) {columns : List SelectColumn}
    (listed : statement.selectColumns = .ok columns) {select : String}
    (selected : statement.selectClauseOf columns "" = .ok select) : HashFree select := by
  have each := select_columns_free names free listed
  have list : HashFree (statement.listSelect columns "") := by
    have columnTexts : HashFree (Text.join ", " (columns.map statement.columnText)) := by
      refine unmarked_carries.given_join (by decide) fun text member => ?_
      obtain ⟨column, present, rfl⟩ := List.mem_map.mp member
      obtain ⟨expression, aliasName⟩ := each column present
      unfold columnText
      split_ifs
      · exact expression
      · exact (expression.append (by decide)).append aliasName
    exact HashFree.append (by decide) columnTexts
  cases selects_of_accepted selected with
  | list _ => exact list
  | count _ _ => decide
  | @aggregate function column _ calls only =>
      have called : HashFree function := by
        cases type : statement.selectType <;> rw [type] at calls <;> cases calls <;> decide
      have opened := ((show HashFree "select " by decide).append called).append
        (show HashFree "(" by decide)
      exact (opened.append (only_specified_free names free only)).append (by decide)

end Statement
end SqlComposer
