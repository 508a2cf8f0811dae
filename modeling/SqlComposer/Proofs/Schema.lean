import SqlComposer.Schema.Basic
import SqlComposer.Proofs.OrderedMap
import SqlComposer.Proofs.Refusals
import Mathlib.Tactic.SplitIfs

/-!
Schemas that have been built by their own operations. A table is then found again under the name
that it carries itself, and a column under the name it is declared with.
-/
namespace SqlComposer

inductive Schema.Built : Schema → Prop where
  | empty : Built Schema.empty
  | addTable {schema after : Schema} {table : Table} (built : Built schema)
      (added : schema.addTable table = .ok after) : Built after
  | addRelation {schema after : Schema} {relation : Relation} (built : Built schema)
      (added : schema.addRelation relation = .ok after) : Built after

namespace Schema

theorem table_eq_ok_iff (schema : Schema) (name : String) (table : Table) :
    schema.table name = .ok table ↔ schema.tables.find? (tableKey name) = some table := by
  unfold Schema.table
  cases schema.tables.find? (tableKey name) <;> simp

/-- A relation that has been added has columns, and nothing else is added with it. -/
theorem add_relation_spec {schema after : Schema} {relation : Relation}
    (added : schema.addRelation relation = .ok after) :
    relation.pairs ≠ [] ∧ after.relations =
        schema.relations.insert (tableKey relation.localTable, relation.property) relation ∧
      after.tables = schema.tables := by
  unfold addRelation at added
  obtain ⟨localTable, _, added⟩ := bind_eq_ok added
  obtain ⟨foreignTable, _, added⟩ := bind_eq_ok added
  split at added
  · cases added
  · next filled =>
      obtain ⟨_, _, added⟩ := bind_eq_ok added
      dsimp only at added
      split at added
      · cases added
      · obtain rfl := Except.ok.inj added
        exact ⟨by simpa using filled, rfl, rfl⟩

theorem Built.key_of_table {schema : Schema} (built : schema.Built) {key : String} {table : Table}
    (found : schema.tables.find? key = some table) : tableKey table.name = key := by
  induction built with
  | empty => cases found
  | @addTable schema after other _ added ih =>
      unfold Schema.addTable at added
      dsimp only at added
      split at added
      · cases added
      · obtain rfl := Except.ok.inj added
        rw [OrderedMap.find?_insert] at found
        split_ifs at found with asked
        · obtain rfl := Option.some.inj found
          exact asked.symm
        · exact ih found
  | addRelation _ added ih =>
      rw [(add_relation_spec added).2.2] at found
      exact ih found

/-- The name of a table may be asked for in any case, its own name finds it as well. -/
theorem Built.table_of_own_name {schema : Schema} (built : schema.Built) {name : String}
    {table : Table} (found : schema.table name = .ok table) :
    schema.table table.name = .ok table := by
  rw [table_eq_ok_iff] at found ⊢
  rw [built.key_of_table found]
  exact found

theorem Built.relation_has_pairs {schema : Schema} (built : schema.Built)
    {localTable property : String} {relation : Relation}
    (found : schema.relation localTable property = .ok relation) : relation.pairs ≠ [] := by
  have declared : ∀ key, schema.relations.find? key = some relation → relation.pairs ≠ [] := by
    clear found
    induction built with
    | empty => exact fun _ found => nomatch found
    | addTable _ added ih =>
        unfold Schema.addTable at added
        dsimp only at added
        split at added
        · cases added
        · obtain rfl := Except.ok.inj added
          exact ih
    | @addRelation schema after other _ added ih =>
        obtain ⟨filled, relations, _⟩ := add_relation_spec added
        intro key found
        rw [relations, OrderedMap.find?_insert] at found
        split_ifs at found
        · obtain rfl := Option.some.inj found
          exact filled
        · exact ih key found
  unfold Schema.relation at found
  split at found
  · next known =>
      obtain rfl := Except.ok.inj found
      exact declared _ known
  · cases found

end Schema

namespace Table

theorem require_column_eq_ok_iff (table : Table) (name : String) (column : Column) :
    table.requireColumn name = .ok column ↔ table.column? name = some column := by
  unfold requireColumn
  cases table.column? name <;> simp

theorem same_case_iff (left right : String) :
    Text.sameIgnoringCase left right = true ↔
      left.toList.map Char.toLower = right.toList.map Char.toLower := by
  simp [Text.sameIgnoringCase]

/-- The first column of a name is the first column of its own name too. -/
theorem require_column_of_own_name {table : Table} {name : String} {column : Column}
    (found : table.requireColumn name = .ok column) :
    table.requireColumn column.name = .ok column := by
  rw [require_column_eq_ok_iff, column?] at found ⊢
  have named : Text.sameIgnoringCase column.name name = true := by
    simpa using List.find?_some found
  have alike : ∀ other : Column, Text.sameIgnoringCase other.name column.name =
      Text.sameIgnoringCase other.name name := by
    intro other
    rw [Bool.eq_iff_iff, same_case_iff, same_case_iff, (same_case_iff _ _).mp named]
  simp only [alike]
  exact found

theorem mem_columns_of_required {table : Table} {name : String} {column : Column}
    (found : table.requireColumn name = .ok column) : column ∈ table.columns :=
  List.mem_of_find?_eq_some ((require_column_eq_ok_iff table name column).mp found)

end Table
end SqlComposer
