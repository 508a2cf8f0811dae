import SqlComposer.Schema.Basic
import SqlComposer.Settings
import SqlComposer.Toml.Record

/-!
Schemas as a document gives them: tables with their columns and the relations that start from them.
All tables are added before the first relation, so that a relation may lead to a later table.
-/
namespace SqlComposer

structure RelationEntry where
  property : String
  table : String
  pairs : List (String × String)
  fixedCondition? : Option String

structure TableEntry where
  name : String
  sqlName? : Option String
  primaryKey : List String
  columns : List String
  relations : List RelationEntry

def RelationEntry.ofToml? (value : Toml.Value) : Option RelationEntry := do
  let fields ← value.fields? ["property", "table", "columns", "fixed-condition"]
  return {
    property := ← fields.required? "property" Toml.Value.text?
    table := ← fields.required? "table" Toml.Value.text?
    pairs := ← fields.required? "columns" (Toml.Value.list? Toml.Value.pair?)
    fixedCondition? := ← fields.optional? "fixed-condition" Toml.Value.text? }

def TableEntry.ofToml? (value : Toml.Value) : Option TableEntry := do
  let fields ← value.fields? ["name", "sql-name", "primary-key", "columns", "foreign"]
  return {
    name := ← fields.required? "name" Toml.Value.text?
    sqlName? := ← fields.optional? "sql-name" Toml.Value.text?
    primaryKey := ← fields.withDefault? "primary-key" (Toml.Value.list? Toml.Value.text?) []
    columns := ← fields.required? "columns" (Toml.Value.list? Toml.Value.text?)
    relations := ← fields.withDefault? "foreign" (Toml.Value.list? RelationEntry.ofToml?) [] }

namespace TableEntry

/-- Whether a column is named in the primary key, up to the case of ASCII letters. -/
def isKey (entry : TableEntry) (column : String) : Bool :=
  entry.primaryKey.any fun key => Text.sameIgnoringCase key column

/-- The table that is meant. Every column of the primary key has to be there. -/
def table (entry : TableEntry) : Except ClauseError Table := do
  let plain ← Table.ofName entry.name
  let named ← match entry.sqlName? with
    | some name => plain.withSqlName name
    | none => .ok plain
  let columns ← entry.columns.mapM fun column => Column.ofName column (entry.isKey column)
  let table := { named with columns }
  let _ ← entry.primaryKey.mapM table.requireColumn
  return table

def relation (entry : TableEntry) (written : RelationEntry) : Relation where
  property := written.property
  localTable := entry.name
  foreignTable := written.table
  pairs := written.pairs
  fixedCondition? := written.fixedCondition?

end TableEntry

namespace Schema

def addTables (schema : Schema) : List TableEntry → Except ClauseError Schema
  | [] => .ok schema
  | entry :: rest => do
    let table ← entry.table
    let schema ← schema.addTable table
    addTables schema rest

def addRelations (schema : Schema) : List Relation → Except ClauseError Schema
  | [] => .ok schema
  | relation :: rest => do
    let schema ← schema.addRelation relation
    addRelations schema rest

def ofEntries (entries : List TableEntry) : Except ClauseError Schema := do
  let tables ← empty.addTables entries
  tables.addRelations (entries.flatMap fun entry => entry.relations.map entry.relation)

def entriesOf? (value : Toml.Value) : Option (List TableEntry) := do
  let fields ← value.fields? ["table"]
  fields.withDefault? "table" (Toml.Value.list? TableEntry.ofToml?) []

def ofDocument (text : String) : Except SettingsError Schema :=
  match (Toml.parse? text).bind entriesOf? with
  | some entries => (ofEntries entries).mapError SettingsError.schema
  | none => .error .malformed

end Schema
end SqlComposer
