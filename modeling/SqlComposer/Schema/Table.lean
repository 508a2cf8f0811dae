import SqlComposer.Name

/-!
Tables and relations as a schema declares them. A table has its name in the schema and the name
that is written in statements; the same goes for its columns.
-/
namespace SqlComposer

structure Column where
  name : String
  sqlName : ColumnName
  isPrimary : Bool := false
  deriving DecidableEq

/-- A table with its columns in declaration order, which is also the order of a select list. -/
structure Table where
  name : String
  sqlName : TableName
  columns : List Column := []
  deriving DecidableEq

/-- A relation from a local table to a foreign table, addressed by its property. -/
structure Relation where
  property : String
  localTable : String
  foreignTable : String
  pairs : List (String × String)
  fixedCondition? : Option String := none
  deriving DecidableEq

namespace Column

def ofName (name : String) (isPrimary : Bool) : Except ClauseError Column :=
  (ColumnName.ofText name).map fun sqlName => { name, sqlName, isPrimary }

def withSqlName (column : Column) (text : String) : Except ClauseError Column :=
  (ColumnName.ofText text).map fun sqlName => { column with sqlName }

end Column

namespace Table

def ofName (name : String) : Except ClauseError Table :=
  (TableName.ofText name).map fun sqlName => { name, sqlName }

def withSqlName (table : Table) (text : String) : Except ClauseError Table :=
  (TableName.ofText text).map fun sqlName => { table with sqlName }

/-- The first column of a name, up to the case of ASCII letters. -/
def column? (table : Table) (name : String) : Option Column :=
  table.columns.find? fun column => Text.sameIgnoringCase column.name name

def requireColumn (table : Table) (name : String) : Except ClauseError Column :=
  match table.column? name with
  | some column => .ok column
  | none => .error (.metadataNotFound (.column name table.name))

def primaryKey (table : Table) : List Column :=
  table.columns.filter fun column => column.isPrimary

def hasCompoundKey (table : Table) : Bool :=
  table.primaryKey.length > 1

end Table
end SqlComposer
