import SqlComposer.OrderedMap
import SqlComposer.Schema.Table
import SqlComposer.Text.Upper

/-!
A schema: tables and the relations between them. Table names are looked up in any case. A relation
is admitted only when both tables and all its columns are there, so that joining it cannot fail for
want of them.
-/
namespace SqlComposer

/-- The tables by their names in upper case, and the relations by their local table and property. -/
structure Schema where
  tables : OrderedMap String Table := OrderedMap.empty
  relations : OrderedMap (String × String) Relation := OrderedMap.empty

namespace Schema

def empty : Schema := {}

def tableKey (name : String) : String := Text.toUpper name

def table (schema : Schema) (name : String) : Except ClauseError Table :=
  match schema.tables.find? (tableKey name) with
  | some table => .ok table
  | none => .error (.metadataNotFound (.table name))

def relation (schema : Schema) (localTable property : String) : Except ClauseError Relation :=
  match schema.relations.find? (tableKey localTable, property) with
  | some relation => .ok relation
  | none => .error (.metadataNotFound (.relation property localTable))

def addTable (schema : Schema) (table : Table) : Except ClauseError Schema :=
  let key := tableKey table.name
  if schema.tables.contains key then .error (.illegalArgument (.duplicateTable table.name))
  else .ok { schema with tables := schema.tables.insert key table }

/-- Checks the columns of a relation, pair by pair and the local column first. -/
def checkPairs (localTable foreignTable : Table) :
    List (String × String) → Except ClauseError Unit
  | [] => .ok ()
  | (near, far) :: rest => do
    let _ ← localTable.requireColumn near
    let _ ← foreignTable.requireColumn far
    checkPairs localTable foreignTable rest

def addRelation (schema : Schema) (relation : Relation) : Except ClauseError Schema := do
  let localTable ← schema.table relation.localTable
  let foreignTable ← schema.table relation.foreignTable
  if relation.pairs.isEmpty then
    .error (.illegalArgument (.relationWithoutColumns relation.property relation.localTable))
  else
    checkPairs localTable foreignTable relation.pairs
    let key := (tableKey relation.localTable, relation.property)
    if schema.relations.contains key then
      .error (.illegalArgument (.duplicateRelation relation.property relation.localTable))
    else
      .ok { schema with relations := schema.relations.insert key relation }

end Schema
end SqlComposer
