import SqlComposer.Statement.Basic

/-!
Joining relations, and the from clause. A relation that has been joined from the same alias before
is not joined again.
-/
namespace SqlComposer.Statement

def joinOf? (statement : Statement) (aliasName property : String) : Option Join :=
  statement.joins.values.find? fun join => join.localAlias = aliasName ∧ join.property = property

def joinPairs (localAlias foreignAlias : String) (localTable foreignTable : Table) :
    List (String × String) → Except ClauseError (List (ColumnRef × ColumnRef))
  | [] => .ok []
  | (near, far) :: rest => do
    let nearColumn ← localTable.requireColumn near
    let farColumn ← foreignTable.requireColumn far
    let pairs ← joinPairs localAlias foreignAlias localTable foreignTable rest
    return (ColumnRef.qualified localAlias nearColumn.sqlName,
      ColumnRef.qualified foreignAlias farColumn.sqlName) :: pairs

/-- The join that a relation of the table behind an alias would become. -/
def newJoin (statement : Statement) (aliasName property : String) : Except ClauseError Join := do
  let localTable ← statement.aliasTable aliasName
  let joining := Activity.joining property aliasName
  let relation ← ClauseError.noting joining (statement.schema.relation localTable.name property)
  let foreignTable ← ClauseError.noting joining (statement.schema.table relation.foreignTable)
  let foreignAlias := statement.relationAlias foreignTable.name statement.joins.size
  let pairs ← joinPairs aliasName foreignAlias localTable foreignTable relation.pairs
  let fixedCondition? ← match relation.fixedCondition? with
    | none => .ok none
    | some condition =>
      (statement.resolver condition
        ⟨aliasName, foreignAlias, statement.parameters, statement.dialect⟩).map some
  return {
    localAlias := aliasName
    foreignAlias
    property
    foreignTable := foreignTable.name
    table := foreignTable.sqlName
    pairs
    fixedCondition? }

def join (aliasName property : String) : Registration String := do
  let statement ← get
  match statement.joinOf? aliasName property with
  | some existing => return existing.foreignAlias
  | none =>
    let added ← statement.newJoin aliasName property
    set { statement with joins := statement.joins.insert added.foreignAlias added }
    return added.foreignAlias

def changeJoin (statement : Statement) (aliasName : String) (change : Join → Join) :
    Except ClauseError Statement :=
  (statement.requireJoin aliasName).map fun join =>
    { statement with joins := statement.joins.insert aliasName (change join) }

def makeInner (aliasName : String) : Registration Unit := do
  let statement ← get
  let changed ← statement.changeJoin aliasName fun join => { join with isInner := true }
  set changed

def setParameter (name : String) (value : Value) : Registration Unit := do
  let name ← requireName .parameter name
  modify fun statement =>
    { statement with parameters := statement.parameters.insert name value }

/-- The text after the base table and the joins: no dialect has any. -/
def fromHint (_ : Statement) : String := ""

/-- The base table and the joins after it, each of which closes the parenthesis opened for it before
the base table where the dialect wants that. -/
def fromClause (statement : Statement) (tableHint : String) : String :=
  let enclosed := statement.dialect.joinsInParentheses
  let opening := if enclosed then List.replicate statement.joins.size '(' else []
  let base := tableReference statement.table.sqlName statement.baseAlias statement.baseInline
  let joined := statement.joins.values.map fun join =>
    " " ++ join.sql ++ if enclosed then ")" else ""
  " from " ++ String.ofList opening ++ base ++ tableHint ++ String.join joined ++
    statement.fromHint

end SqlComposer.Statement
