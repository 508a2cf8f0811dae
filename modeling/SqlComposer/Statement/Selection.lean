import SqlComposer.Statement.Basic

/-!
Choosing what a statement selects, and its select clause. The base table comes first, then the
selected relations, then the derived columns. With the select index, the columns go by `c1`, `c2`
and so on across all of them.
-/
namespace SqlComposer

/-- A column of the select list before it gets its alias there. -/
structure SelectEntry where
  /-- The column as it is qualified in the statement, or the name of a derived column. -/
  key : String
  expression : String
  /-- The alias that the column has without the select index. -/
  ownAlias : String
  deriving DecidableEq

structure SelectColumn where
  key : String
  expression : String
  aliasName : String
  deriving DecidableEq

namespace Statement

def classify (type : SelectType) : Registration Unit :=
  modify fun statement =>
    { statement with selectType := type, previousType? := some statement.selectType }

def rollback : Registration Unit :=
  modify fun statement =>
    { statement with selectType := statement.previousType?.getD .columns }

def useSelectIndex (enabled : Bool) : Registration Unit :=
  modify fun statement => { statement with selectIndex := enabled }

/-- Selects the columns of a joined table under their names with a suffix. A relation that is
selected already keeps its suffix. -/
def selectRelation (aliasName suffix : String) : Registration Unit := do
  Registration.allow .relationSelect
  let statement ← get
  let _ ← statement.requireJoin aliasName
  unless statement.selectedRelations.contains aliasName do
    set { statement with selectedRelations := statement.selectedRelations.insert aliasName suffix }

def specifiedCount (statement : Statement) : Nat :=
  statement.specifiedColumns.values.flatten.length

def isSpecified (statement : Statement) (aliasName name : String) : Bool :=
  match statement.specifiedColumns.find? aliasName with
  | some names => name ∈ names
  | none => false

def specifiableTable (statement : Statement) (aliasName : String) : Except ClauseError Table :=
  if aliasName = statement.baseAlias then .ok statement.table
  else if statement.purpose.forbids .relationColumn then
    .error (.unsupported (.purpose .relationColumn statement.purpose))
  else if statement.selectedRelations.contains aliasName then statement.aliasTable aliasName
  else .error (.illegalState (.relationNotSelected aliasName))

/-- Restricts the selected columns of a table. From the first one on, only the specified columns of
the table are selected. -/
def specify (aliasName name : String) : Registration Unit := do
  let statement ← get
  let table ← statement.specifiableTable aliasName
  let column ← ClauseError.noting (.specifying aliasName name) (table.requireColumn name)
  if statement.isSpecified aliasName column.name then
    return
  if statement.specifiedCount > 0 then
    Registration.allow .secondColumn
  set { statement with
    specifiedColumns := statement.specifiedColumns.alter aliasName [] (· ++ [column.name]) }

def derive (name subQuery : String) : Registration Unit := do
  Registration.allow .derivedColumn
  if Text.isBlank name || Text.isBlank subQuery then
    throw (.illegalArgument .blankDerivedColumn)
  modify fun statement =>
    { statement with derivedColumns := statement.derivedColumns.insert name subQuery }

def isLeftOut (statement : Statement) (aliasName name : String) : Bool :=
  match statement.specifiedColumns.find? aliasName with
  | some names => name ∉ names
  | none => false

/-- The selected columns of the base table. An aggregate over a union keeps the primary key, which
tells the rows of the branches apart. -/
def baseEntries (statement : Statement) : List SelectEntry :=
  let aliasName := statement.baseAlias
  let keepsKey := statement.selectType.isScalar && statement.hasUnion
  let selected := statement.table.columns.filter fun column =>
    (keepsKey && column.isPrimary) || !statement.isLeftOut aliasName column.name
  selected.map fun column =>
    let name := aliasName ++ "." ++ column.sqlName.text
    ⟨name, name, column.name⟩

def relationEntries (statement : Statement) (aliasName suffix : String) (table : Table) :
    List SelectEntry :=
  let selected := table.columns.filter fun column => !statement.isLeftOut aliasName column.name
  selected.map fun column =>
    let name := aliasName ++ "." ++ column.sqlName.text
    ⟨name, name, column.name ++ suffix⟩

def allRelationEntries (statement : Statement) :
    List (String × String) → Except ClauseError (List SelectEntry)
  | [] => .ok []
  | (aliasName, suffix) :: rest => do
    let table ← statement.aliasTable aliasName
    let entries ← statement.allRelationEntries rest
    return statement.relationEntries aliasName suffix table ++ entries

def derivedEntries (statement : Statement) : List SelectEntry :=
  statement.derivedColumns.entries.map fun (name, subQuery) =>
    ⟨name, "(" ++ subQuery ++ ")", name⟩

def giveAliases (useIndex : Bool) : Nat → List SelectEntry → List SelectColumn
  | _, [] => []
  | number, entry :: rest =>
    ⟨entry.key, entry.expression, if useIndex then "c" ++ toString number else entry.ownAlias⟩ ::
      giveAliases useIndex (number + 1) rest

def selectColumns (statement : Statement) : Except ClauseError (List SelectColumn) := do
  let relations ← statement.allRelationEntries statement.selectedRelations.entries
  return giveAliases statement.selectIndex 1
    (statement.baseEntries ++ relations ++ statement.derivedEntries)

def selectAliases (statement : Statement) : Except ClauseError (OrderedMap String String) :=
  statement.selectColumns.map fun columns =>
    OrderedMap.ofList (columns.map fun column => (column.key, column.aliasName))

def onlySpecified (statement : Statement) : Except ClauseError String :=
  if statement.specifiedCount ≠ 1 then
    .error (.ambiguousScalar statement.selectType statement.specifiedCount)
  else
    match statement.specifiedColumns.entries.findSome? fun (aliasName, names) =>
        names.head?.map fun name => (aliasName, name) with
    | none => .error (.illegalState .noSpecifiedColumn)
    | some (aliasName, name) => do
      let table ← statement.aliasTable aliasName
      let column ← table.requireColumn name
      return aliasName ++ "." ++ column.sqlName.text

/-- A column of the select list as it is written. A sub-query writes no aliases. -/
def columnText (statement : Statement) (column : SelectColumn) : String :=
  if statement.purpose.isSubQuery then column.expression
  else column.expression ++ " as " ++ column.aliasName

def listSelect (statement : Statement) (columns : List SelectColumn) (hint : String) : String :=
  "select" ++ hint ++ " " ++ Text.join ", " (columns.map statement.columnText)

/-- The select clause: an aggregate when that is asked for and there is no union, else the list. -/
def selectClauseOf (statement : Statement) (columns : List SelectColumn) (hint : String) :
    Except ClauseError String :=
  match statement.selectType.function? with
  | some function =>
    if statement.hasUnion then .ok (statement.listSelect columns hint)
    else if statement.selectType = .count then .ok "select count(*)"
    else statement.onlySpecified.map fun column => "select " ++ function ++ "(" ++ column ++ ")"
  | none => .ok (statement.listSelect columns hint)

def selectClause (statement : Statement) : Except ClauseError String := do
  let columns ← statement.selectColumns
  statement.selectClauseOf columns ""

end Statement
end SqlComposer
