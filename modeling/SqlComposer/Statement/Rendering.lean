import SqlComposer.Dialect.Lock
import SqlComposer.Statement.Paging
import SqlComposer.Statement.Unions
import SqlComposer.SubQuery.Layout

/-!
Locking rows, and writing the whole statement: select, from, where, unions, order, and the texts of
the dialect for the window of rows and the lock.
-/
namespace SqlComposer.Statement

def mainAlias : String := "dfmain"

/-- Locks the selected rows, which is refused at once where rows cannot be locked. -/
def lock : Registration Unit := do
  let statement ← get
  let _ ← statement.dialect.lock statement.baseAlias
  set { statement with isLocked := true }

def lockText (statement : Statement) : Except ClauseError LockText :=
  if statement.isLocked && !statement.selectType.isScalar then
    statement.dialect.lock statement.baseAlias
  else .ok LockText.none

def tableHint (statement : Statement) : Except ClauseError String :=
  statement.lockText.map LockText.hint

/-- The text at the end of the statement: the window of rows, then the lock. -/
def suffix (statement : Statement) : Except ClauseError String :=
  statement.lockText.map fun lock => statement.paging.suffix ++ lock.suffix

def aggregateOfUnion (statement : Statement) (function union : String) :
    Except ClauseError String :=
  let source := " from (" ++ union ++ ") " ++ mainAlias
  if statement.selectType = .count then .ok ("select count(*)" ++ source)
  else do
    let column ← statement.onlySpecified
    let aliases ← statement.selectAliases
    match aliases.find? column with
    | some aliasName =>
      return "select " ++ function ++ "(" ++ mainAlias ++ "." ++ aliasName ++ ")" ++ source
    | none => .error (.illegalState (.columnNotSelected column))

/-- The statement with the marks of its sub-queries still in it. -/
def marked (statement : Statement) : Except ClauseError String :=
  if statement.orScope.isOpen then .error (.illegalState .orScopeStillOpen)
  else do
    let columns ← statement.selectColumns
    let plainSelect ← statement.selectClauseOf columns ""
    let hint ← statement.tableHint
    let body := statement.fromClause hint ++ statement.whereClause
    let unions := statement.unionClause plainSelect
    let order ← statement.orderClause
    let suffix ← statement.suffix
    match statement.selectType.function? with
    | some function =>
      if statement.hasUnion then
        statement.aggregateOfUnion function (plainSelect ++ body ++ unions)
      else return plainSelect ++ body ++ unions ++ order ++ suffix
    | none =>
      if statement.hasUnion && statement.dialect.enclosesUnion then
        return "select" ++ statement.selectHint ++ " * from (" ++ plainSelect ++ body ++ unions ++
          ") " ++ mainAlias ++ order ++ suffix
      else do
        let select ← statement.selectClauseOf columns statement.selectHint
        return select ++ body ++ unions ++ order ++ suffix

def render (statement : Statement) : Except ClauseError String := do
  let sql ← statement.marked
  SubQuery.layout sql

end SqlComposer.Statement
