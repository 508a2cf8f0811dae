import SqlComposer.Dialect.Paging
import SqlComposer.Statement.Ordering

/-!
Restricting a statement to a window of rows. Where the dialect cannot restrict them, the reader of
the rows skips and counts them.
-/
namespace SqlComposer.Statement

def fetchFirst (size : Int64) : Registration Unit := do
  Registration.allow .paging
  if size ≤ 0 then
    throw (.illegalArgument (.fetchSize size.toInt))
  modify fun statement =>
    { statement with fetch := { statement.fetch with start := 0, size, page := 1, isSet := true } }

/-- Goes to a page of the present size. A page below the first one is the first one. -/
def fetchPage (page : Int64) : Registration Unit := do
  Registration.allow .paging
  let statement ← get
  if statement.fetch.size ≤ 0 then
    throw (.illegalState .fetchSizeUnset)
  let page := if page < 1 then 1 else page
  FetchScope.checkRange statement.fetch.start statement.fetch.size page
  if page = 1 ∧ statement.fetch.start = 0 then
    fetchFirst statement.fetch.size
  else
    set { statement with fetch := { statement.fetch with page, isSet := true } }

def fetchScope (start size : Int64) : Registration Unit := do
  Registration.allow .paging
  if start < 0 then
    throw (.illegalArgument (.fetchStart start.toInt))
  if size ≤ 0 then
    throw (.illegalArgument (.fetchSize size.toInt))
  FetchScope.checkRange start size 1
  modify fun statement => { statement with fetch := { statement.fetch with start, size } }
  fetchPage 1

def suppressFetch (suppressed : Bool) : Registration Unit :=
  modify fun statement =>
    { statement with fetch := { statement.fetch with isSuppressed := suppressed } }

def rowsToSkip (statement : Statement) : Int64 :=
  if !statement.fetch.isEffective || statement.dialect.skipsRows then 0
  else statement.fetch.pageStart

/-- How many rows the reader has to take, all of them if there is no number. -/
def rowsToTake? (statement : Statement) : Option Int64 :=
  if !statement.fetch.isEffective || statement.dialect.limitsRows then none
  else some statement.fetch.size

def window? (statement : Statement) : Option RowWindow :=
  if statement.fetch.isEffective then
    some ⟨statement.fetch.pageStart, statement.fetch.size, statement.isOrdered⟩
  else none

/-- The texts of the window. An aggregate is not restricted. -/
def paging (statement : Statement) : PagingText :=
  if statement.selectType.isScalar then PagingText.none
  else
    match statement.window? with
    | some window => statement.dialect.paging window
    | none => PagingText.none

def selectHint (statement : Statement) : String := statement.paging.hint

end SqlComposer.Statement
