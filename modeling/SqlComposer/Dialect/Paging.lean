import SqlComposer.Dialect.Basic

/-!
Row windows in each dialect: a hint right after `select`, a suffix of the statement, or both. Row
positions are 64-bit integers.
-/
namespace SqlComposer

structure RowWindow where
  start : Int64
  size : Int64
  ordered : Bool
  deriving DecidableEq

def RowWindow.stop (window : RowWindow) : Int64 := window.start + window.size

structure PagingText where
  hint : String
  suffix : String
  deriving DecidableEq

def PagingText.none : PagingText := ⟨"", ""⟩

def RowWindow.offsetFetch (window : RowWindow) : String :=
  s!" offset {window.start.toInt} rows fetch next {window.size.toInt} rows only"

/-- The texts of a window. Oracle numbers the rows of the plain statement and filters the numbers
outside; SQL Server accepts an offset only after an order; MS Access has no such text. -/
def Dialect.paging (dialect : Dialect) (window : RowWindow) : PagingText :=
  match dialect with
  | mysql | sqlite => ⟨"", s!" limit {window.start.toInt}, {window.size.toInt}"⟩
  | postgresql => ⟨"", s!" offset {window.start.toInt} limit {window.size.toInt}"⟩
  | h2 => ⟨"", s!" limit {window.size.toInt} offset {window.start.toInt}"⟩
  | oracle =>
    ⟨" * from (select plain.*, rownum rn from (select",
      s!") plain) ext where ext.rn > {window.start.toInt} and ext.rn <= {window.stop.toInt}"⟩
  | sqlServer =>
    if window.start = 0 then ⟨s!" top {window.size.toInt}", ""⟩
    else ⟨"", (if window.ordered then "" else " order by (select null)") ++ window.offsetFetch⟩
  | db2 =>
    if window.start = 0 then ⟨"", s!" fetch first {window.size.toInt} rows only"⟩
    else ⟨"", window.offsetFetch⟩
  | derby => ⟨"", window.offsetFetch⟩
  | msAccess => PagingText.none

end SqlComposer
