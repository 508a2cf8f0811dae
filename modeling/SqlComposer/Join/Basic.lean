import SqlComposer.Condition.Clause

/-!
Joins of a statement. A table whose rows are filtered before the join stands in an inline view.
-/
namespace SqlComposer

open Condition (Clause)

def inlineAlias : String := "dfinlineloc"

/-- A table with its alias, or an inline view of it when there are clauses to filter it by. -/
def tableReference (table : TableName) (aliasName : String) (inline : List Clause) : String :=
  if inline.isEmpty then table.text ++ " " ++ aliasName
  else
    "(select * from " ++ table.text ++ " " ++ inlineAlias ++ " where " ++
      Clause.joined " and " inline ++ ") " ++ aliasName

structure Join where
  localAlias : String
  foreignAlias : String
  property : String
  foreignTable : String
  table : TableName
  pairs : List (ColumnRef × ColumnRef)
  fixedCondition? : Option String := none
  inlineClauses : List Clause := []
  onClauses : List Clause := []
  isInner : Bool := false
  deriving DecidableEq

namespace Join

def onCondition (join : Join) : String :=
  Text.join " and " (join.pairs.map fun pair => pair.1.text ++ " = " ++ pair.2.text) ++
    (match join.fixedCondition? with
      | some condition => " and " ++ condition
      | none => "") ++
    String.join (join.onClauses.map fun clause => " and " ++ clause.sql)

def sql (join : Join) : String :=
  (if join.isInner then "inner join " else "left outer join ") ++
    tableReference join.table join.foreignAlias join.inlineClauses ++ " on " ++ join.onCondition

end Join
end SqlComposer
