import SqlComposer.Statement.Conditions
import SqlComposer.Statement.Joins

/-!
Union branches, and statements with gaps. A branch is kept as a text in which a gap stands for the
select clause, so that every branch selects what the statement selects when it is rendered.
-/
namespace SqlComposer

namespace UnionBranch

def connector (branch : UnionBranch) : String :=
  if branch.keepsDuplicates then " union all " else " union "

def filled (branch : UnionBranch) (select : String) : String :=
  Template.closeGaps Template.unionWhereGap Template.unionConditionGap
    (Text.replace branch.text Template.unionSelectGap select)

end UnionBranch

namespace Statement

def unionTemplate (statement : Statement) : String :=
  String.join (statement.unions.map fun branch => branch.connector ++ branch.text)

def unionClause (statement : Statement) (select : String) : String :=
  String.join (statement.unions.map fun branch => branch.connector ++ branch.filled select)

/-- The from clause, the where clause with gaps, and the union branches with theirs. -/
def gapped (statement : Statement) (whereGap conditionGap : String) : String :=
  statement.fromClause "" ++ statement.whereTemplate whereGap conditionGap ++
    statement.unionTemplate

def whereGapped (statement : Statement) : String :=
  statement.gapped Template.whereGap Template.conditionGap

def unionGapped (statement : Statement) : String :=
  statement.gapped Template.unionWhereGap Template.unionConditionGap

def addUnionText (text : String) (keepsDuplicates : Bool) : Registration Unit := do
  Registration.allow .union
  if Text.isBlank text then
    throw (.illegalArgument .blankUnion)
  let statement ← get
  if statement.order.hasManual then
    throw (.unsupported .unionOfManualOrder)
  set { statement with unions := statement.unions ++ [UnionBranch.mk text keepsDuplicates] }

/-- Adds a statement without its select clause as a union branch. -/
def addUnion (branch : Statement) (keepsDuplicates : Bool) : Registration Unit :=
  addUnionText (Template.unionSelectGap ++ branch.unionGapped) keepsDuplicates

end Statement
end SqlComposer
