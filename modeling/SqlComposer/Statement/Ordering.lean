import SqlComposer.Statement.Selection

/-!
The order of a statement. An aggregate has none, and an order can be set aside and taken up again.
-/
namespace SqlComposer.Statement

open SqlComposer.Order (Direction NullPlace)

def changeOrder (change : Order → Except ClauseError Order) : Registration Unit := do
  let statement ← get
  let order ← change statement.order
  set { statement with order }

def orderBy (path : String) (direction : Direction) : Registration Unit := do
  Registration.allow .order
  changeOrder fun order => order.addPath path direction

/-- Reverses the order when the path names its columns, and replaces it otherwise. -/
def reverseOrReplaceOrder (path : String) (direction : Direction) : Registration Unit := do
  Registration.allow .order
  changeOrder fun order => order.reverseOrReplace path direction

def placeNulls (place : NullPlace) : Registration Unit := do
  Registration.allow .order
  changeOrder fun order => order.placeNulls place

def rankManually (values : List Value) : Registration Unit := do
  Registration.allow .order
  let statement ← get
  if statement.hasUnion then
    throw (.unsupported .manualOrderOfUnion)
  changeOrder fun order => order.rankManually (values.map (Value.literal statement.dialect))

def orderByDerived (name : String) (direction : Direction) : Registration Unit := do
  Registration.allow .order
  let statement ← get
  unless statement.derivedColumns.contains name do
    throw (.illegalState (.unknownDerivedColumn name))
  set { statement with order := statement.order.addDerived name direction }

def useOrder (effective : Bool) : Registration Unit :=
  modify fun statement => { statement with orderEffective := effective }

def clearOrder : Registration Unit :=
  modify fun statement => { statement with order := {} }

def isOrdered (statement : Statement) : Bool :=
  statement.orderEffective && !statement.order.elements.isEmpty && !statement.selectType.isScalar

def orderClause (statement : Statement) : Except ClauseError String :=
  if statement.isOrdered then do
    let aliases ← statement.selectAliases
    let text ← statement.order.sql statement.dialect aliases statement.hasUnion
    return " " ++ text
  else .ok ""

end SqlComposer.Statement
