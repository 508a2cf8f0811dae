import SqlComposer.Condition.Register
import SqlComposer.Statement.Basic
import SqlComposer.Template

/-!
Registering conditions. While an or-scope is open its innermost scope takes every clause; otherwise
the clause goes to the end of the list that it is for.
-/
namespace SqlComposer.Statement

open Condition (Clause Holder Key LikeOption Mode OrScope Target)

def appendClause (statement : Statement) (target : Target) (clause : Clause) :
    Except ClauseError Statement :=
  match target with
  | .main => .ok { statement with conditions := statement.conditions ++ [clause] }
  | .baseInline => .ok { statement with baseInline := statement.baseInline ++ [clause] }
  | .joinInline aliasName =>
    (statement.requireJoin aliasName).map fun join =>
      let changed := { join with inlineClauses := join.inlineClauses ++ [clause] }
      { statement with joins := statement.joins.insert aliasName changed }
  | .joinOn aliasName =>
    (statement.requireJoin aliasName).map fun join =>
      let changed := { join with onClauses := join.onClauses ++ [clause] }
      { statement with joins := statement.joins.insert aliasName changed }

/-- Registers a clause with the innermost open scope, or with its list when none is open. -/
def registerClause (target : Target) (clause : Clause) : Registration Unit := do
  let statement ← get
  if statement.orScope.isOpen then
    let orScope ← statement.orScope.push target clause
    set { statement with orScope }
  else
    let changed ← statement.appendClause target clause
    set changed

def registerClauses : List (Target × Clause) → Registration Unit
  | [] => return
  | (target, clause) :: rest => do
    registerClause target clause
    registerClauses rest

def conditionMode (statement : Statement) : Mode where
  dialect := statement.dialect
  inOrScope := statement.orScope.isOpen
  inAndPart := statement.orScope.inAndPart
  refusesEmpty := statement.settings.refusesEmpty
  listLimit? := statement.settings.listLimit? <|> statement.dialect.inListLimit?

def compare (target : Target) (column : ColumnRef) (key : Key) (holder : Holder)
    (option? : Option LikeOption) : Registration Unit := do
  Registration.allow .condition
  let statement ← get
  let clauses ← key.clauses statement.conditionMode column holder option?
  registerClauses (clauses.map fun clause => (target, clause))

def addCondition (column : ColumnRef) (key : Key) (holder : Holder)
    (option? : Option LikeOption) : Registration Unit :=
  compare .main column key holder option?

def addConditionText (text : String) : Registration Unit := do
  if Text.isBlank text then
    throw (.illegalArgument .blankCondition)
  Registration.allow .condition
  registerClause .main (.text text)

def addBaseInline (name : String) (key : Key) (holder : Holder) (option? : Option LikeOption) :
    Registration Unit := do
  let statement ← get
  let column ← statement.table.requireColumn name
  compare .baseInline (.qualified inlineAlias column.sqlName) key holder option?

def addJoinCondition (aliasName name : String) (key : Key) (holder : Holder)
    (option? : Option LikeOption) (isOn : Bool) : Registration Unit := do
  let statement ← get
  let _ ← statement.requireJoin aliasName
  let table ← statement.aliasTable aliasName
  let column ← table.requireColumn name
  if isOn then
    compare (.joinOn aliasName) (.qualified aliasName column.sqlName) key holder option?
  else
    compare (.joinInline aliasName) (.qualified inlineAlias column.sqlName) key holder option?

def openOrScope : Registration Unit := do
  let statement ← get
  let orScope ← statement.orScope.openScope
  set { statement with orScope }

def closeOrScope : Registration Unit := do
  let statement ← get
  let (orScope, reflected) ← statement.orScope.closeScope
  set { statement with orScope }
  registerClauses reflected

def beginAndPart : Registration Unit := do
  let statement ← get
  let orScope ← statement.orScope.beginAndPart
  set { statement with orScope }

def endAndPart : Registration Unit := do
  let statement ← get
  let orScope ← statement.orScope.endAndPart
  set { statement with orScope }

def moveLastConditionFirst : Registration Unit :=
  modify fun statement =>
    match statement.conditions.getLast? with
    | some last => { statement with conditions := last :: statement.conditions.dropLast }
    | none => statement

def clearConditions : Registration Unit :=
  modify fun statement => { statement with conditions := [], baseInline := [] }

def whereClause (statement : Statement) : String :=
  if statement.conditions.isEmpty then ""
  else " where " ++ Clause.joined " and " statement.conditions

/-- The where clause with a gap before its first condition, or a gap for the whole where clause when
there is none. -/
def whereTemplate (statement : Statement) (whereGap conditionGap : String) : String :=
  if statement.conditions.isEmpty then " " ++ whereGap
  else " where " ++ conditionGap ++ Clause.joined " and " statement.conditions

end SqlComposer.Statement
