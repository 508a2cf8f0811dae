import SqlComposer.Condition.OrScope
import SqlComposer.Fetch
import SqlComposer.Join.Basic
import SqlComposer.Join.FixedCondition
import SqlComposer.Order.Basic
import SqlComposer.Schema.Basic
import SqlComposer.Settings

/-!
Statements under construction. A statement holds what has been registered for it; nothing is
written before it is rendered, and rendering leaves it as it is. Its base table goes by an alias
that tells how deeply the statement is nested in others, and so do the tables it joins.
-/
namespace SqlComposer

open Condition (Clause OrScope Target)

/-- A branch of a union: the text after the word `union`, with gaps that the statement fills. -/
structure UnionBranch where
  text : String
  keepsDuplicates : Bool
  deriving DecidableEq

structure Statement where
  schema : Schema
  settings : Settings
  resolver : FixedCondition.Resolver
  table : Table
  purpose : Purpose
  /-- How many statements this one is nested in. -/
  level : Nat
  selectType : SelectType := .columns
  previousType? : Option SelectType := none
  selectIndex : Bool
  /-- The columns to select, by the alias of their table. An alias without an entry selects all. -/
  specifiedColumns : OrderedMap String (List String) := OrderedMap.empty
  /-- The joined tables whose columns are selected, with the suffix of the columns' names. -/
  selectedRelations : OrderedMap String String := OrderedMap.empty
  /-- The sub-queries of derived columns, by the columns' names. -/
  derivedColumns : OrderedMap String String := OrderedMap.empty
  joins : OrderedMap String Join := OrderedMap.empty
  parameters : OrderedMap String Value := OrderedMap.empty
  conditions : List Clause := []
  baseInline : List Clause := []
  orScope : OrScope := {}
  order : Order := {}
  orderEffective : Bool := true
  unions : List UnionBranch := []
  fetch : FetchScope := {}
  isLocked : Bool := false

/-- A change to a statement that may be refused. The statement after a refusal is part of the
result. -/
abbrev Registration (α : Type) : Type := ExceptT ClauseError (StateM Statement) α

namespace Statement

def create (schema : Schema) (settings : Settings) (resolver : FixedCondition.Resolver)
    (tableName : String) (purpose : Purpose) (level : Nat) : Except ClauseError Statement := do
  let name ← requireName .table tableName
  let table ← schema.table name
  return { schema, settings, resolver, table, purpose, level, selectIndex := settings.selectIndex }

def ofTable (schema : Schema) (settings : Settings) (tableName : String)
    (purpose : Purpose) : Except ClauseError Statement :=
  create schema settings FixedCondition.resolve tableName purpose 0

def nested (outer : Statement) (tableName : String) (purpose : Purpose) :
    Except ClauseError Statement :=
  if purpose.isSubQuery then
    create outer.schema outer.settings outer.resolver tableName purpose (outer.level + 1)
  else .error (.illegalArgument (.notSubQuery purpose))

def dialect (statement : Statement) : Dialect := statement.settings.dialect

def baseAlias (statement : Statement) : String :=
  match statement.level with
  | 0 => "dflocal"
  | level => "sub" ++ toString level ++ "loc"

/-- The alias of a joined table, told apart by the number of joins before it. -/
def relationAlias (statement : Statement) (tableName : String) (number : Nat) : String :=
  match statement.level with
  | 0 => "dfrelation_" ++ tableName ++ "_" ++ toString number
  | level => "sub" ++ toString level ++ "rel_" ++ tableName ++ "_" ++ toString number

def requireJoin (statement : Statement) (aliasName : String) : Except ClauseError Join :=
  match statement.joins.find? aliasName with
  | some join => .ok join
  | none => .error (.illegalState (.unknownJoin aliasName))

def aliasTable (statement : Statement) (aliasName : String) : Except ClauseError Table :=
  if aliasName = statement.baseAlias then .ok statement.table
  else do
    let join ← statement.requireJoin aliasName
    statement.schema.table join.foreignTable

def hasJoin (statement : Statement) : Bool := !statement.joins.isEmpty

def hasUnion (statement : Statement) : Bool := !statement.unions.isEmpty

def hasConditions (statement : Statement) : Bool :=
  !statement.conditions.isEmpty || !statement.baseInline.isEmpty

end Statement

namespace Registration

def allow (registration : Restricted) : Registration Unit := do
  let statement ← get
  if statement.purpose.forbids registration then
    throw (.unsupported (.purpose registration statement.purpose))

end Registration
end SqlComposer
