import SqlComposer.QueryFile.Operand
import SqlComposer.Statement.Updating

/-!
Building the statement that a query file describes. Its entries are registered in a fixed order:
the parameters of fixed conditions, the joins, the columns, the conditions, the or-scopes, the
unions, the order, the rows to fetch, the lock and the kind of select clause. The first refusal
ends the building.
-/
namespace SqlComposer.QueryFile

open Condition (Holder Key LikeMode LikeOption)

abbrev Building (α : Type) : Type := StateT Statement (Except Problem) α

/-- The aliases of joined tables by the names that the file gives the joins. -/
abbrev JoinNames : Type := OrderedMap String String

def register {α : Type} (registration : Registration α) : Building α := fun statement =>
  match Id.run (registration.run statement) with
  | (.ok value, changed) => .ok (value, changed)
  | (.error cause, _) => .error (.clause cause)

def aliasOf (joins : JoinNames) (name : String) : Except Problem String :=
  match joins.find? name with
  | some aliasName => .ok aliasName
  | none => .error (.unknownJoin name)

/-- The table alias and the column of `join.COLUMN` or `COLUMN`. The alias of the base table stands
for itself, and a column without a join belongs to the base table. -/
def qualify (baseAlias : String) (joins : JoinNames) (text : String) :
    Except Problem (String × String) :=
  match Text.splitAtChar? '.' text with
  | none => .ok (baseAlias, text)
  | some (name, column) =>
    if name = baseAlias then .ok (baseAlias, column)
    else (aliasOf joins name).map fun aliasName => (aliasName, column)

def addParameter (entry : String × Toml.Value) : Building Unit := do
  let value ← operand entry.2
  register (Statement.setParameter entry.1 value)

/-- Adds a join and gives the names with its own. The number of the join in the file tells the
columns of a selected table apart. -/
def addJoin (joins : JoinNames) (number : Nat) (entry : JoinEntry) : Building JoinNames := do
  let statement ← get
  let origin ← match entry.origin? with
    | some name => aliasOf joins name
    | none => pure statement.baseAlias
  let aliasName ← register (Statement.join origin entry.property)
  if entry.isInner then
    register (Statement.makeInner aliasName)
  if entry.isSelected then
    register (Statement.selectRelation aliasName ("_" ++ toString number))
  return joins.insert entry.name aliasName

def addJoins (joins : JoinNames) (number : Nat) : List JoinEntry → Building JoinNames
  | [] => return joins
  | entry :: rest => do
    let joins ← addJoin joins number entry
    addJoins joins (number + 1) rest

def addColumn (joins : JoinNames) (text : String) : Building Unit := do
  let statement ← get
  let (aliasName, column) ← qualify statement.baseAlias joins text
  register (Statement.specify aliasName column)

/-- The option of a condition: none when neither a mode nor the case is mentioned. -/
def ConditionEntry.option? (entry : ConditionEntry) : Except Problem (Option LikeOption) :=
  match entry.like? with
  | none =>
    if entry.ignoresCase then .ok (some { mode := .exact, ignoresCase := true }) else .ok none
  | some word =>
    match LikeMode.ofName? word with
    | some mode => .ok (some { mode, ignoresCase := entry.ignoresCase })
    | none => .error (.unknownLikeMode word)

def ConditionEntry.comparison (entry : ConditionEntry) : Except Problem Key :=
  match Key.ofName? entry.key with
  | some key => .ok key
  | none => .error (.clause (.illegalArgument (.unknownKey entry.key)))

def ConditionEntry.holder (entry : ConditionEntry) (key : Key) : Except Problem Holder :=
  match entry.value? with
  | none => .ok (Holder.ofLocation entry.bind?)
  | some value => (operand value).map fun value => (Holder.ofLocation entry.bind?).set key value

def baseWord : String := "base"

def addCondition (joins : JoinNames) (entry : ConditionEntry) : Building Unit := do
  let key ← entry.comparison
  let holder ← entry.holder key
  let option? ← entry.option?
  match entry.inline?, entry.on? with
  | some _, some _ => throw (.inlineAndOn entry.column)
  | some target, none =>
    if target = baseWord then
      register (Statement.addBaseInline entry.column key holder option?)
    else do
      let aliasName ← aliasOf joins target
      register (Statement.addJoinCondition aliasName entry.column key holder option? false)
  | none, some target =>
    let aliasName ← aliasOf joins target
    register (Statement.addJoinCondition aliasName entry.column key holder option? true)
  | none, none =>
    let statement ← get
    let (aliasName, name) ← qualify statement.baseAlias joins entry.column
    let column ← (ColumnRef.ofText (aliasName ++ "." ++ name)).mapError Problem.clause
    register (Statement.addCondition column key holder option?)

def addAndPart (joins : JoinNames) (conditions : List ConditionEntry) : Building Unit := do
  register Statement.beginAndPart
  conditions.forM (addCondition joins)
  register Statement.endAndPart

/-- Adds an or-scope: its single conditions come before its and-parts. -/
def addOrScope (joins : JoinNames) (entry : OrScopeEntry) : Building Unit := do
  register Statement.openOrScope
  entry.conditions.forM (addCondition joins)
  entry.andParts.forM (addAndPart joins)
  register Statement.closeOrScope

/-- Adds a union branch on the table of the statement. The branch has no joins. -/
def addUnion (schema : Schema) (settings : Settings) (table : String) (entry : UnionEntry) :
    Building Unit := do
  let branch ← (Statement.ofTable schema settings table .unionQuery).mapError Problem.clause
  let ((), branch) ← (entry.conditions.forM (addCondition OrderedMap.empty)).run branch
  register (Statement.addUnion branch entry.keepsDuplicates)

def qualifiedPath (baseAlias : String) (joins : JoinNames) (path : String) :
    Except Problem String := do
  let columns ← (Text.splitOnChar '/' path).mapM fun piece => do
    let (aliasName, column) ← qualify baseAlias joins (Text.trim piece)
    return aliasName ++ "." ++ column
  return Text.join "/" columns

def nullPlace (word : String) : Except Problem Order.NullPlace :=
  match Order.NullPlace.ofWord? word with
  | some place => .ok place
  | none => .error (.unknownNullPlace word)

def addOrder (joins : JoinNames) (entry : OrderEntry) : Building Unit := do
  let statement ← get
  let path ← qualifiedPath statement.baseAlias joins entry.path
  register (Statement.orderBy path (Order.Direction.ofAscending entry.isAscending))
  if let some word := entry.nulls? then
    let place ← nullPlace word
    register (Statement.placeNulls place)
  if let some items := entry.manual? then
    let values ← operands items
    register (Statement.rankManually values)

/-- Restricts the rows. A start that is not positive is no start. -/
def addFetch (entry : FetchEntry) : Building Unit := do
  if entry.start > 0 then
    register (Statement.fetchScope entry.start entry.size)
  else
    register (Statement.fetchFirst entry.size)
  if let some page := entry.page? then
    register (Statement.fetchPage page)

def selectType (word : String) : Except Problem SelectType :=
  match SelectType.ofWord? word with
  | some type => .ok type
  | none => .error (.unknownSelectType word)

def addQuery (schema : Schema) (settings : Settings) (query : Query) : Building Unit := do
  query.parameters.forM addParameter
  let joins ← addJoins OrderedMap.empty 0 query.joins
  query.columns.forM (addColumn joins)
  query.conditions.forM (addCondition joins)
  query.orScopes.forM (addOrScope joins)
  query.unions.forM (addUnion schema settings query.table)
  query.orders.forM (addOrder joins)
  query.fetch?.forM addFetch
  if query.isLocked then
    register Statement.lock
  if let some word := query.select? then
    let type ← selectType word
    register (Statement.classify type)

/-- The statement that a query file describes, with settings that need not be the file's own. -/
def statement (file : QueryFile) (settings : Settings) : Except Problem Statement := do
  if file.query.isDelete && file.query.update?.isSome then
    throw .updateAndDelete
  let start ← (Statement.ofTable file.schema settings file.query.table .normalUse).mapError
    Problem.clause
  let ((), built) ← (addQuery file.schema settings file.query).run start
  return built

def render (file : QueryFile) (settings : Settings) : Except Problem String := do
  let built ← file.statement settings
  let sql :=
    if file.query.isDelete then built.renderDelete
    else
      match file.query.update? with
      | some columns => built.renderUpdate (OrderedMap.ofList columns)
      | none => built.render
  sql.mapError Problem.clause

end SqlComposer.QueryFile
