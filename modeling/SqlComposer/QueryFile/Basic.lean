import SqlComposer.QueryFile.Schema
import SqlComposer.QueryFile.Settings

/-!
Query files: a document with settings, a schema and the description of one statement. The values in
it are converted when the statement is built, not before.
-/
namespace SqlComposer.QueryFile

structure JoinEntry where
  name : String
  /-- The join that this one starts from; the base table when there is none. -/
  origin? : Option String
  property : String
  isInner : Bool
  isSelected : Bool

structure ConditionEntry where
  column : String
  key : String
  value? : Option Toml.Value
  like? : Option String
  ignoresCase : Bool
  /-- The location at which the value is bound instead of embedded. -/
  bind? : Option String
  /-- The base table or a join whose inline view takes the condition. -/
  inline? : Option String
  on? : Option String

structure OrScopeEntry where
  conditions : List ConditionEntry
  andParts : List (List ConditionEntry)

structure UnionEntry where
  keepsDuplicates : Bool
  conditions : List ConditionEntry

structure OrderEntry where
  path : String
  isAscending : Bool
  nulls? : Option String
  manual? : Option (List Toml.Value)

structure FetchEntry where
  size : Int64
  start : Int64
  page? : Option Int64

structure Query where
  table : String
  select? : Option String
  columns : List String
  parameters : List (String × Toml.Value)
  joins : List JoinEntry
  conditions : List ConditionEntry
  orScopes : List OrScopeEntry
  unions : List UnionEntry
  orders : List OrderEntry
  fetch? : Option FetchEntry
  isLocked : Bool
  update? : Option (List (String × String))
  isDelete : Bool

def JoinEntry.ofToml? (value : Toml.Value) : Option JoinEntry := do
  let fields ← value.fields? ["name", "from", "property", "inner", "select"]
  return {
    name := ← fields.required? "name" Toml.Value.text?
    origin? := ← fields.optional? "from" Toml.Value.text?
    property := ← fields.required? "property" Toml.Value.text?
    isInner := ← fields.withDefault? "inner" Toml.Value.boolean? false
    isSelected := ← fields.withDefault? "select" Toml.Value.boolean? false }

def ConditionEntry.ofToml? (value : Toml.Value) : Option ConditionEntry := do
  let fields ←
    value.fields? ["column", "key", "value", "like", "ignore-case", "bind", "inline", "on"]
  return {
    column := ← fields.required? "column" Toml.Value.text?
    key := ← fields.required? "key" Toml.Value.text?
    value? := ← fields.optional? "value" Toml.Value.any?
    like? := ← fields.optional? "like" Toml.Value.text?
    ignoresCase := ← fields.withDefault? "ignore-case" Toml.Value.boolean? false
    bind? := ← fields.optional? "bind" Toml.Value.text?
    inline? := ← fields.optional? "inline" Toml.Value.text?
    on? := ← fields.optional? "on" Toml.Value.text? }

def conditionsOf? : Toml.Value → Option (List ConditionEntry) :=
  Toml.Value.list? ConditionEntry.ofToml?

def andPartOf? (value : Toml.Value) : Option (List ConditionEntry) := do
  let fields ← value.fields? ["where"]
  fields.required? "where" conditionsOf?

def OrScopeEntry.ofToml? (value : Toml.Value) : Option OrScopeEntry := do
  let fields ← value.fields? ["where", "and-part"]
  return {
    conditions := ← fields.withDefault? "where" conditionsOf? []
    andParts := ← fields.withDefault? "and-part" (Toml.Value.list? andPartOf?) [] }

def UnionEntry.ofToml? (value : Toml.Value) : Option UnionEntry := do
  let fields ← value.fields? ["all", "where"]
  return {
    keepsDuplicates := ← fields.withDefault? "all" Toml.Value.boolean? false
    conditions := ← fields.withDefault? "where" conditionsOf? [] }

def OrderEntry.ofToml? (value : Toml.Value) : Option OrderEntry := do
  let fields ← value.fields? ["path", "ascending", "nulls", "manual"]
  return {
    path := ← fields.required? "path" Toml.Value.text?
    isAscending := ← fields.withDefault? "ascending" Toml.Value.boolean? true
    nulls? := ← fields.optional? "nulls" Toml.Value.text?
    manual? := ← fields.optional? "manual" (Toml.Value.list? Toml.Value.any?) }

def FetchEntry.ofToml? (value : Toml.Value) : Option FetchEntry := do
  let fields ← value.fields? ["size", "start", "page"]
  return {
    size := ← fields.required? "size" Toml.Value.integer64?
    start := ← fields.withDefault? "start" Toml.Value.integer64? 0
    page? := ← fields.optional? "page" Toml.Value.integer64? }

def Query.ofToml? (value : Toml.Value) : Option Query := do
  let fields ← value.fields? ["table", "select", "columns", "fixed-parameters", "join", "where",
    "or-scope", "union", "order-by", "fetch", "lock", "update", "delete"]
  return {
    table := ← fields.required? "table" Toml.Value.text?
    select? := ← fields.optional? "select" Toml.Value.text?
    columns := ← fields.withDefault? "columns" (Toml.Value.list? Toml.Value.text?) []
    parameters := ← fields.withDefault? "fixed-parameters" (Toml.Value.map? Toml.Value.any?) []
    joins := ← fields.withDefault? "join" (Toml.Value.list? JoinEntry.ofToml?) []
    conditions := ← fields.withDefault? "where" conditionsOf? []
    orScopes := ← fields.withDefault? "or-scope" (Toml.Value.list? OrScopeEntry.ofToml?) []
    unions := ← fields.withDefault? "union" (Toml.Value.list? UnionEntry.ofToml?) []
    orders := ← fields.withDefault? "order-by" (Toml.Value.list? OrderEntry.ofToml?) []
    fetch? := ← fields.optional? "fetch" FetchEntry.ofToml?
    isLocked := ← fields.withDefault? "lock" Toml.Value.boolean? false
    update? := ← fields.optional? "update" (Toml.Value.map? Toml.Value.text?)
    isDelete := ← fields.withDefault? "delete" Toml.Value.boolean? false }

inductive Problem where
  /-- The document is not well formed or does not have the fields it should have. -/
  | document
  | settings (cause : SettingsError)
  | clause (cause : ClauseError)
  | datetime (text : String)
  | updateAndDelete
  | unknownJoin (name : String)
  | unknownNullPlace (word : String)
  | inlineAndOn (column : String)
  | unknownLikeMode (word : String)
  | unknownSelectType (word : String)
  | tableValue

def Problem.message : Problem → String
  | document => "The document is not a query file"
  | settings cause => cause.message
  | clause cause => cause.message
  | datetime text => s!"Unsupported datetime '{text}', expected a local date or time"
  | updateAndDelete => "A query cannot be both an update and a delete"
  | unknownJoin name => s!"Unknown join '{name}'"
  | unknownNullPlace word => s!"Unknown nulls ordering '{word}', expected first or last"
  | inlineAndOn column => s!"The condition on '{column}' cannot be both inline and on-clause"
  | unknownLikeMode word => s!"Unknown like search mode '{word}'"
  | unknownSelectType word => s!"Unknown select type '{word}'"
  | tableValue => "A table is not a condition value"

end QueryFile

structure QueryFile where
  settings : Settings
  schema : Schema
  query : QueryFile.Query

namespace QueryFile

def entriesOf? (value : Toml.Value) :
    Option (Option SettingsEntry × List TableEntry × Query) := do
  let fields ← value.fields? ["config", "table", "query"]
  return (← fields.optional? "config" SettingsEntry.ofToml?,
    ← fields.withDefault? "table" (Toml.Value.list? TableEntry.ofToml?) [],
    ← fields.required? "query" Query.ofToml?)

/-- Reads a query file: the document first, then its settings, then its schema. -/
def parse (text : String) : Except Problem QueryFile :=
  match (Toml.parse? text).bind entriesOf? with
  | none => .error .document
  | some (settings?, tables, query) => do
    let settings ← ((settings?.getD {}).settings).mapError Problem.settings
    let schema ← (Schema.ofEntries tables).mapError Problem.clause
    return { settings, schema, query }

end QueryFile
end SqlComposer
