import SqlComposer.Statement.Rendering
import SqlComposer.Text.Property

/-!
Updates and deletes of the rows that a statement selects. A statement with joins, unions or an
inline view of its base table keeps its form in a sub-query on the primary key; otherwise its where
clause is used as it is, without the alias of the base table.
-/
namespace SqlComposer

namespace Statement

/-- Whether a character belongs to a name, so that an alias right after it is the end of a longer
name. -/
def isNameChar (c : Char) : Bool := Text.isAlphanumeric c || c == '_'

/-- Takes away a qualifier outside quoted parts, unless it ends a longer name. `last?` is the
character written last, `quoted` tells whether a quoted part is open, and the first `skipped`
characters belong to a qualifier already taken away. -/
def stripFrom (qualifier : List Char) : Option Char → Bool → Nat → List Char → List Char
  | _, _, _, [] => []
  | last?, quoted, skipped + 1, _ :: chars => stripFrom qualifier last? quoted skipped chars
  | last?, quoted, 0, c :: chars =>
    if c = '\'' then c :: stripFrom qualifier (some c) (!quoted) 0 chars
    else if !quoted && (Text.afterMark? qualifier (c :: chars)).isSome &&
        !(last?.any isNameChar) then
      stripFrom qualifier last? quoted (qualifier.length - 1) chars
    else c :: stripFrom qualifier (some c) quoted 0 chars

def stripAlias (aliasName text : String) : String :=
  String.ofList (stripFrom (aliasName ++ ".").toList none false 0 text.toList)

def needsSubQuery (statement : Statement) : Bool :=
  statement.hasJoin || statement.hasUnion || !statement.baseInline.isEmpty

/-- The column of the primary key by which a sub-query selects the rows. -/
def updateKey (statement : Statement) : Except ClauseError ColumnName :=
  if statement.table.hasCompoundKey then
    .error (.unsupported (.compoundKeyUpdate statement.table.name))
  else if !statement.dialect.updatesThroughSubQuery then
    .error (.unsupported (.subQueryUpdate statement.dialect))
  else
    match statement.table.primaryKey.head? with
    | some column => .ok column.sqlName
    | none => .error (.unsupported (.keylessUpdate statement.table.name))

def updateWhere (statement : Statement) : Except ClauseError String :=
  if statement.orScope.isOpen then .error (.illegalState .orScopeStillOpen)
  else if !statement.needsSubQuery then
    .ok (stripAlias statement.baseAlias statement.whereClause)
  else
    statement.updateKey.map fun key =>
      let select := "select " ++ statement.baseAlias ++ "." ++ key.text
      " where " ++ key.text ++ " in (" ++ select ++ statement.fromClause "" ++
        statement.whereClause ++ statement.unionClause select ++ ")"

def assignments (statement : Statement) : List (String × String) →
    Except ClauseError (List String)
  | [] => .ok []
  | (name, parameter) :: rest => do
    let column ← statement.table.requireColumn name
    let others ← statement.assignments rest
    return (column.sqlName.text ++ " = " ++ parameter) :: others

def renderUpdate (statement : Statement) (columns : OrderedMap String String) :
    Except ClauseError String :=
  if columns.isEmpty then .error (.illegalArgument .emptyUpdate)
  else do
    let assignments ← statement.assignments columns.entries
    let selected ← statement.updateWhere
    SubQuery.layout ("update " ++ statement.table.sqlName.text ++ " set " ++
      Text.join ", " assignments ++ selected)

def renderDelete (statement : Statement) : Except ClauseError String := do
  let selected ← statement.updateWhere
  SubQuery.layout ("delete from " ++ statement.table.sqlName.text ++ selected)

end Statement
end SqlComposer
