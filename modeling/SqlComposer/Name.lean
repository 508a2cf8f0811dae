import SqlComposer.Error
import SqlComposer.Text.Blank

/-!
Names of tables and columns as they are written in a statement, already quoted if the dialect asks
for it. A name is never blank.
-/
namespace SqlComposer

def requireName (bearer : Named) (text : String) : Except ClauseError String :=
  if Text.isBlank text then .error (.illegalArgument (.blankName bearer)) else .ok text

structure TableName where
  text : String
  deriving DecidableEq

structure ColumnName where
  text : String
  deriving DecidableEq

/-- A column, usually qualified by the alias of the table reference that it belongs to. -/
structure ColumnRef where
  alias? : Option String
  column : ColumnName
  deriving DecidableEq

def TableName.ofText (text : String) : Except ClauseError TableName :=
  (requireName .table text).map TableName.mk

def ColumnName.ofText (text : String) : Except ClauseError ColumnName :=
  (requireName .column text).map ColumnName.mk

namespace ColumnRef

def qualified (aliasName : String) (column : ColumnName) : ColumnRef := ⟨some aliasName, column⟩

def unqualified (column : ColumnName) : ColumnRef := ⟨none, column⟩

def text (ref : ColumnRef) : String :=
  match ref.alias? with
  | some aliasName => aliasName ++ "." ++ ref.column.text
  | none => ref.column.text

/-- Reads `alias.COLUMN`, split at the first dot, or a bare column. Blanks around the whole are
dropped, blanks beside the dot belong to the names. -/
def ofText (text : String) : Except ClauseError ColumnRef :=
  let trimmed := Text.trim text
  match Text.splitAtChar? '.' trimmed with
  | some (aliasName, column) =>
    match requireName .tableAlias aliasName with
    | .error refusal => .error refusal
    | .ok aliasName => (ColumnName.ofText column).map (qualified aliasName)
  | none => (ColumnName.ofText trimmed).map unqualified

end ColumnRef

theorem requireName_eq_ok_iff {bearer : Named} {text name : String} :
    requireName bearer text = .ok name ↔ name = text ∧ Text.isBlank text = false := by
  unfold requireName
  cases Text.isBlank text <;> simp [eq_comm]

end SqlComposer
