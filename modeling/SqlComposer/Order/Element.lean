import SqlComposer.Dialect.Basic
import SqlComposer.Error
import SqlComposer.Text.Blank

/-!
Elements of an order: a column with a direction, perhaps a place for nulls and perhaps a list of
values that come in a requested sequence.
-/
namespace SqlComposer.Order

inductive Direction where
  | ascending
  | descending
  deriving DecidableEq

inductive NullPlace where
  | first
  | last
  deriving DecidableEq

namespace Direction

def ofAscending (ascending : Bool) : Direction :=
  if ascending then .ascending else .descending

def reverse : Direction → Direction
  | ascending => descending
  | descending => ascending

def word : Direction → String
  | ascending => "asc"
  | descending => "desc"

end Direction

namespace NullPlace

def word : NullPlace → String
  | first => "first"
  | last => "last"

def ofWord? (text : String) : Option NullPlace :=
  [first, last].find? fun place => place.word == text

def presentRank : NullPlace → String
  | first => "1"
  | last => "0"

def absentRank : NullPlace → String
  | first => "0"
  | last => "1"

end NullPlace

/-- An element whose nulls have a place, as it is written. Dialects without words for it rank the
rows first. -/
def nullsText (dialect : Dialect) (expression : String) (direction : Direction)
    (place : NullPlace) : String :=
  match dialect with
  | .postgresql | .oracle | .h2 | .db2 | .derby =>
    expression ++ " " ++ direction.word ++ " nulls " ++ place.word
  | .mysql | .sqlServer | .sqlite =>
    "case when " ++ expression ++ " is not null then " ++ place.presentRank ++ " else " ++
      place.absentRank ++ " end asc, " ++ expression ++ " " ++ direction.word
  | .msAccess =>
    "iif(" ++ expression ++ " is not null, " ++ place.presentRank ++ ", " ++ place.absentRank ++
      ") asc, " ++ expression ++ " " ++ direction.word

structure Element where
  alias? : Option String
  column : String
  direction : Direction
  nulls? : Option NullPlace := none
  /-- The literals of the values that come first, in the requested sequence. -/
  manual? : Option (List String) := none
  /-- Whether the column is derived by a sub-query and goes by its select alias. -/
  isDerived : Bool := false
  deriving DecidableEq

namespace Element

def fullName (element : Element) : String :=
  match element.alias? with
  | some aliasName => aliasName ++ "." ++ element.column
  | none => element.column

def rankBranches (column : String) : Nat → List String → String
  | _, [] => ""
  | index, value :: rest =>
    " when " ++ column ++ " = " ++ value ++ " then " ++ toString index ++
      rankBranches column (index + 1) rest

/-- The expression that an element orders by: the column, or its position among the requested values
with all other values after them. -/
def expression (element : Element) (column : String) : String :=
  match element.manual? with
  | none => column
  | some values =>
    "case" ++ rankBranches column 0 values ++ " else " ++ toString values.length ++ " end"

def sql (element : Element) (dialect : Dialect) (column : String) : String :=
  match element.nulls? with
  | some place => nullsText dialect (element.expression column) element.direction place
  | none => element.expression column ++ " " ++ element.direction.word

/-- Reads `[alias.]COLUMN`, split at the first dot, with blanks around every part. -/
def ofToken? (direction : Direction) (token : String) : Option Element :=
  let trimmed := Text.trim token
  match Text.splitAtChar? '.' trimmed with
  | some (aliasName, column) =>
    let aliasName := Text.trim aliasName
    let column := Text.trim column
    if aliasName.isEmpty || column.isEmpty then none
    else some { alias? := some aliasName, column, direction }
  | none => if trimmed.isEmpty then none else some { alias? := none, column := trimmed, direction }

def ofPath (path : String) (direction : Direction) : Except ClauseError (List Element) :=
  match (Text.splitOnChar '/' path).mapM (ofToken? direction) with
  | some elements => .ok elements
  | none => .error (.illegalArgument (.orderPath path))

end Element
end SqlComposer.Order
