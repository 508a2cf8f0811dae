import SqlComposer.Condition.Like
import SqlComposer.Name

/-!
Clauses of where lists, inline views and on-conditions, and their text.
-/
namespace SqlComposer.Condition

/-- One clause of a list that is joined by `and`, or one term of an or-scope. -/
inductive Clause where
  | text (content : String)
  /-- A comparison of a column with an operand that is a literal or a bind comment already. -/
  | bound (column : ColumnRef) (key : Key) (operand : String) (option? : Option LikeOption)
  /-- A clause registered while an and-part of an or-scope was open. Clauses of the same and-part
  have the same identity. -/
  | andPart (inner : Clause) (identity : Nat)
  deriving DecidableEq

def Key.predicate (key : Key) (column operand : String) (option? : Option LikeOption) : String :=
  match key with
  | .isNull | .isNotNull => column ++ " " ++ key.operator
  | .isNullOrEmpty => "(" ++ column ++ " is null or " ++ column ++ " = '')"
  | .likeSearch | .notLikeSearch =>
    match option? with
    | none => column ++ " " ++ key.operator ++ " " ++ operand
    | some option =>
      if option.ignoresCase then
        "lower(" ++ column ++ ") " ++ key.operator ++ " lower(" ++ operand ++ ")" ++
          option.escapeClause
      else column ++ " " ++ key.operator ++ " " ++ operand ++ option.escapeClause
  | _ => column ++ " " ++ key.operator ++ " " ++ operand

namespace Clause

def sql : Clause → String
  | .text content => content
  | bound column key operand option? => key.predicate column.text operand option?
  | andPart inner _ => inner.sql

def andPart? : Clause → Option Nat
  | andPart _ identity => some identity
  | _ => none

def joined (connector : String) (clauses : List Clause) : String :=
  Text.join connector (clauses.map sql)

end Clause
end SqlComposer.Condition
