import SqlComposer.Value.Basic

/-!
Literals of each dialect. A quote inside a text is doubled; MySQL, where a backslash escapes the
next character, doubles the backslash as well. Oracle names the type of a temporal literal and MS
Access puts it between number signs.
-/
namespace SqlComposer.Dialect

def backslashEscapes : Dialect → Bool
  | mysql => true
  | _ => false

def quotedChar (dialect : Dialect) (c : Char) : List Char :=
  if c = '\'' then ['\'', '\'']
  else if c = '\\' && dialect.backslashEscapes then ['\\', '\\']
  else [c]

def quotedChars (dialect : Dialect) (chars : List Char) : List Char :=
  '\'' :: (chars.flatMap dialect.quotedChar ++ ['\''])

def textLiteral (dialect : Dialect) (text : String) : String :=
  String.ofList (dialect.quotedChars text.toList)

def dateLiteral (dialect : Dialect) (date : Date) : String :=
  match dialect with
  | oracle => "date '" ++ date.text ++ "'"
  | msAccess => "#" ++ date.text ++ "#"
  | _ => "'" ++ date.text ++ "'"

/-- The literal of a moment: down to the millisecond, in MS Access down to the second. -/
def timestampLiteral (dialect : Dialect) (moment : Timestamp) : String :=
  match dialect with
  | oracle => "timestamp '" ++ moment.millisecondsText ++ "'"
  | msAccess => "#" ++ moment.secondsText ++ "#"
  | _ => "'" ++ moment.millisecondsText ++ "'"

def boolLiteral (dialect : Dialect) (value : Bool) : String :=
  match dialect with
  | oracle | sqlServer | msAccess => if value then "1" else "0"
  | _ => if value then "true" else "false"

end SqlComposer.Dialect

namespace SqlComposer.Value

mutual

def literal (dialect : Dialect) : Value → String
  | null => "null"
  | bool value => dialect.boolLiteral value
  | int value => toString value
  | decimal digits => digits
  | text value => dialect.textLiteral value
  | date value => dialect.dateLiteral value
  | timestamp value => dialect.timestampLiteral value
  | list elements => "(" ++ Text.join ", " (literals dialect elements) ++ ")"

def literals (dialect : Dialect) : List Value → List String
  | [] => []
  | value :: rest => literal dialect value :: literals dialect rest

end

theorem literals_eq_map (dialect : Dialect) (values : List Value) :
    literals dialect values = values.map (literal dialect) := by
  induction values with
  | nil => rfl
  | cons value rest ih => simp [literals, ih]

end SqlComposer.Value
