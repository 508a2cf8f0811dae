import SqlComposer.QueryFile.Basic
import SqlComposer.Value.Basic

/-!
Operands of query files: the values of a document as values of conditions. A day, and a day with a
time down to the second, are values; other dates and times, and tables, are not.
-/
namespace SqlComposer.QueryFile

/-- The day or moment of a date and time, or no value. The sixtieth second is a leap second. -/
def moment? (datetime : Toml.Datetime) : Option Value :=
  match datetime.date?, datetime.time?, datetime.offset? with
  | some date, none, none => some (.date date)
  | some date, some time, none =>
    time.second?.map fun second =>
      let nanosecond := time.nanosecond?.getD 0
      if second = 60 then
        .timestamp ⟨date, time.hour, time.minute, 59, nanosecond + 1000000000⟩
      else .timestamp ⟨date, time.hour, time.minute, second, nanosecond⟩
  | _, _, _ => none

mutual

def operand : Toml.Value → Except Problem Value
  | .text value => .ok (.text value)
  | .integer (some value) => .ok (.int value)
  | .integer none => .error .document
  | .float (some number) => (Value.ofDecimal number.text).mapError Problem.clause
  | .float none => .error .document
  | .boolean value => .ok (.bool value)
  | .datetime datetime =>
    match moment? datetime with
    | some value => .ok value
    | none => .error (.datetime datetime.normal)
  | .array items => (operands items).map Value.list
  | .table _ => .error .tableValue

def operands : List Toml.Value → Except Problem (List Value)
  | [] => .ok []
  | item :: rest => do
    let value ← operand item
    let values ← operands rest
    return value :: values

end

end SqlComposer.QueryFile
