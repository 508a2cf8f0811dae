import SqlComposer.Error
import SqlComposer.Text.Property
import SqlComposer.Value.Temporal

/-!
Values of conditions and parameters. Null, the empty text and lists of nothing else are empty
values, which most conditions ignore.
-/
namespace SqlComposer

/-- A value of a condition. A decimal is kept as its digits. -/
inductive Value where
  | null
  | bool (value : Bool)
  | int (value : Int)
  | decimal (digits : String)
  | text (value : String)
  | date (value : Date)
  | timestamp (value : Timestamp)
  | list (elements : List Value)

namespace Value

/-- Whether characters are the digits of a decimal without its sign: one digit or more, and perhaps
a point with one digit or more after it. Digits of every script count. -/
def isUnsignedDecimal (chars : List Char) : Bool :=
  !(chars.takeWhile Text.isDecimalDigit).isEmpty &&
    match chars.dropWhile Text.isDecimalDigit with
    | [] => true
    | c :: fraction => c == '.' && !fraction.isEmpty && fraction.all Text.isDecimalDigit

def isDecimal (chars : List Char) : Bool :=
  match chars with
  | '+' :: digits => isUnsignedDecimal digits
  | '-' :: digits => isUnsignedDecimal digits
  | digits => isUnsignedDecimal digits

def ofDecimal (text : String) : Except ClauseError Value :=
  if isDecimal text.toList then .ok (decimal text)
  else .error (.illegalArgument (.notDecimal text))

mutual

def isEmpty : Value → Bool
  | null => true
  | text value => value.isEmpty
  | list elements => allEmpty elements
  | _ => false

def allEmpty : List Value → Bool
  | [] => true
  | value :: rest => isEmpty value && allEmpty rest

end

/-- The elements of a list that are not empty. A value that is not a list is its own only element.
-/
def effectiveElements : Value → List Value
  | list elements => elements.filter fun value => !value.isEmpty
  | value => if value.isEmpty then [] else [value]

theorem allEmpty_eq_all (values : List Value) : allEmpty values = values.all isEmpty := by
  induction values with
  | nil => rfl
  | cons value rest ih => simp [allEmpty, ih]

theorem effectiveElements_eq_nil_iff (value : Value) :
    value.effectiveElements = [] ↔ value.isEmpty = true := by
  cases value <;> simp [effectiveElements, isEmpty, allEmpty_eq_all]

end Value
end SqlComposer
