import SqlComposer.Toml.Document

/-!
Records read from TOML. A record is written as a table whose keys are all known, or as an array with
the fields in their order; items after the last field are passed over.
-/
namespace SqlComposer.Toml

def largestInteger : Int := Int64.maxValue.toInt

def isInteger64 (number : Int) : Bool :=
  Int64.minValue.toInt ≤ number && number ≤ largestInteger

/-- The name under which a date or time is the only value of a table. -/
def datetimeKey : String := "$__toml_private_datetime"

def Value.datetimeOfText? : Value → Option Value
  | .text written => (datetime? written.toList).map .datetime
  | _ => none

mutual

/-- A value of any kind. All its numbers are numbers of 64 bits, and a table whose first key is the
name for dates and times stands for the date or time that it says; its other entries are passed
over. -/
def Value.any? : Value → Option Value
  | .integer (some number) =>
    if isInteger64 number then some (.integer (some number)) else none
  | .integer none => none
  | .float (some number) => some (.float (some number))
  | .float none => none
  | .array items => (Value.anyItems? items).map .array
  | .table entries =>
    match entries.head? with
    | some (key, value) =>
      if key = datetimeKey then value.datetimeOfText?
      else (Value.anyEntries? entries).map .table
    | none => some (.table [])
  | value => some value

def Value.anyItems? : List Value → Option (List Value)
  | [] => some []
  | value :: rest => do
    let value ← Value.any? value
    let rest ← Value.anyItems? rest
    return value :: rest

def Value.anyEntries? : List (String × Value) → Option (List (String × Value))
  | [] => some []
  | (key, value) :: rest => do
    let value ← Value.any? value
    let rest ← Value.anyEntries? rest
    return (key, value) :: rest

end

namespace Value

def text? : Value → Option String
  | .text value => some value
  | _ => none

def boolean? : Value → Option Bool
  | .boolean value => some value
  | _ => none

def integer64? : Value → Option Int64
  | .integer (some value) => if isInteger64 value then some (Int64.ofInt value) else none
  | _ => none

def count? : Value → Option Nat
  | .integer (some value) => if 0 ≤ value ∧ value < UInt64.size then some value.toNat else none
  | _ => none

def list? {α : Type} (item? : Value → Option α) : Value → Option (List α)
  | .array items => items.mapM item?
  | _ => none

/-- A table of values by name, in the order of the names. A date or time counts as a table that
holds its text. -/
def map? {α : Type} (item? : Value → Option α) : Value → Option (List (String × α))
  | .table entries => entries.mapM fun (key, value) => (item? value).map fun item => (key, item)
  | .datetime written =>
    (item? (.text written.normal)).map fun item => [(datetimeKey, item)]
  | _ => none

def pair? : Value → Option (String × String)
  | .array (first :: second :: _) => do return (← first.text?, ← second.text?)
  | _ => none

end Value

structure Fields where
  entries : List (String × Value)
  isPositional : Bool

def Value.fields? (names : List String) : Value → Option Fields
  | .table entries =>
    if entries.all fun entry => names.contains entry.1 then some ⟨entries, false⟩ else none
  | .array items => some ⟨names.zip items, true⟩
  | _ => none

namespace Fields

def required? {α : Type} (fields : Fields) (name : String) (item? : Value → Option α) :
    Option α :=
  (fields.entries.lookup name).bind item?

def withDefault? {α : Type} (fields : Fields) (name : String) (item? : Value → Option α)
    (default : α) : Option α :=
  match fields.entries.lookup name with
  | some value => item? value
  | none => some default

/-- A field that a table may lack. In an array every such field has to be there. -/
def optional? {α : Type} (fields : Fields) (name : String) (item? : Value → Option α) :
    Option (Option α) :=
  match fields.entries.lookup name with
  | some value => (item? value).map some
  | none => if fields.isPositional then none else some none

end Fields
end SqlComposer.Toml
