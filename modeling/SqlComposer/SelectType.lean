/-!
What the select clause of a statement is made of: columns, or one aggregated value.
-/
namespace SqlComposer

inductive SelectType where
  | columns
  | count
  | max
  | min
  | sum
  | avg
  deriving DecidableEq

namespace SelectType

def all : List SelectType := [columns, count, max, min, sum, avg]

def function? : SelectType → Option String
  | columns => none
  | count => some "count"
  | max => some "max"
  | min => some "min"
  | sum => some "sum"
  | avg => some "avg"

def isScalar (type : SelectType) : Bool :=
  type.function?.isSome

def word (type : SelectType) : String :=
  type.function?.getD "columns"

def ofWord? (text : String) : Option SelectType :=
  all.find? fun type => type.word == text

end SelectType
end SqlComposer
