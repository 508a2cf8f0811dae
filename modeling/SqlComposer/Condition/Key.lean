/-!
The ways in which a condition compares a column.
-/
namespace SqlComposer.Condition

inductive Key where
  | equal
  | notEqual
  | greaterThan
  | greaterEqual
  | lessThan
  | lessEqual
  | inScope
  | notInScope
  | likeSearch
  | notLikeSearch
  | isNull
  | isNotNull
  | isNullOrEmpty
  deriving DecidableEq

namespace Key

def all : List Key :=
  [equal, notEqual, greaterThan, greaterEqual, lessThan, lessEqual, inScope, notInScope, likeSearch,
    notLikeSearch, isNull, isNotNull, isNullOrEmpty]

/-- The name of a comparison, used in bind locations and in query files. -/
def name : Key → String
  | equal => "equal"
  | notEqual => "notEqual"
  | greaterThan => "greaterThan"
  | greaterEqual => "greaterEqual"
  | lessThan => "lessThan"
  | lessEqual => "lessEqual"
  | inScope => "inScope"
  | notInScope => "notInScope"
  | likeSearch => "likeSearch"
  | notLikeSearch => "notLikeSearch"
  | isNull => "isNull"
  | isNotNull => "isNotNull"
  | isNullOrEmpty => "isNullOrEmpty"

def operator : Key → String
  | equal => "="
  | notEqual => "<>"
  | greaterThan => ">"
  | greaterEqual => ">="
  | lessThan => "<"
  | lessEqual => "<="
  | inScope => "in"
  | notInScope => "not in"
  | likeSearch => "like"
  | notLikeSearch => "not like"
  | isNull => "is null"
  | isNotNull => "is not null"
  | isNullOrEmpty => "is null or"

def needsValue : Key → Bool
  | isNull | isNotNull | isNullOrEmpty => false
  | _ => true

def isList : Key → Bool
  | inScope | notInScope => true
  | _ => false

def isLike : Key → Bool
  | likeSearch | notLikeSearch => true
  | _ => false

def ofName? (text : String) : Option Key :=
  all.find? fun key => key.name == text

end Key
end SqlComposer.Condition
