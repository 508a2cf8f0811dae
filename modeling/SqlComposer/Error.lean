import SqlComposer.Condition.Key
import SqlComposer.Dialect.Basic
import SqlComposer.Purpose
import SqlComposer.SelectType

/-!
Why a registration or a rendering is refused. Every error carries its cause as data; `message` is
the one place that words it.
-/
namespace SqlComposer

open Condition (Key)

/-- What a name that must not be blank is the name of. -/
inductive Named where
  | table
  | column
  | tableAlias
  | parameter
  deriving DecidableEq

def Named.words : Named → String
  | table => "table"
  | column => "column"
  | tableAlias => "table alias"
  | parameter => "fixed condition parameter"

/-- An argument that no statement accepts. Columns are held as they are shown. -/
inductive ArgumentError where
  | blankName (bearer : Named)
  | notDecimal (text : String)
  | unknownKey (name : String)
  | optionWithoutLike (key : Key) (column : String)
  | missingValue (key : Key) (column : String)
  | listValue (key : Key) (column : String)
  | patternNotText (key : Key) (column : String)
  | unknownParameter (name condition : String)
  | orderPath (path : String)
  | emptyManualOrder
  | duplicateTable (name : String)
  | relationWithoutColumns (property table : String)
  | duplicateRelation (property table : String)
  | notSubQuery (purpose : Purpose)
  | blankDerivedColumn
  | blankCondition
  | blankUnion
  | fetchSize (size : Int)
  | fetchStart (start : Int)
  | pageRange (page size start : Int)
  | emptyUpdate
  | other (text : String)
  deriving DecidableEq

inductive StateError where
  | unknownJoin (aliasName : String)
  | relationNotSelected (aliasName : String)
  | noSpecifiedColumn
  | columnNotSelected (column : String)
  | unknownDerivedColumn (name : String)
  | andPartOutsideOrScope
  | andPartAlreadyOpen
  | noAndPart
  | andPartStillOpen
  | noOrScope
  | orScopeStillOpen
  | noOrderElement
  | noSelectAliases
  | orderNotSelected (column : String)
  | fetchSizeUnset
  | endWithoutBegin
  | unterminatedBegin (text : String)
  | beginWithoutEnd (identity : String)
  | other (text : String)
  deriving DecidableEq

inductive UnsupportedError where
  | purpose (registration : Restricted) (forbidding : Purpose)
  | manualOrderOfUnion
  | unionOfManualOrder
  | orScopeInAndPart
  | lock (dialect : Dialect)
  | compoundKeyUpdate (table : String)
  | keylessUpdate (table : String)
  | subQueryUpdate (dialect : Dialect)
  | other (text : String)
  deriving DecidableEq

inductive MetadataError where
  | table (name : String)
  | column (name holder : String)
  | relation (property holder : String)
  | other (text : String)
  deriving DecidableEq

inductive Activity where
  | joining (property aliasName : String)
  | specifying (aliasName column : String)
  | other (text : String)
  deriving DecidableEq

inductive ClauseError where
  | illegalArgument (cause : ArgumentError)
  | illegalState (cause : StateError)
  | unsupported (cause : UnsupportedError)
  | ambiguousScalar (type : SelectType) (specified : Nat)
  | metadataNotFound (cause : MetadataError)
  | during (activity : Activity) (inner : ClauseError)
  deriving DecidableEq

def ArgumentError.message : ArgumentError → String
  | blankName bearer => s!"The {bearer.words} name should not be blank"
  | notDecimal text => s!"Not a decimal value: {text}"
  | unknownKey name => s!"Unknown condition key: {name}"
  | optionWithoutLike key column =>
    s!"The like-search option is not available for {key.name} ({column})"
  | missingValue key column =>
    s!"The value for {key.name} of {column} should not be null or empty"
  | listValue key column => s!"A list value is not allowed for {key.name} of {column}"
  | patternNotText key column => s!"The value for {key.name} of {column} should be a string"
  | unknownParameter name condition =>
    s!"The fixed condition parameter '{name}' is not registered: {condition}"
  | orderPath path => s!"Invalid order-by property path: '{path}'"
  | emptyManualOrder => "The manual order needs at least one value"
  | duplicateTable name => s!"Duplicate table '{name}'"
  | relationWithoutColumns property table =>
    s!"The relation '{property}' of '{table}' has no join columns"
  | duplicateRelation property table => s!"Duplicate relation '{property}' of '{table}'"
  | notSubQuery purpose => s!"The purpose '{purpose.words}' is not a sub-query purpose"
  | blankDerivedColumn => "The deriving sub-query and its alias should not be blank"
  | blankCondition => "The where clause text should not be blank"
  | blankUnion => "The union query clause should not be blank"
  | fetchSize size => s!"The fetch size should be positive: {size}"
  | fetchStart start => s!"The fetch start index should not be negative: {start}"
  | pageRange page size start => s!"The page {page} of size {size} from {start} is out of range"
  | emptyUpdate => "The query update needs at least one column"
  | other text => text

def StateError.message : StateError → String
  | unknownJoin aliasName => s!"The alias '{aliasName}' is not registered as an outer join"
  | relationNotSelected aliasName =>
    s!"The relation '{aliasName}' should be selected before specifying its columns"
  | noSpecifiedColumn => "No specified column"
  | columnNotSelected column => s!"The column '{column}' is not in the select clause"
  | unknownDerivedColumn name => s!"The deriving sub-query '{name}' is not specified"
  | andPartOutsideOrScope => "The and-part requires an open or-scope query"
  | andPartAlreadyOpen => "The and-part of the or-scope query is already open"
  | noAndPart => "No and-part of the or-scope query is open"
  | andPartStillOpen => "The and-part of the or-scope query is still open"
  | noOrScope => "No or-scope query is open"
  | orScopeStillOpen => "The or-scope query is still open"
  | noOrderElement => "No order-by element has been registered"
  | noSelectAliases => "The select alias map is empty while a union query exists"
  | orderNotSelected column => s!"The order-by column '{column}' is not in the select clause"
  | fetchSizeUnset => "The fetch size should be set before the page number"
  | endWithoutBegin => "A sub-query end mark has no begin mark"
  | unterminatedBegin text => s!"The sub-query begin mark has no identity terminal: {text}"
  | beginWithoutEnd identity => s!"The sub-query end mark for '{identity}' was not found"
  | other text => text

def UnsupportedError.message : UnsupportedError → String
  | .purpose registration forbidding =>
    s!"{registration.words} is not allowed for the purpose '{forbidding.words}'"
  | manualOrderOfUnion => "The manual order cannot be used with a union query"
  | unionOfManualOrder => "A union query cannot be used with the manual order"
  | orScopeInAndPart => "An or-scope query cannot be opened inside an and-part"
  | lock dialect => s!"Lock for update is not supported by {dialect.name}"
  | compoundKeyUpdate table =>
    s!"The query update of {table} with joins or unions needs a single primary key"
  | keylessUpdate table => s!"The query update of {table} with joins or unions needs a primary key"
  | subQueryUpdate dialect =>
    s!"The {dialect.name} dialect cannot update through a sub-query on the same table"
  | other text => text

def MetadataError.message : MetadataError → String
  | .table name => s!"Table '{name}' not found"
  | .column name holder => s!"Column '{name}' not found in table '{holder}'"
  | .relation property holder => s!"Relation '{property}' not found in table '{holder}'"
  | other text => text

def Activity.words : Activity → String
  | joining property aliasName => s!"While joining '{property}' from '{aliasName}':"
  | specifying aliasName column => s!"While specifying the select column '{aliasName}.{column}':"
  | other text => text

namespace ClauseError

/-- The wording of an error, with the activities it arose in before it. -/
def message : ClauseError → String
  | illegalArgument cause => s!"Illegal argument: {cause.message}"
  | illegalState cause => s!"Illegal state: {cause.message}"
  | unsupported cause => s!"Unsupported: {cause.message}"
  | ambiguousScalar type specified =>
    s!"The specified column for {type.word} select should be only one, but found {specified}"
  | metadataNotFound cause => s!"Metadata not found: {cause.message}"
  | during activity inner => s!"{activity.words} {inner.message}"

def root : ClauseError → ClauseError
  | during _ inner => inner.root
  | error => error

def noting {α : Type} (activity : Activity) : Except ClauseError α → Except ClauseError α
  | .ok value => .ok value
  | .error inner => .error (during activity inner)

end ClauseError
end SqlComposer
