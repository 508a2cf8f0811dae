import SqlComposer.Statement.Updating

/-!
Registrations as data. A statement is reached from a new one by operations in any order; an
operation that is refused may have been asked for as well, and what it leaves is reached too.
-/
namespace SqlComposer

open Condition (Holder Key LikeOption)

inductive Operation where
  | classify (type : SelectType)
  | rollback
  | useSelectIndex (enabled : Bool)
  | selectRelation (aliasName suffix : String)
  | specify (aliasName name : String)
  | derive (name subQuery : String)
  | join (aliasName property : String)
  | makeInner (aliasName : String)
  | setParameter (name : String) (value : Value)
  | addCondition (column : ColumnRef) (key : Key) (holder : Holder) (option? : Option LikeOption)
  | addConditionText (text : String)
  | addBaseInline (name : String) (key : Key) (holder : Holder) (option? : Option LikeOption)
  | addJoinCondition (aliasName name : String) (key : Key) (holder : Holder)
      (option? : Option LikeOption) (isOn : Bool)
  | openOrScope
  | closeOrScope
  | beginAndPart
  | endAndPart
  | moveLastConditionFirst
  | clearConditions
  | orderBy (path : String) (direction : Order.Direction)
  | reverseOrReplaceOrder (path : String) (direction : Order.Direction)
  | placeNulls (place : Order.NullPlace)
  | rankManually (values : List Value)
  | orderByDerived (name : String) (direction : Order.Direction)
  | useOrder (effective : Bool)
  | clearOrder
  | addUnionText (text : String) (keepsDuplicates : Bool)
  | addUnion (branch : Statement) (keepsDuplicates : Bool)
  | fetchFirst (size : Int64)
  | fetchPage (page : Int64)
  | fetchScope (start size : Int64)
  | suppressFetch (suppressed : Bool)
  | lock

namespace Operation

/-- The registration that an operation asks for. What it returns is left out. -/
def registration : Operation → Registration Unit
  | classify type => Statement.classify type
  | rollback => Statement.rollback
  | useSelectIndex enabled => Statement.useSelectIndex enabled
  | selectRelation aliasName suffix => Statement.selectRelation aliasName suffix
  | specify aliasName name => Statement.specify aliasName name
  | derive name subQuery => Statement.derive name subQuery
  | join aliasName property => (fun _ => ()) <$> Statement.join aliasName property
  | makeInner aliasName => Statement.makeInner aliasName
  | setParameter name value => Statement.setParameter name value
  | addCondition column key holder option? => Statement.addCondition column key holder option?
  | addConditionText text => Statement.addConditionText text
  | addBaseInline name key holder option? => Statement.addBaseInline name key holder option?
  | addJoinCondition aliasName name key holder option? isOn =>
    Statement.addJoinCondition aliasName name key holder option? isOn
  | openOrScope => Statement.openOrScope
  | closeOrScope => Statement.closeOrScope
  | beginAndPart => Statement.beginAndPart
  | endAndPart => Statement.endAndPart
  | moveLastConditionFirst => Statement.moveLastConditionFirst
  | clearConditions => Statement.clearConditions
  | orderBy path direction => Statement.orderBy path direction
  | reverseOrReplaceOrder path direction => Statement.reverseOrReplaceOrder path direction
  | placeNulls place => Statement.placeNulls place
  | rankManually values => Statement.rankManually values
  | orderByDerived name direction => Statement.orderByDerived name direction
  | useOrder effective => Statement.useOrder effective
  | clearOrder => Statement.clearOrder
  | addUnionText text keepsDuplicates => Statement.addUnionText text keepsDuplicates
  | addUnion branch keepsDuplicates => Statement.addUnion branch keepsDuplicates
  | fetchFirst size => Statement.fetchFirst size
  | fetchPage page => Statement.fetchPage page
  | fetchScope start size => Statement.fetchScope start size
  | suppressFetch suppressed => Statement.suppressFetch suppressed
  | lock => Statement.lock

def perform (operation : Operation) (statement : Statement) :
    Except ClauseError Unit × Statement :=
  Id.run (operation.registration.run statement)

end Operation

namespace Statement

/-- The statement after an operation, whether it has been refused or not. -/
def after (statement : Statement) (operation : Operation) : Statement :=
  (operation.perform statement).2

def afterAll (statement : Statement) (operations : List Operation) : Statement :=
  operations.foldl after statement

/-- The statements that can be reached from new ones over a schema, the ones nested in other
statements among them. -/
inductive Reachable (schema : Schema) : Statement → Prop where
  | new {settings : Settings} {tableName : String} {purpose : Purpose} {statement : Statement}
      (created : ofTable schema settings tableName purpose = .ok statement) :
      Reachable schema statement
  | withResolver {statement : Statement} (reached : Reachable schema statement)
      (resolver : FixedCondition.Resolver) : Reachable schema { statement with resolver }
  | nested {outer statement : Statement} {tableName : String} {purpose : Purpose}
      (reached : Reachable schema outer)
      (created : outer.nested tableName purpose = .ok statement) : Reachable schema statement
  | after {statement : Statement} (reached : Reachable schema statement)
      (operation : Operation) : Reachable schema (statement.after operation)

theorem afterAll_append (statement : Statement) (first second : List Operation) :
    statement.afterAll (first ++ second) = (statement.afterAll first).afterAll second := by
  simp [afterAll]

theorem Reachable.afterAll {schema : Schema} {statement : Statement}
    (reached : Reachable schema statement) (operations : List Operation) :
    Reachable schema (statement.afterAll operations) := by
  induction operations generalizing statement with
  | nil => exact reached
  | cons operation rest ih => exact ih (reached.after operation)

end Statement
end SqlComposer
