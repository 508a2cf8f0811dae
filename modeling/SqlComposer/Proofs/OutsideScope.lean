import SqlComposer.Proofs.Alongside

/-!
Operations that do not concern the or-scope. They are accepted or refused whatever scopes are open,
and leave two statements that differ in their scopes alone differing in nothing else.
-/
namespace SqlComposer.Statement

open Condition (OrScope)
open Registration

/-- The operations that read the or-scope or change it. -/
def concernsScope : Operation → Bool
  | .addCondition .. | .addConditionText _ | .addBaseInline .. | .addJoinCondition ..
  | .openOrScope | .closeOrScope | .beginAndPart | .endAndPart => true
  | _ => false

/-- The same statement with other scopes. -/
inductive ScopeApart (statement : Statement) : Statement → Prop where
  | of (orScope : OrScope) : ScopeApart statement { statement with orScope }

theorem change_order_apart {statement other : Statement} (apart : ScopeApart statement other)
    (change : Order → Except ClauseError Order) :
    Alongside ScopeApart Eq (changeOrder change) (changeOrder change) statement other := by
  refine alongside_bind_get ?_
  obtain ⟨orScope⟩ := apart
  refine alongside_bind_lift (.of orScope) (together_self _) ?_
  rintro order _ rfl
  exact alongside_set (.of orScope)

theorem fetch_first_apart {statement other : Statement} (apart : ScopeApart statement other)
    (size : Int64) :
    Alongside ScopeApart Eq (fetchFirst size) (fetchFirst size) statement other := by
  obtain ⟨orScope⟩ := apart
  refine alongside_bind_allow (.of orScope) rfl (alongside_refusing (.of orScope) ?_)
  exact alongside_modify (.of orScope)

theorem fetch_page_apart {statement other : Statement} (apart : ScopeApart statement other)
    (page : Int64) :
    Alongside ScopeApart Eq (fetchPage page) (fetchPage page) statement other := by
  obtain ⟨orScope⟩ := apart
  refine alongside_bind_allow (.of orScope) rfl (alongside_bind_get ?_)
  refine alongside_refusing (.of orScope) ?_
  dsimp only
  generalize (if page < 1 then 1 else page) = counted
  refine alongside_bind_lift (.of orScope) (together_self _) fun _ _ _ => ?_
  split_ifs
  · exact fetch_first_apart (.of orScope) _
  · exact alongside_set (.of orScope)

theorem add_union_text_apart {statement other : Statement}
    (apart : ScopeApart statement other) (text : String) (keepsDuplicates : Bool) :
    Alongside ScopeApart Eq (addUnionText text keepsDuplicates) (addUnionText text keepsDuplicates)
      statement other := by
  obtain ⟨orScope⟩ := apart
  refine alongside_bind_allow (.of orScope) rfl (alongside_refusing (.of orScope) ?_)
  exact alongside_bind_get (alongside_refusing (.of orScope) (alongside_set (.of orScope)))

theorem specify_apart {statement other : Statement} (apart : ScopeApart statement other)
    (aliasName name : String) :
    Alongside ScopeApart Eq (specify aliasName name) (specify aliasName name) statement other := by
  obtain ⟨orScope⟩ := apart
  refine alongside_bind_get (alongside_bind_lift (.of orScope) (together_self _) ?_)
  rintro table _ rfl
  refine alongside_bind_lift (.of orScope) (together_self _) ?_
  rintro column _ rfl
  have same : isSpecified { statement with orScope } aliasName column.name =
      statement.isSpecified aliasName column.name := rfl
  have count : specifiedCount { statement with orScope } = statement.specifiedCount := rfl
  dsimp only
  rw [same, count]
  split_ifs
  · exact ⟨.accepted rfl, .of orScope⟩
  · exact alongside_bind_allow (.of orScope) rfl (alongside_set (.of orScope))
  · exact alongside_set (.of orScope)

theorem join_apart {statement other : Statement} (apart : ScopeApart statement other)
    (aliasName property : String) :
    Alongside ScopeApart Eq (join aliasName property) (join aliasName property) statement
      other := by
  obtain ⟨orScope⟩ := apart
  refine alongside_bind_get ?_
  have known : joinOf? { statement with orScope } aliasName property =
      statement.joinOf? aliasName property := rfl
  rw [known]
  cases statement.joinOf? aliasName property with
  | some existing => exact ⟨.accepted rfl, .of orScope⟩
  | none =>
      refine alongside_bind_lift (.of orScope) (together_self _) ?_
      rintro added _ rfl
      refine alongside_bind (alongside_set (.of orScope)) fun _ _ _ _ _ states => ?_
      exact ⟨.accepted rfl, states⟩

theorem make_inner_apart {statement other : Statement} (apart : ScopeApart statement other)
    (aliasName : String) :
    Alongside ScopeApart Eq (makeInner aliasName) (makeInner aliasName) statement other := by
  obtain ⟨orScope⟩ := apart
  have changed : Together ScopeApart
      (statement.changeJoin aliasName fun join => { join with isInner := true })
      (changeJoin { statement with orScope } aliasName fun join => { join with isInner := true }) :=
    (together_self (statement.requireJoin aliasName)).map fun join _ same => same ▸ .of orScope
  exact alongside_bind_get (alongside_bind_lift (.of orScope) changed fun _ _ states =>
    alongside_set states)

/-- An operation that does not concern the or-scope is accepted with any scope or with none. -/
theorem perform_apart {operation : Operation} (outside : concernsScope operation = false)
    {statement other : Statement} (apart : ScopeApart statement other) :
    Alongside ScopeApart Eq operation.registration operation.registration statement other := by
  cases operation with
  | addCondition | addConditionText | addBaseInline | addJoinCondition | openOrScope
  | closeOrScope | beginAndPart | endAndPart => cases outside
  | classify | rollback | useSelectIndex | clearConditions | useOrder | clearOrder
  | suppressFetch =>
      obtain ⟨orScope⟩ := apart
      exact alongside_modify (.of orScope)
  | selectRelation aliasName suffix =>
      obtain ⟨orScope⟩ := apart
      refine alongside_bind_allow (.of orScope) rfl (alongside_bind_get ?_)
      refine alongside_bind_lift (.of orScope) (together_self _) fun _ _ _ => ?_
      dsimp only
      split_ifs
      · exact ⟨.accepted rfl, .of orScope⟩
      · exact alongside_set (.of orScope)
  | specify aliasName name => exact specify_apart apart aliasName name
  | derive name subQuery =>
      obtain ⟨orScope⟩ := apart
      refine alongside_bind_allow (.of orScope) rfl (alongside_refusing (.of orScope) ?_)
      exact alongside_modify (.of orScope)
  | join aliasName property => exact (join_apart apart aliasName property).map fun _ _ _ => rfl
  | makeInner aliasName => exact make_inner_apart apart aliasName
  | setParameter name value =>
      obtain ⟨orScope⟩ := apart
      refine alongside_bind_lift (.of orScope) (together_self _) ?_
      rintro kept _ rfl
      exact alongside_modify (.of orScope)
  | moveLastConditionFirst =>
      obtain ⟨orScope⟩ := apart
      refine alongside_modify ?_
      dsimp only
      cases statement.conditions.getLast? with
      | none => exact .of orScope
      | some last => exact .of orScope
  | orderBy path direction | reverseOrReplaceOrder path direction | placeNulls place =>
      obtain ⟨orScope⟩ := apart
      exact alongside_bind_allow (.of orScope) rfl (change_order_apart (.of orScope) _)
  | rankManually values =>
      obtain ⟨orScope⟩ := apart
      refine alongside_bind_allow (.of orScope) rfl (alongside_bind_get ?_)
      exact alongside_refusing (.of orScope) (change_order_apart (.of orScope) _)
  | orderByDerived name direction =>
      obtain ⟨orScope⟩ := apart
      refine alongside_bind_allow (.of orScope) rfl (alongside_bind_get ?_)
      exact alongside_requiring (.of orScope) (alongside_set (.of orScope))
  | addUnionText text keepsDuplicates => exact add_union_text_apart apart text keepsDuplicates
  | addUnion branch keepsDuplicates => exact add_union_text_apart apart _ keepsDuplicates
  | fetchFirst size => exact fetch_first_apart apart size
  | fetchPage page => exact fetch_page_apart apart page
  | fetchScope start size =>
      obtain ⟨orScope⟩ := apart
      refine alongside_bind_allow (.of orScope) rfl (alongside_refusing (.of orScope) ?_)
      refine alongside_refusing (.of orScope) ?_
      refine alongside_bind_lift (.of orScope) (together_self _) fun _ _ _ => ?_
      refine alongside_bind (alongside_modify (.of orScope)) fun _ _ _ _ _ states => ?_
      exact fetch_page_apart states 1
  | lock =>
      obtain ⟨orScope⟩ := apart
      refine alongside_bind_get ?_
      refine alongside_bind_lift (.of orScope) (together_self _) fun _ _ _ => ?_
      exact alongside_set (.of orScope)

end SqlComposer.Statement
