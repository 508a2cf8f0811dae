import SqlComposer.Proofs.OrScope
import SqlComposer.Proofs.Recording

/-!
What an accepted operation makes of a statement, written down once for all operations together with
the guards it has passed. Every invariant of statements is a case analysis over `Effect`.
-/
namespace SqlComposer.Statement

open Condition (Clause Holder Key LikeOption OrScope Target Terms)
open SqlComposer.Order (Direction NullPlace)
open Registration

def comparison (statement : Statement) (target : Target) (column : ColumnRef) (key : Key)
    (holder : Holder) (option? : Option LikeOption) : List (Target × Clause) :=
  match key.clauses statement.conditionMode column holder option? with
  | .ok clauses => clauses.map fun clause => (target, clause)
  | .error _ => []

/-- The clauses that an operation brings in, each with the list that it is for. -/
def requested (statement : Statement) : Operation → List (Target × Clause)
  | .addCondition column key holder option? => statement.comparison .main column key holder option?
  | .addConditionText text => [(.main, .text text)]
  | .addBaseInline name key holder option? =>
      match statement.table.requireColumn name with
      | .ok column =>
          statement.comparison .baseInline (.qualified inlineAlias column.sqlName) key holder
            option?
      | .error _ => []
  | .addJoinCondition aliasName name key holder option? isOn =>
      match statement.aliasTable aliasName with
      | .error _ => []
      | .ok table =>
          match table.requireColumn name with
          | .error _ => []
          | .ok column =>
              if isOn then
                statement.comparison (.joinOn aliasName) (.qualified aliasName column.sqlName) key
                  holder option?
              else
                statement.comparison (.joinInline aliasName)
                  (.qualified inlineAlias column.sqlName) key holder option?
  | _ => []

inductive IsRecording : Operation → Prop where
  | condition {column : ColumnRef} {key : Key} {holder : Holder} {option? : Option LikeOption} :
      IsRecording (.addCondition column key holder option?)
  | text {text : String} : IsRecording (.addConditionText text)
  | baseInline {name : String} {key : Key} {holder : Holder} {option? : Option LikeOption} :
      IsRecording (.addBaseInline name key holder option?)
  | onJoin {aliasName name : String} {key : Key} {holder : Holder} {option? : Option LikeOption}
      {isOn : Bool} : IsRecording (.addJoinCondition aliasName name key holder option? isOn)

inductive Effect (statement : Statement) : Operation → Statement → Prop where
  | classify {type : SelectType} :
      Effect statement (.classify type)
        { statement with selectType := type, previousType? := some statement.selectType }
  | rollback :
      Effect statement .rollback
        { statement with selectType := statement.previousType?.getD .columns }
  | useSelectIndex {enabled : Bool} :
      Effect statement (.useSelectIndex enabled) { statement with selectIndex := enabled }
  | selectRelation {aliasName suffix : String} {join : Join}
      (allowed : statement.purpose.forbids .relationSelect = false)
      (joined : statement.requireJoin aliasName = .ok join)
      (fresh : statement.selectedRelations.contains aliasName = false) :
      Effect statement (.selectRelation aliasName suffix)
        { statement with
          selectedRelations := statement.selectedRelations.insert aliasName suffix }
  | selectRelationAgain {aliasName suffix : String}
      (present : statement.selectedRelations.contains aliasName = true) :
      Effect statement (.selectRelation aliasName suffix) statement
  | specify {aliasName name : String} {table : Table} {column : Column}
      (specifiable : statement.specifiableTable aliasName = .ok table)
      (found : table.requireColumn name = .ok column)
      (fresh : statement.isSpecified aliasName column.name = false)
      (room : 0 < statement.specifiedCount → statement.purpose.forbids .secondColumn = false) :
      Effect statement (.specify aliasName name)
        { statement with
          specifiedColumns :=
            statement.specifiedColumns.alter aliasName [] (· ++ [column.name]) }
  | specifyAgain {aliasName name : String} {table : Table} {column : Column}
      (specifiable : statement.specifiableTable aliasName = .ok table)
      (found : table.requireColumn name = .ok column)
      (present : statement.isSpecified aliasName column.name = true) :
      Effect statement (.specify aliasName name) statement
  | derive {name subQuery : String}
      (allowed : statement.purpose.forbids .derivedColumn = false)
      (worded : ¬ (Text.isBlank name || Text.isBlank subQuery) = true) :
      Effect statement (.derive name subQuery)
        { statement with derivedColumns := statement.derivedColumns.insert name subQuery }
  | join {aliasName property : String} {added : Join}
      (fresh : statement.joinOf? aliasName property = none)
      (made : statement.newJoin aliasName property = .ok added) :
      Effect statement (.join aliasName property)
        { statement with joins := statement.joins.insert added.foreignAlias added }
  | joinAgain {aliasName property : String} {existing : Join}
      (present : statement.joinOf? aliasName property = some existing) :
      Effect statement (.join aliasName property) statement
  | makeInner {aliasName : String} {join : Join}
      (found : statement.joins.find? aliasName = some join) :
      Effect statement (.makeInner aliasName)
        { statement with joins := statement.joins.insert aliasName { join with isInner := true } }
  | setParameter {name : String} {value : Value} (worded : Text.isBlank name = false) :
      Effect statement (.setParameter name value)
        { statement with parameters := statement.parameters.insert name value }
  | recorded {operation : Operation} {after : Statement} (recording : IsRecording operation)
      (allowed : statement.purpose.forbids .condition = false)
      (there : ∀ entry ∈ statement.requested operation, statement.HasTarget entry.1)
      (record : Recorded statement (statement.requested operation) after) :
      Effect statement operation after
  | openOrScope {orScope : OrScope} (opened : statement.orScope.openScope = .ok orScope) :
      Effect statement .openOrScope { statement with orScope }
  | closeOrScope {orScope : OrScope} {reflected : List (Target × Clause)} {after : Statement}
      (closed : statement.orScope.closeScope = .ok (orScope, reflected))
      (record : Recorded { statement with orScope } reflected after) :
      Effect statement .closeOrScope after
  | beginAndPart {orScope : OrScope} (begun : statement.orScope.beginAndPart = .ok orScope) :
      Effect statement .beginAndPart { statement with orScope }
  | endAndPart {orScope : OrScope} (ended : statement.orScope.endAndPart = .ok orScope) :
      Effect statement .endAndPart { statement with orScope }
  | moveLastConditionFirst {last : Clause} (found : statement.conditions.getLast? = some last) :
      Effect statement .moveLastConditionFirst
        { statement with conditions := last :: statement.conditions.dropLast }
  | moveNone (none : statement.conditions.getLast? = none) :
      Effect statement .moveLastConditionFirst statement
  | clearConditions :
      Effect statement .clearConditions { statement with conditions := [], baseInline := [] }
  | orderBy {path : String} {direction : Direction} {order : Order}
      (allowed : statement.purpose.forbids .order = false)
      (changed : statement.order.addPath path direction = .ok order) :
      Effect statement (.orderBy path direction) { statement with order }
  | reverseOrReplaceOrder {path : String} {direction : Direction} {order : Order}
      (allowed : statement.purpose.forbids .order = false)
      (changed : statement.order.reverseOrReplace path direction = .ok order) :
      Effect statement (.reverseOrReplaceOrder path direction) { statement with order }
  | placeNulls {place : NullPlace} {order : Order}
      (allowed : statement.purpose.forbids .order = false)
      (changed : statement.order.placeNulls place = .ok order) :
      Effect statement (.placeNulls place) { statement with order }
  | rankManually {values : List Value} {order : Order}
      (allowed : statement.purpose.forbids .order = false)
      (single : ¬ statement.hasUnion = true)
      (changed :
        statement.order.rankManually (values.map (Value.literal statement.dialect)) = .ok order) :
      Effect statement (.rankManually values) { statement with order }
  | orderByDerived {name : String} {direction : Direction}
      (allowed : statement.purpose.forbids .order = false)
      (derived : statement.derivedColumns.contains name = true) :
      Effect statement (.orderByDerived name direction)
        { statement with order := statement.order.addDerived name direction }
  | useOrder {effective : Bool} :
      Effect statement (.useOrder effective) { statement with orderEffective := effective }
  | clearOrder : Effect statement .clearOrder { statement with order := {} }
  | addUnionText {text : String} {keepsDuplicates : Bool}
      (allowed : statement.purpose.forbids .union = false)
      (worded : ¬ Text.isBlank text = true) (unranked : ¬ statement.order.hasManual = true) :
      Effect statement (.addUnionText text keepsDuplicates)
        { statement with unions := statement.unions ++ [UnionBranch.mk text keepsDuplicates] }
  | addUnion {branch : Statement} {keepsDuplicates : Bool}
      (allowed : statement.purpose.forbids .union = false)
      (unranked : ¬ statement.order.hasManual = true) :
      Effect statement (.addUnion branch keepsDuplicates)
        { statement with
          unions := statement.unions ++
            [UnionBranch.mk (Template.unionSelectGap ++ branch.unionGapped) keepsDuplicates] }
  | fetchFirst {size : Int64} (allowed : statement.purpose.forbids .paging = false)
      (positive : ¬ size ≤ 0) :
      Effect statement (.fetchFirst size)
        { statement with
          fetch := { statement.fetch with start := 0, size, page := 1, isSet := true } }
  | fetchPage {asked page : Int64} (allowed : statement.purpose.forbids .paging = false)
      (positive : ¬ statement.fetch.size ≤ 0) (counted : page = if asked < 1 then 1 else asked)
      (fits : FetchScope.checkRange statement.fetch.start statement.fetch.size page = .ok ()) :
      Effect statement (.fetchPage asked)
        { statement with fetch := { statement.fetch with page, isSet := true } }
  | fetchScope {start size : Int64} (allowed : statement.purpose.forbids .paging = false)
      (started : ¬ start < 0) (positive : ¬ size ≤ 0)
      (fits : FetchScope.checkRange start size 1 = .ok ()) :
      Effect statement (.fetchScope start size)
        { statement with
          fetch := { statement.fetch with start, size, page := 1, isSet := true } }
  | suppressFetch {suppressed : Bool} :
      Effect statement (.suppressFetch suppressed)
        { statement with fetch := { statement.fetch with isSuppressed := suppressed } }
  | lock {text : LockText}
      (accepted : statement.dialect.lock statement.baseAlias = .ok text) :
      Effect statement .lock { statement with isLocked := true }

/-- Every term of an open scope is for a list of the statement, so that closing cannot fail. -/
def ScopesJoined (statement : Statement) : Prop :=
  ∀ frame ∈ statement.orScope.frames, ∀ target ∈ OrderedMap.keys frame, statement.HasTarget target

theorem closed_scope_targets {statement : Statement} {orScope : OrScope}
    {reflected : List (Target × Clause)} (scopes : statement.ScopesJoined)
    (closed : statement.orScope.closeScope = .ok (orScope, reflected)) :
    ∀ entry ∈ reflected, statement.HasTarget entry.1 := by
  rcases OrScope.close_scope_cases closed with
    ⟨_, ⟨frame, frames, rfl, rfl⟩ | ⟨frame, outer, rest, frames, rfl, rfl⟩⟩
  · intro entry member
    exact scopes frame (by simp [frames]) entry.1 (Condition.reflected_targets frame entry member)
  · intro entry member
    cases member

theorem compare_commits {statement : Statement} (target : Target)
    (there : statement.HasTarget target) (column : ColumnRef) (key : Key) (holder : Holder)
    (option? : Option LikeOption) :
    Commits (compare target column key holder option?) statement fun _ after =>
      statement.purpose.forbids .condition = false ∧
      (∀ entry ∈ statement.comparison target column key holder option?,
        statement.HasTarget entry.1) ∧
      Recorded statement (statement.comparison target column key holder option?) after := by
  refine commits_bind_allow fun allowed => commits_bind_get (commits_bind_lift ?_)
  intro clauses made
  have entries : statement.comparison target column key holder option? =
      clauses.map fun clause => (target, clause) := by
    rw [comparison, made]
  have targets : ∀ entry ∈ clauses.map fun clause => (target, clause),
      statement.HasTarget entry.1 := by
    intro entry member
    obtain ⟨clause, _, rfl⟩ := List.mem_map.mp member
    exact there
  rw [entries]
  refine (register_clauses_completes _ statement targets).commits.mono ?_
  intro _ after recorded
  exact ⟨allowed, targets, recorded⟩

theorem fetch_first_completes {statement : Statement} {size : Int64}
    (allowed : statement.purpose.forbids .paging = false) (positive : ¬ size ≤ 0) :
    Completes (fetchFirst size) statement fun _ after =>
      after = { statement with
        fetch := { statement.fetch with start := 0, size, page := 1, isSet := true } } :=
  completes_bind_allow allowed (completes_refusing positive (completes_modify _ _))

theorem fetch_page_completes {statement : Statement} {asked page : Int64}
    (allowed : statement.purpose.forbids .paging = false)
    (positive : ¬ statement.fetch.size ≤ 0) (counted : page = if asked < 1 then 1 else asked)
    (fits : FetchScope.checkRange statement.fetch.start statement.fetch.size page = .ok ()) :
    Completes (fetchPage asked) statement fun _ after =>
      after = { statement with fetch := { statement.fetch with page, isSet := true } } := by
  refine completes_bind_allow allowed (completes_bind_get (completes_refusing positive ?_))
  dsimp only
  rw [← counted]
  refine completes_bind_lift fits ?_
  by_cases first : page = 1 ∧ statement.fetch.start = 0
  · rw [if_pos first]
    obtain ⟨value, after, ran, rfl⟩ := fetch_first_completes allowed positive
    refine ⟨value, _, ran, ?_⟩
    rw [first.1, ← first.2]
  · rw [if_neg first]
    exact completes_set _ _

theorem fetch_page_commits (statement : Statement) (asked : Int64) :
    Commits (fetchPage asked) statement fun _ after =>
      Effect statement (.fetchPage asked) after := by
  refine commits_bind_allow fun allowed => commits_bind_get (commits_refusing fun positive => ?_)
  dsimp only
  generalize counted : (if asked < 1 then 1 else asked) = page
  refine commits_bind_lift fun _ fits => ?_
  have fetched := Effect.fetchPage allowed positive counted.symm fits
  by_cases first : page = 1 ∧ statement.fetch.start = 0
  · rw [if_pos first]
    refine (fetch_first_completes allowed positive).commits.mono ?_
    rintro _ _ rfl
    rw [first.1] at fetched
    rw [← first.2]
    exact fetched
  · rw [if_neg first]
    exact fetched

theorem fetch_scope_commits (statement : Statement) (start size : Int64) :
    Commits (fetchScope start size) statement fun _ after =>
      Effect statement (.fetchScope start size) after := by
  refine commits_bind_allow fun allowed => commits_refusing fun started => ?_
  refine commits_refusing fun positive => commits_bind_lift fun _ fits => ?_
  refine commits_bind_of_completes (completes_modify _ statement).commits ?_
  rintro _ _ rfl
  have first : Completes (fetchPage 1)
      { statement with fetch := { statement.fetch with start, size } } _ :=
    fetch_page_completes allowed positive rfl fits
  obtain ⟨value, after, ran, rfl⟩ := first
  exact ⟨value, _, ran, .fetchScope allowed started positive fits⟩

theorem close_or_scope_commits {statement : Statement} (scopes : statement.ScopesJoined) :
    Commits closeOrScope statement fun _ after => Effect statement .closeOrScope after := by
  refine commits_bind_get (commits_bind_lift ?_)
  rintro ⟨orScope, reflected⟩ closed
  refine commits_bind_of_completes (completes_set statement _).commits ?_
  rintro _ _ rfl
  have there := closed_scope_targets scopes closed
  obtain ⟨value, after, ran, recorded⟩ :=
    register_clauses_completes reflected { statement with orScope } there
  exact ⟨value, after, ran, .closeOrScope closed recorded⟩

theorem add_join_condition_commits (statement : Statement) (aliasName name : String) (key : Key)
    (holder : Holder) (option? : Option LikeOption) (isOn : Bool) :
    Commits (addJoinCondition aliasName name key holder option? isOn) statement fun _ after =>
      Effect statement (.addJoinCondition aliasName name key holder option? isOn) after := by
  refine commits_bind_get (commits_bind_lift fun join required => ?_)
  refine commits_bind_lift fun table known => commits_bind_lift fun column found => ?_
  have present : aliasName ∈ statement.joins.keys :=
    (OrderedMap.mem_keys_iff_find? _ _).mpr ⟨join, (require_join_eq_ok_iff _ _ _).mp required⟩
  cases isOn with
  | false =>
      refine (compare_commits (.joinInline aliasName) present _ key holder option?).mono ?_
      rintro _ after ⟨allowed, there, recorded⟩
      exact .recorded .onJoin allowed (by simpa [requested, known, found] using there)
        (by simpa [requested, known, found] using recorded)
  | true =>
      refine (compare_commits (.joinOn aliasName) present _ key holder option?).mono ?_
      rintro _ after ⟨allowed, there, recorded⟩
      exact .recorded .onJoin allowed (by simpa [requested, known, found] using there)
        (by simpa [requested, known, found] using recorded)

theorem change_order_commits (statement : Statement) (change : Order → Except ClauseError Order) :
    Commits (changeOrder change) statement fun _ after =>
      ∃ order, change statement.order = .ok order ∧ after = { statement with order } :=
  commits_bind_get (commits_bind_lift fun order changed => ⟨order, changed, rfl⟩)

theorem allowed_order_commits {statement : Statement} {operation : Operation}
    {change : Order → Except ClauseError Order}
    (effect : ∀ order, statement.purpose.forbids .order = false →
      change statement.order = .ok order → Effect statement operation { statement with order }) :
    Commits (do Registration.allow .order; changeOrder change) statement fun _ after =>
      Effect statement operation after := by
  refine commits_bind_allow fun allowed => (change_order_commits statement change).mono ?_
  intro _ after changes
  obtain ⟨order, changed, rfl⟩ := changes
  exact effect order allowed changed

theorem select_relation_commits (statement : Statement) (aliasName suffix : String) :
    Commits (selectRelation aliasName suffix) statement fun _ after =>
      Effect statement (.selectRelation aliasName suffix) after := by
  refine commits_bind_allow fun allowed => commits_bind_get ?_
  refine commits_bind_lift fun join joined => ?_
  cases present : statement.selectedRelations.contains aliasName with
  | true => exact .selectRelationAgain present
  | false => exact .selectRelation allowed joined present

theorem specify_commits (statement : Statement) (aliasName name : String) :
    Commits (specify aliasName name) statement fun _ after =>
      Effect statement (.specify aliasName name) after := by
  refine commits_bind_get (commits_bind_lift fun table specifiable => ?_)
  refine commits_bind_lift fun column noted => ?_
  have found := noting_eq_ok_iff.mp noted
  cases present : statement.isSpecified aliasName column.name with
  | true => exact .specifyAgain specifiable found present
  | false =>
      by_cases second : 0 < statement.specifiedCount
      · simp only [Bool.false_eq_true, if_false, gt_iff_lt, second, if_true]
        exact commits_bind_allow fun allowed =>
          .specify specifiable found present fun _ => allowed
      · simp only [Bool.false_eq_true, if_false, gt_iff_lt, second]
        exact .specify specifiable found present fun some => absurd some second

theorem make_inner_commits (statement : Statement) (aliasName : String) :
    Commits (makeInner aliasName) statement fun _ after =>
      Effect statement (.makeInner aliasName) after := by
  refine commits_bind_get (commits_bind_lift fun changed made => ?_)
  cases required : statement.requireJoin aliasName with
  | error refusal => simp [changeJoin, required, Except.map] at made
  | ok join =>
      rw [changeJoin, required] at made
      obtain rfl := (Except.ok.inj made).symm
      exact .makeInner ((require_join_eq_ok_iff _ _ _).mp required)

theorem add_condition_text_commits (statement : Statement) (text : String) :
    Commits (addConditionText text) statement fun _ after =>
      Effect statement (.addConditionText text) after := by
  unfold addConditionText
  refine commits_refusing fun worded => commits_bind_allow fun allowed => ?_
  have there : statement.HasTarget .main := trivial
  refine (register_clause_completes (.text text) there).commits.mono ?_
  intro _ after placed
  exact .recorded .text allowed (by simp [requested, there]) (.cons placed (.nil after))

theorem add_base_inline_commits (statement : Statement) (name : String) (key : Key)
    (holder : Holder) (option? : Option LikeOption) :
    Commits (addBaseInline name key holder option?) statement fun _ after =>
      Effect statement (.addBaseInline name key holder option?) after := by
  refine commits_bind_get (commits_bind_lift fun column found => ?_)
  refine (compare_commits .baseInline trivial _ key holder option?).mono ?_
  rintro _ after ⟨allowed, there, recorded⟩
  exact .recorded .baseInline allowed (by simpa [requested, found] using there)
    (by simpa [requested, found] using recorded)

/-- An operation is refused and changes nothing, or is accepted and has its effect. -/
theorem operation_commits {statement : Statement} (scopes : statement.ScopesJoined)
    (operation : Operation) :
    Commits operation.registration statement fun _ after => Effect statement operation after := by
  cases operation with
  | classify type => exact .classify
  | rollback => exact .rollback
  | useSelectIndex enabled => exact .useSelectIndex
  | selectRelation aliasName suffix =>
      exact select_relation_commits statement aliasName suffix
  | specify aliasName name => exact specify_commits statement aliasName name
  | derive name subQuery =>
      exact commits_bind_allow fun allowed => commits_refusing fun worded => .derive allowed worded
  | join aliasName property =>
      refine Commits.map (commits_bind_get ?_)
      cases known : statement.joinOf? aliasName property with
      | some existing => exact .joinAgain known
      | none => exact commits_bind_lift fun added made => .join known made
  | makeInner aliasName => exact make_inner_commits statement aliasName
  | setParameter name value =>
      refine commits_bind_lift fun kept named => ?_
      obtain ⟨rfl, worded⟩ := requireName_eq_ok_iff.mp named
      exact .setParameter worded
  | addCondition column key holder option? =>
      refine (compare_commits .main trivial column key holder option?).mono ?_
      rintro _ after ⟨allowed, there, recorded⟩
      exact .recorded .condition allowed there recorded
  | addConditionText text =>
      exact add_condition_text_commits statement text
  | addBaseInline name key holder option? =>
      exact add_base_inline_commits statement name key holder option?
  | addJoinCondition aliasName name key holder option? isOn =>
      exact add_join_condition_commits statement aliasName name key holder option? isOn
  | openOrScope =>
      exact commits_bind_get (commits_bind_lift fun orScope opened => .openOrScope opened)
  | closeOrScope => exact close_or_scope_commits scopes
  | beginAndPart =>
      exact commits_bind_get (commits_bind_lift fun orScope begun => .beginAndPart begun)
  | endAndPart =>
      exact commits_bind_get (commits_bind_lift fun orScope ended => .endAndPart ended)
  | moveLastConditionFirst =>
      refine (completes_modify _ statement).commits.mono ?_
      rintro _ _ rfl
      split
      · next last found => exact .moveLastConditionFirst found
      · next none => exact .moveNone none
  | clearConditions => exact .clearConditions
  | orderBy path direction =>
      exact allowed_order_commits fun order allowed changed => .orderBy allowed changed
  | reverseOrReplaceOrder path direction =>
      exact allowed_order_commits fun order allowed changed =>
        .reverseOrReplaceOrder allowed changed
  | placeNulls place =>
      exact allowed_order_commits fun order allowed changed => .placeNulls allowed changed
  | rankManually values =>
      refine commits_bind_allow fun allowed => commits_bind_get ?_
      refine commits_refusing fun single => (change_order_commits statement _).mono ?_
      rintro _ _ ⟨order, changed, rfl⟩
      exact .rankManually allowed single changed
  | orderByDerived name direction =>
      refine commits_bind_allow fun allowed => commits_bind_get ?_
      exact commits_requiring fun derived => .orderByDerived allowed derived
  | useOrder effective => exact .useOrder
  | clearOrder => exact .clearOrder
  | addUnionText text keepsDuplicates =>
      refine commits_bind_allow fun allowed => commits_refusing fun worded => ?_
      exact commits_bind_get (commits_refusing fun unranked =>
        .addUnionText allowed worded unranked)
  | addUnion branch keepsDuplicates =>
      refine commits_bind_allow fun allowed => commits_refusing fun _ => ?_
      exact commits_bind_get (commits_refusing fun unranked => .addUnion allowed unranked)
  | fetchFirst size =>
      exact commits_bind_allow fun allowed => commits_refusing fun positive =>
        .fetchFirst allowed positive
  | fetchPage page => exact fetch_page_commits statement page
  | fetchScope start size => exact fetch_scope_commits statement start size
  | suppressFetch suppressed => exact .suppressFetch
  | lock =>
      refine commits_bind_get (commits_bind_lift fun text accepted => ?_)
      exact .lock accepted

end SqlComposer.Statement
