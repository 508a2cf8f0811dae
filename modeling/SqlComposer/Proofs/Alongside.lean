import SqlComposer.Proofs.Aliases
import SqlComposer.Proofs.Coupling
import SqlComposer.Proofs.Reachability

/-!
Running two statements side by side. Two registrations are alongside each other when they are
refused both or accepted both and leave coupled statements; there is a rule for each step of a
registration, and from these it follows that matching operations keep statements coupled.
-/
namespace SqlComposer

namespace Registration

variable {α β : Type} {coupled : Statement → Statement → Prop} {first second : Statement}

def Alongside (coupled : Statement → Statement → Prop) (related : α → α → Prop)
    (registration other : Registration α) (first second : Statement) : Prop :=
  Together related (registration.outcome first).1 (other.outcome second).1 ∧
    coupled (registration.outcome first).2 (other.outcome second).2

theorem alongside_bind {related : α → α → Prop} {alike : β → β → Prop}
    {registration other : Registration α} {next another : α → Registration β}
    (starts : Alongside coupled related registration other first second)
    (continues : ∀ value valueOther after afterOther, related value valueOther →
      coupled after afterOther →
        Alongside coupled alike (next value) (another valueOther) after afterOther) :
    Alongside coupled alike (registration >>= next) (other >>= another) first second := by
  obtain ⟨together, states⟩ := starts
  unfold Alongside
  rw [outcome_bind, outcome_bind]
  generalize registration.outcome first = ran at together states ⊢
  generalize other.outcome second = ranOther at together states ⊢
  obtain ⟨result, after⟩ := ran
  obtain ⟨resultOther, afterOther⟩ := ranOther
  cases together with
  | accepted holds => exact continues _ _ _ _ holds states
  | refused => exact ⟨.refused, states⟩

theorem alongside_bind_get {alike : β → β → Prop} {next another : Statement → Registration β}
    (continues : Alongside coupled alike (next first) (another second) first second) :
    Alongside coupled alike (get >>= next) (get >>= another) first second := by
  unfold Alongside
  rw [outcome_bind_get, outcome_bind_get]
  exact continues

theorem alongside_bind_lift {related : α → α → Prop} {alike : β → β → Prop}
    {result other : Except ClauseError α} {next another : α → Registration β}
    (states : coupled first second) (together : Together related result other)
    (continues : ∀ value valueOther, related value valueOther →
      Alongside coupled alike (next value) (another valueOther) first second) :
    Alongside coupled alike (liftM result >>= next) (liftM other >>= another) first second := by
  unfold Alongside
  rw [outcome_bind_lift, outcome_bind_lift]
  cases together with
  | accepted holds => exact continues _ _ holds
  | refused => exact ⟨.refused, states⟩

theorem alongside_set {after afterOther : Statement} (states : coupled after afterOther) :
    Alongside coupled Eq (set after) (set afterOther) first second :=
  ⟨.accepted rfl, states⟩

theorem alongside_modify {change other : Statement → Statement}
    (states : coupled (change first) (other second)) :
    Alongside coupled Eq (modify change) (modify other) first second :=
  ⟨.accepted rfl, states⟩

theorem alongside_bind_allow {alike : β → β → Prop} {registration : Restricted}
    {next another : Unit → Registration β} (states : coupled first second)
    (same : second.purpose = first.purpose)
    (continues : Alongside coupled alike (next ()) (another ()) first second) :
    Alongside coupled alike (allow registration >>= next) (allow registration >>= another) first
      second := by
  unfold Alongside
  rw [outcome_bind, outcome_bind, outcome_allow, outcome_allow, same]
  cases first.purpose.forbids registration with
  | true => exact ⟨.refused, states⟩
  | false => exact continues

theorem alongside_refusing {alike : β → β → Prop} {refused : Prop} [Decidable refused]
    {refusal : ClauseError} {next another : Unit → Registration β} (states : coupled first second)
    (continues : Alongside coupled alike (next ()) (another ()) first second) :
    Alongside coupled alike (if refused then throw refusal >>= next else next ())
      (if refused then throw refusal >>= another else another ()) first second := by
  split_ifs with holds
  · exact ⟨.refused, states⟩
  · exact continues

theorem alongside_requiring {alike : β → β → Prop} {required : Prop} [Decidable required]
    {refusal : ClauseError} {next another : Unit → Registration β} (states : coupled first second)
    (continues : Alongside coupled alike (next ()) (another ()) first second) :
    Alongside coupled alike (if required then next () else throw refusal >>= next)
      (if required then another () else throw refusal >>= another) first second := by
  split_ifs with holds
  · exact continues
  · exact ⟨.refused, states⟩

theorem Alongside.map {related : α → α → Prop} {alike : β → β → Prop}
    {registration other : Registration α}
    (alongside : Alongside coupled related registration other first second) {change : α → β}
    (holds : ∀ value other, related value other → alike (change value) (change other)) :
    Alongside coupled alike (change <$> registration) (change <$> other) first second := by
  refine alongside_bind alongside fun value other after afterOther related states => ?_
  exact ⟨.accepted (holds _ _ related), states⟩

end Registration

namespace Statement

open Condition (Clause Holder Key LikeOption Target)
open Registration

variable {likeness : Likeness} {first second : Statement}

theorem Coupled.require_join (coupled : Coupled likeness first second) (aliasName : String) :
    Together (JoinsAlike likeness) (first.requireJoin aliasName)
      (second.requireJoin aliasName) := by
  obtain @⟨_, _, joins, _, _, _, _, joined, _, _⟩ := coupled
  have found := joined.find? aliasName
  unfold requireJoin
  dsimp only
  generalize first.joins.find? aliasName = left at found ⊢
  generalize joins.find? aliasName = right at found ⊢
  cases found with
  | none => exact .refused
  | some joins => exact .accepted joins

theorem Coupled.alias_table (coupled : Coupled likeness first second) (aliasName : String) :
    second.aliasTable aliasName = first.aliasTable aliasName := by
  obtain @⟨_, _, joins, _, _, _, _, joined, _, _⟩ := coupled
  have found := joined.find? aliasName
  unfold aliasTable requireJoin
  change (if aliasName = first.baseAlias then _ else _) =
    if aliasName = first.baseAlias then _ else _
  split_ifs
  · rfl
  · dsimp only
    generalize first.joins.find? aliasName = left at found ⊢
    generalize joins.find? aliasName = right at found ⊢
    cases found with
    | none => rfl
    | some joins =>
        cases joins
        rfl

theorem Coupled.condition_mode (coupled : Coupled likeness first second) :
    second.conditionMode = first.conditionMode := by
  obtain ⟨_, _, _, scopes, _⟩ := coupled
  unfold conditionMode Condition.OrScope.inAndPart
  dsimp only
  rw [scopes.is_open, scopes.part]
  rfl

theorem Coupled.has_union (coupled : Coupled likeness first second) :
    second.hasUnion = first.hasUnion := by
  obtain ⟨_, _, _, _, branches⟩ := coupled
  rw [hasUnion, hasUnion, is_empty_of_related branches]

theorem Coupled.specifiable_table (coupled : Coupled likeness first second) (aliasName : String) :
    second.specifiableTable aliasName = first.specifiableTable aliasName := by
  have tables := coupled.alias_table aliasName
  obtain ⟨_, _, _, _, _⟩ := coupled
  unfold specifiableTable
  rw [tables]
  rfl

theorem find_related {α : Type} {related : α → α → Prop} {wanted : α → Bool}
    (same : ∀ value other, related value other → wanted other = wanted value)
    {firsts seconds : List α} (each : List.Forall₂ related firsts seconds) :
    Option.Rel related (firsts.find? wanted) (seconds.find? wanted) := by
  induction each with
  | nil => exact .none
  | @cons value other firsts seconds here _ ih =>
      rw [List.find?_cons, List.find?_cons, same value other here]
      cases wanted value with
      | true => exact .some here
      | false => exact ih

/-- Related lists are empty both or end with related values. -/
theorem nil_or_concat_related {α : Type} {related : α → α → Prop} {firsts seconds : List α}
    (each : List.Forall₂ related firsts seconds) :
    (firsts = [] ∧ seconds = []) ∨
      ∃ init last others other, firsts = init ++ [last] ∧ seconds = others ++ [other] ∧
        List.Forall₂ related init others ∧ related last other := by
  induction each with
  | nil => exact .inl ⟨rfl, rfl⟩
  | @cons value another firsts seconds here later ih =>
      rcases ih with ⟨rfl, rfl⟩ | ⟨init, last, others, other, rfl, rfl, before, ends⟩
      · exact .inr ⟨[], value, [], another, rfl, rfl, .nil, here⟩
      · exact .inr ⟨value :: init, last, another :: others, other, rfl, rfl, .cons here before,
          ends⟩

theorem Coupled.join_of (coupled : Coupled likeness first second) (aliasName property : String) :
    Option.Rel (JoinsAlike likeness) (first.joinOf? aliasName property)
      (second.joinOf? aliasName property) := by
  obtain ⟨_, _, joined, _, _⟩ := coupled
  refine find_related ?_ joined.values
  rintro join _ ⟨_, _, _⟩
  rfl

theorem Coupled.new_join (coupled : Coupled likeness first second) (aliasName property : String) :
    second.newJoin aliasName property = first.newJoin aliasName property := by
  have tables := coupled.alias_table aliasName
  obtain ⟨_, _, joined, _, _⟩ := coupled
  unfold newJoin
  rw [tables]
  dsimp only
  rw [joined.size]
  rfl

theorem Coupled.append_clause (coupled : Coupled likeness first second) (target : Target)
    {clause other : Clause} (clauses : Alike likeness.texts clause other) :
    Together (Coupled likeness) (first.appendClause target clause)
      (second.appendClause target other) := by
  cases target with
  | main =>
      obtain ⟨mains, inlines, joined, scopes, branches⟩ := coupled
      have longer := List.rel_append mains (.cons clauses .nil)
      exact .accepted (.of longer inlines joined scopes branches)
  | baseInline =>
      obtain ⟨mains, inlines, joined, scopes, branches⟩ := coupled
      have longer := List.rel_append inlines (.cons clauses .nil)
      exact .accepted (.of mains longer joined scopes branches)
  | joinInline aliasName =>
      refine (coupled.require_join aliasName).map fun join another joins => ?_
      obtain ⟨mains, inlines, joined, scopes, branches⟩ := coupled
      obtain ⟨filters, ons, given⟩ := joins
      have longer := List.rel_append filters (.cons clauses .nil)
      exact .of mains inlines
        (joined.insert aliasName (.of longer ons (given.changed _ _ _))) scopes branches
  | joinOn aliasName =>
      refine (coupled.require_join aliasName).map fun join another joins => ?_
      obtain ⟨mains, inlines, joined, scopes, branches⟩ := coupled
      obtain ⟨filters, ons, given⟩ := joins
      have longer := List.rel_append ons (.cons clauses .nil)
      exact .of mains inlines (joined.insert aliasName (.of filters longer (given.changed _ _ _)))
        scopes branches

theorem Coupled.scopes (coupled : Coupled likeness first second) :
    ScopesAlike likeness.texts first.orScope second.orScope := by
  obtain ⟨_, _, _, scopes, _⟩ := coupled
  exact scopes

theorem Coupled.with_scope (coupled : Coupled likeness first second)
    {orScope other : Condition.OrScope} (scopes : ScopesAlike likeness.texts orScope other) :
    Coupled likeness { first with orScope } { second with orScope := other } := by
  obtain ⟨mains, inlines, joined, _, branches⟩ := coupled
  exact .of mains inlines joined scopes branches

theorem register_clause_alongside (coupled : Coupled likeness first second) (target : Target)
    {clause other : Clause} (clauses : Alike likeness.texts clause other) :
    Alongside (Coupled likeness) Eq (registerClause target clause) (registerClause target other)
      first second := by
  refine alongside_bind_get ?_
  rw [coupled.scopes.is_open]
  split_ifs
  · exact alongside_bind_lift coupled (coupled.scopes.push target clauses) fun _ _ scopes =>
      alongside_set (coupled.with_scope scopes)
  · exact alongside_bind_lift coupled (coupled.append_clause target clauses) fun _ _ changed =>
      alongside_set changed

theorem register_clauses_alongside {entries others : List (Target × Clause)}
    (each : EntriesAlike likeness.texts entries others) (coupled : Coupled likeness first second) :
    Alongside (Coupled likeness) Eq (registerClauses entries) (registerClauses others) first
      second := by
  induction each generalizing first second with
  | nil => exact ⟨.accepted rfl, coupled⟩
  | @cons entry other entries others here _ ih =>
      obtain ⟨target, clause⟩ := entry
      obtain ⟨_, another⟩ := other
      obtain ⟨rfl, clauses⟩ := here
      exact alongside_bind (register_clause_alongside coupled _ clauses) fun _ _ _ _ _ states =>
        ih states

/-- Comparisons of a column, with the values of either holder, whose clauses are alike. -/
def ComparesAlike (likeness : Likeness) (dialect : Dialect) (column : ColumnRef) (key : Key)
    (holder other : Holder) (option? : Option LikeOption) : Prop :=
  ∀ mode : Condition.Mode, mode.dialect = dialect →
    Together (List.Forall₂ (Alike likeness.texts)) (key.clauses mode column holder option?)
      (key.clauses mode column other option?)

theorem compare_alongside (coupled : Coupled likeness first second) (target : Target)
    {column : ColumnRef} {key : Key} {holder other : Holder} {option? : Option LikeOption}
    (compares : ComparesAlike likeness first.dialect column key holder other option?) :
    Alongside (Coupled likeness) Eq (compare target column key holder option?)
      (compare target column key other option?) first second := by
  have purpose : second.purpose = first.purpose := by cases coupled; rfl
  refine alongside_bind_allow coupled purpose (alongside_bind_get ?_)
  rw [coupled.condition_mode]
  refine alongside_bind_lift coupled (compares _ rfl) fun clauses others each => ?_
  refine register_clauses_alongside ?_ coupled
  rw [EntriesAlike, List.forall₂_map_left_iff, List.forall₂_map_right_iff]
  exact each.imp fun _ _ alike => ⟨rfl, alike⟩

/-- Operations on two coupled statements that bring in texts that are alike, and are the same
otherwise. -/
def Matches (likeness : Likeness) (statement : Statement) (operation other : Operation) : Prop :=
  match operation with
  | .join aliasName property =>
      other = operation ∧
        ∀ added, statement.newJoin aliasName property = .ok added → added.Given likeness
  | .addCondition column key holder option? =>
      ∃ another, other = .addCondition column key another option? ∧
        ComparesAlike likeness statement.dialect column key holder another option?
  | .addConditionText text => other = operation ∧ likeness.texts text text
  | .addBaseInline name key holder option? =>
      ∃ another, other = .addBaseInline name key another option? ∧
        ∀ column, statement.table.requireColumn name = .ok column →
          ComparesAlike likeness statement.dialect (.qualified inlineAlias column.sqlName) key
            holder another option?
  | .addJoinCondition aliasName name key holder option? isOn =>
      ∃ another, other = .addJoinCondition aliasName name key another option? isOn ∧
        ∀ table column, statement.aliasTable aliasName = .ok table →
          table.requireColumn name = .ok column →
          ComparesAlike likeness statement.dialect
            (.qualified (if isOn then aliasName else inlineAlias) column.sqlName) key holder another
            option?
  | .addUnionText text keepsDuplicates =>
      other = operation ∧
        likeness.branches ⟨text, keepsDuplicates⟩ ⟨text, keepsDuplicates⟩
  | .addUnion branch keepsDuplicates =>
      ∃ another, other = .addUnion another keepsDuplicates ∧
        likeness.branches ⟨Template.unionSelectGap ++ branch.unionGapped, keepsDuplicates⟩
          ⟨Template.unionSelectGap ++ another.unionGapped, keepsDuplicates⟩
  | _ => other = operation

theorem Coupled.purpose (coupled : Coupled likeness first second) :
    second.purpose = first.purpose := by
  cases coupled
  rfl

theorem join_alongside (coupled : Coupled likeness first second) {aliasName property : String}
    (given : ∀ added, first.newJoin aliasName property = .ok added → added.Given likeness) :
    Alongside (Coupled likeness) (fun _ _ => True) (join aliasName property)
      (join aliasName property) first second := by
  have present := coupled.join_of aliasName property
  refine alongside_bind_get ?_
  generalize first.joinOf? aliasName property = left at present ⊢
  generalize second.joinOf? aliasName property = right at present ⊢
  cases present with
  | some joins => exact ⟨.accepted trivial, coupled⟩
  | none =>
      dsimp only
      rw [coupled.new_join]
      cases made : first.newJoin aliasName property with
      | error refusal => exact ⟨.refused, coupled⟩
      | ok added =>
          obtain ⟨_, _, _, _, _, _, _, _, inline, on⟩ := new_join_spec made
          obtain ⟨mains, inlines, joined, scopes, branches⟩ := coupled
          have bare : JoinsAlike likeness added added :=
            .of (by rw [inline]; exact .nil) (by rw [on]; exact .nil) (given added made)
          exact ⟨.accepted trivial, .of mains inlines (joined.insert _ bare) scopes branches⟩

theorem make_inner_alongside (coupled : Coupled likeness first second) (aliasName : String) :
    Alongside (Coupled likeness) Eq (makeInner aliasName) (makeInner aliasName) first second := by
  have changed : Together (Coupled likeness)
      (first.changeJoin aliasName fun join => { join with isInner := true })
      (second.changeJoin aliasName fun join => { join with isInner := true }) := by
    refine (coupled.require_join aliasName).map fun join another joins => ?_
    obtain ⟨mains, inlines, joined, scopes, branches⟩ := coupled
    obtain ⟨filters, ons, given⟩ := joins
    exact .of mains inlines (joined.insert aliasName (.of filters ons (given.changed _ _ _))) scopes
      branches
  exact alongside_bind_get (alongside_bind_lift coupled changed fun _ _ states =>
    alongside_set states)

theorem select_relation_alongside (coupled : Coupled likeness first second)
    (aliasName suffix : String) :
    Alongside (Coupled likeness) Eq (selectRelation aliasName suffix)
      (selectRelation aliasName suffix) first second := by
  refine alongside_bind_allow coupled coupled.purpose (alongside_bind_get ?_)
  refine alongside_bind_lift coupled (coupled.require_join aliasName) fun _ _ _ => ?_
  obtain ⟨mains, inlines, joined, scopes, branches⟩ := coupled
  dsimp only
  split_ifs
  · exact ⟨.accepted rfl, .of mains inlines joined scopes branches⟩
  · exact alongside_set (.of mains inlines joined scopes branches)

theorem specify_alongside (coupled : Coupled likeness first second) (aliasName name : String) :
    Alongside (Coupled likeness) Eq (specify aliasName name) (specify aliasName name) first
      second := by
  refine alongside_bind_get ?_
  rw [coupled.specifiable_table]
  refine alongside_bind_lift coupled (together_self _) ?_
  rintro table _ rfl
  refine alongside_bind_lift coupled (together_self _) ?_
  rintro column _ rfl
  have same : second.isSpecified aliasName column.name =
      first.isSpecified aliasName column.name := by
    cases coupled
    rfl
  have count : second.specifiedCount = first.specifiedCount := by
    cases coupled
    rfl
  have longer : Coupled likeness
      { first with
        specifiedColumns := first.specifiedColumns.alter aliasName [] (· ++ [column.name]) }
      { second with
        specifiedColumns := second.specifiedColumns.alter aliasName [] (· ++ [column.name]) } := by
    obtain ⟨mains, inlines, joined, scopes, branches⟩ := coupled
    exact .of mains inlines joined scopes branches
  dsimp only
  rw [same, count]
  split_ifs
  · exact ⟨.accepted rfl, coupled⟩
  · exact alongside_bind_allow coupled coupled.purpose (alongside_set longer)
  · exact alongside_set longer

theorem close_or_scope_alongside (carries : Carries likeness.texts likeness.given)
    (coupled : Coupled likeness first second) :
    Alongside (Coupled likeness) Eq closeOrScope closeOrScope first second := by
  refine alongside_bind_get (alongside_bind_lift coupled
    (coupled.scopes.close_scope carries) ?_)
  rintro ⟨orScope, entries⟩ ⟨other, others⟩ ⟨scopes, each⟩
  refine alongside_bind (alongside_set (coupled.with_scope scopes)) fun _ _ _ _ _ states => ?_
  exact register_clauses_alongside each states

theorem change_order_alongside (coupled : Coupled likeness first second)
    (change : Order → Except ClauseError Order) :
    Alongside (Coupled likeness) Eq (changeOrder change) (changeOrder change) first second := by
  refine alongside_bind_get ?_
  obtain ⟨mains, inlines, joined, scopes, branches⟩ := coupled
  refine alongside_bind_lift (.of mains inlines joined scopes branches) (together_self _) ?_
  rintro order _ rfl
  exact alongside_set (.of mains inlines joined scopes branches)

theorem fetch_first_alongside (coupled : Coupled likeness first second) (size : Int64) :
    Alongside (Coupled likeness) Eq (fetchFirst size) (fetchFirst size) first second := by
  refine alongside_bind_allow coupled coupled.purpose (alongside_refusing coupled ?_)
  obtain ⟨mains, inlines, joined, scopes, branches⟩ := coupled
  exact alongside_modify (.of mains inlines joined scopes branches)

theorem fetch_page_alongside (coupled : Coupled likeness first second) (page : Int64) :
    Alongside (Coupled likeness) Eq (fetchPage page) (fetchPage page) first second := by
  refine alongside_bind_allow coupled coupled.purpose (alongside_bind_get ?_)
  have fetch : second.fetch = first.fetch := by cases coupled; rfl
  rw [fetch]
  refine alongside_refusing coupled ?_
  dsimp only
  generalize (if page < 1 then 1 else page) = counted
  refine alongside_bind_lift coupled (together_self _) fun _ _ _ => ?_
  split_ifs
  · exact fetch_first_alongside coupled _
  · obtain ⟨mains, inlines, joined, scopes, branches⟩ := coupled
    exact alongside_set (.of mains inlines joined scopes branches)

theorem fetch_scope_alongside (coupled : Coupled likeness first second) (start size : Int64) :
    Alongside (Coupled likeness) Eq (fetchScope start size) (fetchScope start size) first
      second := by
  refine alongside_bind_allow coupled coupled.purpose (alongside_refusing coupled ?_)
  refine alongside_refusing coupled (alongside_bind_lift coupled (together_self _) fun _ _ _ => ?_)
  have moved : Alongside (Coupled likeness) Eq
      (modify fun statement => { statement with fetch := { statement.fetch with start, size } })
      (modify fun statement => { statement with fetch := { statement.fetch with start, size } })
      first second := by
    obtain ⟨mains, inlines, joined, scopes, branches⟩ := coupled
    exact alongside_modify (.of mains inlines joined scopes branches)
  exact alongside_bind moved fun _ _ _ _ _ states => fetch_page_alongside states 1

/-- Whatever two branches have in common, neither of their texts is blank. -/
theorem branch_text_not_blank (text : String) :
    Text.isBlank (Template.unionSelectGap ++ text) = false := by
  rw [Text.isBlank, String.toList_append, List.all_append]
  have mark : Template.unionSelectGap.toList.all Text.isBlankChar = false := by decide
  rw [mark, Bool.false_and]

theorem add_union_text_alongside (coupled : Coupled likeness first second) {text other : String}
    {keepsDuplicates : Bool} (blank : Text.isBlank other = Text.isBlank text)
    (branches : likeness.branches ⟨text, keepsDuplicates⟩ ⟨other, keepsDuplicates⟩) :
    Alongside (Coupled likeness) Eq (addUnionText text keepsDuplicates)
      (addUnionText other keepsDuplicates) first second := by
  refine alongside_bind_allow coupled coupled.purpose ?_
  rw [blank]
  refine alongside_refusing coupled (alongside_bind_get ?_)
  obtain ⟨mains, inlines, joined, scopes, others⟩ := coupled
  refine alongside_refusing (.of mains inlines joined scopes others) (alongside_set ?_)
  exact .of mains inlines joined scopes (List.rel_append others (.cons branches .nil))

theorem derive_alongside (coupled : Coupled likeness first second) (name subQuery : String) :
    Alongside (Coupled likeness) Eq (derive name subQuery) (derive name subQuery) first second := by
  refine alongside_bind_allow coupled coupled.purpose (alongside_refusing coupled ?_)
  obtain ⟨mains, inlines, joined, scopes, branches⟩ := coupled
  exact alongside_modify (.of mains inlines joined scopes branches)

theorem set_parameter_alongside (coupled : Coupled likeness first second) (name : String)
    (value : Value) :
    Alongside (Coupled likeness) Eq (setParameter name value) (setParameter name value) first
      second := by
  refine alongside_bind_lift coupled (together_self _) ?_
  rintro kept _ rfl
  obtain ⟨mains, inlines, joined, scopes, branches⟩ := coupled
  exact alongside_modify (.of mains inlines joined scopes branches)

theorem add_base_inline_alongside (coupled : Coupled likeness first second) {name : String}
    {key : Key} {holder other : Holder} {option? : Option LikeOption}
    (compares : ∀ column, first.table.requireColumn name = .ok column →
      ComparesAlike likeness first.dialect (.qualified inlineAlias column.sqlName) key holder other
        option?) :
    Alongside (Coupled likeness) Eq (addBaseInline name key holder option?)
      (addBaseInline name key other option?) first second := by
  have table : second.table = first.table := by cases coupled; rfl
  refine alongside_bind_get ?_
  rw [table]
  cases found : first.table.requireColumn name with
  | error refusal => exact ⟨.refused, coupled⟩
  | ok column => exact compare_alongside coupled .baseInline (compares column found)

theorem add_join_condition_alongside (coupled : Coupled likeness first second)
    {aliasName name : String} {key : Key} {holder other : Holder} {option? : Option LikeOption}
    {isOn : Bool}
    (compares : ∀ table column, first.aliasTable aliasName = .ok table →
      table.requireColumn name = .ok column →
      ComparesAlike likeness first.dialect
        (.qualified (if isOn then aliasName else inlineAlias) column.sqlName) key holder other
        option?) :
    Alongside (Coupled likeness) Eq (addJoinCondition aliasName name key holder option? isOn)
      (addJoinCondition aliasName name key other option? isOn) first second := by
  refine alongside_bind_get (alongside_bind_lift coupled (coupled.require_join aliasName) ?_)
  intro _ _ _
  rw [coupled.alias_table]
  cases known : first.aliasTable aliasName with
  | error refusal => exact ⟨.refused, coupled⟩
  | ok table =>
      change Alongside _ _ (liftM (table.requireColumn name) >>= _)
        (liftM (table.requireColumn name) >>= _) _ _
      cases found : table.requireColumn name with
      | error refusal => exact ⟨.refused, coupled⟩
      | ok column =>
          have comparison := compares table column known found
          cases isOn with
          | true => exact compare_alongside coupled (.joinOn aliasName) comparison
          | false => exact compare_alongside coupled (.joinInline aliasName) comparison

/-- The last conditions of two coupled statements go to the front together. -/
theorem move_last_condition_first_alongside (coupled : Coupled likeness first second) :
    Alongside (Coupled likeness) Eq moveLastConditionFirst moveLastConditionFirst first second := by
  refine alongside_modify ?_
  obtain @⟨conditions, _, _, _, _, mains, inlines, joined, scopes, branches⟩ := coupled
  rcases nil_or_concat_related mains with
    ⟨none, rfl⟩ | ⟨init, last, others, another, list, rfl, before, ends⟩
  · rw [none]
    exact .of mains inlines joined scopes branches
  · rw [list, List.getLast?_concat, List.dropLast_concat]
    dsimp only
    rw [List.getLast?_concat, List.dropLast_concat]
    exact .of (.cons ends before) inlines joined scopes branches

theorem rank_manually_alongside (coupled : Coupled likeness first second) (values : List Value) :
    Alongside (Coupled likeness) Eq (rankManually values) (rankManually values) first second := by
  refine alongside_bind_allow coupled coupled.purpose (alongside_bind_get ?_)
  rw [coupled.has_union]
  have dialect : second.dialect = first.dialect := by cases coupled; rfl
  rw [dialect]
  exact alongside_refusing coupled (change_order_alongside coupled _)

theorem order_by_derived_alongside (coupled : Coupled likeness first second) (name : String)
    (direction : Order.Direction) :
    Alongside (Coupled likeness) Eq (orderByDerived name direction) (orderByDerived name direction)
      first second := by
  refine alongside_bind_allow coupled coupled.purpose (alongside_bind_get ?_)
  obtain ⟨mains, inlines, joined, scopes, branches⟩ := coupled
  exact alongside_requiring (.of mains inlines joined scopes branches)
    (alongside_set (.of mains inlines joined scopes branches))

theorem lock_alongside (coupled : Coupled likeness first second) :
    Alongside (Coupled likeness) Eq lock lock first second := by
  refine alongside_bind_get ?_
  obtain ⟨mains, inlines, joined, scopes, branches⟩ := coupled
  exact alongside_bind_lift (.of mains inlines joined scopes branches) (together_self _)
    fun _ _ _ => alongside_set (.of mains inlines joined scopes branches)

/-- Matching operations are refused both or accepted both, and keep the statements coupled. -/
theorem Coupled.perform (carries : Carries likeness.texts likeness.given)
    (coupled : Coupled likeness first second) {operation other : Operation}
    (matching : Matches likeness first operation other) :
    Alongside (Coupled likeness) Eq operation.registration other.registration first second := by
  cases operation with
  | classify type | useSelectIndex enabled | rollback | clearOrder | useOrder effective
  | suppressFetch suppressed =>
      obtain rfl := matching
      obtain ⟨mains, inlines, joined, scopes, branches⟩ := coupled
      exact alongside_modify (.of mains inlines joined scopes branches)
  | selectRelation aliasName suffix =>
      obtain rfl := matching
      exact select_relation_alongside coupled aliasName suffix
  | specify aliasName name =>
      obtain rfl := matching
      exact specify_alongside coupled aliasName name
  | derive name subQuery =>
      obtain rfl := matching
      exact derive_alongside coupled name subQuery
  | join aliasName property =>
      obtain ⟨rfl, given⟩ := matching
      exact (join_alongside coupled given).map fun _ _ _ => rfl
  | makeInner aliasName =>
      obtain rfl := matching
      exact make_inner_alongside coupled aliasName
  | setParameter name value =>
      obtain rfl := matching
      exact set_parameter_alongside coupled name value
  | addCondition column key holder option? =>
      obtain ⟨another, rfl, compares⟩ := matching
      exact compare_alongside coupled .main compares
  | addConditionText text =>
      obtain ⟨rfl, related⟩ := matching
      refine alongside_refusing coupled (alongside_bind_allow coupled coupled.purpose ?_)
      exact register_clause_alongside coupled .main ⟨rfl, related⟩
  | addBaseInline name key holder option? =>
      obtain ⟨another, rfl, compares⟩ := matching
      exact add_base_inline_alongside coupled compares
  | addJoinCondition aliasName name key holder option? isOn =>
      obtain ⟨another, rfl, compares⟩ := matching
      exact add_join_condition_alongside coupled compares
  | openOrScope =>
      obtain rfl := matching
      exact alongside_bind_get (alongside_bind_lift coupled coupled.scopes.open_scope
        fun _ _ scopes => alongside_set (coupled.with_scope scopes))
  | closeOrScope =>
      obtain rfl := matching
      exact close_or_scope_alongside carries coupled
  | beginAndPart =>
      obtain rfl := matching
      exact alongside_bind_get (alongside_bind_lift coupled coupled.scopes.begin_and_part
        fun _ _ scopes => alongside_set (coupled.with_scope scopes))
  | endAndPart =>
      obtain rfl := matching
      exact alongside_bind_get (alongside_bind_lift coupled coupled.scopes.end_and_part
        fun _ _ scopes => alongside_set (coupled.with_scope scopes))
  | moveLastConditionFirst =>
      obtain rfl := matching
      exact move_last_condition_first_alongside coupled
  | clearConditions =>
      obtain rfl := matching
      obtain ⟨_, _, joined, scopes, branches⟩ := coupled
      exact alongside_modify (.of .nil .nil joined scopes branches)
  | orderBy path direction | reverseOrReplaceOrder path direction | placeNulls place =>
      obtain rfl := matching
      exact alongside_bind_allow coupled coupled.purpose (change_order_alongside coupled _)
  | rankManually values =>
      obtain rfl := matching
      exact rank_manually_alongside coupled values
  | orderByDerived name direction =>
      obtain rfl := matching
      exact order_by_derived_alongside coupled name direction
  | addUnionText text keepsDuplicates =>
      obtain ⟨rfl, branches⟩ := matching
      exact add_union_text_alongside coupled rfl branches
  | addUnion branch keepsDuplicates =>
      obtain ⟨another, rfl, branches⟩ := matching
      refine add_union_text_alongside coupled ?_ branches
      rw [branch_text_not_blank, branch_text_not_blank]
  | fetchFirst size =>
      obtain rfl := matching
      exact fetch_first_alongside coupled size
  | fetchPage page =>
      obtain rfl := matching
      exact fetch_page_alongside coupled page
  | fetchScope start size =>
      obtain rfl := matching
      exact fetch_scope_alongside coupled start size
  | lock =>
      obtain rfl := matching
      exact lock_alongside coupled

theorem Coupled.after (carries : Carries likeness.texts likeness.given)
    (coupled : Coupled likeness first second) {operation other : Operation}
    (matching : Matches likeness first operation other) :
    Coupled likeness (first.after operation) (second.after other) :=
  (coupled.perform carries matching).2

/-- A new statement has no texts yet. -/
theorem coupled_of_created {schema : Schema} {settings : Settings}
    {resolver : FixedCondition.Resolver} {tableName : String} {purpose : Purpose} {level : Nat}
    {statement : Statement}
    (created : create schema settings resolver tableName purpose level = .ok statement) :
    Coupled likeness statement statement := by
  obtain ⟨_, _, rfl⟩ := create_eq_ok created
  exact .of .nil .nil .nil ⟨rfl, rfl, .nil⟩ .nil

theorem Coupled.with_resolver (coupled : Coupled likeness first second)
    (resolver : FixedCondition.Resolver) :
    Coupled likeness { first with resolver } { second with resolver } := by
  obtain ⟨mains, inlines, joined, scopes, branches⟩ := coupled
  exact .of mains inlines joined scopes branches

end Statement

end SqlComposer
