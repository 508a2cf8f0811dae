import SqlComposer.Proofs.FileStatement
import SqlComposer.Proofs.History

/-!
A query file as a run of operations. Every step of building its statement is an operation that the
statement accepts, so what holds of every reachable statement holds of the statements of files. The
run selects one relation for each join that the file selects, and derives no column.
-/
namespace SqlComposer

namespace Statement

theorem accepts_append {statement : Statement} {first second : List Operation} :
    statement.Accepts (first ++ second) ↔
      statement.Accepts first ∧ (statement.afterAll first).Accepts second := by
  induction first generalizing statement with
  | nil => simp [Accepts, afterAll]
  | cons operation rest ih =>
      rw [List.cons_append, Accepts, Accepts, ih, and_assoc]
      rfl

/-- What is accepted after a history continues it. -/
theorem Accepts.traced {schema : Schema} {statement : Statement}
    {earlier operations : List Operation} (accepted : statement.Accepts operations)
    (traced : Traced schema statement earlier) :
    Traced schema (statement.afterAll operations) (earlier ++ operations) := by
  induction operations generalizing statement earlier with
  | nil =>
      rw [List.append_nil]
      exact traced
  | cons operation rest ih =>
      have later := ih accepted.2 (.accepted traced accepted.1)
      rw [List.append_assoc] at later
      exact later

/-- A later state, after accepted operations of which so many select a relation and none derives a
column. -/
def Proceeds (before : Statement) (selections : Nat) (after : Statement) : Prop :=
  ∃ operations, before.Accepts operations ∧ after = before.afterAll operations ∧
    (operations.filterMap selection?).length = selections ∧
    operations.filterMap derivation? = []

theorem Proceeds.none (statement : Statement) : statement.Proceeds 0 statement :=
  ⟨[], trivial, rfl, rfl, rfl⟩

theorem Proceeds.trans {first second third : Statement} {some more : Nat}
    (here : first.Proceeds some second) (later : second.Proceeds more third) :
    first.Proceeds (some + more) third := by
  rcases here with ⟨operations, accepted, rfl, counted, underived⟩
  rcases later with ⟨others, further, rfl, others_counted, others_underived⟩
  refine ⟨operations ++ others, accepts_append.mpr ⟨accepted, further⟩,
    (afterAll_append _ _ _).symm, ?_, ?_⟩
  · rw [List.filterMap_append, List.length_append, counted, others_counted]
  · rw [List.filterMap_append, underived, others_underived, List.append_nil]

end Statement

namespace QueryFile

open Statement (Proceeds Traced)

variable {α : Type}

theorem registered_performs {operation : Operation} {before after : Statement}
    (ran : register operation.registration before = .ok ((), after)) :
    before.Accepts [operation] ∧ after = before.afterAll [operation] := by
  have performed : operation.perform before = (.ok (), after) := register_built.mp ran
  refine ⟨⟨?_, trivial⟩, ?_⟩
  · rw [performed]
  · change after = (operation.perform before).2
    rw [performed]

/-- An operation that neither selects a relation nor derives a column. -/
theorem registered_proceeds {operation : Operation}
    (unselecting : Statement.selection? operation = none)
    (underiving : Statement.derivation? operation = none) {before after : Statement}
    (ran : register operation.registration before = .ok ((), after)) :
    before.Proceeds 0 after := by
  rcases registered_performs ran with ⟨accepted, reached⟩
  refine ⟨[operation], accepted, reached, ?_, ?_⟩
  · rw [List.filterMap_cons_none unselecting]
    rfl
  · rw [List.filterMap_cons_none underiving]
    rfl

theorem each_proceeds {step : α → Building PUnit}
    (proceeds : ∀ entry before after, step entry before = .ok ((), after) →
      before.Proceeds 0 after)
    (entries : List α) {before after : Statement}
    (ran : (entries.forM step : Building PUnit) before = .ok ((), after)) :
    before.Proceeds 0 after := by
  induction entries generalizing before with
  | nil =>
      rw [for_m_nil_built.mp ran]
      exact .none _
  | cons entry rest ih =>
      rcases for_m_cons_built.mp ran with ⟨middle, first, later⟩
      exact (proceeds entry before middle first).trans (ih later)

theorem optionally_proceeds {taken : Prop} [Decidable taken] {step : Building Unit}
    {next : Unit → Building α} {before after : Statement} {result : α} {selections : Nat}
    (proceeds : ∀ after, step before = .ok ((), after) → before.Proceeds selections after)
    (ran : (if taken then step >>= next else next ()) before = .ok (result, after)) :
    ∃ middle, before.Proceeds (if taken then selections else 0) middle ∧
      next () middle = .ok (result, after) := by
  split_ifs at ran ⊢
  · rcases bind_built.mp ran with ⟨_, middle, first, later⟩
    exact ⟨middle, proceeds middle first, later⟩
  · exact ⟨before, .none before, ran⟩

theorem joined_proceeds {origin property aliasName : String} {before after : Statement}
    (ran : register (Statement.join origin property) before = .ok (aliasName, after)) :
    before.Proceeds 0 after := by
  have joined : register (Operation.join origin property).registration before =
      .ok ((), after) := by
    apply register_built.mpr
    rw [Operation.registration, Registration.outcome_map, register_built.mp ran]
    rfl
  exact registered_proceeds rfl rfl joined

theorem selected_proceeds {aliasName suffix : String} {before after : Statement}
    (ran : register (Statement.selectRelation aliasName suffix) before = .ok ((), after)) :
    before.Proceeds 1 after := by
  rcases @registered_performs (.selectRelation aliasName suffix) _ _ ran with ⟨accepted, reached⟩
  exact ⟨[.selectRelation aliasName suffix], accepted, reached, rfl, rfl⟩

theorem join_entry_proceeds {names last : JoinNames} {number : Nat} {entry : JoinEntry}
    {before after : Statement} (ran : addJoin names number entry before = .ok (last, after)) :
    before.Proceeds (if entry.isSelected then 1 else 0) after := by
  rcases origin_built (bind_get_built.mp ran) with ⟨origin, _, ran⟩
  rcases bind_built.mp ran with ⟨aliasName, middle, joined, ran⟩
  rcases optionally_proceeds (fun _ => @registered_proceeds (.makeInner aliasName) rfl rfl _ _) ran
    with ⟨inner, second, ran⟩
  rcases optionally_proceeds (fun _ => selected_proceeds) ran with ⟨selected, third, ran⟩
  rcases pure_built.mp ran with ⟨_, rfl⟩
  have whole := ((joined_proceeds joined).trans second).trans third
  simp only [ite_self, Nat.zero_add] at whole
  exact whole

/-- One relation is selected for each join that the file selects. -/
theorem join_entries_proceed {names last : JoinNames} {number : Nat} {entries : List JoinEntry}
    {before after : Statement} (ran : addJoins names number entries before = .ok (last, after)) :
    before.Proceeds (entries.countP JoinEntry.isSelected) after := by
  induction entries generalizing names number before with
  | nil =>
      rcases pure_built.mp ran with ⟨_, rfl⟩
      exact .none _
  | cons entry rest ih =>
      rcases bind_built.mp ran with ⟨others, middle, first, later⟩
      rw [List.countP_cons, Nat.add_comm]
      exact (join_entry_proceeds first).trans (ih later)

theorem parameter_proceeds (entry : String × Toml.Value) (before after : Statement)
    (ran : addParameter entry before = .ok ((), after)) : before.Proceeds 0 after := by
  rcases bind_lift_built.mp ran with ⟨value, _, set⟩
  exact @registered_proceeds (.setParameter entry.1 value) rfl rfl _ _ set

theorem column_proceeds (names : JoinNames) (text : String) (before after : Statement)
    (ran : addColumn names text before = .ok ((), after)) : before.Proceeds 0 after := by
  rcases bind_lift_built.mp (bind_get_built.mp ran) with ⟨⟨aliasName, column⟩, _, set⟩
  exact @registered_proceeds (.specify aliasName column) rfl rfl _ _ set

theorem condition_proceeds (names : JoinNames) (entry : ConditionEntry) (before after : Statement)
    (ran : addCondition names entry before = .ok ((), after)) : before.Proceeds 0 after := by
  rcases bind_lift_built.mp ran with ⟨key, _, ran⟩
  rcases bind_lift_built.mp ran with ⟨holder, _, ran⟩
  rcases bind_lift_built.mp ran with ⟨option?, _, ran⟩
  -- An entry goes to the base view, to a join's view, to a join's condition or to the where clause.
  have joined : ∀ aliasName isOn,
      register (Statement.addJoinCondition aliasName entry.column key holder option? isOn) before =
        .ok ((), after) → before.Proceeds 0 after := fun aliasName isOn =>
    @registered_proceeds (.addJoinCondition aliasName entry.column key holder option? isOn) rfl rfl
      _ _
  cases inline : entry.inline? with
  | none =>
      cases on : entry.on? with
      | none =>
          rw [inline, on] at ran
          rcases bind_lift_built.mp (bind_get_built.mp ran) with ⟨read, _, ran⟩
          rcases bind_lift_built.mp ran with ⟨column, _, ran⟩
          exact @registered_proceeds (.addCondition column key holder option?) rfl rfl _ _ ran
      | some target =>
          rw [inline, on] at ran
          rcases bind_lift_built.mp ran with ⟨aliasName, _, ran⟩
          exact joined aliasName true ran
  | some target =>
      cases on : entry.on? with
      | some other =>
          rw [inline, on] at ran
          cases ran
      | none =>
          rw [inline, on] at ran
          dsimp only at ran
          split_ifs at ran
          · exact @registered_proceeds (.addBaseInline entry.column key holder option?) rfl rfl
              _ _ ran
          · rcases bind_lift_built.mp ran with ⟨aliasName, _, ran⟩
            exact joined aliasName false ran

theorem and_part_proceeds (names : JoinNames) (conditions : List ConditionEntry)
    (before after : Statement) (ran : addAndPart names conditions before = .ok ((), after)) :
    before.Proceeds 0 after := by
  rcases bind_built.mp ran with ⟨_, begun, opened, ran⟩
  rcases bind_built.mp ran with ⟨_, filled, added, ended⟩
  have first := @registered_proceeds .beginAndPart rfl rfl _ _ opened
  have second := each_proceeds (condition_proceeds names) _ added
  have third := @registered_proceeds .endAndPart rfl rfl _ _ ended
  exact (first.trans second).trans third

theorem or_scope_proceeds (names : JoinNames) (entry : OrScopeEntry) (before after : Statement)
    (ran : addOrScope names entry before = .ok ((), after)) : before.Proceeds 0 after := by
  rcases bind_built.mp ran with ⟨_, begun, opened, ran⟩
  rcases bind_built.mp ran with ⟨_, restricted, singly, ran⟩
  rcases bind_built.mp ran with ⟨_, filled, parts, closed⟩
  have first := @registered_proceeds .openOrScope rfl rfl _ _ opened
  have second := each_proceeds (condition_proceeds names) _ singly
  have third := each_proceeds (and_part_proceeds names) _ parts
  have fourth := @registered_proceeds .closeOrScope rfl rfl _ _ closed
  exact ((first.trans second).trans third).trans fourth

theorem union_proceeds (schema : Schema) (settings : Settings) (table : String)
    (entry : UnionEntry) (before after : Statement)
    (ran : addUnion schema settings table entry before = .ok ((), after)) :
    before.Proceeds 0 after := by
  rcases bind_lift_built.mp ran with ⟨fresh, _, ran⟩
  rcases bind_lift_built.mp ran with ⟨⟨_, inner⟩, _, added⟩
  exact @registered_proceeds (.addUnion inner entry.keepsDuplicates) rfl rfl _ _ added

theorem Arranging.unselecting {operation : Operation} (arranging : Arranging operation) :
    Statement.selection? operation = none ∧ Statement.derivation? operation = none := by
  cases arranging <;> exact ⟨rfl, rfl⟩

/-- The rows of a query are arranged without selecting a relation or deriving a column. -/
theorem Arranges.proceeds {before after : Statement} (arranges : Arranges before after) :
    before.Proceeds 0 after := by
  induction arranges with
  | none statement => exact .none statement
  | next arranging ran _ ih =>
      have first := registered_proceeds arranging.unselecting.1 arranging.unselecting.2 ran
      exact first.trans ih

theorem query_proceeds {query : Query} {schema : Schema} {settings : Settings}
    {start built : Statement} (ran : addQuery schema settings query start = .ok ((), built)) :
    start.Proceeds (query.joins.countP JoinEntry.isSelected) built := by
  rcases query_run ran with ⟨run⟩
  have first := each_proceeds parameter_proceeds _ run.parameters
  have second := join_entries_proceed run.joins
  have third := each_proceeds (column_proceeds run.names) _ run.columns
  have fourth := each_proceeds (condition_proceeds run.names) _ run.conditions
  have fifth := each_proceeds (or_scope_proceeds run.names) _ run.orScopes
  have sixth := each_proceeds (union_proceeds schema settings query.table) _ run.unions
  have later := (((third.trans fourth).trans fifth).trans sixth).trans run.arranges.proceeds
  have whole := (first.trans second).trans later
  rw [Nat.zero_add, Nat.add_zero] at whole
  exact whole

/-- The statement of a file is reached by a run of accepted operations on a new one. -/
theorem file_traced {file : QueryFile} {settings : Settings} {built : Statement}
    (ran : file.statement settings = .ok built) :
    ∃ operations, Traced file.schema built operations ∧
      (operations.filterMap Statement.selection?).length =
        file.query.joins.countP JoinEntry.isSelected ∧
      operations.filterMap Statement.derivation? = [] := by
  rcases steps_of_file ran with ⟨start, created, described⟩
  rcases query_proceeds described with ⟨operations, accepted, rfl, counted, underived⟩
  exact ⟨operations, accepted.traced (.new created), counted, underived⟩

end QueryFile
end SqlComposer
