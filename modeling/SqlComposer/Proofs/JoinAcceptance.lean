import SqlComposer.Proofs.JoinTree
import SqlComposer.Proofs.SchemaHistory

/-!
Joins over a schema that has been declared step by step. The tables and columns of a relation have
been checked when it was declared, so that joining it fails for three reasons only: the alias is
unknown, the table behind it has no such relation, or the fixed condition is refused.
-/
namespace SqlComposer.Statement

open Schema (HasColumns)

theorem join_pairs_ok_iff (localAlias foreignAlias : String) (near far : Table)
    (pairs : List (String × String)) :
    (∃ columns, joinPairs localAlias foreignAlias near far pairs = .ok columns) ↔
      ∀ pair ∈ pairs, HasColumns near far pair := by
  induction pairs with
  | nil => simp [joinPairs]
  | cons pair rest ih =>
      rw [List.forall_mem_cons, ← ih]
      constructor
      · rintro ⟨columns, paired⟩
        obtain ⟨nearColumn, foundNear, paired⟩ := bind_eq_ok paired
        obtain ⟨farColumn, foundFar, paired⟩ := bind_eq_ok paired
        obtain ⟨others, later, _⟩ := bind_eq_ok paired
        exact ⟨⟨⟨nearColumn, foundNear⟩, farColumn, foundFar⟩, others, later⟩
      · rintro ⟨⟨⟨nearColumn, foundNear⟩, farColumn, foundFar⟩, others, later⟩
        refine ⟨(ColumnRef.qualified localAlias nearColumn.sqlName,
          ColumnRef.qualified foreignAlias farColumn.sqlName) :: others, ?_⟩
        simp only [joinPairs, foundNear, foundFar, later]
        rfl

/-- The base table of a statement is a table of its schema. -/
theorem Reachable.base_table_found {schema : Schema} (built : schema.Built) {statement : Statement}
    (reached : Reachable schema statement) :
    schema.table statement.table.name = .ok statement.table := by
  have holds : statement.schema = schema ∧ statement.ScopesJoined ∧
      schema.table statement.table.name = .ok statement.table := by
    refine @reachable_invariant schema
      (fun statement => schema.table statement.table.name = .ok statement.table)
      (fun _ _ _ _ _ _ created => ?_) (fun _ _ found => found) ?_ statement reached
    · obtain ⟨table, found, rfl⟩ := create_eq_ok created
      exact built.table_of_own_name found
    · intro before operation after _ found effect
      rw [effect.same_origin.table]
      exact found
  exact holds.2.2

theorem Reachable.alias_table_found {schema : Schema} (built : schema.Built)
    {statement : Statement} (reached : Reachable schema statement) {aliasName : String}
    {table : Table} (behind : statement.aliasTable aliasName = .ok table) :
    schema.table table.name = .ok table := by
  rcases alias_table_cases behind with ⟨_, rfl⟩ | ⟨join, _, found⟩
  · exact reached.base_table_found built
  · rw [reached.same_schema] at found
    exact built.table_of_own_name found

theorem Reachable.alias_known_iff {schema : Schema} (built : schema.Built)
    {statement : Statement} (reached : Reachable schema statement) (aliasName : String) :
    (∃ table, statement.aliasTable aliasName = .ok table) ↔
      aliasName = statement.baseAlias ∨ aliasName ∈ statement.joins.keys := by
  constructor
  · rintro ⟨table, behind⟩
    exact alias_of_table behind
  · rintro (base | joined)
    · exact ⟨statement.table, if_pos base⟩
    · exact (reached.consistent built).relations.joined aliasName joined

/-- Why a relation that has not been joined yet cannot be joined. -/
inductive JoinRefused (statement : Statement) (aliasName property : String) : Prop where
  | unknownAlias (noBase : aliasName ≠ statement.baseAlias)
      (unjoined : aliasName ∉ statement.joins.keys)
  | unrelated {table : Table} {refusal : ClauseError}
      (behind : statement.aliasTable aliasName = .ok table)
      (missing : statement.schema.relation table.name property = .error refusal)
  | unresolved {near far : Table} {relation : Relation} {condition : String}
      {refusal : ClauseError} (behind : statement.aliasTable aliasName = .ok near)
      (related : statement.schema.relation near.name property = .ok relation)
      (reaches : statement.schema.table relation.foreignTable = .ok far)
      (fixed : relation.fixedCondition? = some condition)
      (refused : statement.resolver condition
        ⟨aliasName, statement.relationAlias far.name statement.joins.size, statement.parameters,
          statement.dialect⟩ = .error refusal)

/-- With its tables and columns found, a join is refused by its fixed condition alone. -/
theorem new_join_refused_iff {statement : Statement} {aliasName property : String}
    {near far : Table} {relation : Relation} (behind : statement.aliasTable aliasName = .ok near)
    (related : statement.schema.relation near.name property = .ok relation)
    (reaches : statement.schema.table relation.foreignTable = .ok far)
    (columns : ∀ pair ∈ relation.pairs, HasColumns near far pair) :
    (∃ refusal, statement.newJoin aliasName property = .error refusal) ↔
      ∃ condition, relation.fixedCondition? = some condition ∧ ∃ refusal,
        statement.resolver condition
          ⟨aliasName, statement.relationAlias far.name statement.joins.size, statement.parameters,
            statement.dialect⟩ = .error refusal := by
  obtain ⟨pairs, paired⟩ := (join_pairs_ok_iff aliasName
    (statement.relationAlias far.name statement.joins.size) near far relation.pairs).mpr columns
  have started := (@noting_eq_ok_iff _ (.joining property aliasName) _ _).mpr related
  have ended := (@noting_eq_ok_iff _ (.joining property aliasName) _ _).mpr reaches
  unfold newJoin
  simp only [behind, started, ended, paired, bind, Except.bind]
  cases relation.fixedCondition? with
  | none => simp [pure, Except.pure]
  | some condition =>
      simp only [Option.some.injEq, exists_eq_left']
      cases statement.resolver condition
        ⟨aliasName, statement.relationAlias far.name statement.joins.size, statement.parameters,
          statement.dialect⟩ <;> simp [Except.map, pure, Except.pure]

theorem new_join_refusal {schema : Schema} (built : schema.Built) (integral : schema.Integral)
    {statement : Statement} (reached : Reachable schema statement) (aliasName property : String) :
    (∃ refusal, statement.newJoin aliasName property = .error refusal) ↔
      JoinRefused statement aliasName property := by
  have same := reached.same_schema
  -- Where alias and relation are found, the tables and columns are those of the declaration.
  have founded : ∀ {near : Table} {relation : Relation},
      statement.aliasTable aliasName = .ok near →
      statement.schema.relation near.name property = .ok relation →
      ∃ far, statement.schema.table relation.foreignTable = .ok far ∧
        ∀ pair ∈ relation.pairs, HasColumns near far pair := by
    intro near relation behind related
    rw [same] at related ⊢
    obtain ⟨admits, keyed⟩ := integral.relation_found related
    obtain ⟨_, start, far, foundStart, foundFar, columns⟩ := admits
    have own := reached.alias_table_found built behind
    rw [Schema.table_eq_ok_iff] at own foundStart
    rw [keyed, own] at foundStart
    obtain rfl := Option.some.inj foundStart
    exact ⟨far, foundFar, columns⟩
  constructor
  · rintro ⟨refusal, refused⟩
    cases behind : statement.aliasTable aliasName with
    | error cause =>
        have unknown : ¬ ∃ table, statement.aliasTable aliasName = .ok table := by
          simp [behind]
        rw [reached.alias_known_iff built, not_or] at unknown
        exact .unknownAlias unknown.1 unknown.2
    | ok near =>
        cases related : statement.schema.relation near.name property with
        | error cause => exact .unrelated behind related
        | ok relation =>
            obtain ⟨far, reaches, columns⟩ := founded behind related
            obtain ⟨condition, fixed, cause, failed⟩ :=
              (new_join_refused_iff behind related reaches columns).mp ⟨refusal, refused⟩
            exact .unresolved behind related reaches fixed failed
  · rintro (⟨noBase, unjoined⟩ | ⟨behind, missing⟩ | ⟨behind, related, reaches, fixed, failed⟩)
    · have unknown : ¬ ∃ table, statement.aliasTable aliasName = .ok table := by
        rw [reached.alias_known_iff built]
        exact not_or.mpr ⟨noBase, unjoined⟩
      obtain ⟨cause, refused⟩ := refused_of_not_ok unknown
      exact ⟨cause, by rw [newJoin, refused]; rfl⟩
    · rw [newJoin, behind]
      exact ⟨_, by simp only [bind, Except.bind, missing, ClauseError.noting]; rfl⟩
    · obtain ⟨other, found, columns⟩ := founded behind related
      obtain rfl := Except.ok.inj (reaches.symm.trans found)
      exact (new_join_refused_iff behind related reaches columns).mpr ⟨_, fixed, _, failed⟩

theorem join_outcome (statement : Statement) (aliasName property : String) :
    (∃ refusal, ((Operation.join aliasName property).perform statement).1 = .error refusal) ↔
      statement.joinOf? aliasName property = none ∧
        ∃ refusal, statement.newJoin aliasName property = .error refusal := by
  rw [Registration.perform_eq_outcome]
  simp only [Operation.registration, Registration.outcome_map, map_error_iff]
  rw [Statement.join, Registration.outcome_bind_get]
  cases statement.joinOf? aliasName property with
  | some existing =>
      have answered : (Registration.outcome (pure existing.foreignAlias) statement).1 =
          .ok existing.foreignAlias := rfl
      simp [answered]
  | none =>
      simp only [true_and, Registration.outcome_bind_lift]
      cases statement.newJoin aliasName property with
      | error refusal => simp
      | ok added =>
          -- Nothing after the write is refused.
          change (∃ refusal, (Except.ok added.foreignAlias : Except ClauseError String) =
            .error refusal) ↔ _
          simp

/-- Declaring tables and relations, in any order and with refused declarations among them, makes a
schema whose lookups are kept for good, and over which a join is refused for the stated reasons
only. -/
theorem declared_schema_makes_joins_safe (declarations : List Declaration) :
    let schema := Schema.empty.afterAll declarations
    schema.Sound ∧ (∀ later, schema.Remembers (schema.afterAll later)) ∧
      ∀ statement, Reachable schema statement → ∀ aliasName property,
        (∃ refusal, ((Operation.join aliasName property).perform statement).1 = .error refusal) ↔
          statement.joinOf? aliasName property = none ∧
            JoinRefused statement aliasName property := by
  have built := Schema.built_of_declarations declarations
  have integral := Schema.integral_of_declarations declarations
  refine ⟨integral.sound, fun later => (Schema.extends_after_all _ later).remembers, ?_⟩
  intro statement reached aliasName property
  rw [join_outcome, new_join_refusal built integral reached]

/-- The members are declared twice, which is refused, and joined from an alias that is not there. -/
theorem join_from_unknown_alias_refused :
    let schema := Schema.empty.afterAll [.table memberTable, .table memberTable, .relation inviter]
    Reachable schema newMember ∧ newMember.joinOf? "dfother" "inviter" = none ∧
      ∃ refusal, ((Operation.join "dfother" "inviter").perform newMember).1 = .error refusal := by
  have declared : Schema.empty.afterAll [.table memberTable, .table memberTable,
      .relation inviter] = memberSchema := rfl
  have reached : Reachable (Schema.empty.afterAll [.table memberTable, .table memberTable,
      .relation inviter]) newMember := declared ▸ new_member_reachable
  refine ⟨reached, rfl, ?_⟩
  have safe := (declared_schema_makes_joins_safe [.table memberTable, .table memberTable,
    .relation inviter]).2.2 newMember reached
  exact (safe "dfother" "inviter").mpr ⟨rfl, .unknownAlias (by decide) nofun⟩

end SqlComposer.Statement
