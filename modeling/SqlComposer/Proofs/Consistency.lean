import SqlComposer.Proofs.Aliases
import SqlComposer.Proofs.Ordering
import SqlComposer.Proofs.Schema

/-!
What a reachable statement refers to is there: the tables behind its aliases, the columns that have
been specified, the derived columns of its order, and the lock of its dialect. Rendering looks all
of them up again and cannot miss any.
-/
namespace SqlComposer.Statement

open Condition (Clause Target)

theorem base_alias_of_origin {before after : Statement} (origin : SameOrigin before after) :
    after.baseAlias = before.baseAlias := by
  rw [baseAlias, baseAlias, origin.level]

theorem alias_table_of_same {before after : Statement} (origin : SameOrigin before after)
    (joins : SameJoins before.joins after.joins) (aliasName : String) :
    after.aliasTable aliasName = before.aliasTable aliasName := by
  unfold aliasTable requireJoin
  rw [base_alias_of_origin origin, origin.table, origin.schema]
  have agreed := joins.2 aliasName
  cases old : before.joins.find? aliasName with
  | none =>
      rw [old] at agreed
      rw [Option.map_eq_none_iff.mp agreed]
  | some join =>
      rw [old, Option.map_some] at agreed
      obtain ⟨kept, found, same⟩ := Option.map_eq_some_iff.mp agreed
      have bare := congrArg Join.foreignTable same
      have foreign : kept.foreignTable = join.foreignTable := bare
      rw [found]
      split_ifs
      · rfl
      · change before.schema.table kept.foreignTable = before.schema.table join.foreignTable
        rw [foreign]

/-- Names under which columns of a table have been specified: each is the name that its column is
declared with. -/
def DeclaredNames (table : Table) (names : List String) : Prop :=
  ∀ name ∈ names, ∃ column, table.requireColumn name = .ok column ∧ column.name = name

structure RelationsKnown (statement : Statement) : Prop where
  numbered : statement.NumberedAliases
  joined : ∀ aliasName ∈ statement.joins.keys, ∃ table, statement.aliasTable aliasName = .ok table
  selected : ∀ aliasName ∈ statement.selectedRelations.keys, aliasName ∈ statement.joins.keys
  distinct : statement.specifiedColumns.keys.Nodup
  specified : ∀ aliasName names, statement.specifiedColumns.find? aliasName = some names →
    (aliasName = statement.baseAlias ∨ aliasName ∈ statement.selectedRelations.keys) ∧
      ∃ table, statement.aliasTable aliasName = .ok table ∧ DeclaredNames table names

theorem RelationsKnown.of_same {before after : Statement} (known : before.RelationsKnown)
    (origin : SameOrigin before after) (joins : SameJoins before.joins after.joins)
    (selected : after.selectedRelations = before.selectedRelations)
    (specified : after.specifiedColumns = before.specifiedColumns) : after.RelationsKnown := by
  have tables := alias_table_of_same origin joins
  refine ⟨numbered_aliases_congr origin.level joins.1 known.numbered, ?_, ?_, ?_, ?_⟩
  · intro aliasName present
    rw [joins.1] at present
    rw [tables]
    exact known.joined aliasName present
  · rw [selected, joins.1]
    exact known.selected
  · rw [specified]
    exact known.distinct
  · intro aliasName names found
    rw [specified] at found
    rw [selected, tables, base_alias_of_origin origin]
    exact known.specified aliasName names found

theorem RelationsKnown.base_or_joined {statement : Statement} (known : statement.RelationsKnown)
    {aliasName : String} {names : List String}
    (found : statement.specifiedColumns.find? aliasName = some names) :
    aliasName = statement.baseAlias ∨ aliasName ∈ statement.joins.keys := by
  rcases (known.specified aliasName names found).1 with base | relation
  · exact .inl base
  · exact .inr (known.selected aliasName relation)

theorem alias_table_of_new_join {statement : Statement} {added : Join}
    (fresh : added.foreignAlias ∉ statement.joins.keys) {aliasName : String}
    (earlier : aliasName = statement.baseAlias ∨ aliasName ∈ statement.joins.keys) :
    aliasTable { statement with joins := statement.joins.insert added.foreignAlias added }
        aliasName =
      statement.aliasTable aliasName := by
  by_cases base : aliasName = statement.baseAlias
  · rw [aliasTable, aliasTable, if_pos base]
    exact if_pos base
  · have present := earlier.resolve_left base
    have different : aliasName ≠ added.foreignAlias := by
      rintro rfl
      exact fresh present
    have elsewhere : (statement.joins.insert added.foreignAlias added).find? aliasName =
        statement.joins.find? aliasName := by
      rw [OrderedMap.find?_insert, if_neg different]
    unfold aliasTable requireJoin
    simp only [elsewhere]
    rfl

theorem new_alias_table {statement : Statement} (built : statement.schema.Built)
    {aliasName property : String} {added : Join}
    (made : statement.newJoin aliasName property = .ok added) :
    ∃ table,
      aliasTable { statement with joins := statement.joins.insert added.foreignAlias added }
        added.foreignAlias = .ok table := by
  obtain ⟨_, _, foreignTable, _, _, declared, _, foreign, _⟩ := new_join_spec made
  have found : (statement.joins.insert added.foreignAlias added).find? added.foreignAlias =
      some added := by
    rw [OrderedMap.find?_insert, if_pos rfl]
  by_cases base : added.foreignAlias = statement.baseAlias
  · exact ⟨statement.table, if_pos base⟩
  · refine ⟨foreignTable, ?_⟩
    have known := built.table_of_own_name declared
    unfold aliasTable requireJoin
    simp only [found]
    rw [if_neg (by exact base)]
    change statement.schema.table added.foreignTable = .ok foreignTable
    rw [foreign]
    exact known

theorem RelationsKnown.join {statement : Statement} (known : statement.RelationsKnown)
    (built : statement.schema.Built) {aliasName property : String} {added : Join}
    (made : statement.newJoin aliasName property = .ok added) :
    RelationsKnown
      { statement with joins := statement.joins.insert added.foreignAlias added } := by
  have fresh := new_join_fresh known.numbered made
  refine ⟨join_keeps_numbered_aliases known.numbered made, ?_, ?_, known.distinct, ?_⟩
  · intro other present
    rw [OrderedMap.keys_insert, if_neg fresh, List.mem_append, List.mem_singleton] at present
    rcases present with before | rfl
    · obtain ⟨table, found⟩ := known.joined other before
      exact ⟨table, (alias_table_of_new_join fresh (.inr before)).trans found⟩
    · exact new_alias_table built made
  · intro other relation
    exact mem_keys_insert_join (known.selected other relation)
  · intro other names found
    obtain ⟨place, table, tabled, declared⟩ := known.specified other names found
    have earlier := known.base_or_joined found
    exact ⟨place, table, (alias_table_of_new_join fresh earlier).trans tabled, declared⟩

theorem RelationsKnown.select_relation {statement : Statement} (known : statement.RelationsKnown)
    {aliasName suffix : String} {join : Join}
    (joined : statement.requireJoin aliasName = .ok join) :
    RelationsKnown
      { statement with
        selectedRelations := statement.selectedRelations.insert aliasName suffix } := by
  have keys : ∀ other, other ∈ (statement.selectedRelations.insert aliasName suffix).keys ↔
      other ∈ statement.selectedRelations.keys ∨ other = aliasName := by
    intro other
    rw [OrderedMap.keys_insert]
    split_ifs with present
    · constructor
      · exact .inl
      · rintro (before | rfl)
        · exact before
        · exact present
    · rw [List.mem_append, List.mem_singleton]
  refine ⟨known.numbered, known.joined, ?_, known.distinct, ?_⟩
  · intro other relation
    rcases (keys other).mp relation with before | rfl
    · exact known.selected other before
    · exact (OrderedMap.mem_keys_iff_find? _ _).mpr
        ⟨join, (require_join_eq_ok_iff _ _ _).mp joined⟩
  · intro other names found
    obtain ⟨place, rest⟩ := known.specified other names found
    refine ⟨?_, rest⟩
    rcases place with base | relation
    · exact .inl base
    · exact .inr ((keys other).mpr (.inl relation))

theorem specifiable_table_spec {statement : Statement} {aliasName : String} {table : Table}
    (specifiable : statement.specifiableTable aliasName = .ok table) :
    (aliasName = statement.baseAlias ∨ aliasName ∈ statement.selectedRelations.keys) ∧
      statement.aliasTable aliasName = .ok table := by
  unfold specifiableTable at specifiable
  split_ifs at specifiable with base forbidden relation
  · refine ⟨.inl base, ?_⟩
    rw [aliasTable, if_pos base]
    exact specifiable
  · exact ⟨.inr ((OrderedMap.contains_iff_mem_keys _ _).mp relation), specifiable⟩

theorem RelationsKnown.specify {statement : Statement} (known : statement.RelationsKnown)
    {aliasName name : String} {table : Table} {column : Column}
    (specifiable : statement.specifiableTable aliasName = .ok table)
    (found : table.requireColumn name = .ok column) :
    RelationsKnown
      { statement with
        specifiedColumns :=
          statement.specifiedColumns.alter aliasName [] (· ++ [column.name]) } := by
  obtain ⟨place, tabled⟩ := specifiable_table_spec specifiable
  rw [OrderedMap.alter_eq_insert]
  refine ⟨known.numbered, known.joined, known.selected,
    OrderedMap.nodup_keys_insert known.distinct _ _, ?_⟩
  intro other names asked
  rw [OrderedMap.find?_insert] at asked
  split_ifs at asked with same
  · subst same
    obtain rfl := Option.some.inj asked
    refine ⟨place, table, tabled, fun specified member => ?_⟩
    rcases List.mem_append.mp member with before | new
    · cases old : statement.specifiedColumns.find? other with
      | none => simp [old] at before
      | some names =>
          obtain ⟨_, sameTable, tabledAgain, declared⟩ := known.specified other names old
          obtain rfl := Except.ok.inj (tabled.symm.trans tabledAgain)
          exact declared specified (by simpa [old] using before)
    · rw [List.mem_singleton.mp new]
      exact ⟨column, Table.require_column_of_own_name found, rfl⟩
  · exact known.specified other names asked

theorem Recorded.relations_known {statement after : Statement}
    {entries : List (Target × Clause)} (recorded : Recorded statement entries after)
    (known : statement.RelationsKnown) : after.RelationsKnown := by
  have origin := recorded.same_origin
  obtain ⟨_, _, _, _, rfl, same⟩ := recorded.frame
  exact known.of_same origin same rfl rfl

theorem Effect.relations_known {statement after : Statement} {operation : Operation}
    (effect : Effect statement operation after) (built : statement.schema.Built)
    (known : statement.RelationsKnown) : after.RelationsKnown := by
  have origin := effect.same_origin
  cases effect with
  | join _ made => exact known.join built made
  | selectRelation _ joined _ => exact known.select_relation joined
  | specify specifiable found _ _ => exact known.specify specifiable found
  | makeInner found => exact known.of_same origin (same_joins_insert found rfl) rfl rfl
  | recorded _ _ _ record => exact record.relations_known known
  | closeOrScope _ record =>
      exact record.relations_known
        (known.of_same ⟨rfl, rfl, rfl, rfl, rfl⟩ (same_joins_refl _) rfl rfl)
  | _ => exact known.of_same origin (same_joins_refl _) rfl rfl

/-- Derived columns of the order are there, and a ranking and a union exclude each other. -/
structure OrderKnown (statement : Statement) : Prop where
  derived : ∀ element ∈ statement.order.elements, element.isDerived = true →
    element.fullName ∈ statement.derivedColumns.keys
  unranked : statement.order.hasManual = true → statement.unions = []

theorem OrderKnown.derived_of_keeps {statement : Statement} (known : statement.OrderKnown)
    {order : Order} (keeps : Order.KeepsDerived statement.order order) :
    ∀ element ∈ order.elements, element.isDerived = true →
      element.fullName ∈ statement.derivedColumns.keys := by
  intro element member derived
  obtain ⟨old, present, alike, same⟩ := keeps element member derived
  exact same ▸ known.derived old present alike

theorem OrderKnown.of_keeps {statement : Statement} (known : statement.OrderKnown) {order : Order}
    (keeps : Order.KeepsDerived statement.order order ∧
      Order.KeepsUnranked statement.order order) :
    OrderKnown { statement with order } :=
  ⟨known.derived_of_keeps keeps.1, fun ranked => known.unranked (keeps.2 ranked)⟩

theorem OrderKnown.add_derived {statement : Statement} (known : statement.OrderKnown)
    {name : String} (derived : statement.derivedColumns.contains name = true)
    (direction : Order.Direction) :
    OrderKnown { statement with order := statement.order.addDerived name direction } := by
  refine ⟨fun element member given => ?_, fun ranked => known.unranked
    (Order.add_derived_keeps_unranked _ name direction ranked)⟩
  rcases List.mem_append.mp member with old | new
  · exact known.derived element old given
  · rw [List.mem_singleton.mp new]
    exact (OrderedMap.contains_iff_mem_keys _ _).mp derived

theorem OrderKnown.derive {statement : Statement} (known : statement.OrderKnown)
    (name subQuery : String) :
    OrderKnown
      { statement with derivedColumns := statement.derivedColumns.insert name subQuery } := by
  refine ⟨fun element member given => ?_, known.unranked⟩
  have present := known.derived element member given
  rw [OrderedMap.keys_insert]
  split_ifs
  · exact present
  · exact List.mem_append_left _ present

theorem OrderKnown.of_unranked {statement : Statement} (known : statement.OrderKnown)
    (unranked : ¬ statement.order.hasManual = true) (unions : List UnionBranch) :
    OrderKnown { statement with unions } :=
  ⟨known.derived, fun ranked => absurd ranked unranked⟩

theorem Effect.order_known {statement after : Statement} {operation : Operation}
    (effect : Effect statement operation after) (known : statement.OrderKnown) :
    after.OrderKnown := by
  cases effect with
  | orderBy _ changed => exact known.of_keeps (Order.add_path_keeps changed)
  | reverseOrReplaceOrder _ changed => exact known.of_keeps (Order.reverse_or_replace_keeps changed)
  | placeNulls _ changed => exact known.of_keeps (Order.place_nulls_keeps changed)
  | rankManually _ single changed =>
      have noUnion : statement.unions = [] := by simpa [hasUnion] using single
      exact ⟨known.derived_of_keeps (Order.rank_manually_keeps_derived changed), fun _ => noUnion⟩
  | orderByDerived _ derived => exact known.add_derived derived _
  | clearOrder => exact ⟨(fun _ member => nomatch member), fun ranked => nomatch ranked⟩
  | derive => exact known.derive _ _
  | addUnionText _ _ unranked => exact known.of_unranked unranked _
  | addUnion _ unranked => exact known.of_unranked unranked _
  | recorded _ _ _ record | closeOrScope _ record =>
      obtain ⟨_, _, _, _, rfl, _⟩ := record.frame
      exact ⟨known.derived, known.unranked⟩
  | _ => exact ⟨known.derived, known.unranked⟩

def LockAccepted (statement : Statement) : Prop :=
  statement.isLocked = true → ∃ text, statement.dialect.lock statement.baseAlias = .ok text

theorem Effect.lock_accepted {statement after : Statement} {operation : Operation}
    (effect : Effect statement operation after) (accepted : statement.LockAccepted) :
    after.LockAccepted := by
  cases effect with
  | @lock text written => exact fun _ => ⟨text, written⟩
  | recorded _ _ _ record | closeOrScope _ record =>
      obtain ⟨_, _, _, _, rfl, _⟩ := record.frame
      exact accepted
  | _ => exact accepted

structure Consistent (statement : Statement) : Prop where
  relations : statement.RelationsKnown
  order : statement.OrderKnown
  lock : statement.LockAccepted

theorem new_consistent {schema : Schema} {settings : Settings}
    {resolver : FixedCondition.Resolver} {tableName : String} {purpose : Purpose} {level : Nat}
    {statement : Statement}
    (created : create schema settings resolver tableName purpose level = .ok statement) :
    statement.Consistent := by
  have numbered := new_numbered_aliases created
  obtain ⟨table, _, rfl⟩ := create_eq_ok created
  refine ⟨⟨numbered, ?_, ?_, List.nodup_nil, ?_⟩, ⟨?_, ?_⟩, ?_⟩
  · exact fun _ present => nomatch present
  · exact fun _ present => nomatch present
  · exact fun _ _ found => nomatch found
  · exact fun _ member => nomatch member
  · exact fun _ => rfl
  · exact fun locked => nomatch locked

/-- Over a schema built by its own operations every reachable statement is consistent. -/
theorem Reachable.consistent {schema : Schema} (built : schema.Built) {statement : Statement}
    (reached : Reachable schema statement) : statement.Consistent := by
  have holds : statement.schema = schema ∧ statement.ScopesJoined ∧ statement.Consistent := by
    refine reachable_invariant (fun _ _ _ _ _ _ created => new_consistent created) ?_ ?_ reached
    · intro statement resolver consistent
      have relations : RelationsKnown { statement with resolver } :=
        consistent.relations.of_same ⟨rfl, rfl, rfl, rfl, rfl⟩ (same_joins_refl _) rfl rfl
      exact ⟨relations, ⟨consistent.order.derived, consistent.order.unranked⟩, consistent.lock⟩
    · intro statement operation after same consistent effect
      subst same
      exact ⟨effect.relations_known built consistent.relations,
        effect.order_known consistent.order, effect.lock_accepted consistent.lock⟩
  exact holds.2.2

theorem member_schema_built : memberSchema.Built := by
  have tables : Schema.Built { tables := ⟨[("MEMBER", memberTable)]⟩ } :=
    .addTable .empty (show Schema.empty.addTable memberTable = .ok _ from rfl)
  exact .addRelation tables (show Schema.addRelation _ inviter = .ok memberSchema from rfl)

end SqlComposer.Statement
