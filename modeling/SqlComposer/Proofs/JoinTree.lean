import SqlComposer.Proofs.Consistency

/-!
The joins of a statement in the order of their registration. They form a tree: a join starts at the
base table or at a table that has been joined before it, and no relation is joined twice from one
alias. What a join equates are columns that its relation names, each of the table behind its alias.
-/
namespace SqlComposer.Statement

open Condition (Clause Target)

theorem split_concat {α : Type} {list before after : List α} {last middle : α}
    (split : list ++ [last] = before ++ middle :: after) :
    (before = list ∧ middle = last) ∨ ∃ rest, list = before ++ middle :: rest := by
  rcases List.eq_nil_or_concat after with rfl | ⟨rest, final, rfl⟩
  · obtain ⟨same, ends⟩ := List.append_inj' split rfl
    exact .inl ⟨same.symm, (List.cons.inj ends).1.symm⟩
  · rw [List.concat_eq_append, ← List.cons_append, ← List.append_assoc] at split
    exact .inr ⟨rest, (List.append_inj' split rfl).1⟩

/-- The joins as they were when their relations were joined. -/
def bareJoins (statement : Statement) : List Join := statement.joins.values.map bareJoin

theorem bare_joins_of_same {before after : Statement} (distinct : before.joins.keys.Nodup)
    (same : SameJoins before.joins after.joins) : after.bareJoins = before.bareJoins := by
  have kept : after.joins.keys.Nodup := same.1 ▸ distinct
  rw [bareJoins, bareJoins, OrderedMap.map_values_of_distinct distinct,
    OrderedMap.map_values_of_distinct kept, same.1]
  simp only [same.2]

theorem alias_of_table {statement : Statement} {aliasName : String} {table : Table}
    (known : statement.aliasTable aliasName = .ok table) :
    aliasName = statement.baseAlias ∨ aliasName ∈ statement.joins.keys := by
  rcases alias_table_cases known with ⟨base, _⟩ | ⟨join, found, _⟩
  · exact .inl base
  · exact .inr ((OrderedMap.mem_keys_iff_find? _ _).mpr ⟨join, found⟩)

/-- A join of a relation between the tables behind its two aliases. -/
def Founded (statement : Statement) (join : Join) : Prop :=
  ∃ nearTable relation farTable,
    statement.aliasTable join.localAlias = .ok nearTable ∧
    statement.schema.relation nearTable.name join.property = .ok relation ∧
    statement.schema.table relation.foreignTable = .ok farTable ∧
    join.foreignTable = farTable.name ∧ join.table = farTable.sqlName ∧
    joinPairs join.localAlias join.foreignAlias nearTable farTable relation.pairs = .ok join.pairs

theorem Founded.of_same {before after : Statement} {join : Join} (founded : before.Founded join)
    (schema : after.schema = before.schema)
    (tables : after.aliasTable join.localAlias = before.aliasTable join.localAlias) :
    after.Founded join := by
  unfold Founded
  rw [schema, tables]
  exact founded

/-- The joins, first to last. Every one but the first may start where an earlier one leads. -/
structure JoinTree (statement : Statement) : Prop where
  numbered : statement.NumberedAliases
  distinct : statement.joins.keys.Nodup
  named : statement.bareJoins.map Join.foreignAlias = statement.joins.keys
  rooted : ∀ before join after, statement.bareJoins = before ++ join :: after →
    join.localAlias = statement.baseAlias ∨ join.localAlias ∈ before.map Join.foreignAlias
  single : (statement.bareJoins.map fun join => (join.localAlias, join.property)).Nodup
  founded : ∀ join ∈ statement.bareJoins, statement.Founded join

theorem JoinTree.of_same {before after : Statement} (tree : before.JoinTree)
    (origin : SameOrigin before after) (same : SameJoins before.joins after.joins) :
    after.JoinTree := by
  have bare := bare_joins_of_same tree.distinct same
  refine ⟨numbered_aliases_congr origin.level same.1 tree.numbered, same.1 ▸ tree.distinct,
    ?_, ?_, ?_, ?_⟩
  · rw [bare, same.1]
    exact tree.named
  · rw [bare, base_alias_of_origin origin]
    exact tree.rooted
  · rw [bare]
    exact tree.single
  · rw [bare]
    intro join member
    exact (tree.founded join member).of_same origin.schema (alias_table_of_same origin same _)

theorem bare_joins_of_new {statement : Statement} (numbered : statement.NumberedAliases)
    {aliasName property : String} {added : Join}
    (made : statement.newJoin aliasName property = .ok added) :
    bareJoins { statement with joins := statement.joins.insert added.foreignAlias added } =
      statement.bareJoins ++ [added] := by
  have fresh := new_join_fresh numbered made
  obtain ⟨_, _, _, _, _, _, _, shape⟩ := new_join_made made
  have bare : bareJoin added = added := by
    rw [shape]
    rfl
  rw [bareJoins, bareJoins, OrderedMap.insert_of_new fresh, OrderedMap.values, OrderedMap.values,
    List.map_append, List.map_append, List.map_singleton, List.map_singleton, bare]

theorem JoinTree.rooted_values {statement : Statement} (tree : statement.JoinTree)
    {before after : List Join} {join : Join}
    (split : statement.joins.values = before ++ join :: after) :
    join.localAlias = statement.baseAlias ∨ join.localAlias ∈ before.map Join.foreignAlias := by
  have bare : statement.bareJoins =
      before.map bareJoin ++ bareJoin join :: after.map bareJoin := by
    rw [bareJoins, split, List.map_append, List.map_cons]
  have rooted := tree.rooted _ _ _ bare
  rwa [List.map_map] at rooted

theorem JoinTree.single_values {statement : Statement} (tree : statement.JoinTree) :
    (statement.joins.values.map fun join => (join.localAlias, join.property)).Nodup := by
  have single := tree.single
  rwa [bareJoins, List.map_map] at single

theorem JoinTree.founded_value {statement : Statement} (tree : statement.JoinTree) {join : Join}
    (member : join ∈ statement.joins.values) : statement.Founded join :=
  tree.founded (bareJoin join) (List.mem_map_of_mem member)

theorem JoinTree.named_values {statement : Statement} (tree : statement.JoinTree) :
    statement.joins.values.map Join.foreignAlias = statement.joins.keys := by
  have named := tree.named
  rwa [bareJoins, List.map_map] at named

/-- A join is found under the alias that it gives to its table. -/
theorem JoinTree.find_value {statement : Statement} (tree : statement.JoinTree) {join : Join}
    (member : join ∈ statement.joins.values) :
    statement.joins.find? join.foreignAlias = some join := by
  obtain ⟨⟨key, found⟩, entry, rfl⟩ := List.mem_map.mp member
  have named := tree.named_values
  rw [OrderedMap.values, OrderedMap.keys, List.map_map, List.map_inj_left] at named
  have same : found.foreignAlias = key := named _ entry
  exact OrderedMap.find?_eq_some_of_mem tree.distinct (same ▸ entry)

/-- The alias of a join leads to its own table. -/
theorem JoinTree.far_table {statement : Statement} (tree : statement.JoinTree)
    (built : statement.schema.Built) {join : Join} (member : join ∈ statement.joins.values)
    {name : String} {farTable : Table} (found : statement.schema.table name = .ok farTable)
    (foreign : join.foreignTable = farTable.name) :
    statement.aliasTable join.foreignAlias = .ok farTable := by
  have joined := tree.find_value member
  have present := (OrderedMap.mem_keys_iff_find? _ _).mpr ⟨join, joined⟩
  obtain ⟨tableName, number, _, numbered⟩ := tree.numbered _ present
  have different : join.foreignAlias ≠ statement.baseAlias := by
    rw [numbered]
    exact statement.relation_alias_ne_base tableName number
  rw [aliasTable, if_neg different, requireJoin, joined, ← built.table_of_own_name found, ← foreign]
  rfl

theorem same_bare_pair {statement : Statement} {aliasName property : String}
    (unjoined : statement.joinOf? aliasName property = none) :
    (aliasName, property) ∉
      statement.bareJoins.map fun join => (join.localAlias, join.property) := by
  rw [joinOf?, List.find?_eq_none] at unjoined
  simp only [bareJoins, List.map_map, List.mem_map, Function.comp_apply, not_exists, not_and]
  intro join member same
  obtain ⟨start, named⟩ := Prod.mk.inj same
  exact unjoined join member (by simpa using ⟨start, named⟩)

theorem JoinTree.join {statement : Statement} (tree : statement.JoinTree)
    {aliasName property : String} {added : Join}
    (unjoined : statement.joinOf? aliasName property = none)
    (made : statement.newJoin aliasName property = .ok added) :
    JoinTree { statement with joins := statement.joins.insert added.foreignAlias added } := by
  have fresh := new_join_fresh tree.numbered made
  have bare := bare_joins_of_new tree.numbered made
  have keys : (statement.joins.insert added.foreignAlias added).keys =
      statement.joins.keys ++ [added.foreignAlias] := by
    rw [OrderedMap.keys_insert, if_neg fresh]
  obtain ⟨nearTable, relation, farTable, known, declared, found, paired, shape⟩ :=
    new_join_made made
  have start : added.localAlias = aliasName := by rw [shape]
  have named : added.property = property := by rw [shape]
  have starts := alias_of_table known
  have kept : ∀ {other : String} {table : Table}, statement.aliasTable other = .ok table →
      aliasTable { statement with joins := statement.joins.insert added.foreignAlias added }
        other = statement.aliasTable other :=
    fun tabled => alias_table_of_new_join fresh (alias_of_table tabled)
  refine ⟨join_keeps_numbered_aliases tree.numbered made,
    OrderedMap.nodup_keys_insert tree.distinct _ _, ?_, ?_, ?_, ?_⟩
  · rw [bare, keys, List.map_append, tree.named, List.map_singleton]
  · rw [bare]
    intro before join after split
    rcases split_concat split with ⟨rfl, rfl⟩ | ⟨rest, split⟩
    · rw [start, tree.named]
      exact starts
    · exact tree.rooted before join rest split
  · rw [bare, List.map_append, List.map_singleton, start, named]
    have new := same_bare_pair unjoined
    exact List.nodup_append.mpr ⟨tree.single, List.nodup_singleton _, by
      intro pair member last single
      rintro rfl
      exact new (by simpa [List.mem_singleton.mp single] using member)⟩
  · rw [bare]
    intro join member
    rcases List.mem_append.mp member with old | new
    · obtain ⟨table, _, _, tabled, _⟩ := tree.founded join old
      exact (tree.founded join old).of_same rfl (kept tabled)
    · rw [List.mem_singleton.mp new]
      refine ⟨nearTable, relation, farTable, ?_, ?_, found, ?_, ?_, ?_⟩
      · rw [start, kept known]
        exact known
      · rw [named]
        exact declared
      · rw [shape]
      · rw [shape]
      · rw [start]
        exact paired

/-- An operation joins a relation that is new or leaves the joins as they are, but for their
clauses and kinds. -/
theorem Effect.joins_cases {statement after : Statement} {operation : Operation}
    (effect : Effect statement operation after) :
    SameJoins statement.joins after.joins ∨
      ∃ aliasName property added, statement.joinOf? aliasName property = none ∧
        statement.newJoin aliasName property = .ok added ∧
        after =
          { statement with joins := statement.joins.insert added.foreignAlias added } := by
  cases effect with
  | join fresh made => exact .inr ⟨_, _, _, fresh, made, rfl⟩
  | makeInner found => exact .inl (same_joins_insert found rfl)
  | recorded _ _ _ record | closeOrScope _ record =>
      obtain ⟨_, _, _, _, rfl, same⟩ := record.frame
      exact .inl same
  | _ => exact .inl (same_joins_refl _)

theorem Effect.join_tree {statement after : Statement} {operation : Operation}
    (effect : Effect statement operation after) (tree : statement.JoinTree) : after.JoinTree := by
  rcases effect.joins_cases with same | ⟨_, _, _, unjoined, made, rfl⟩
  · exact tree.of_same effect.same_origin same
  · exact tree.join unjoined made

theorem new_join_tree {schema : Schema} {settings : Settings}
    {resolver : FixedCondition.Resolver} {tableName : String} {purpose : Purpose} {level : Nat}
    {statement : Statement}
    (created : create schema settings resolver tableName purpose level = .ok statement) :
    statement.JoinTree := by
  have numbered := new_numbered_aliases created
  obtain ⟨table, _, rfl⟩ := create_eq_ok created
  refine ⟨numbered, List.nodup_nil, rfl, fun before join after split => ?_, List.nodup_nil,
    fun _ member => nomatch member⟩
  exact absurd split.symm (List.append_ne_nil_of_right_ne_nil _ (List.cons_ne_nil _ _))

/-- Whatever has been asked for, the joins of a statement are a tree. -/
theorem Reachable.join_tree {schema : Schema} {statement : Statement}
    (reached : Reachable schema statement) : statement.JoinTree := by
  have holds := @reachable_invariant schema JoinTree ?_ ?_ ?_ statement reached
  · exact holds.2.2
  · exact fun _ _ _ _ _ _ => new_join_tree
  · intro statement resolver tree
    exact tree.of_same ⟨rfl, rfl, rfl, rfl, rfl⟩ (same_joins_refl _)
  · intro statement operation after _ tree effect
    exact effect.join_tree tree

end SqlComposer.Statement
