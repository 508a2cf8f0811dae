import SqlComposer.Proofs.JoinTree

/-!
The aliases of statements that are nested one in another. The stem of an alias tells the level, the
character behind it whether the alias is the one of the base table, and the number at its end the
join; so no two aliases of a chain are the same, whatever the tables are called.
-/
namespace SqlComposer.Statement

def tableAliases (statement : Statement) : List String :=
  statement.baseAlias :: statement.joins.values.map Join.foreignAlias

/-- The aliases that a statement may use beside those of its tables: for the table inside an inline
view, and for a union that it is wrapped around. -/
def reservedAliases : List String := [inlineAlias, mainAlias]

/-- Statements of which each is nested in the next one, the innermost first. Any of them may have
been changed at any time, before or after others were nested in it. -/
inductive Chain (schema : Schema) : List Statement → Prop where
  | outermost {settings : Settings} {tableName : String} {purpose : Purpose}
      {statement : Statement}
      (created : ofTable schema settings tableName purpose = .ok statement) :
      Chain schema [statement]
  | nest {outer statement : Statement} {others : List Statement} {tableName : String}
      {purpose : Purpose} (chain : Chain schema (outer :: others))
      (created : outer.nested tableName purpose = .ok statement) :
      Chain schema (statement :: outer :: others)
  | after {statement : Statement} {inner outer : List Statement}
      (chain : Chain schema (inner ++ statement :: outer)) (operation : Operation) :
      Chain schema (inner ++ statement.after operation :: outer)
  | withResolver {statement : Statement} {inner outer : List Statement}
      (chain : Chain schema (inner ++ statement :: outer))
      (resolver : FixedCondition.Resolver) :
      Chain schema (inner ++ { statement with resolver } :: outer)

variable {schema : Schema}

theorem Chain.reachable {statements : List Statement} (chain : Chain schema statements) :
    ∀ statement ∈ statements, Reachable schema statement := by
  induction chain with
  | outermost created =>
      intro statement member
      rw [List.mem_singleton.mp member]
      exact .new created
  | nest _ created ih =>
      rw [List.forall_mem_cons]
      exact ⟨.nested (ih _ List.mem_cons_self) created, ih⟩
  | after _ operation ih =>
      rw [List.forall_mem_append, List.forall_mem_cons] at ih ⊢
      exact ⟨ih.1, .after ih.2.1 operation, ih.2.2⟩
  | withResolver _ resolver ih =>
      rw [List.forall_mem_append, List.forall_mem_cons] at ih ⊢
      exact ⟨ih.1, .withResolver ih.2.1 resolver, ih.2.2⟩

theorem level_after {statement : Statement} (reached : Reachable schema statement)
    (operation : Operation) : (statement.after operation).level = statement.level := by
  rcases after_cases reached.scopes_joined operation with ⟨_, unchanged⟩ | ⟨_, effect⟩
  · rw [unchanged]
  · exact effect.same_origin.level

/-- The levels of a chain count down to zero. -/
theorem Chain.levels {statements : List Statement} (chain : Chain schema statements) :
    statements.map level = (List.range statements.length).reverse := by
  induction chain with
  | outermost created =>
      obtain ⟨_, _, rfl⟩ := create_eq_ok created
      rfl
  | @nest outer statement others _ _ _ created ih =>
      obtain ⟨_, _, rfl⟩ := create_eq_ok (create_of_nested created)
      have count : outer.level = others.length := by
        rw [List.map_cons, List.length_cons, List.range_succ, List.reverse_append] at ih
        exact (List.cons.inj ih).1
      rw [List.map_cons, ih, @List.length_cons _ _ (outer :: others),
        @List.range_succ (outer :: others).length, List.reverse_append, count]
      rfl
  | @after statement inner outer chain operation ih =>
      have reached := chain.reachable statement (by simp)
      simpa [level_after reached operation] using ih
  | withResolver _ _ ih => simpa using ih

theorem Chain.distinct_levels {statements : List Statement} (chain : Chain schema statements) :
    (statements.map level).Nodup := by
  rw [chain.levels]
  exact List.nodup_reverse.mpr List.nodup_range

/-- An alias of a table has the stem of its level, and then a letter. -/
theorem JoinTree.alias_shape {statement : Statement} (tree : statement.JoinTree)
    {aliasName : String} (member : aliasName ∈ statement.tableAliases) :
    ∃ letter rest, (letter = 'l' ∨ letter = 'r') ∧
      aliasName.toList = aliasStem statement.level ++ letter :: rest := by
  rcases List.mem_cons.mp member with rfl | joined
  · obtain ⟨rest, shape⟩ := statement.base_alias_shape
    exact ⟨'l', rest, .inl rfl, shape⟩
  · rw [tree.named_values] at joined
    obtain ⟨tableName, number, _, rfl⟩ := tree.numbered aliasName joined
    obtain ⟨rest, shape⟩ := statement.relation_alias_shape tableName number
    exact ⟨'r', rest, .inr rfl, shape⟩

theorem JoinTree.distinct_aliases {statement : Statement} (tree : statement.JoinTree) :
    statement.tableAliases.Nodup := by
  rw [tableAliases, tree.named_values]
  refine List.nodup_cons.mpr ⟨fun present => ?_, tree.distinct⟩
  obtain ⟨tableName, number, _, same⟩ := tree.numbered _ present
  exact statement.relation_alias_ne_base tableName number same.symm

theorem letter_not_digit {letter : Char} (known : letter = 'l' ∨ letter = 'r') :
    letter.isDigit = false := by
  rcases known with rfl | rfl <;> rfl

theorem disjoint_of_levels {left right : Statement} (leftTree : left.JoinTree)
    (rightTree : right.JoinTree) (apart : left.level ≠ right.level) :
    List.Disjoint left.tableAliases right.tableAliases := by
  intro aliasName here there
  obtain ⟨letter, rest, known, shape⟩ := leftTree.alias_shape here
  obtain ⟨other, more, knownToo, again⟩ := rightTree.alias_shape there
  rw [shape] at again
  exact apart (alias_stem_inj (letter_not_digit known) (letter_not_digit knownToo) again).1

/-- The reserved aliases have the stem of a statement that is not nested, and other letters. -/
theorem JoinTree.unreserved {statement : Statement} (tree : statement.JoinTree) :
    List.Disjoint reservedAliases statement.tableAliases := by
  intro aliasName reserved member
  obtain ⟨letter, rest, known, shape⟩ := tree.alias_shape member
  have stem : ∃ other more, other ≠ 'l' ∧ other ≠ 'r' ∧ other.isDigit = false ∧
      aliasName.toList = aliasStem 0 ++ other :: more := by
    simp only [reservedAliases, List.mem_cons, List.not_mem_nil, or_false] at reserved
    rcases reserved with rfl | rfl
    · exact ⟨'i', "nlineloc".toList, by decide, by decide, rfl, rfl⟩
    · exact ⟨'m', "ain".toList, by decide, by decide, rfl, rfl⟩
  obtain ⟨other, more, base, relation, digitless, again⟩ := stem
  rw [shape] at again
  obtain ⟨_, rfl⟩ := alias_stem_inj (letter_not_digit known) digitless again
  exact known.elim base relation

/-- No alias of a chain of nested statements clashes with another one or with a reserved one. -/
theorem aliases_of_chain_distinct {statements : List Statement}
    (chain : Chain schema statements) :
    (reservedAliases ++ statements.flatMap tableAliases).Nodup := by
  have trees : ∀ statement ∈ statements, statement.JoinTree := fun statement member =>
    (chain.reachable statement member).join_tree
  have apart : statements.Pairwise fun left right => left.level ≠ right.level :=
    List.pairwise_map.mp chain.distinct_levels
  refine List.nodup_append'.mpr ⟨by decide, ?_, ?_⟩
  · have each := fun statement member => (trees statement member).distinct_aliases
    refine List.nodup_flatMap.mpr ⟨each, List.Pairwise.imp_of_mem ?_ apart⟩
    intro left right here there different
    exact disjoint_of_levels (trees left here) (trees right there) different
  · intro aliasName reserved member
    obtain ⟨statement, present, listed⟩ := List.mem_flatMap.mp member
    exact (trees statement present).unreserved reserved listed

/-- Three statements, the two outer ones of which were joined with the inviters only after something
had been nested in them. -/
def nestedMembers : List Statement :=
  [{ newMember with purpose := .inReferrer, level := 2 },
    { newMember with purpose := .existsReferrer, level := 1 }.after (.join "sub1loc" "inviter"),
    newMember.after (.join "dflocal" "inviter")]

theorem nested_members_chain : Chain memberSchema nestedMembers := by
  let middle : Statement := { newMember with purpose := .existsReferrer, level := 1 }
  let inner : Statement := { newMember with purpose := .inReferrer, level := 2 }
  have alone : Chain memberSchema [newMember] :=
    .outermost (show ofTable memberSchema {} "MEMBER" .normalUse = .ok newMember from rfl)
  have two : Chain memberSchema [middle, newMember] :=
    .nest alone (show newMember.nested "MEMBER" .existsReferrer = .ok middle from rfl)
  have joined := @Chain.after memberSchema newMember [middle] [] two (.join "dflocal" "inviter")
  have three : Chain memberSchema [inner, middle, newMember.after (.join "dflocal" "inviter")] :=
    .nest joined (show middle.nested "MEMBER" .inReferrer = .ok inner from rfl)
  exact @Chain.after memberSchema middle [inner] _ three (.join "sub1loc" "inviter")

theorem nested_member_aliases_distinct :
    reservedAliases ++ nestedMembers.flatMap tableAliases =
        ["dfinlineloc", "dfmain", "sub2loc", "sub1loc", "sub1rel_MEMBER_0", "dflocal",
          "dfrelation_MEMBER_0"] ∧
      (reservedAliases ++ nestedMembers.flatMap tableAliases).Nodup :=
  ⟨by decide +kernel, aliases_of_chain_distinct nested_members_chain⟩

end SqlComposer.Statement
