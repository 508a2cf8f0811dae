import SqlComposer.Proofs.Reachability

/-!
The aliases of joined tables. The number of joins at the end of an alias tells it apart from all
earlier ones, whatever the names of the tables, so that a join never takes the place of another one.
The stem at the front tells the level of nesting.
-/
namespace SqlComposer.Statement

open Condition (Clause Target)

theorem ends_eq_of_append_eq {first second left right : List Char} {separator : Char}
    (same : first ++ separator :: left = second ++ separator :: right)
    (leftFree : separator ∉ left) (rightFree : separator ∉ right) : left = right := by
  rcases List.append_eq_append_iff.mp same with ⟨middle, _, ends⟩ | ⟨middle, _, ends⟩
  · cases middle with
    | nil => exact (List.cons.inj ends).2
    | cons char rest =>
        rw [(List.cons.inj ends).2] at leftFree
        simp at leftFree
  · cases middle with
    | nil => exact (List.cons.inj ends).2.symm
    | cons char rest =>
        rw [(List.cons.inj ends).2] at rightFree
        simp at rightFree

/-- What the aliases of a level have in common. -/
def aliasStem : Nat → List Char
  | 0 => "df".toList
  | level + 1 => "sub".toList ++ Nat.toDigits 10 (level + 1)

theorem base_alias_shape (statement : Statement) :
    ∃ rest, statement.baseAlias.toList = aliasStem statement.level ++ 'l' :: rest := by
  unfold baseAlias
  cases statement.level with
  | zero => exact ⟨"ocal".toList, rfl⟩
  | succ level => exact ⟨"oc".toList, by simp [aliasStem, String.toList_append]⟩

theorem relation_alias_shape (statement : Statement) (tableName : String) (number : Nat) :
    ∃ rest, (statement.relationAlias tableName number).toList =
      aliasStem statement.level ++ 'r' :: rest := by
  unfold relationAlias
  cases statement.level with
  | zero =>
      exact ⟨("elation_" ++ tableName ++ "_" ++ toString number).toList, by
        simp [aliasStem, String.toList_append]⟩
  | succ level =>
      exact ⟨("el_" ++ tableName ++ "_" ++ toString number).toList, by
        simp [aliasStem, String.toList_append]⟩

theorem digits_eq_of_append_eq {left right : Nat} {first second : Char} {rest more : List Char}
    (ends : first.isDigit = false) (stops : second.isDigit = false)
    (same : Nat.toDigits 10 left ++ first :: rest = Nat.toDigits 10 right ++ second :: more) :
    left = right := by
  have digits : ∀ (number : Nat) {c : Char} (tail : List Char), c.isDigit = false →
      (Nat.toDigits 10 number ++ c :: tail).takeWhile Char.isDigit = Nat.toDigits 10 number := by
    intro number c tail other
    rw [List.takeWhile_append_of_pos fun d member =>
      Nat.isDigit_of_mem_toDigits (by decide) (by decide) member]
    simp [other]
  have alike := congrArg (List.takeWhile Char.isDigit) same
  rw [digits left rest ends, digits right more stops] at alike
  rw [← @Nat.ofDigitChars_ten_toDigits left, alike, Nat.ofDigitChars_ten_toDigits]

/-- A stem ends where no digit follows, so that it tells its level and leaves the same rest. -/
theorem alias_stem_inj {left right : Nat} {first second : Char} {rest more : List Char}
    (ends : first.isDigit = false) (stops : second.isDigit = false)
    (same : aliasStem left ++ first :: rest = aliasStem right ++ second :: more) :
    left = right ∧ first = second := by
  have level : left = right := by
    cases left with
    | zero =>
        cases right with
        | zero => rfl
        | succ right => cases congrArg List.head? same
    | succ left =>
        cases right with
        | zero => cases congrArg List.head? same
        | succ right =>
            simp only [aliasStem, List.append_assoc, List.append_cancel_left_eq] at same
            exact digits_eq_of_append_eq ends stops same
  subst level
  exact ⟨rfl, (List.cons.inj (List.append_cancel_left same)).1⟩

theorem relation_alias_ends (statement : Statement) (tableName : String) (number : Nat) :
    ∃ head, (statement.relationAlias tableName number).toList =
      head ++ '_' :: Nat.toDigits 10 number := by
  unfold relationAlias
  cases statement.level with
  | zero =>
      exact ⟨("dfrelation_" ++ tableName).toList, by
        simp [String.toList_append]⟩
  | succ level =>
      exact ⟨("sub" ++ toString (level + 1) ++ "rel_" ++ tableName).toList, by
        simp [String.toList_append]⟩

theorem relation_alias_number {statement : Statement} {leftTable rightTable : String}
    {left right : Nat}
    (same : statement.relationAlias leftTable left = statement.relationAlias rightTable right) :
    left = right := by
  obtain ⟨first, leftShape⟩ := statement.relation_alias_ends leftTable left
  obtain ⟨second, rightShape⟩ := statement.relation_alias_ends rightTable right
  rw [same, rightShape] at leftShape
  have digits := ends_eq_of_append_eq leftShape Nat.underscore_not_in_toDigits
    Nat.underscore_not_in_toDigits
  rw [← @Nat.ofDigitChars_ten_toDigits left, ← digits, Nat.ofDigitChars_ten_toDigits]

theorem relation_alias_ne_base (statement : Statement) (tableName : String) (number : Nat) :
    statement.relationAlias tableName number ≠ statement.baseAlias := by
  intro same
  obtain ⟨rest, base⟩ := statement.base_alias_shape
  obtain ⟨more, relation⟩ := statement.relation_alias_shape tableName number
  rw [same, base] at relation
  cases (alias_stem_inj (by decide) (by decide) relation).2

/-- Every alias carries a number below the number of joins. -/
def NumberedAliases (statement : Statement) : Prop :=
  ∀ aliasName ∈ statement.joins.keys, ∃ tableName number,
    number < statement.joins.size ∧ aliasName = statement.relationAlias tableName number

/-- What a new join is made of; no clause has been added to it yet. -/
theorem new_join_made {statement : Statement} {aliasName property : String} {added : Join}
    (made : statement.newJoin aliasName property = .ok added) :
    ∃ localTable relation foreignTable,
      statement.aliasTable aliasName = .ok localTable ∧
      statement.schema.relation localTable.name property = .ok relation ∧
      statement.schema.table relation.foreignTable = .ok foreignTable ∧
      joinPairs aliasName added.foreignAlias localTable foreignTable relation.pairs =
        .ok added.pairs ∧
      added = {
        localAlias := aliasName
        foreignAlias := statement.relationAlias foreignTable.name statement.joins.size
        property
        foreignTable := foreignTable.name
        table := foreignTable.sqlName
        pairs := added.pairs
        fixedCondition? := added.fixedCondition? } := by
  unfold newJoin at made
  obtain ⟨localTable, known, made⟩ := bind_eq_ok made
  obtain ⟨relation, declared, made⟩ := bind_eq_ok made
  obtain ⟨foreignTable, found, made⟩ := bind_eq_ok made
  obtain ⟨pairs, paired, made⟩ := bind_eq_ok made
  have declared := noting_eq_ok_iff.mp declared
  have found := noting_eq_ok_iff.mp found
  -- A relation with a fixed condition and one without it give the same facts.
  dsimp only at made
  split at made
  all_goals
    obtain ⟨fixedCondition?, _, made⟩ := bind_eq_ok made
    obtain rfl := (Except.ok.inj made).symm
    exact ⟨localTable, relation, foreignTable, known, declared, found, paired, rfl⟩

theorem new_join_spec {statement : Statement} {aliasName property : String} {added : Join}
    (made : statement.newJoin aliasName property = .ok added) :
    ∃ localTable relation foreignTable,
      statement.aliasTable aliasName = .ok localTable ∧
      statement.schema.relation localTable.name property = .ok relation ∧
      statement.schema.table relation.foreignTable = .ok foreignTable ∧
      added.foreignAlias = statement.relationAlias foreignTable.name statement.joins.size ∧
      added.foreignTable = foreignTable.name ∧
      added.inlineClauses = [] ∧ added.onClauses = [] := by
  obtain ⟨localTable, relation, foreignTable, known, declared, found, _, shape⟩ :=
    new_join_made made
  rw [shape]
  exact ⟨localTable, relation, foreignTable, known, declared, found, rfl, rfl, rfl, rfl⟩

theorem new_join_fresh {statement : Statement} (numbered : statement.NumberedAliases)
    {aliasName property : String} {added : Join}
    (made : statement.newJoin aliasName property = .ok added) :
    added.foreignAlias ∉ statement.joins.keys := by
  obtain ⟨_, _, foreignTable, _, _, _, named, _⟩ := new_join_spec made
  intro present
  obtain ⟨tableName, number, below, same⟩ := numbered added.foreignAlias present
  rw [named] at same
  have equal := relation_alias_number same
  omega

theorem relation_alias_congr {before after : Statement} (level : after.level = before.level)
    (tableName : String) (number : Nat) :
    after.relationAlias tableName number = before.relationAlias tableName number := by
  rw [relationAlias, relationAlias, level]

theorem numbered_aliases_congr {before after : Statement} (level : after.level = before.level)
    (joins : after.joins.keys = before.joins.keys) (numbered : before.NumberedAliases) :
    after.NumberedAliases := by
  intro aliasName present
  rw [joins] at present
  obtain ⟨tableName, number, below, same⟩ := numbered aliasName present
  refine ⟨tableName, number, ?_, same.trans (relation_alias_congr level tableName number).symm⟩
  rw [OrderedMap.size_eq_length_keys, joins, ← OrderedMap.size_eq_length_keys]
  exact below

theorem join_keeps_numbered_aliases {statement : Statement} (numbered : statement.NumberedAliases)
    {aliasName property : String} {added : Join}
    (made : statement.newJoin aliasName property = .ok added) :
    NumberedAliases
      { statement with joins := statement.joins.insert added.foreignAlias added } := by
  have fresh := new_join_fresh numbered made
  obtain ⟨_, _, foreignTable, _, _, _, named, _⟩ := new_join_spec made
  have keys : (statement.joins.insert added.foreignAlias added).keys =
      statement.joins.keys ++ [added.foreignAlias] := by
    rw [OrderedMap.keys_insert, if_neg fresh]
  have size : (statement.joins.insert added.foreignAlias added).size =
      statement.joins.size + 1 := by
    simp only [OrderedMap.size_eq_length_keys, keys, List.length_append, List.length_singleton]
  intro other present
  rw [keys, List.mem_append, List.mem_singleton] at present
  rcases present with before | rfl
  · obtain ⟨tableName, number, below, same⟩ := numbered other before
    exact ⟨tableName, number, by rw [size]; omega, same⟩
  · exact ⟨foreignTable.name, statement.joins.size, by rw [size]; omega, named⟩

theorem Recorded.join_keys {statement after : Statement} {entries : List (Target × Clause)}
    (recorded : Recorded statement entries after) : after.joins.keys = statement.joins.keys := by
  obtain ⟨_, _, _, _, rfl, same⟩ := recorded.frame
  exact same.1

theorem Effect.numbered_aliases {statement after : Statement} {operation : Operation}
    (effect : Effect statement operation after) (numbered : statement.NumberedAliases) :
    after.NumberedAliases := by
  have level := effect.same_origin.level
  cases effect with
  | join _ made => exact join_keeps_numbered_aliases numbered made
  | makeInner found =>
      have present := (OrderedMap.mem_keys_iff_find? _ _).mpr ⟨_, found⟩
      exact numbered_aliases_congr level (OrderedMap.keys_insert_of_mem present _) numbered
  | recorded _ _ _ record => exact numbered_aliases_congr level record.join_keys numbered
  | closeOrScope _ record => exact numbered_aliases_congr level record.join_keys numbered
  | _ => exact numbered

theorem new_numbered_aliases {schema : Schema} {settings : Settings}
    {resolver : FixedCondition.Resolver} {tableName : String} {purpose : Purpose} {level : Nat}
    {statement : Statement}
    (created : create schema settings resolver tableName purpose level = .ok statement) :
    statement.NumberedAliases := by
  obtain ⟨table, _, rfl⟩ := create_eq_ok created
  intro aliasName present
  cases present

end SqlComposer.Statement
