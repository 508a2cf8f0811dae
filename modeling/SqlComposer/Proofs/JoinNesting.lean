import SqlComposer.Proofs.FromScope
import SqlComposer.Proofs.History

/-!
The nesting of joins in a from clause. A statement selects from its base table joined with one table
after another, in the order in which the joins were first asked for. Where the dialect wants
parentheses, each of them encloses a join together with all that stands before it, although they are
opened in front of the base table all at once.
-/
namespace SqlComposer

/-- What a statement selects from: a table, or such a source joined with one more table. -/
inductive TableSource where
  | table (reference : String)
  | joined (source : TableSource) (join : String)

namespace TableSource

/-- A source with joins one after another, each of them joined to everything before it. -/
def joinAll (source : TableSource) (joins : List String) : TableSource := joins.foldl joined source

/-- The source with every join in parentheses, together with what it is joined to. -/
def enclosed : TableSource → String
  | table reference => reference
  | joined source join => "(" ++ source.enclosed ++ " " ++ join ++ ")"

def flat : TableSource → String
  | table reference => reference
  | joined source join => source.flat ++ " " ++ join

/-- Parentheses that are opened at once close one join after another, from the innermost one on. -/
theorem enclosed_join_all (source : TableSource) (joins : List String) :
    (source.joinAll joins).enclosed =
      String.ofList (List.replicate joins.length '(') ++ source.enclosed ++
        String.join (joins.map fun join => " " ++ join ++ ")") := by
  -- The source before the joins grows by the first of them, so the parentheses opened in front of
  -- it are the ones of the later joins and then its own.
  induction joins generalizing source with
  | nil => simp [joinAll]
  | cons join rest ih =>
      have opened : String.ofList (List.replicate (join :: rest).length '(') =
          String.ofList (List.replicate rest.length '(') ++ "(" := by
        rw [List.length_cons, List.replicate_succ', String.ofList_append]
      have later := ih (source.joined join)
      rw [joinAll] at later ⊢
      rw [List.foldl_cons, later, opened, enclosed, List.map_cons, String.join_cons]
      simp only [String.append_assoc]

theorem flat_join_all (source : TableSource) (joins : List String) :
    (source.joinAll joins).flat =
      source.flat ++ String.join (joins.map fun join => " " ++ join) := by
  induction joins generalizing source with
  | nil => simp [joinAll]
  | cons join rest ih =>
      have later := ih (source.joined join)
      rw [joinAll] at later ⊢
      rw [List.foldl_cons, later, flat, List.map_cons, String.join_cons]
      simp only [String.append_assoc]

end TableSource

namespace Statement

def writtenFor (statement : Statement) (dialect : Dialect) : Statement :=
  { statement with settings := { statement.settings with dialect } }

/-- The base table, or its inline view, with its hint and the joins behind it. -/
def tableSource (statement : Statement) (tableHint : String) : TableSource :=
  let base := tableReference statement.table.sqlName statement.baseAlias statement.baseInline
  (TableSource.table (base ++ tableHint)).joinAll (statement.joins.values.map Join.sql)

theorem from_clause_of_source (statement : Statement) (tableHint : String) :
    statement.fromClause tableHint = " from " ++
      if statement.dialect.joinsInParentheses then (statement.tableSource tableHint).enclosed
      else (statement.tableSource tableHint).flat := by
  have counted : statement.joins.size = (statement.joins.values.map Join.sql).length := by
    rw [List.length_map]
    exact (List.length_map _).symm
  cases parentheses : statement.dialect.joinsInParentheses with
  | true =>
      rw [if_pos rfl, tableSource, TableSource.enclosed_join_all, ← counted, List.map_map]
      simp only [fromClause, parentheses, if_true, TableSource.enclosed, fromHint,
        String.append_empty, String.append_assoc]
      rfl
  | false =>
      rw [if_neg Bool.false_ne_true, tableSource, TableSource.flat_join_all, List.map_map]
      simp only [fromClause, parentheses, Bool.false_eq_true, if_false, TableSource.flat, fromHint,
        String.append_empty, String.append_assoc, String.ofList_nil]
      rfl

/-- The relation that an operation joins, with the alias that it starts from. -/
def joining? : Operation → Option (String × String)
  | .join aliasName property => some (aliasName, property)
  | _ => none

/-- Every relation that has been joined, at its first registration. -/
def joinings (operations : List Operation) : List (String × String) :=
  (operations.filterMap joining?).eraseDups

/-- The relations that a statement joins, in the order of its joins. -/
def joinedRelations (statement : Statement) : List (String × String) :=
  statement.joins.values.map fun join => (join.localAlias, join.property)

theorem joinings_of_join (operations : List Operation) (aliasName property : String) :
    joinings (operations ++ [.join aliasName property]) =
      if (aliasName, property) ∈ joinings operations then joinings operations
      else joinings operations ++ [(aliasName, property)] := by
  have asked : (operations ++ [Operation.join aliasName property]).filterMap joining? =
      operations.filterMap joining? ++ [(aliasName, property)] := by
    rw [List.filterMap_append]
    rfl
  rw [joinings, asked, erase_dups_concat]
  simp only [joinings, List.mem_eraseDups]

theorem joined_relations_of_same {before after : Statement} (tree : before.JoinTree)
    (same : SameJoins before.joins after.joins) :
    after.joinedRelations = before.joinedRelations := by
  have bare := congrArg (List.map fun join : Join => (join.localAlias, join.property))
    (bare_joins_of_same tree.distinct same)
  rw [bareJoins, bareJoins, List.map_map, List.map_map] at bare
  exact bare

theorem joined_relations_of_new {statement : Statement} (tree : statement.JoinTree)
    {aliasName property : String} {added : Join}
    (made : statement.newJoin aliasName property = .ok added) :
    joinedRelations { statement with joins := statement.joins.insert added.foreignAlias added } =
      statement.joinedRelations ++ [(aliasName, property)] := by
  have fresh := new_join_fresh tree.numbered made
  obtain ⟨_, _, _, _, _, _, _, shape⟩ := new_join_made made
  rw [joinedRelations, joinedRelations, OrderedMap.insert_of_new fresh, OrderedMap.values,
    OrderedMap.values, List.map_append, List.map_append, List.map_singleton, List.map_singleton,
    shape]

theorem mem_joined_relations_iff {statement : Statement} {aliasName property : String} :
    (aliasName, property) ∈ statement.joinedRelations ↔
      statement.joinOf? aliasName property ≠ none := by
  rw [joinedRelations, joinOf?, Ne, List.find?_eq_none]
  simp [List.mem_map]

theorem Effect.joined_relations {statement after : Statement} {operation : Operation}
    (effect : Effect statement operation after) (tree : statement.JoinTree)
    {operations : List Operation} (told : statement.joinedRelations = joinings operations) :
    after.joinedRelations = joinings (operations ++ [operation]) := by
  have silent : ∀ {quiet : Operation}, joining? quiet = none →
      joinings (operations ++ [quiet]) = joinings operations := by
    intro quiet unread
    rw [joinings, filter_map_concat_none unread, joinings]
  cases effect with
  | join unjoined made =>
      have new := mt mem_joined_relations_iff.mp (not_not.mpr unjoined)
      rw [joined_relations_of_new tree made, joinings_of_join, ← told, if_neg new]
  | joinAgain present =>
      have known := mem_joined_relations_iff.mpr (by rw [present]; exact Option.some_ne_none _)
      rw [joinings_of_join, ← told, if_pos known]
  | makeInner found =>
      rw [silent rfl, ← told]
      exact joined_relations_of_same tree (same_joins_insert found rfl)
  | recorded recording _ _ record =>
      obtain ⟨_, _, _, _, rfl, same⟩ := record.frame
      rw [silent (by cases recording <;> rfl), ← told]
      exact joined_relations_of_same tree same
  | closeOrScope _ record =>
      obtain ⟨_, _, _, _, rfl, same⟩ := record.frame
      rw [silent rfl, ← told]
      exact joined_relations_of_same tree same
  | _ => exact told.trans (silent rfl).symm

/-- The joins of a statement stand in the order in which its history first asked for them. -/
theorem Traced.joined_relations {schema : Schema} {statement : Statement}
    {operations : List Operation} (traced : Traced schema statement operations) :
    statement.joinedRelations = joinings operations := by
  induction traced with
  | new created =>
      obtain ⟨table, _, rfl⟩ := create_eq_ok created
      rfl
  | withResolver _ _ ih => exact ih
  | nested _ created _ =>
      obtain ⟨table, _, rfl⟩ := create_eq_ok (create_of_nested created)
      rfl
  | accepted before accepts ih =>
      have effect := effect_of_accepted before.reachable.scopes_joined accepts
      exact effect.joined_relations before.reachable.join_tree ih
  | refused before refuses ih =>
      rw [after_of_refused before.reachable.scopes_joined refuses]
      exact ih

/-- The from clause of a reachable statement is its source of rows, with every join in parentheses
or flat as the dialect wants it, and the joins stand in the order of their registration. -/
theorem from_clause_nests_joins {schema : Schema} {statement : Statement}
    (reached : Reachable schema statement) :
    (∃ operations, Traced schema statement operations) ∧
      (∀ operations, Traced schema statement operations →
        statement.joinedRelations = joinings operations) ∧
      ∀ (dialect : Dialect) (tableHint : String),
        (statement.writtenFor dialect).fromClause tableHint = " from " ++
          if dialect.joinsInParentheses then (statement.tableSource tableHint).enclosed
          else (statement.tableSource tableHint).flat :=
  ⟨reached.traced, fun _ traced => traced.joined_relations,
    fun dialect tableHint => from_clause_of_source (statement.writtenFor dialect) tableHint⟩

/-- Inviters of inviters, with a join that is asked for again. -/
theorem inviters_nested : Reachable memberSchema invitedTwice ∧
    invitedTwice.joinedRelations = [("dflocal", "inviter"), ("dfrelation_MEMBER_0", "inviter")] ∧
    (invitedTwice.writtenFor .msAccess).fromClause "" =
      " from ((MEMBER dflocal left outer join MEMBER dfrelation_MEMBER_0 on " ++
        "dflocal.INVITER_ID = dfrelation_MEMBER_0.MEMBER_ID) inner join MEMBER " ++
        "dfrelation_MEMBER_1 on dfrelation_MEMBER_0.INVITER_ID = dfrelation_MEMBER_1.MEMBER_ID)" ∧
    (invitedTwice.writtenFor .sqlServer).fromClause " with (updlock)" =
      " from MEMBER dflocal with (updlock) left outer join MEMBER dfrelation_MEMBER_0 on " ++
        "dflocal.INVITER_ID = dfrelation_MEMBER_0.MEMBER_ID inner join MEMBER " ++
        "dfrelation_MEMBER_1 on dfrelation_MEMBER_0.INVITER_ID = " ++
        "dfrelation_MEMBER_1.MEMBER_ID" := by
  have reached : Reachable memberSchema invitedTwice := new_member_reachable.afterAll _
  obtain ⟨_, ordered, written⟩ := from_clause_nests_joins reached
  have base : Traced memberSchema newMember [] :=
    .new (show ofTable memberSchema {} "MEMBER" .normalUse = .ok newMember from rfl)
  have history : Traced memberSchema invitedTwice [.join "dflocal" "inviter",
      .join "dfrelation_MEMBER_0" "inviter", .makeInner "dfrelation_MEMBER_1",
      .join "dflocal" "inviter"] :=
    .accepted (.accepted (.accepted (.accepted base rfl) rfl) rfl) rfl
  refine ⟨reached, (ordered _ history).trans (by decide), ?_, ?_⟩
  · rw [written]
    decide +kernel
  · rw [written]
    decide +kernel

end Statement
end SqlComposer
