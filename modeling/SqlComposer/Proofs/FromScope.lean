import SqlComposer.Proofs.JoinTree

/-!
The scope of a from clause. Its text is a row of parts, read from left to right: a table reference
brings an alias in, and an on-pair mentions two. No on-pair mentions an alias before its table
reference, since the joins of a statement are a tree in the order in which they are written.
-/
namespace SqlComposer

open Condition (Clause)

/-- A part of a from clause. -/
inductive FromPart where
  | words (text : String)
  | table (name : TableName) (aliasName : String) (inline : List Clause)
  | pair (near far : ColumnRef)

namespace FromPart

def text : FromPart → String
  | words text => text
  | table name aliasName inline => tableReference name aliasName inline
  | pair near far => near.text ++ " = " ++ far.text

/-- The aliases that are known after a part. -/
def bind (known : List String) : FromPart → List String
  | table _ aliasName _ => known ++ [aliasName]
  | _ => known

/-- An on-pair is between columns of aliases that are known. -/
def Known (known : List String) : FromPart → Prop
  | pair near far => near.alias? ∈ known.map some ∧ far.alias? ∈ known.map some
  | _ => True

/-- Read from left to right, no on-pair mentions an alias that is not known yet. -/
def Scoped : List String → List FromPart → Prop
  | _, [] => True
  | known, part :: rest => part.Known known ∧ Scoped (part.bind known) rest

theorem scoped_append (known : List String) (first second : List FromPart) :
    Scoped known (first ++ second) ↔
      Scoped known first ∧ Scoped (first.foldl bind known) second := by
  induction first generalizing known with
  | nil => simp [Scoped]
  | cons part rest ih => rw [List.cons_append, Scoped, Scoped, ih, List.foldl_cons, and_assoc]

end FromPart

namespace Join

/-- The on-pairs of a join with the word between them. -/
def pairParts (join : Join) : List FromPart :=
  (join.pairs.map fun pair => FromPart.pair pair.1 pair.2).intersperse (.words " and ")

/-- A join as it stands in a from clause, up to the text that closes it. -/
def parts (closing : String) (join : Join) : List FromPart :=
  [.words (" " ++ if join.isInner then "inner join " else "left outer join "),
    .table join.table join.foreignAlias join.inlineClauses, .words " on "] ++ join.pairParts ++
  [.words ((match join.fixedCondition? with
      | some condition => " and " ++ condition
      | none => "") ++
    String.join (join.onClauses.map fun clause => " and " ++ clause.sql) ++ closing)]

theorem text_of_pairs (join : Join) :
    String.join (join.pairParts.map FromPart.text) =
      Text.join " and " (join.pairs.map fun pair => pair.1.text ++ " = " ++ pair.2.text) := by
  unfold pairParts
  induction join.pairs with
  | nil => rfl
  | cons pair rest ih =>
      cases rest with
      | nil => simp [FromPart.text, Text.join, String.join_cons]
      | cons next rest =>
          simp only [List.map_cons, List.intersperse_cons_cons, String.join_cons] at ih ⊢
          rw [ih]
          simp [FromPart.text, Text.join, String.append_assoc]

theorem text_of_parts (closing : String) (join : Join) :
    String.join ((join.parts closing).map FromPart.text) = " " ++ join.sql ++ closing := by
  simp only [parts, List.map_append, String.join_append, text_of_pairs]
  cases fixed : join.fixedCondition? <;>
    simp [String.join_cons, FromPart.text, Join.sql, onCondition, fixed, String.append_assoc]

theorem bound_by_pairs (join : Join) (known : List String) :
    join.pairParts.foldl FromPart.bind known = known := by
  unfold pairParts
  induction join.pairs with
  | nil => rfl
  | cons pair rest ih =>
      cases rest with
      | nil => rfl
      | cons next rest =>
          simp only [List.map_cons, List.intersperse_cons_cons, List.foldl_cons] at ih ⊢
          exact ih

theorem bound_by_parts (closing : String) (join : Join) (known : List String) :
    (join.parts closing).foldl FromPart.bind known = known ++ [join.foreignAlias] := by
  rw [parts, List.foldl_append, List.foldl_append]
  exact bound_by_pairs join _

/-- The on-pairs of a join are between its own two aliases. -/
def OwnPairs (join : Join) : Prop :=
  ∀ pair ∈ join.pairs,
    pair.1.alias? = some join.localAlias ∧ pair.2.alias? = some join.foreignAlias

theorem scoped_pairs {join : Join} (own : join.OwnPairs) {known : List String}
    (near : join.localAlias ∈ known) (far : join.foreignAlias ∈ known) :
    FromPart.Scoped known join.pairParts := by
  unfold OwnPairs at own
  unfold pairParts
  generalize join.pairs = pairs at own
  induction pairs with
  | nil => exact trivial
  | cons pair rest ih =>
      rw [List.forall_mem_cons] at own
      obtain ⟨⟨start, leads⟩, others⟩ := own
      have here : (FromPart.pair pair.1 pair.2).Known known := by
        rw [FromPart.Known, start, leads]
        exact ⟨List.mem_map_of_mem near, List.mem_map_of_mem far⟩
      cases rest with
      | nil => exact ⟨here, trivial⟩
      | cons next rest => exact ⟨here, trivial, ih others⟩

theorem scoped_parts {join : Join} (own : join.OwnPairs) (closing : String) {known : List String}
    (near : join.localAlias ∈ known) : FromPart.Scoped known (join.parts closing) := by
  rw [parts, FromPart.scoped_append, FromPart.scoped_append]
  have bound : join.localAlias ∈ known ++ [join.foreignAlias] := List.mem_append_left _ near
  refine ⟨⟨⟨trivial, trivial, trivial, trivial⟩, ?_⟩, trivial, trivial⟩
  exact scoped_pairs own bound (List.mem_append_right _ List.mem_cons_self)

/-- Joins that start where an earlier one leads are in scope one after another. -/
theorem scoped_joins {joins : List Join} (own : ∀ join ∈ joins, join.OwnPairs) (closing : String)
    {known : List String}
    (rooted : ∀ before join after, joins = before ++ join :: after →
      join.localAlias ∈ known ++ before.map Join.foreignAlias) :
    FromPart.Scoped known (joins.flatMap (Join.parts closing)) := by
  induction joins generalizing known with
  | nil => exact trivial
  | cons join rest ih =>
      rw [List.forall_mem_cons] at own
      have start : join.localAlias ∈ known := by
        have first := rooted [] join rest rfl
        rwa [List.map_nil, List.append_nil] at first
      rw [List.flatMap_cons, FromPart.scoped_append, bound_by_parts]
      refine ⟨scoped_parts own.1 closing start, ih own.2 fun before later after split => ?_⟩
      have behind := rooted (join :: before) later after (congrArg (join :: ·) split)
      rwa [List.map_cons, List.append_cons] at behind

end Join

theorem qualified_of_pairs {nearAlias farAlias : String} {nearTable farTable : Table}
    {names : List (String × String)} {pairs : List (ColumnRef × ColumnRef)}
    (paired : Statement.joinPairs nearAlias farAlias nearTable farTable names = .ok pairs) :
    pairs.length = names.length ∧ ∀ pair ∈ pairs,
      (∃ column ∈ nearTable.columns, pair.1 = .qualified nearAlias column.sqlName) ∧
        ∃ column ∈ farTable.columns, pair.2 = .qualified farAlias column.sqlName := by
  induction names generalizing pairs with
  | nil =>
      obtain rfl := (Except.ok.inj paired).symm
      exact ⟨rfl, fun _ member => nomatch member⟩
  | cons name rest ih =>
      obtain ⟨near, nearFound, paired⟩ := bind_eq_ok paired
      obtain ⟨far, farFound, paired⟩ := bind_eq_ok paired
      obtain ⟨others, later, paired⟩ := bind_eq_ok paired
      obtain rfl := (Except.ok.inj paired).symm
      obtain ⟨length, qualified⟩ := ih later
      refine ⟨congrArg Nat.succ length, ?_⟩
      rw [List.forall_mem_cons]
      exact ⟨⟨⟨near, Table.mem_columns_of_required nearFound, rfl⟩,
        far, Table.mem_columns_of_required farFound, rfl⟩, qualified⟩

namespace Statement

variable {schema : Schema} {statement : Statement}

/-- The from clause part by part. -/
def fromParts (statement : Statement) (tableHint : String) : List FromPart :=
  let enclosed := statement.dialect.joinsInParentheses
  let opening := if enclosed then List.replicate statement.joins.size '(' else []
  [.words (" from " ++ String.ofList opening),
    .table statement.table.sqlName statement.baseAlias statement.baseInline,
    .words tableHint] ++
  statement.joins.values.flatMap (Join.parts (if enclosed then ")" else ""))

theorem from_clause_of_parts (statement : Statement) (tableHint : String) :
    statement.fromClause tableHint =
      String.join ((statement.fromParts tableHint).map FromPart.text) := by
  have joined : ∀ (closing : String) (joins : List Join),
      String.join ((joins.flatMap (Join.parts closing)).map FromPart.text) =
        String.join (joins.map fun join => " " ++ join.sql ++ closing) := by
    intro closing joins
    induction joins with
    | nil => rfl
    | cons join rest ih =>
        rw [List.flatMap_cons, List.map_append, String.join_append, ih, Join.text_of_parts,
          List.map_cons, String.join_cons]
  rw [fromParts, List.map_append, String.join_append, joined]
  simp [fromClause, fromHint, String.join_cons, FromPart.text, String.append_assoc]

theorem Founded.own_pairs {join : Join} (founded : statement.Founded join) : join.OwnPairs := by
  obtain ⟨_, _, _, _, _, _, _, _, paired⟩ := founded
  intro pair member
  obtain ⟨⟨near, _, start⟩, far, _, leads⟩ := (qualified_of_pairs paired).2 pair member
  rw [start, leads]
  exact ⟨rfl, rfl⟩

theorem JoinTree.scoped (tree : statement.JoinTree) (tableHint : String) :
    FromPart.Scoped [] (statement.fromParts tableHint) := by
  have own : ∀ join ∈ statement.joins.values, join.OwnPairs := fun _ member =>
    (tree.founded_value member).own_pairs
  refine ⟨trivial, trivial, trivial, Join.scoped_joins own _ fun before join after split => ?_⟩
  rcases tree.rooted_values split with base | earlier
  · rw [base]
    exact List.mem_append_left _ List.mem_cons_self
  · exact List.mem_append_right _ earlier

theorem JoinTree.join_of_value (tree : statement.JoinTree) {join : Join}
    (member : join ∈ statement.joins.values) :
    statement.joinOf? join.localAlias join.property = some join := by
  cases found : statement.joinOf? join.localAlias join.property with
  | none =>
      have other := List.find?_eq_none.mp found join member
      simp at other
  | some first =>
      have alike := List.find?_some found
      simp only [decide_eq_true_eq] at alike
      have same := List.inj_on_of_nodup_map tree.single_values (List.mem_of_find?_eq_some found)
        member (Prod.ext alike.1 alike.2)
      rw [same]

/-- Joining a relation again from the same alias gives the alias that it has. -/
theorem JoinTree.join_again (tree : statement.JoinTree) {join : Join}
    (member : join ∈ statement.joins.values) :
    Registration.outcome (Statement.join join.localAlias join.property) statement =
      (.ok join.foreignAlias, statement) := by
  rw [Statement.join, Registration.outcome_bind_get, tree.join_of_value member]
  rfl

/-- The joins of a statement are a tree without repeated branches whose on-pairs are between columns
of the two tables they join, the from clause writes them in an order in which every alias is known
before it is mentioned, and joining a relation again changes nothing. -/
theorem from_clause_well_scoped (reached : Reachable schema statement) :
    (∀ before join after, statement.joins.values = before ++ join :: after →
      join.localAlias = statement.baseAlias ∨ join.localAlias ∈ before.map Join.foreignAlias) ∧
    (statement.joins.values.map fun join => (join.localAlias, join.property)).Nodup ∧
    (schema.Built → ∀ join ∈ statement.joins.values, join.pairs ≠ [] ∧
      ∃ nearTable farTable,
        statement.aliasTable join.localAlias = .ok nearTable ∧
        statement.aliasTable join.foreignAlias = .ok farTable ∧
        (join.foreignTable = farTable.name ∧ join.table = farTable.sqlName) ∧
        ∀ pair ∈ join.pairs,
          (∃ column ∈ nearTable.columns, pair.1 = .qualified join.localAlias column.sqlName) ∧
            ∃ column ∈ farTable.columns, pair.2 = .qualified join.foreignAlias column.sqlName) ∧
    (∀ tableHint,
      statement.fromClause tableHint =
          String.join ((statement.fromParts tableHint).map FromPart.text) ∧
        FromPart.Scoped [] (statement.fromParts tableHint)) ∧
    ∀ join ∈ statement.joins.values,
      Registration.outcome (Statement.join join.localAlias join.property) statement =
        (.ok join.foreignAlias, statement) := by
  have tree := reached.join_tree
  refine ⟨fun _ _ _ split => tree.rooted_values split, tree.single_values,
    fun built join member => ?_, fun tableHint => ⟨from_clause_of_parts _ _, tree.scoped _⟩,
    fun join member => tree.join_again member⟩
  obtain ⟨nearTable, relation, farTable, near, declared, found, foreign, written, paired⟩ :=
    tree.founded_value member
  rw [reached.same_schema] at declared
  obtain ⟨length, qualified⟩ := qualified_of_pairs paired
  have filled : join.pairs ≠ [] := by
    intro none
    rw [none] at length
    exact built.relation_has_pairs declared (List.eq_nil_of_length_eq_zero length.symm)
  have known : statement.schema.Built := reached.same_schema ▸ built
  exact ⟨filled, nearTable, farTable, near, tree.far_table known member found foreign,
    ⟨foreign, written⟩, qualified⟩

/-- Members with their inviters and the inviters of those. -/
def invitedTwice : Statement :=
  newMember.afterAll [.join "dflocal" "inviter", .join "dfrelation_MEMBER_0" "inviter",
    .makeInner "dfrelation_MEMBER_1", .join "dflocal" "inviter"]

def inviterJoin (localAlias foreignAlias : String) (isInner : Bool) : Join where
  localAlias
  foreignAlias
  property := "inviter"
  foreignTable := "MEMBER"
  table := ⟨"MEMBER"⟩
  pairs := [(.qualified localAlias ⟨"INVITER_ID"⟩, .qualified foreignAlias ⟨"MEMBER_ID"⟩)]
  isInner

theorem inviters_well_scoped :
    let last := inviterJoin "dfrelation_MEMBER_0" "dfrelation_MEMBER_1" true
    invitedTwice.joins.values = [inviterJoin "dflocal" "dfrelation_MEMBER_0" false, last] ∧
      (∃ nearTable, invitedTwice.aliasTable "dfrelation_MEMBER_0" = .ok nearTable ∧
        ∃ column ∈ nearTable.columns,
          ColumnRef.qualified "dfrelation_MEMBER_0" ⟨"INVITER_ID"⟩ =
            .qualified "dfrelation_MEMBER_0" column.sqlName) ∧
      FromPart.Scoped [] (invitedTwice.fromParts "") ∧
      Registration.outcome (Statement.join "dfrelation_MEMBER_0" "inviter") invitedTwice =
        (.ok "dfrelation_MEMBER_1", invitedTwice) := by
  intro last
  have values : invitedTwice.joins.values =
      [inviterJoin "dflocal" "dfrelation_MEMBER_0" false, last] := rfl
  have member : last ∈ invitedTwice.joins.values := by
    rw [values]
    exact List.mem_cons_of_mem _ List.mem_cons_self
  have reached : Reachable memberSchema invitedTwice := new_member_reachable.afterAll _
  obtain ⟨_, _, founded, scope, again⟩ := from_clause_well_scoped reached
  obtain ⟨_, nearTable, _, near, _, _, columns⟩ := founded member_schema_built last member
  have pair := (columns _ List.mem_cons_self).1
  exact ⟨values, ⟨nearTable, near, pair⟩, (scope "").2, again last member⟩

end Statement
end SqlComposer
