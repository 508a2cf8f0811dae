import SqlComposer.Proofs.FromScope
import SqlComposer.Proofs.TidyClauses

/-!
The from clause and the where clause of a statement whose names, clauses and fixed conditions are
closed. Where every join closes a parenthesis that is opened before the base table, there are as
many of one as of the other, so both clauses are closed, with gaps and without.
-/
namespace SqlComposer

open Condition (Clause)
open Template (Gap)

variable {inBranch : Bool}

structure Table.Tidy (inBranch : Bool) (table : Table) : Prop where
  name : SqlComposer.Tidy inBranch table.name
  sqlName : SqlComposer.Tidy inBranch table.sqlName.text
  columns : ∀ column ∈ table.columns,
    SqlComposer.Tidy inBranch column.name ∧ SqlComposer.Tidy inBranch column.sqlName.text

def Schema.Tidy (inBranch : Bool) (schema : Schema) : Prop :=
  ∀ table ∈ schema.tables.values, table.Tidy inBranch

theorem Schema.Tidy.table {schema : Schema} (names : schema.Tidy inBranch) {name : String}
    {table : Table} (found : schema.table name = .ok table) : table.Tidy inBranch :=
  names table (OrderedMap.mem_values_of_find? ((Schema.table_eq_ok_iff _ _ _).mp found))

theorem tidy_qualified {aliasName : String} (aliased : Tidy inBranch aliasName)
    {column : ColumnName} (named : Tidy inBranch column.text) :
    Tidy inBranch (ColumnRef.qualified aliasName column).text :=
  (aliased.append (scans_of_word (by decide))).append named

theorem tidy_number (number : Nat) : Tidy inBranch (toString number) :=
  tidy_of_figures (figures_of_nat number)

/-- Texts that close one parenthesis each, behind as many that are open. -/
theorem scans_closing {texts : List String} (each : ∀ text ∈ texts, Scans inBranch 1 0 text) :
    Scans inBranch texts.length 0 (String.join texts) := by
  induction texts with
  | nil => exact scans_of_word (by decide)
  | cons text rest ih =>
      rw [List.forall_mem_cons] at each
      rw [String.join_cons, List.length_cons]
      have first := each.1.deeper rest.length
      rw [Nat.zero_add, Nat.add_comm] at first
      exact first.append (ih each.2)

theorem scans_opening (count : Nat) :
    Scans inBranch 0 count (String.ofList (List.replicate count '(')) := by
  induction count with
  | zero => exact scans_of_word (by decide)
  | succ count ih =>
      have another := (scans_of_word (by decide) : Scans inBranch 0 1 "(").deeper count
      rw [Nat.zero_add, Nat.add_comm] at another
      rw [List.replicate_succ', String.ofList_append]
      exact ih.append another

theorem tidy_table_reference {table : TableName} (named : Tidy inBranch table.text)
    {aliasName : String} (aliased : Tidy inBranch aliasName) {inline : List Clause}
    (filtered : ∀ clause ∈ inline, Tidy inBranch clause.sql) :
    Tidy inBranch (tableReference table aliasName inline) := by
  unfold tableReference
  split_ifs
  · exact (named.append (scans_of_word (by decide))).append aliased
  · have opened : Scans inBranch 0 1 "(select * from " := scans_of_word (by decide)
    have space : Scans inBranch 1 1 " " := scans_of_word (by decide)
    have inner : Scans inBranch 1 1 inlineAlias := scans_of_word (by decide)
    have word : Scans inBranch 1 1 " where " := scans_of_word (by decide)
    have closed : Scans inBranch 1 0 ") " := scans_of_word (by decide)
    have conditions := tidy_conjunction filtered
    have view := (((opened.append (named.inside 1)).append space).append inner).append word
    exact ((view.append (conditions.inside 1)).append closed).append aliased

/-- What a join writes besides the clauses added to it. -/
structure Join.Tidy (inBranch : Bool) (join : Join) : Prop where
  aliasName : SqlComposer.Tidy inBranch join.foreignAlias
  table : SqlComposer.Tidy inBranch join.table.text
  pairs : ∀ pair ∈ join.pairs,
    SqlComposer.Tidy inBranch pair.1.text ∧ SqlComposer.Tidy inBranch pair.2.text
  fixed : ∀ condition, join.fixedCondition? = some condition → SqlComposer.Tidy inBranch condition

theorem Join.Tidy.sql {join : Join} (tidy : join.Tidy inBranch)
    (inline : ∀ clause ∈ join.inlineClauses, SqlComposer.Tidy inBranch clause.sql)
    (on : ∀ clause ∈ join.onClauses, SqlComposer.Tidy inBranch clause.sql) :
    SqlComposer.Tidy inBranch join.sql := by
  have conjunction : SqlComposer.Tidy inBranch " and " := scans_of_word (by decide)
  have kind : SqlComposer.Tidy inBranch
      (if join.isInner then "inner join " else "left outer join ") := by
    split_ifs <;> exact scans_of_word (by decide)
  have pairs : SqlComposer.Tidy inBranch
      (Text.join " and " (join.pairs.map fun pair => pair.1.text ++ " = " ++ pair.2.text)) := by
    refine tidy_join conjunction (List.forall_mem_map.mpr fun pair member => ?_)
    obtain ⟨near, far⟩ := tidy.pairs pair member
    exact (near.append (scans_of_word (by decide))).append far
  have added : SqlComposer.Tidy inBranch
      (String.join (join.onClauses.map fun clause => " and " ++ clause.sql)) :=
    tidy_concatenated (List.forall_mem_map.mpr fun clause member =>
      conjunction.append (on clause member))
  have condition : SqlComposer.Tidy inBranch join.onCondition := by
    refine (pairs.append ?_).append added
    cases given : join.fixedCondition? with
    | none => exact (scans_of_word (by decide) : SqlComposer.Tidy inBranch "")
    | some fixed => exact conjunction.append (tidy.fixed fixed given)
  have reference := tidy_table_reference tidy.table tidy.aliasName inline
  exact ((kind.append reference).append (scans_of_word (by decide))).append condition

namespace Statement

variable {statement : Statement}

theorem tidy_base_alias (statement : Statement) : Tidy inBranch statement.baseAlias := by
  unfold baseAlias
  cases statement.level with
  | zero => exact scans_of_word (by decide)
  | succ level =>
      have opened : Tidy inBranch "sub" := scans_of_word (by decide)
      exact (opened.append (tidy_number (level + 1))).append (scans_of_word (by decide))

theorem tidy_relation_alias (statement : Statement) {tableName : String}
    (named : Tidy inBranch tableName) (number : Nat) :
    Tidy inBranch (statement.relationAlias tableName number) := by
  have line : Tidy inBranch "_" := scans_of_word (by decide)
  unfold relationAlias
  cases statement.level with
  | zero =>
      have opened : Tidy inBranch "dfrelation_" := scans_of_word (by decide)
      exact ((opened.append named).append line).append (tidy_number number)
  | succ level =>
      have opened : Tidy inBranch "sub" := scans_of_word (by decide)
      have relation : Tidy inBranch "rel_" := scans_of_word (by decide)
      have nested := (opened.append (tidy_number (level + 1))).append relation
      exact ((nested.append named).append line).append (tidy_number number)

/-- The names that a statement takes from its schema, the aliases of its joins and their fixed
conditions, and all its clauses are closed. -/
structure TidyTables (inBranch : Bool) (statement : Statement) : Prop where
  schema : statement.schema.Tidy inBranch
  table : statement.table.Tidy inBranch
  joins : ∀ join ∈ statement.bareJoins, Tidy inBranch join.foreignAlias ∧
    ∀ condition, join.fixedCondition? = some condition → Tidy inBranch condition
  clauses : statement.Holds fun clause => Tidy inBranch clause.sql
  unions : ∀ branch ∈ statement.unions, Tidy true branch.text

namespace TidyTables

variable (tidy : statement.TidyTables inBranch) (tree : statement.JoinTree)

include tidy

theorem alias_table {aliasName : String} {table : Table}
    (known : statement.aliasTable aliasName = .ok table) : table.Tidy inBranch := by
  rcases alias_table_cases known with ⟨_, rfl⟩ | ⟨join, _, found⟩
  · exact tidy.table
  · exact tidy.schema.table found

include tree

theorem join_alias {aliasName : String} (joined : aliasName ∈ statement.joins.keys) :
    Tidy inBranch aliasName := by
  rw [← tree.named] at joined
  obtain ⟨join, member, rfl⟩ := List.mem_map.mp joined
  exact (tidy.joins join member).1

theorem table_alias {aliasName : String} {table : Table}
    (known : statement.aliasTable aliasName = .ok table) : Tidy inBranch aliasName := by
  rcases alias_of_table known with rfl | joined
  · exact statement.tidy_base_alias
  · exact tidy.join_alias tree joined

theorem join {join : Join} (member : join ∈ statement.joins.values) : join.Tidy inBranch := by
  obtain ⟨aliased, fixed⟩ := tidy.joins (bareJoin join) (List.mem_map_of_mem member)
  obtain ⟨nearTable, relation, farTable, near, _, far, _, table, paired⟩ :=
    tree.founded_value member
  have farTidy := tidy.schema.table far
  refine ⟨aliased, table ▸ farTidy.sqlName, fun pair present => ?_, fixed⟩
  obtain ⟨⟨first, own, starts⟩, second, other, leads⟩ :=
    (qualified_of_pairs paired).2 pair present
  rw [starts, leads]
  exact ⟨tidy_qualified (tidy.table_alias tree near)
      ((tidy.alias_table near).columns first own).2,
    tidy_qualified aliased (farTidy.columns second other).2⟩

/-- Every join closes the parenthesis that is opened for it. -/
theorem from_clause {hint : String} (hinted : Tidy inBranch hint) :
    Tidy inBranch (statement.fromClause hint) := by
  have word : Tidy inBranch " from " := scans_of_word (by decide)
  have base : Tidy inBranch
      (tableReference statement.table.sqlName statement.baseAlias statement.baseInline) :=
    tidy_table_reference tidy.table.sqlName statement.tidy_base_alias tidy.clauses.baseInline
  have nothing : Tidy inBranch "" := scans_of_word (by decide)
  have joined : ∀ join ∈ statement.joins.values, Tidy inBranch (" " ++ join.sql) := by
    intro join member
    obtain ⟨inline, on⟩ := tidy.clauses.joins join member
    have space : Tidy inBranch " " := scans_of_word (by decide)
    exact space.append ((tidy.join tree member).sql inline on)
  have count : statement.joins.size = statement.joins.values.length :=
    (List.length_map _).symm
  unfold fromClause fromHint
  dsimp only
  cases statement.dialect.joinsInParentheses with
  | false =>
      have plain := tidy_concatenated (List.forall_mem_map.mpr fun join member =>
        (joined join member).append nothing)
      have opening : Tidy inBranch (String.ofList []) := scans_of_word (by decide)
      exact ((((word.append opening).append base).append hinted).append plain).append nothing
  | true =>
      have closing : Scans inBranch statement.joins.size 0
          (String.join (statement.joins.values.map fun join => " " ++ join.sql ++ ")")) := by
        have each := scans_closing (List.forall_mem_map.mpr fun join member =>
          ((joined join member).inside 1).append (scans_of_word (by decide) :
            Scans inBranch 1 0 ")"))
        rwa [List.length_map, ← count] at each
      have opened := word.append (scans_opening statement.joins.size)
      have tables := (opened.append (base.inside _)).append (hinted.inside _)
      exact (tables.append closing).append nothing

omit tree

theorem where_clause : Tidy inBranch statement.whereClause := by
  unfold whereClause
  split_ifs
  · exact scans_of_word (by decide)
  · have word : Tidy inBranch " where " := scans_of_word (by decide)
    exact word.append (tidy_conjunction tidy.clauses.conditions)

theorem where_template {whereGap conditionGap : String} (whole : Tidy inBranch whereGap)
    (first : Tidy inBranch conditionGap) :
    Tidy inBranch (statement.whereTemplate whereGap conditionGap) := by
  unfold whereTemplate
  split_ifs
  · have space : Tidy inBranch " " := scans_of_word (by decide)
    exact space.append whole
  · have word : Tidy inBranch " where " := scans_of_word (by decide)
    have conditions := tidy_conjunction tidy.clauses.conditions
    exact (word.append first).append conditions

end TidyTables

theorem tidy_connector (branch : UnionBranch) : Tidy inBranch branch.connector := by
  unfold UnionBranch.connector
  split_ifs <;> exact scans_of_word (by decide)

theorem scans_of_gap (gap : Gap) : Tidy true gap.text := by
  refine ⟨?_, fun _ => ?_⟩
  · cases gap <;> decide
  · rintro before ⟨after, shape⟩
    have quoteless : '\'' ∉ gap.text.toList := by cases gap <;> decide
    have none : before.count '\'' = 0 := by
      refine List.count_eq_zero.mpr fun member => quoteless ?_
      rw [← shape, List.append_assoc]
      exact List.mem_append_left _ member
    rw [none]
    exact Even.zero

/-- The text that a statement becomes as a branch of a union. -/
theorem TidyTables.branch (tidy : statement.TidyTables true) (tree : statement.JoinTree) :
    Tidy true (Template.unionSelectGap ++ statement.unionGapped) := by
  have nothing : Tidy true "" := scans_of_word (by decide)
  have unions : Tidy true statement.unionTemplate :=
    tidy_concatenated (List.forall_mem_map.mpr fun branch member =>
      (tidy_connector branch).append (tidy.unions branch member))
  have conditions := tidy.where_template (scans_of_gap .unionWhere)
    (scans_of_gap .unionFirstCondition)
  have tables := (tidy.from_clause tree nothing).append conditions
  exact (scans_of_gap .unionSelect).append (tables.append unions)

/-- The branches with a closed select clause in their gaps. -/
theorem TidyTables.union_clause (tidy : statement.TidyTables inBranch) {select : String}
    (selects : Closed select) : Closed (statement.unionClause select) := by
  suffices whole : Tidy false (statement.unionClause select) from whole.read
  refine tidy_concatenated (List.forall_mem_map.mpr fun branch member => ?_)
  obtain ⟨closed, sheltered⟩ := tidy.unions branch member
  have filled : Closed (branch.filled select) :=
    UnionBranch.closed_filled closed (sheltered rfl) selects
  exact (tidy_connector branch).append filled.tidy

end Statement

end SqlComposer
