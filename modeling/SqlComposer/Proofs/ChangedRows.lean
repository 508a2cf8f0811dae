import SqlComposer.Proofs.FromScope
import SqlComposer.Proofs.Interference
import SqlComposer.Proofs.Markless
import SqlComposer.Proofs.Rendering

/-!
Updates and deletes of the rows that a statement selects. They are refused for an open or-scope, and
for rows that can only be found by a key where the table or the dialect does not allow for it.
Otherwise they take over the from clause, the conditions and the unions of the select, and nothing
else of it.
-/
namespace SqlComposer

open Condition (Clause)
open SubQuery (Markless Opens)

/-- No text of a join holds a mark of a sub-query. -/
structure Join.NoMarks (join : Join) : Prop where
  table : Markless join.table.text
  aliasName : Markless join.foreignAlias
  pairs : ∀ pair ∈ join.pairs, Markless pair.1.text ∧ Markless pair.2.text
  fixed : ∀ condition ∈ join.fixedCondition?, Markless condition
  inline : ∀ clause ∈ join.inlineClauses, Markless clause.sql
  on : ∀ clause ∈ join.onClauses, Markless clause.sql

theorem markless_table_reference {table : TableName} {aliasName : String} {inline : List Clause}
    (named : Markless table.text) (called : Markless aliasName)
    (clauses : ∀ clause ∈ inline, Markless clause.sql) :
    Markless (tableReference table aliasName inline) := by
  unfold tableReference
  split_ifs
  · exact named.across (by decide) (by decide) called
  · have opened : Markless ("(select * from " ++ table.text) := named.behind (by decide)
    have viewed : Markless ("(select * from " ++ table.text ++ " " ++ inlineAlias) :=
      opened.across (by decide) (by decide) (SubQuery.markless_of_dashless (by decide))
    have filtered : Markless ("(select * from " ++ table.text ++ " " ++ inlineAlias ++ " where " ++
        Clause.joined " and " inline) :=
      viewed.across (by decide) (by decide) (SubQuery.markless_clauses clauses)
    exact filtered.across (by decide) (by decide) called

theorem Join.NoMarks.sql {join : Join} (clean : join.NoMarks) : Markless join.sql := by
  have pairs : Markless (Text.join " and "
      (join.pairs.map fun pair => pair.1.text ++ " = " ++ pair.2.text)) := by
    refine SubQuery.markless_join (by decide) (by decide) fun text member => ?_
    obtain ⟨pair, among, rfl⟩ := List.mem_map.mp member
    have sides := clean.pairs pair among
    exact sides.1.across (by decide) (by decide) sides.2
  have clauses : Markless (String.join (join.onClauses.map fun clause => " and " ++ clause.sql)) ∧
      Opens (String.join (join.onClauses.map fun clause => " and " ++ clause.sql)) := by
    have each : ∀ part ∈ join.onClauses.map (fun clause => " and " ++ clause.sql),
        Markless part ∧ Opens part := by
      intro part member
      obtain ⟨clause, among, rfl⟩ := List.mem_map.mp member
      exact ⟨(clean.on clause among).behind (by decide),
        .inr (SubQuery.breaks_append (by decide) clause.sql)⟩
    exact ⟨SubQuery.markless_parts each,
      SubQuery.opens_of_parts fun part member => (each part member).2⟩
  have condition : Markless join.onCondition := by
    rw [onCondition]
    cases given : join.fixedCondition? with
    | none =>
        have ended := pairs.append (.inl rfl) (SubQuery.markless_of_dashless (by decide))
        exact ended.append clauses.2 clauses.1
    | some condition =>
        have fixed : Markless (" and " ++ condition) :=
          (clean.fixed condition given).behind (by decide)
        have opens : Opens (" and " ++ condition) :=
          .inr (SubQuery.breaks_append (by decide) condition)
        exact (pairs.append opens fixed).append clauses.2 clauses.1
  have table := markless_table_reference clean.table clean.aliasName clean.inline
  have started : Markless ((if join.isInner then "inner join " else "left outer join ") ++
      tableReference join.table join.foreignAlias join.inlineClauses) := by
    split_ifs <;> exact table.behind (by decide)
  exact started.across (by decide) (by decide) condition

namespace Statement

/-- No text that a statement holds has a mark of a sub-query in it. -/
structure NoMarks (statement : Statement) : Prop where
  table : Markless statement.table.sqlName.text
  columns : ∀ column ∈ statement.table.columns, Markless column.sqlName.text
  conditions : ∀ clause ∈ statement.conditions, Markless clause.sql
  inline : ∀ clause ∈ statement.baseInline, Markless clause.sql
  joins : ∀ join ∈ statement.joins.values, join.NoMarks
  unions : ∀ branch ∈ statement.unions, Markless branch.text

/-- The select clause of a sub-query that finds rows by a column of the key. -/
def keySelect (statement : Statement) (key : Column) : String :=
  "select " ++ statement.baseAlias ++ "." ++ key.sqlName.text

/-- No mark comes about where the qualifications of columns or the gaps of union branches have been
taken out of a text. -/
structure MarksKept (statement : Statement) : Prop where
  stripped : statement.needsSubQuery = false →
    Markless (stripAlias statement.baseAlias statement.whereClause)
  filled : ∀ branch ∈ statement.unions, ∀ key ∈ statement.table.primaryKey,
    Markless (branch.filled (statement.keySelect key))

/-- Why the rows of a statement can be neither updated nor deleted. -/
def ChangeRefused (statement : Statement) : Prop :=
  statement.orScope.isOpen = true ∨
    (statement.hasJoin = true ∨ statement.hasUnion = true ∨ statement.baseInline ≠ []) ∧
      (statement.table.primaryKey.length ≠ 1 ∨ statement.dialect = .mysql)

/-- How an update or a delete says which rows it is for. -/
inductive ChangedRows (statement : Statement) : String → Prop where
  | direct (plain : statement.needsSubQuery = false) :
      ChangedRows statement (stripAlias statement.baseAlias statement.whereClause)
  | keyed {key : Column} (needed : statement.needsSubQuery = true)
      (single : statement.table.primaryKey = [key]) :
      ChangedRows statement (" where " ++ key.sqlName.text ++ " in (" ++
        statement.keySelect key ++ statement.fromClause "" ++ statement.whereClause ++
          statement.unionClause (statement.keySelect key) ++ ")")

theorem needs_sub_query_iff (statement : Statement) :
    statement.needsSubQuery = true ↔
      statement.hasJoin = true ∨ statement.hasUnion = true ∨ statement.baseInline ≠ [] := by
  simp [needsSubQuery, or_assoc]

theorem update_key_ok_iff {statement : Statement} {name : ColumnName} :
    statement.updateKey = .ok name ↔ statement.dialect ≠ .mysql ∧
      ∃ key, statement.table.primaryKey = [key] ∧ key.sqlName = name := by
  have through : statement.dialect.updatesThroughSubQuery = true ↔
      statement.dialect ≠ .mysql := by
    cases statement.dialect <;> decide
  rw [← through]
  unfold updateKey Table.hasCompoundKey
  cases supported : statement.dialect.updatesThroughSubQuery with
  | false => split_ifs <;> simp_all
  | true =>
      cases statement.table.primaryKey with
      | nil => simp
      | cons key rest => cases rest <;> simp

theorem update_where_ok_iff {statement : Statement} {rows : String} :
    statement.updateWhere = .ok rows ↔
      ¬ statement.ChangeRefused ∧ ChangedRows statement rows := by
  rw [ChangeRefused, ← needs_sub_query_iff, updateWhere]
  cases opened : statement.orScope.isOpen with
  | true => simp
  | false =>
      cases needed : statement.needsSubQuery with
      | false =>
          simp only [Bool.false_eq_true, if_false, Bool.not_false, if_true, false_and, false_or,
            not_false_eq_true, true_and, Except.ok.injEq]
          constructor
          · rintro rfl
            exact .direct needed
          · rintro (_ | ⟨keyed, _⟩)
            · rfl
            · rw [needed] at keyed
              cases keyed
      | true =>
          simp only [Bool.false_eq_true, if_false, Bool.not_true, true_and, false_or, not_or,
            not_not]
          constructor
          · intro written
            obtain ⟨name, keyed, rfl⟩ := map_eq_ok written
            obtain ⟨supported, key, single, rfl⟩ := update_key_ok_iff.mp keyed
            exact ⟨⟨by rw [single]; rfl, supported⟩, .keyed needed single⟩
          · rintro ⟨⟨_, supported⟩, plain | ⟨_, single⟩⟩
            · rw [needed] at plain
              cases plain
            · rw [update_key_ok_iff.mpr ⟨supported, _, single, rfl⟩]
              rfl

theorem changed_rows_exist {statement : Statement} (accepted : ¬ statement.ChangeRefused) :
    ∃ rows, ChangedRows statement rows := by
  rw [ChangeRefused, ← needs_sub_query_iff] at accepted
  cases needed : statement.needsSubQuery with
  | false => exact ⟨_, .direct needed⟩
  | true =>
      rw [needed, not_or] at accepted
      have one : statement.table.primaryKey.length = 1 :=
        not_not.mp fun several => accepted.2 ⟨rfl, .inl several⟩
      obtain ⟨key, single⟩ := List.length_eq_one_iff.mp one
      exact ⟨_, .keyed needed single⟩

theorem rows_of_key {statement : Statement} {key : Column} {rows : String}
    (needed : statement.needsSubQuery = true) (single : statement.table.primaryKey = [key])
    (chosen : ChangedRows statement rows) :
    rows = " where " ++ key.sqlName.text ++ " in (" ++ statement.keySelect key ++
      statement.fromClause "" ++ statement.whereClause ++
        statement.unionClause (statement.keySelect key) ++ ")" := by
  rcases chosen with plain | ⟨_, other⟩
  · rw [needed] at plain
    cases plain
  · obtain rfl := (List.cons.inj (single.symm.trans other)).1
    rfl

theorem accepted_of_single_key {statement : Statement}
    (closed : statement.orScope.isOpen = false) (single : statement.table.primaryKey.length = 1)
    (supported : statement.dialect ≠ .mysql) : ¬ statement.ChangeRefused := by
  rintro (opened | ⟨_, several | other⟩)
  · exact absurd (closed.symm.trans opened) Bool.false_ne_true
  · exact several single
  · exact supported other

/-- What an update sets a column to. -/
def Sets (statement : Statement) (entry : String × String) (text : String) : Prop :=
  ∃ column, statement.table.requireColumn entry.1 = .ok column ∧
    text = column.sqlName.text ++ " = " ++ entry.2

theorem assignments_ok_iff {statement : Statement} {columns : List (String × String)}
    {texts : List String} : statement.assignments columns = .ok texts ↔
      List.Forall₂ statement.Sets columns texts := by
  induction columns generalizing texts with
  | nil =>
      rw [List.forall₂_nil_left_iff, assignments]
      exact ⟨fun same => (Except.ok.inj same).symm, fun same => same ▸ rfl⟩
  | cons entry rest ih =>
      rw [List.forall₂_cons_left_iff]
      constructor
      · intro assigned
        obtain ⟨column, found, assigned⟩ := bind_eq_ok assigned
        obtain ⟨others, later, assigned⟩ := bind_eq_ok assigned
        obtain rfl := Except.ok.inj assigned
        exact ⟨_, others, ⟨column, found, rfl⟩, ih.mp later, rfl⟩
      · rintro ⟨_, others, ⟨column, found, rfl⟩, later, rfl⟩
        obtain ⟨name, parameter⟩ := entry
        rw [assignments, found, ih.mpr later]
        rfl

theorem assignments_refused_iff {statement : Statement} {columns : List (String × String)} :
    (∃ refusal, statement.assignments columns = .error refusal) ↔
      ∃ entry ∈ columns, ∃ refusal, statement.table.requireColumn entry.1 = .error refusal := by
  induction columns with
  | nil => simp [assignments]
  | cons entry rest ih =>
      obtain ⟨name, parameter⟩ := entry
      rw [List.exists_mem_cons_iff, ← ih, assignments]
      cases statement.table.requireColumn name with
      | error refusal => simp [bind, Except.bind]
      | ok column =>
          cases statement.assignments rest <;> simp [bind, Except.bind, pure, Except.pure]

section Texts

variable {statement : Statement}

theorem base_alias_dashless : '-' ∉ statement.baseAlias.toList := by
  intro member
  have word := (base_alias_name statement).word _ member
  revert word
  decide +kernel

theorem markless_from_clause (clean : statement.NoMarks) :
    Markless (statement.fromClause "") ∧ Opens (statement.fromClause "") := by
  have base := markless_table_reference clean.table
    (SubQuery.markless_of_dashless statement.base_alias_dashless) clean.inline
  have opening : ∀ enclosed : Bool, '-' ∉ (String.ofList
      (if enclosed = true then List.replicate statement.joins.size '(' else [])).toList := by
    intro enclosed
    rw [String.toList_ofList]
    split_ifs
    · exact fun member => absurd (List.eq_of_mem_replicate member) (by decide)
    · exact List.not_mem_nil
  have joined : ∀ part ∈ statement.joins.values.map (fun join =>
      " " ++ join.sql ++ if statement.dialect.joinsInParentheses then ")" else ""),
      Markless part ∧ Opens part := by
    intro part member
    obtain ⟨join, among, rfl⟩ := List.mem_map.mp member
    have sql : Markless (" " ++ join.sql) := (clean.joins join among).sql.behind (by decide)
    refine ⟨?_, .inr (SubQuery.breaks_append (SubQuery.breaks_append (by decide) _) _)⟩
    split_ifs
    · exact sql.append (.inr (by decide)) (SubQuery.markless_of_dashless (by decide))
    · exact sql.append (.inl rfl) (SubQuery.markless_of_dashless (by decide))
  have joins := SubQuery.markless_parts joined
  have opens := SubQuery.opens_of_parts fun part member => (joined part member).2
  have opened := (base.append opens joins).behind (opening statement.dialect.joinsInParentheses)
  have text : statement.fromClause "" = " from " ++ (String.ofList
      (if statement.dialect.joinsInParentheses = true then List.replicate statement.joins.size '('
        else []) ++ (tableReference statement.table.sqlName statement.baseAlias
          statement.baseInline ++ String.join (statement.joins.values.map fun join =>
            " " ++ join.sql ++ if statement.dialect.joinsInParentheses then ")" else ""))) := by
    simp only [fromClause, fromHint, String.append_empty, String.append_assoc]
  rw [text]
  exact ⟨opened.behind (by decide), .inr (SubQuery.breaks_append (by decide) _)⟩

theorem markless_where_clause (clean : statement.NoMarks) :
    Markless statement.whereClause ∧ Opens statement.whereClause := by
  unfold whereClause
  split_ifs
  · exact ⟨SubQuery.markless_of_dashless (by decide), .inl rfl⟩
  · exact ⟨(SubQuery.markless_clauses clean.conditions).behind (by decide),
      .inr (SubQuery.breaks_append (by decide) _)⟩

theorem markless_union_clause {select : String}
    (filled : ∀ branch ∈ statement.unions, Markless (branch.filled select)) :
    Markless (statement.unionClause select) ∧ Opens (statement.unionClause select) := by
  have each : ∀ part ∈ statement.unions.map (fun branch => branch.connector ++
      branch.filled select), Markless part ∧ Opens part := by
    intro part member
    obtain ⟨branch, among, rfl⟩ := List.mem_map.mp member
    unfold UnionBranch.connector
    split_ifs <;> exact ⟨(filled branch among).behind (by decide),
      .inr (SubQuery.breaks_append (by decide) _)⟩
  exact ⟨SubQuery.markless_parts each,
    SubQuery.opens_of_parts fun part member => (each part member).2⟩

theorem markless_key_select (clean : statement.NoMarks) {key : Column}
    (single : statement.table.primaryKey = [key]) :
    Markless key.sqlName.text ∧ Markless (statement.keySelect key) := by
  have among : key ∈ statement.table.primaryKey := by rw [single]; exact List.mem_cons_self
  have named := clean.columns key (List.mem_of_mem_filter among)
  refine ⟨named, ?_⟩
  have dashless : '-' ∉ ("select " ++ statement.baseAlias ++ ".").toList := by
    simp only [String.toList_append, List.mem_append, not_or]
    exact ⟨⟨by decide, statement.base_alias_dashless⟩, by decide⟩
  exact named.behind dashless

/-- The alias of the base table is not taken away from the beginning of a where clause. -/
theorem strip_alias_opens :
    Opens (stripAlias statement.baseAlias statement.whereClause) := by
  unfold whereClause
  split_ifs
  · exact .inl rfl
  · have first : (" where " ++ Clause.joined " and " statement.conditions).toList =
        ' ' :: ("where " ++ Clause.joined " and " statement.conditions).toList := by
      simp [String.toList_append]
    obtain ⟨rest, start⟩ := (base_alias_name statement).start
    have absent : ∀ chars, Text.afterMark? (statement.baseAlias ++ ".").toList (' ' :: chars) =
        none := by
      intro chars
      rw [String.toList_append]
      rcases start with same | same <;> rw [same] <;> rfl
    refine .inr ⟨' ', by decide, ?_⟩
    rw [stripAlias, String.toList_ofList, first, stripFrom, if_neg (by decide), absent]
    rfl

theorem markless_rows (clean : statement.NoMarks) (kept : statement.MarksKept) {rows : String}
    (chosen : ChangedRows statement rows) : Markless rows ∧ Opens rows := by
  cases chosen with
  | direct plain => exact ⟨kept.stripped plain, strip_alias_opens⟩
  | @keyed key needed single =>
      have among : key ∈ statement.table.primaryKey := by rw [single]; exact List.mem_cons_self
      obtain ⟨named, selected⟩ := markless_key_select clean single
      obtain ⟨tables, opensTables⟩ := markless_from_clause clean
      obtain ⟨conditions, opensConditions⟩ := markless_where_clause clean
      obtain ⟨unions, opensUnions⟩ :=
        markless_union_clause fun branch member => kept.filled branch member key among
      have column : Markless (" where " ++ key.sqlName.text) := named.behind (by decide)
      have select : Markless (" where " ++ key.sqlName.text ++ " in (" ++
          statement.keySelect key) := column.across (by decide) (by decide) selected
      have whole := ((select.append opensTables tables).append opensConditions conditions).append
        opensUnions unions
      refine ⟨whole.append (.inr (by decide)) (SubQuery.markless_of_dashless (by decide)), ?_⟩
      refine .inr ?_
      simp only [String.append_assoc]
      exact SubQuery.breaks_append (by decide) _

theorem delete_ok_iff (clean : statement.NoMarks) (kept : statement.MarksKept) {sql : String} :
    statement.renderDelete = .ok sql ↔ ¬ statement.ChangeRefused ∧
      ∃ rows, ChangedRows statement rows ∧
        sql = "delete from " ++ statement.table.sqlName.text ++ rows := by
  have laid : ∀ {rows}, ChangedRows statement rows →
      SubQuery.layout ("delete from " ++ statement.table.sqlName.text ++ rows) =
        .ok ("delete from " ++ statement.table.sqlName.text ++ rows) := by
    intro rows chosen
    obtain ⟨free, opens⟩ := markless_rows clean kept chosen
    have table : Markless ("delete from " ++ statement.table.sqlName.text) :=
      clean.table.behind (by decide)
    exact (table.append opens free).layout
  constructor
  · intro rendered
    obtain ⟨rows, written, rendered⟩ := bind_eq_ok rendered
    obtain ⟨accepted, chosen⟩ := update_where_ok_iff.mp written
    rw [laid chosen] at rendered
    exact ⟨accepted, rows, chosen, (Except.ok.inj rendered).symm⟩
  · rintro ⟨accepted, rows, chosen, rfl⟩
    rw [renderDelete, update_where_ok_iff.mpr ⟨accepted, chosen⟩]
    exact laid chosen

theorem markless_assignments (clean : statement.NoMarks) {columns : List (String × String)}
    {texts : List String} (values : ∀ entry ∈ columns, Markless entry.2)
    (set : List.Forall₂ statement.Sets columns texts) : Markless (Text.join ", " texts) := by
  refine SubQuery.markless_join (by decide) (by decide) fun text member => ?_
  induction set with
  | nil => cases member
  | @cons entry first rest others here later ih =>
      rw [List.forall_mem_cons] at values
      rcases List.mem_cons.mp member with rfl | among
      · obtain ⟨column, found, rfl⟩ := here
        have named := clean.columns column (Table.mem_columns_of_required found)
        exact named.across (by decide) (by decide) values.1
      · exact ih values.2 among

theorem update_ok_iff (clean : statement.NoMarks) (kept : statement.MarksKept)
    {columns : OrderedMap String String} (values : ∀ entry ∈ columns.entries, Markless entry.2)
    {sql : String} : statement.renderUpdate columns = .ok sql ↔
      ¬ statement.ChangeRefused ∧ columns.entries ≠ [] ∧
        ∃ texts rows, List.Forall₂ statement.Sets columns.entries texts ∧
          ChangedRows statement rows ∧ sql = "update " ++ statement.table.sqlName.text ++ " set " ++
            Text.join ", " texts ++ rows := by
  have laid : ∀ {texts rows}, List.Forall₂ statement.Sets columns.entries texts →
      ChangedRows statement rows →
      SubQuery.layout ("update " ++ statement.table.sqlName.text ++ " set " ++
          Text.join ", " texts ++ rows) =
        .ok ("update " ++ statement.table.sqlName.text ++ " set " ++ Text.join ", " texts ++
          rows) := by
    intro texts rows set chosen
    obtain ⟨free, opens⟩ := markless_rows clean kept chosen
    have table : Markless ("update " ++ statement.table.sqlName.text) :=
      clean.table.behind (by decide)
    have changed : Markless ("update " ++ statement.table.sqlName.text ++ " set " ++
        Text.join ", " texts) :=
      table.across (by decide) (by decide) (markless_assignments clean values set)
    exact (changed.append opens free).layout
  have filled : columns.isEmpty = true ↔ columns.entries = [] := List.isEmpty_iff
  rw [renderUpdate]
  split_ifs with empty
  · simp [filled.mp empty]
  · rw [filled] at empty
    constructor
    · intro rendered
      obtain ⟨texts, assigned, rendered⟩ := bind_eq_ok rendered
      obtain ⟨rows, written, rendered⟩ := bind_eq_ok rendered
      have set := assignments_ok_iff.mp assigned
      obtain ⟨accepted, chosen⟩ := update_where_ok_iff.mp written
      rw [laid set chosen] at rendered
      exact ⟨accepted, empty, texts, rows, set, chosen, (Except.ok.inj rendered).symm⟩
    · rintro ⟨accepted, _, texts, rows, set, chosen, rfl⟩
      rw [assignments_ok_iff.mpr set, update_where_ok_iff.mpr ⟨accepted, chosen⟩]
      exact laid set chosen

theorem delete_refused_iff (clean : statement.NoMarks) (kept : statement.MarksKept) :
    (∃ refusal, statement.renderDelete = .error refusal) ↔ statement.ChangeRefused := by
  constructor
  · rintro ⟨refusal, refused⟩
    by_contra accepted
    obtain ⟨rows, chosen⟩ := changed_rows_exist accepted
    rw [(delete_ok_iff clean kept).mpr ⟨accepted, rows, chosen, rfl⟩] at refused
    cases refused
  · exact fun fails => refused_of_not_ok fun ⟨sql, rendered⟩ =>
      ((delete_ok_iff clean kept).mp rendered).1 fails

theorem update_refused_iff (clean : statement.NoMarks) (kept : statement.MarksKept)
    {columns : OrderedMap String String} (values : ∀ entry ∈ columns.entries, Markless entry.2) :
    (∃ refusal, statement.renderUpdate columns = .error refusal) ↔
      statement.ChangeRefused ∨ columns.entries = [] ∨
        ∃ entry ∈ columns.entries,
          ∃ refusal, statement.table.requireColumn entry.1 = .error refusal := by
  rw [← assignments_refused_iff]
  constructor
  · rintro ⟨refusal, refused⟩
    by_contra accepted
    simp only [not_or] at accepted
    obtain ⟨fine, filled, assigned⟩ := accepted
    obtain ⟨rows, chosen⟩ := changed_rows_exist fine
    cases set : statement.assignments columns.entries with
    | error cause => exact assigned ⟨cause, set⟩
    | ok texts =>
        rw [(update_ok_iff clean kept values).mpr
          ⟨fine, filled, texts, rows, assignments_ok_iff.mp set, chosen, rfl⟩] at refused
        cases refused
  · intro fails
    refine refused_of_not_ok fun ⟨sql, rendered⟩ => ?_
    obtain ⟨fine, filled, texts, _, set, _⟩ := (update_ok_iff clean kept values).mp rendered
    rcases fails with refused | empty | ⟨refusal, unset⟩
    · exact fine refused
    · exact filled empty
    · rw [assignments_ok_iff.mpr set] at unset
      cases unset

end Texts

def unlocked (statement : Statement) : Statement := { statement with isLocked := false }

/-- Whatever is selected, a select without a lock has the from clause, the conditions and the unions
one after another. -/
theorem marked_of_unlocked {statement : Statement} {sql : String}
    (written : statement.unlocked.marked = .ok sql) :
    ∃ select before after, statement.unlocked.selectClause = .ok select ∧
      sql = before ++ (statement.fromClause "" ++ statement.whereClause ++
        statement.unionClause select) ++ after := by
  obtain ⟨columns, plain, order, lock, composed⟩ := composed_of_marked written
  obtain rfl : LockText.none = lock := Except.ok.inj composed.locked
  have clause : statement.unlocked.selectClause = .ok plain := by
    rw [selectClause, composed.listed]
    exact composed.selected
  let rows := statement.unlocked.body "" plain
  let ending := order ++ statement.unlocked.paging.suffix
  suffices shape : ∃ before after, sql = before ++ rows ++ after by
    obtain ⟨before, after, rfl⟩ := shape
    exact ⟨plain, before, after, clause, rfl⟩
  cases composed.shape with
  | single _ _ =>
      refine ⟨plain, ending, ?_⟩
      simp only [rows, ending, LockText.none, String.append_empty, String.append_assoc]
  | aggregate _ _ written =>
      obtain ⟨opening, _, rfl⟩ := aggregate_of_union_shape written
      refine ⟨opening ++ plain, ") dfmain", ?_⟩
      simp only [rows, LockText.none, String.append_assoc]
  | enclosed _ _ =>
      refine ⟨"select" ++ statement.unlocked.selectHint ++ " * from (" ++ plain,
        ") " ++ mainAlias ++ ending, ?_⟩
      simp only [rows, ending, LockText.none, String.append_empty, String.append_assoc]
  | list _ _ =>
      refine ⟨statement.unlocked.listSelect columns statement.unlocked.selectHint, ending, ?_⟩
      simp only [rows, ending, LockText.none, String.append_empty, String.append_assoc]

/-- A statement for the same rows with the select list, the order, the window and the lock of
another one. -/
def selectingLike (statement other : Statement) : Statement :=
  { statement with
    selectType := other.selectType
    previousType? := other.previousType?
    selectIndex := other.selectIndex
    specifiedColumns := other.specifiedColumns
    selectedRelations := other.selectedRelations
    derivedColumns := other.derivedColumns
    order := other.order
    orderEffective := other.orderEffective
    fetch := other.fetch
    isLocked := other.isLocked }

theorem assignments_of_selecting (statement other : Statement)
    (columns : List (String × String)) :
    (statement.selectingLike other).assignments columns = statement.assignments columns := by
  induction columns with
  | nil => rfl
  | cons column rest ih =>
      rw [assignments, assignments, ih]
      rfl

/-- When updates and deletes are refused, and what they look like when they are not. -/
theorem changes_of_selected_rows {statement : Statement} (clean : statement.NoMarks)
    (kept : statement.MarksKept) {columns : OrderedMap String String}
    (values : ∀ entry ∈ columns.entries, Markless entry.2) :
    ((∃ refusal, statement.renderDelete = .error refusal) ↔ statement.ChangeRefused) ∧
      ((∃ refusal, statement.renderUpdate columns = .error refusal) ↔
        statement.ChangeRefused ∨ columns.entries = [] ∨
          ∃ entry ∈ columns.entries,
            ∃ refusal, statement.table.requireColumn entry.1 = .error refusal) ∧
      (∀ sql, statement.renderDelete = .ok sql → ∃ rows, ChangedRows statement rows ∧
        sql = "delete from " ++ statement.table.sqlName.text ++ rows) ∧
      (∀ sql, statement.renderUpdate columns = .ok sql →
        ∃ texts rows, List.Forall₂ statement.Sets columns.entries texts ∧
          ChangedRows statement rows ∧ sql = "update " ++ statement.table.sqlName.text ++ " set " ++
            Text.join ", " texts ++ rows) ∧
      (∀ sql, statement.unlocked.marked = .ok sql →
        ∃ select before after, statement.unlocked.selectClause = .ok select ∧
          sql = before ++ (statement.fromClause "" ++ statement.whereClause ++
            statement.unionClause select) ++ after) ∧
      ∀ other, (statement.selectingLike other).renderDelete = statement.renderDelete ∧
        (statement.selectingLike other).renderUpdate columns =
          statement.renderUpdate columns := by
  refine ⟨delete_refused_iff clean kept, update_refused_iff clean kept values,
    fun sql rendered => ((delete_ok_iff clean kept).mp rendered).2,
    fun sql rendered => ((update_ok_iff clean kept values).mp rendered).2.2,
    fun sql => marked_of_unlocked, fun other => ⟨rfl, ?_⟩⟩
  rw [renderUpdate, renderUpdate, assignments_of_selecting]
  rfl

theorem union_clause_of_branch {statement : Statement} {branch : UnionBranch}
    (single : statement.unions = [branch]) (select : String) :
    statement.unionClause select = branch.connector ++ branch.filled select := by
  rw [unionClause, single, List.map_singleton, String.join_cons]
  exact String.append_empty

/-- The select clause by which members are found. -/
def memberKeys : String := "select dflocal.MEMBER_ID"

/-- Members with the ones that have invited them, and once more all members. -/
def doubledMembers : Statement :=
  (memberIn .postgresql).afterAll [.join "dflocal" "inviter",
    .addUnionText "#df:unionSelectClause# from MEMBER dflocal" false]

theorem doubled_members_eq : doubledMembers =
    { memberIn .postgresql with
      joins := ⟨[("dfrelation_MEMBER_0", inviterJoin "dflocal" "dfrelation_MEMBER_0" false)]⟩
      unions := [⟨"#df:unionSelectClause# from MEMBER dflocal", false⟩] } := by rfl

theorem all_members_filled :
    (UnionBranch.mk "#df:unionSelectClause# from MEMBER dflocal" false).filled memberKeys =
      "select dflocal.MEMBER_ID from MEMBER dflocal" := by
  apply String.toList_injective
  simp only [UnionBranch.filled, Template.closeGaps, Template.to_list_replace,
    String.toList_append, memberKeys, Template.unionSelectGap, Template.unionConditionGap,
    Template.unionWhereGap, String.reduceToList]
  decide +kernel

theorem doubled_members_without_marks : doubledMembers.NoMarks := by
  rw [doubled_members_eq]
  refine ⟨by decide, by decide, nofun, nofun, fun join member => ?_, fun branch member => ?_⟩
  · obtain rfl := List.mem_singleton.mp member
    exact ⟨by decide, by decide, by decide, nofun, nofun, nofun⟩
  · obtain rfl := List.mem_singleton.mp member
    exact SubQuery.markless_of_dashless (by decide)

theorem doubled_members_keep_marks : doubledMembers.MarksKept := by
  rw [doubled_members_eq]
  refine ⟨nofun, fun branch member key among => ?_⟩
  obtain rfl := List.mem_singleton.mp member
  obtain rfl := List.mem_singleton.mp among
  exact all_members_filled ▸ SubQuery.markless_of_dashless (by decide)

def doubledRows : String :=
  " where MEMBER_ID in (" ++
    "select dflocal.MEMBER_ID from MEMBER dflocal left outer join MEMBER dfrelation_MEMBER_0 " ++
    "on dflocal.INVITER_ID = dfrelation_MEMBER_0.MEMBER_ID " ++
    "union select dflocal.MEMBER_ID from MEMBER dflocal)"

theorem doubled_members_rows {rows : String} (chosen : ChangedRows doubledMembers rows) :
    rows = doubledRows := by
  have keys : doubledMembers.keySelect ⟨"MEMBER_ID", ⟨"MEMBER_ID"⟩, true⟩ = memberKeys := by
    rw [doubled_members_eq]
    rfl
  have tables : doubledMembers.fromClause "" = " from MEMBER dflocal left outer join " ++
      "MEMBER dfrelation_MEMBER_0 on dflocal.INVITER_ID = dfrelation_MEMBER_0.MEMBER_ID" := by
    rw [doubled_members_eq]
    decide +kernel
  have united : doubledMembers.unionClause memberKeys =
      " union " ++ "select dflocal.MEMBER_ID from MEMBER dflocal" := by
    rw [union_clause_of_branch (congrArg unions doubled_members_eq), all_members_filled]
    rfl
  have unfiltered : doubledMembers.whereClause = "" := by
    rw [doubled_members_eq]
    rfl
  rw [rows_of_key rfl rfl chosen, keys, tables, unfiltered, united]
  decide +kernel

def invitedBySeven : OrderedMap String String := ⟨[("inviter_id", "7")]⟩

theorem doubled_members_changed : doubledMembers.NoMarks ∧ doubledMembers.MarksKept ∧
    (∀ entry ∈ invitedBySeven.entries, Markless entry.2) ∧
      doubledMembers.renderDelete = .ok ("delete from MEMBER" ++ doubledRows) ∧
        doubledMembers.renderUpdate invitedBySeven =
          .ok ("update MEMBER set INVITER_ID = 7" ++ doubledRows) := by
  have clean := doubled_members_without_marks
  have kept := doubled_members_keep_marks
  have values : ∀ entry ∈ invitedBySeven.entries, Markless entry.2 := by decide
  have accepted : ¬ doubledMembers.ChangeRefused := accepted_of_single_key rfl rfl (by decide)
  obtain ⟨deleteRefused, updateRefused, deletes, updates, _⟩ :=
    changes_of_selected_rows clean kept values
  have deleted : doubledMembers.renderDelete = .ok ("delete from MEMBER" ++ doubledRows) := by
    cases rendered : doubledMembers.renderDelete with
    | error refusal => exact absurd (deleteRefused.mp ⟨refusal, rendered⟩) accepted
    | ok sql =>
        obtain ⟨rows, chosen, rfl⟩ := deletes sql rendered
        rw [doubled_members_rows chosen]
        rfl
  have updated : doubledMembers.renderUpdate invitedBySeven =
      .ok ("update MEMBER set INVITER_ID = 7" ++ doubledRows) := by
    cases rendered : doubledMembers.renderUpdate invitedBySeven with
    | error refusal =>
        rcases updateRefused.mp ⟨refusal, rendered⟩ with fails | empty | ⟨_, member, _, fails⟩
        · exact absurd fails accepted
        · cases empty
        · obtain rfl := List.mem_singleton.mp member
          cases fails
    | ok sql =>
        obtain ⟨texts, rows, set, chosen, rfl⟩ := updates sql rendered
        obtain rfl := Except.ok.inj ((assignments_ok_iff.mpr set).symm.trans
          (show doubledMembers.assignments invitedBySeven.entries =
            .ok ["INVITER_ID = 7"] from rfl))
        rw [doubled_members_rows chosen]
        rfl
  exact ⟨clean, kept, values, deleted, updated⟩

/-- A value with the gap of a branch in it. Without the gap it would be a mark. -/
def gappedValue : String := "--#df:sq#df:unionWhereClause#begin#"

/-- All members, and once more one whose identity is this value. -/
def gappedMembers : Statement :=
  (memberIn .postgresql).after (.addUnion
    ((memberIn .postgresql).after (withMemberId gappedValue)) false)

theorem gapped_members_eq : gappedMembers =
    { memberIn .postgresql with
      unions := [memberBranch memberTables ("'" ++ gappedValue ++ "'")] } := by
  have clauses := equal_clauses_of_text (show gappedValue.isEmpty = false by decide)
    (memberIn .postgresql).conditionMode (.qualified "dflocal" ⟨"MEMBER_ID"⟩)
    (show ({} : Condition.Holder).binding = .embedded from rfl)
  have registered : (memberIn .postgresql).after (withMemberId gappedValue) =
      { memberIn .postgresql with
        conditions := [.bound (.qualified "dflocal" ⟨"MEMBER_ID"⟩) .equal
          (Dialect.postgresql.textLiteral gappedValue) none] } := by
    rw [withMemberId, after_condition, clauses]
    rfl
  have column : (ColumnRef.qualified "dflocal" ⟨"MEMBER_ID"⟩).text ++ " " ++ "=" ++ " " =
      "dflocal.MEMBER_ID" ++ " = " := by decide +kernel
  have tables : (memberIn .postgresql).fromClause "" = memberTables := by rfl
  have literal : Dialect.postgresql.textLiteral gappedValue = "'" ++ gappedValue ++ "'" := by rfl
  rw [gappedMembers, after_union rfl rfl, registered, memberBranch, ← tables, ← column, ← literal]
  rfl

theorem markless_member_branch {operand : String} (free : Markless operand) :
    Markless (memberBranch memberTables operand).text := by
  have compared : Markless (" where " ++ Template.unionConditionGap ++
      ("dflocal.MEMBER_ID" ++ " = " ++ operand)) :=
    (free.behind (by decide)).behind (by decide)
  rw [memberBranch, String.append_empty]
  exact (compared.behind (by decide)).behind (by decide)

/-- The delete of these members up to the mark. -/
def gappedDelete : String :=
  "delete from MEMBER where MEMBER_ID in (select dflocal.MEMBER_ID from MEMBER dflocal " ++
    "union select dflocal.MEMBER_ID from MEMBER dflocal where dflocal.MEMBER_ID = '"

theorem gapped_branch_filled :
    (memberBranch memberTables ("'" ++ gappedValue ++ "'")).filled memberKeys =
      "select dflocal.MEMBER_ID from MEMBER dflocal where dflocal.MEMBER_ID = " ++
        "'--#df:sqbegin#'" := by
  apply String.toList_injective
  simp only [memberBranch, UnionBranch.filled, Template.closeGaps, Template.to_list_replace,
    String.toList_append, memberKeys, memberTables, gappedValue, Template.unionSelectGap,
    Template.unionConditionGap, Template.unionWhereGap, String.reduceToList]
  decide +kernel

theorem gapped_members_rows {rows : String} (chosen : ChangedRows gappedMembers rows) :
    "delete from MEMBER" ++ rows = gappedDelete ++ "--#df:sqbegin#')" := by
  have keys : gappedMembers.keySelect ⟨"MEMBER_ID", ⟨"MEMBER_ID"⟩, true⟩ = memberKeys := by
    rw [gapped_members_eq]
    rfl
  have tables : gappedMembers.fromClause "" = memberTables := by
    rw [gapped_members_eq]
    rfl
  have united : gappedMembers.unionClause memberKeys =
      " union " ++ ("select dflocal.MEMBER_ID from MEMBER dflocal where dflocal.MEMBER_ID = " ++
        "'--#df:sqbegin#'") := by
    rw [union_clause_of_branch (congrArg unions gapped_members_eq), gapped_branch_filled]
    rfl
  have unfiltered : gappedMembers.whereClause = "" := by
    rw [gapped_members_eq]
    rfl
  have needed : gappedMembers.needsSubQuery = true := by
    rw [gapped_members_eq]
    rfl
  have single : gappedMembers.table.primaryKey = [⟨"MEMBER_ID", ⟨"MEMBER_ID"⟩, true⟩] := by
    rw [gapped_members_eq]
    rfl
  rw [rows_of_key needed single chosen, keys, tables, unfiltered, united]
  decide +kernel

theorem gapped_members_without_marks : gappedMembers.NoMarks := by
  rw [gapped_members_eq]
  refine ⟨by decide, by decide, nofun, nofun, nofun, fun branch member => ?_⟩
  obtain rfl := List.mem_singleton.mp member
  exact markless_member_branch (by decide)

theorem mark_made_by_closed_gap :
    Reachable memberSchema gappedMembers ∧ gappedMembers.fetch.isEffective = false ∧
      gappedMembers.NoMarks ∧ ¬ gappedMembers.ChangeRefused ∧
        ∃ refusal, gappedMembers.renderDelete = .error refusal := by
  have accepted : ¬ gappedMembers.ChangeRefused := by
    rw [gapped_members_eq]
    exact accepted_of_single_key rfl rfl (by decide)
  have unlimited : gappedMembers.fetch.isEffective = false := by
    rw [gapped_members_eq]
    rfl
  refine ⟨(member_in_reachable .postgresql).after _, unlimited, gapped_members_without_marks,
    accepted, ?_⟩
  obtain ⟨rows, chosen⟩ := changed_rows_exist accepted
  have named : "delete from " ++ gappedMembers.table.sqlName.text = "delete from MEMBER" := by
    rw [gapped_members_eq]
    rfl
  rw [renderDelete, update_where_ok_iff.mpr ⟨accepted, chosen⟩]
  change ∃ refusal, SubQuery.layout ("delete from " ++ gappedMembers.table.sqlName.text ++ rows) =
    .error refusal
  rw [named, gapped_members_rows chosen]
  have shape : (gappedDelete ++ "--#df:sqbegin#')").toList =
      gappedDelete.toList ++ (SubQuery.beginStem ++ "')".toList) := by
    rw [String.toList_append]
    rfl
  exact ⟨_, SubQuery.layout_of_unterminated shape (by decide +kernel) (by decide)⟩

end Statement
end SqlComposer
