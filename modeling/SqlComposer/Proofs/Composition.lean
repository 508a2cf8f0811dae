import SqlComposer.Proofs.Refusals
import SqlComposer.Statement.Rendering
import Mathlib.Tactic.SplitIfs

/-!
What an accepted statement is composed of. Its parts and the ways in which they are put together are
read off the writing of a statement here; what holds of its text is proved for each shape.
-/
namespace SqlComposer.Statement

variable {statement : Statement}

theorem columns_of_no_function {type : SelectType} (calls : type.function? = none) :
    type = .columns := by
  cases type <;> first | rfl | cases calls

/-- The select clauses of a statement. An aggregate of a union has the list in the union and stands
around it. -/
inductive Selects (statement : Statement) (columns : List SelectColumn) (hint : String) :
    String → Prop where
  | list (lists : statement.selectType.function? = none ∨ statement.hasUnion = true) :
      Selects statement columns hint (statement.listSelect columns hint)
  | count (single : statement.hasUnion = false) (counts : statement.selectType = .count) :
      Selects statement columns hint "select count(*)"
  | aggregate {function column : String} (single : statement.hasUnion = false)
      (calls : statement.selectType.function? = some function)
      (only : statement.onlySpecified = .ok column) :
      Selects statement columns hint ("select " ++ function ++ "(" ++ column ++ ")")

theorem selects_of_accepted {columns : List SelectColumn} {hint select : String}
    (selected : statement.selectClauseOf columns hint = .ok select) :
    statement.Selects columns hint select := by
  unfold selectClauseOf at selected
  cases calls : statement.selectType.function? with
  | none =>
      rw [calls] at selected
      obtain rfl := Except.ok.inj selected
      exact .list (.inl calls)
  | some function =>
      rw [calls] at selected
      dsimp only at selected
      split_ifs at selected with union counts
      · obtain rfl := Except.ok.inj selected
        exact .list (.inr union)
      · obtain rfl := Except.ok.inj selected
        exact .count (Bool.not_eq_true _ ▸ union) counts
      · obtain ⟨column, only, rfl⟩ := map_eq_ok selected
        exact .aggregate (Bool.not_eq_true _ ▸ union) calls only

theorem select_clause_lists
    (lists : statement.selectType.function? = none ∨ statement.hasUnion = true)
    (columns : List SelectColumn) (hint : String) :
    statement.selectClauseOf columns hint = .ok (statement.listSelect columns hint) := by
  unfold selectClauseOf
  rcases lists with calls | union
  · rw [calls]
  · rw [union]
    cases statement.selectType.function? <;> rfl

/-- What an aggregate writes before its union. Its column goes by the alias it has in the union. -/
inductive OpensUnion (statement : Statement) (function : String) : String → Prop where
  | count (counts : statement.selectType = .count) :
      OpensUnion statement function "select count(*) from ("
  | aggregate {column aliasName : String} {aliases : OrderedMap String String}
      (counts : statement.selectType ≠ .count) (only : statement.onlySpecified = .ok column)
      (listed : statement.selectAliases = .ok aliases)
      (found : aliases.find? column = some aliasName) :
      OpensUnion statement function ("select " ++ function ++ "(dfmain." ++ aliasName ++ ") from (")

theorem aggregate_of_union_shape {function union sql : String}
    (written : statement.aggregateOfUnion function union = .ok sql) :
    ∃ opening, statement.OpensUnion function opening ∧ sql = opening ++ union ++ ") dfmain" := by
  unfold aggregateOfUnion at written
  dsimp only at written
  split_ifs at written with counts
  · refine ⟨_, .count counts, ?_⟩
    rw [← Except.ok.inj written]
    exact String.toList_injective (by simp [mainAlias])
  · obtain ⟨column, only, written⟩ := bind_eq_ok written
    obtain ⟨aliases, listed, written⟩ := bind_eq_ok written
    cases found : aliases.find? column with
    | none =>
        rw [found] at written
        cases written
    | some aliasName =>
        rw [found] at written
        refine ⟨_, .aggregate counts only listed found, ?_⟩
        rw [← Except.ok.inj written]
        exact String.toList_injective (by simp [mainAlias])

/-- What stands behind a select clause, which the branches of a union have again. -/
def body (statement : Statement) (hint select : String) : String :=
  statement.fromClause hint ++ statement.whereClause ++ statement.unionClause select

/-- The ways in which a statement is put together from its select clause, its order and the texts of
its window and its lock. -/
inductive Shape (statement : Statement) (columns : List SelectColumn) (plain order : String)
    (lock : LockText) : String → Prop where
  | single {function : String} (single : statement.hasUnion = false)
      (calls : statement.selectType.function? = some function) :
      Shape statement columns plain order lock
        (plain ++ statement.body lock.hint plain ++ order ++
          (statement.paging.suffix ++ lock.suffix))
  | aggregate {function sql : String} (union : statement.hasUnion = true)
      (calls : statement.selectType.function? = some function)
      (written : statement.aggregateOfUnion function
        (plain ++ statement.body lock.hint plain) = .ok sql) :
      Shape statement columns plain order lock sql
  | enclosed (calls : statement.selectType.function? = none)
      (encloses : (statement.hasUnion && statement.dialect.enclosesUnion) = true) :
      Shape statement columns plain order lock
        ("select" ++ statement.selectHint ++ " * from (" ++ plain ++
          statement.body lock.hint plain ++ ") " ++ mainAlias ++ order ++
          (statement.paging.suffix ++ lock.suffix))
  | list (calls : statement.selectType.function? = none)
      (encloses : (statement.hasUnion && statement.dialect.enclosesUnion) = false) :
      Shape statement columns plain order lock
        (statement.listSelect columns statement.selectHint ++ statement.body lock.hint plain ++
          order ++ (statement.paging.suffix ++ lock.suffix))

structure Composed (statement : Statement) (columns : List SelectColumn) (plain order : String)
    (lock : LockText) (sql : String) : Prop where
  closed : statement.orScope.isOpen = false
  listed : statement.selectColumns = .ok columns
  selected : statement.selectClauseOf columns "" = .ok plain
  ordered : statement.orderClause = .ok order
  locked : statement.lockText = .ok lock
  shape : statement.Shape columns plain order lock sql

theorem marked_of_open (opened : statement.orScope.isOpen = true) :
    statement.marked = .error (.illegalState .orScopeStillOpen) :=
  if_pos opened

/-- With its select list made and its lock written, a statement fails for its select clause, for its
order, or for the aggregate around its unions. -/
theorem marked_of_closed {columns : List SelectColumn} {lock : LockText}
    (closed : statement.orScope.isOpen = false) (listed : statement.selectColumns = .ok columns)
    (locked : statement.lockText = .ok lock) :
    statement.marked = do
      let plain ← statement.selectClauseOf columns ""
      let order ← statement.orderClause
      let rows := statement.body lock.hint plain
      let suffix := statement.paging.suffix ++ lock.suffix
      match statement.selectType.function? with
      | some function =>
          if statement.hasUnion then statement.aggregateOfUnion function (plain ++ rows)
          else return plain ++ rows ++ order ++ suffix
      | none =>
          if statement.hasUnion && statement.dialect.enclosesUnion then
            return "select" ++ statement.selectHint ++ " * from (" ++ plain ++ rows ++ ") " ++
              mainAlias ++ order ++ suffix
          else return statement.listSelect columns statement.selectHint ++ rows ++ order ++
            suffix := by
  have hinted : statement.tableHint = .ok lock.hint := by
    rw [tableHint, locked]
    rfl
  have ended : statement.suffix = .ok (statement.paging.suffix ++ lock.suffix) := by
    rw [suffix, locked]
    rfl
  simp only [marked, closed, Bool.false_eq_true, if_false]
  rw [listed, hinted, ended]
  cases calls : statement.selectType.function? with
  | some function => simp only [bind, Except.bind, body, String.append_assoc]
  | none =>
      simp only [bind, Except.bind, body, String.append_assoc, select_clause_lists (.inl calls)]

theorem composed_of_marked {sql : String} (written : statement.marked = .ok sql) :
    ∃ columns plain order lock, statement.Composed columns plain order lock sql := by
  have closed : statement.orScope.isOpen = false := by
    cases opened : statement.orScope.isOpen with
    | false => rfl
    | true =>
        rw [marked_of_open opened] at written
        cases written
  have parts := written
  simp only [marked, closed, Bool.false_eq_true, if_false] at parts
  obtain ⟨columns, listed, parts⟩ := bind_eq_ok parts
  obtain ⟨plain, selected, parts⟩ := bind_eq_ok parts
  obtain ⟨_, hinted, parts⟩ := bind_eq_ok parts
  obtain ⟨order, ordered, _⟩ := bind_eq_ok parts
  obtain ⟨lock, locked, _⟩ := map_eq_ok hinted
  refine ⟨columns, plain, order, lock, closed, listed, selected, ordered, locked, ?_⟩
  rw [marked_of_closed closed listed locked, selected, ordered] at written
  simp only [bind, Except.bind] at written
  cases calls : statement.selectType.function? with
  | some function =>
      rw [calls] at written
      dsimp only at written
      split_ifs at written with union
      · exact .aggregate union calls written
      · obtain rfl := Except.ok.inj written
        exact .single (Bool.not_eq_true _ ▸ union) calls
  | none =>
      rw [calls] at written
      dsimp only at written
      split_ifs at written with encloses
      · obtain rfl := Except.ok.inj written
        exact .enclosed calls encloses
      · obtain rfl := Except.ok.inj written
        exact .list calls (Bool.not_eq_true _ ▸ encloses)

/-- The parts of a statement in any of its shapes are what is written. -/
theorem Composed.marked {columns : List SelectColumn} {plain order sql : String} {lock : LockText}
    (composed : statement.Composed columns plain order lock sql) : statement.marked = .ok sql := by
  rw [marked_of_closed composed.closed composed.listed composed.locked, composed.selected,
    composed.ordered]
  cases composed.shape with
  | single single calls =>
      rw [calls, single]
      rfl
  | aggregate union calls written =>
      rw [calls, union]
      exact written
  | enclosed calls encloses | list calls encloses =>
      rw [calls, encloses]
      rfl

end SqlComposer.Statement
