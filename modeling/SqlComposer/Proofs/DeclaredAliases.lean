import SqlComposer.Proofs.Listing
import SqlComposer.Proofs.Window

/-!
References to select aliases. The order of a union and the aggregate around one name columns by the
aliases of the select list, and so does the order of a derived column; each of these aliases is
declared in the list that stands in the same statement.
-/
namespace SqlComposer

theorem forall_outputs_of_map_m {α β : Type} {step : α → Except ClauseError β} {inputs : List α}
    {outputs : List β} (ran : inputs.mapM step = .ok outputs) {property : β → Prop}
    (each : ∀ input ∈ inputs, ∀ output, step input = .ok output → property output) :
    ∀ output ∈ outputs, property output := by
  have traversed := forall_of_map_m ran
  clear ran
  induction traversed with
  | nil => exact nofun
  | cons here _ ih =>
      rw [List.forall_mem_cons] at each ⊢
      exact ⟨each.1 _ here, ih each.2⟩

/-- An element without the column that it orders by. -/
def Order.Element.unnamed (element : Order.Element) : Order.Element :=
  { element with alias? := none, column := "" }

namespace Statement

/-- Unions and derived columns are there only where the purpose allows them. -/
structure Permitted (statement : Statement) : Prop where
  unions : statement.unions ≠ [] → statement.purpose.forbids .union = false
  derived : statement.derivedColumns.keys ≠ [] → statement.purpose.forbids .derivedColumn = false

theorem Effect.permitted {statement after : Statement} {operation : Operation}
    (effect : Effect statement operation after) (permitted : statement.Permitted) :
    after.Permitted := by
  cases effect with
  | derive allowed _ => exact ⟨permitted.unions, fun _ => allowed⟩
  | addUnionText allowed _ _ | addUnion allowed _ => exact ⟨fun _ => allowed, permitted.derived⟩
  | recorded _ _ _ record | closeOrScope _ record =>
      obtain ⟨_, _, _, _, rfl, _⟩ := record.frame
      exact ⟨permitted.unions, permitted.derived⟩
  | _ => exact ⟨permitted.unions, permitted.derived⟩

theorem Reachable.permitted {schema : Schema} {statement : Statement}
    (reached : Reachable schema statement) : statement.Permitted := by
  have holds : statement.schema = schema ∧ statement.ScopesJoined ∧ statement.Permitted := by
    refine reachable_invariant ?_ ?_ ?_ reached
    · intro settings resolver tableName purpose level statement created
      obtain ⟨table, _, rfl⟩ := create_eq_ok created
      exact ⟨fun some => absurd rfl some, fun some => absurd rfl some⟩
    · intro statement resolver permitted
      exact ⟨permitted.unions, permitted.derived⟩
    · intro statement operation after _ permitted effect
      exact effect.permitted permitted
  exact holds.2.2

/-- A select list with a union or a derived column is written with its aliases. -/
theorem Permitted.column_text {statement : Statement} (permitted : statement.Permitted)
    (translated : statement.hasUnion = true ∨ statement.derivedColumns.keys ≠ [])
    (column : SelectColumn) :
    statement.columnText column = column.expression ++ " as " ++ column.aliasName := by
  have outer : statement.purpose.isSubQuery = false := by
    rcases translated with union | derived
    · have some : statement.unions ≠ [] := by simpa [hasUnion] using union
      have allowed := permitted.unions some
      revert allowed
      cases statement.purpose <;> decide
    · have allowed := permitted.derived derived
      revert allowed
      cases statement.purpose <;> decide
  rw [columnText, outer]
  rfl

/-- The select list declares an alias for the column of a name, for a derived column behind its
sub-query. -/
inductive Declares (statement : Statement) (columns : List SelectColumn)
    (name aliasName : String) : Prop where
  | column (own : name ∉ statement.derivedColumns.keys)
      (listed : name ++ " as " ++ aliasName ∈ columns.map statement.columnText)
  | derived {subQuery : String} (derived : (name, subQuery) ∈ statement.derivedColumns.entries)
      (listed : "(" ++ subQuery ++ ")" ++ " as " ++ aliasName ∈ columns.map statement.columnText)

theorem shown_of_distinct {columns : List SelectColumn}
    (distinct : (columns.map SelectColumn.key).Nodup) {column : SelectColumn}
    (member : column ∈ columns) {expression : String}
    (shown : (column.key, expression) ∈ columns.map SelectColumn.shown) :
    column.expression = expression := by
  obtain ⟨other, present, same⟩ := List.mem_map.mp shown
  obtain ⟨key, rfl⟩ := Prod.mk.inj same
  rw [List.inj_on_of_nodup_map distinct present member key]

/-- In a list with distinct keys an alias belongs to the column that it is looked up for. -/
theorem declares_of_alias {statement : Statement} (permitted : statement.Permitted)
    (translated : statement.hasUnion = true ∨ statement.derivedColumns.keys ≠ [])
    {columns : List SelectColumn} (made : statement.selectColumns = .ok columns)
    (distinct : (columns.map SelectColumn.key).Nodup) {aliases : OrderedMap String String}
    (aliased : statement.selectAliases = .ok aliases) {name aliasName : String}
    (found : aliases.find? name = some aliasName) :
    statement.Declares columns name aliasName ∧
      ∃ column ∈ columns, column.key = name ∧ column.aliasName = aliasName := by
  obtain rfl := Except.ok.inj ((select_aliases_eq made distinct).symm.trans aliased)
  obtain ⟨column, member, same⟩ := List.mem_map.mp (OrderedMap.mem_of_find?_eq_some found)
  obtain ⟨rfl, rfl⟩ := Prod.mk.inj same
  have listed : statement.columnText column ∈ columns.map statement.columnText :=
    List.mem_map_of_mem member
  rw [permitted.column_text translated] at listed
  refine ⟨?_, column, member, rfl, rfl⟩
  obtain ⟨shows, covered⟩ := select_columns_show made
  by_cases derived : column.key ∈ statement.derivedColumns.keys
  · obtain ⟨⟨name, subQuery⟩, entry, same⟩ := List.mem_map.mp derived
    obtain rfl : name = column.key := same
    rw [shown_of_distinct distinct member (covered _ _ entry)] at listed
    exact .derived entry listed
  · have own : column.expression = column.key := by
      have here := shows column member
      generalize column.key = key, column.expression = expression at here derived ⊢
      cases here with
      | column => rfl
      | derived entry => exact absurd (List.mem_map_of_mem entry) derived
    rw [own] at listed
    exact .column derived listed

/-- The text of an element of the order. Only without a union, and only for a column that is not
derived, the name of the column stands in it. -/
inductive OrdersBy (statement : Statement) (columns : List SelectColumn)
    (element : Order.Element) : String → Prop where
  | alias {aliasName : String}
      (translated : statement.hasUnion = true ∨ element.isDerived = true)
      (derived : element.isDerived = true → element.fullName ∈ statement.derivedColumns.keys)
      (declared : statement.Declares columns element.fullName aliasName) :
      OrdersBy statement columns element (element.unnamed.sql statement.dialect aliasName)
  | name (single : statement.hasUnion = false) (own : element.isDerived = false) :
      OrdersBy statement columns element (element.sql statement.dialect element.fullName)

theorem element_orders_by {statement : Statement} (consistent : statement.Consistent)
    (permitted : statement.Permitted) {columns : List SelectColumn}
    (made : statement.selectColumns = .ok columns)
    (distinct : (columns.map SelectColumn.key).Nodup) {aliases : OrderedMap String String}
    (aliased : statement.selectAliases = .ok aliases) {element : Order.Element}
    (member : element ∈ statement.order.elements) {column : String}
    (known : Order.elementColumn aliases statement.hasUnion element = .ok column) :
    statement.OrdersBy columns element (element.sql statement.dialect column) := by
  have derived := consistent.order.derived element member
  unfold Order.elementColumn at known
  split_ifs at known with asked
  · rw [Bool.or_eq_true] at asked
    have translated : statement.hasUnion = true ∨ statement.derivedColumns.keys ≠ [] := by
      refine asked.imp_right fun given => ?_
      exact List.ne_nil_of_mem (derived given)
    split at known
    · next aliasName found =>
      obtain rfl := Except.ok.inj known
      exact .alias asked derived
        (declares_of_alias permitted translated made distinct aliased found).1
    · cases known
  · obtain rfl := Except.ok.inj known
    rw [Bool.or_eq_true, not_or, Bool.not_eq_true, Bool.not_eq_true] at asked
    exact .name asked.1 asked.2

theorem order_clause_declared {statement : Statement} (consistent : statement.Consistent)
    (permitted : statement.Permitted) {columns : List SelectColumn}
    (made : statement.selectColumns = .ok columns)
    (distinct : (columns.map SelectColumn.key).Nodup) (ordered : statement.isOrdered = true)
    {order : String} (written : statement.orderClause = .ok order) :
    ∃ texts, order = " order by " ++ Text.join ", " texts ∧
      List.Forall₂ (statement.OrdersBy columns) statement.order.elements texts := by
  obtain ⟨aliases, texts, aliased, each, rfl⟩ := order_clause_of_ordered ordered written
  refine ⟨texts, rfl, ?_⟩
  have traversed := forall_of_map_m each
  rw [List.forall₂_iff_zip] at traversed ⊢
  refine ⟨traversed.1, fun {element text} paired => ?_⟩
  obtain ⟨column, known, rfl⟩ := map_eq_ok (traversed.2 paired)
  exact element_orders_by consistent permitted made distinct aliased
    (List.of_mem_zip paired).1 known

/-- An aggregate over a union stands around the select list of the union. -/
theorem aggregate_of_marked {statement : Statement} {columns : List SelectColumn}
    (made : statement.selectColumns = .ok columns) (union : statement.hasUnion = true)
    {function : String} (calls : statement.selectType.function? = some function) {sql : String}
    (marked : statement.marked = .ok sql) :
    ∃ rest, statement.aggregateOfUnion function (statement.listSelect columns "" ++ rest) =
      .ok sql := by
  obtain ⟨_, _, order, lock, composed⟩ := composed_of_marked marked
  obtain ⟨rfl, rfl⟩ := composed.plain_eq made (.inr union)
  cases composed.shape with
  | single single _ =>
      rw [union] at single
      cases single
  | aggregate _ called written =>
      obtain rfl := Option.some.inj (called.symm.trans calls)
      exact ⟨_, written⟩
  | enclosed none _ | list none _ =>
      rw [none] at calls
      cases calls

theorem aggregate_declared {statement : Statement} (consistent : statement.Consistent)
    (permitted : statement.Permitted) {columns : List SelectColumn}
    (made : statement.selectColumns = .ok columns)
    (distinct : (columns.map SelectColumn.key).Nodup) (union : statement.hasUnion = true)
    (column : statement.selectType ≠ .count) {function inner sql : String}
    (written : statement.aggregateOfUnion function inner = .ok sql) :
    ∃ column aliasName, statement.specifiedCount = 1 ∧ statement.onlySpecified = .ok column ∧
      column ++ " as " ++ aliasName ∈ columns.map statement.columnText ∧
      sql = "select " ++ function ++ "(dfmain." ++ aliasName ++ ") from (" ++ inner ++
        ") dfmain" := by
  obtain ⟨_, opens, rfl⟩ := aggregate_of_union_shape written
  cases opens with
  | count counts => exact absurd counts column
  | aggregate _ found aliased known =>
      have single : statement.specifiedCount = 1 := by
        by_contra several
        rw [only_specified_refused several] at found
        cases found
      obtain ⟨_, listed, member, rfl, rfl⟩ :=
        declares_of_alias permitted (.inl union) made distinct aliased known
      obtain ⟨column, others, again, madeAgain, shown⟩ := only_specified_shown consistent single
      obtain rfl := Except.ok.inj (found.symm.trans again)
      obtain rfl := Except.ok.inj (made.symm.trans madeAgain)
      refine ⟨listed.key, listed.aliasName, single, found, ?_, rfl⟩
      have text := permitted.column_text (.inl union) listed
      rw [shown_of_distinct distinct member shown] at text
      rw [← text]
      exact List.mem_map_of_mem member

/-- Every alias that a statement with distinct select keys refers to is declared in its select list:
those of its order, in a union for each element and otherwise for the derived ones, and the one that
the aggregate of a column takes from the union inside it. -/
theorem alias_references_declared {schema : Schema} (built : schema.Built) {statement : Statement}
    (reached : Reachable schema statement) {columns : List SelectColumn}
    (made : statement.selectColumns = .ok columns)
    (distinct : (columns.map SelectColumn.key).Nodup) {sql : String}
    (rendered : statement.render = .ok sql) :
    ∃ text, statement.marked = .ok text ∧ SubQuery.layout text = .ok sql ∧
      (statement.isOrdered = true → ∃ lock texts,
        text = statement.assembled columns (" order by " ++ Text.join ", " texts) lock
            statement.paging ∧
          List.Forall₂ (statement.OrdersBy columns) statement.order.elements texts) ∧
      ∀ function, statement.hasUnion = true → statement.selectType.function? = some function →
        statement.selectType ≠ .count → ∃ column aliasName rest,
          statement.specifiedCount = 1 ∧ statement.onlySpecified = .ok column ∧
            column ++ " as " ++ aliasName ∈ columns.map statement.columnText ∧
            text = "select " ++ function ++ "(dfmain." ++ aliasName ++ ") from (" ++
              (statement.listSelect columns "" ++ rest) ++ ") dfmain" := by
  have consistent := reached.consistent built
  have permitted := reached.permitted
  obtain ⟨text, marked, laid⟩ := bind_eq_ok rendered
  refine ⟨text, marked, laid, fun ordered => ?_, fun function union calls column => ?_⟩
  · obtain ⟨listed, order, lock, selected, written, _, assembled⟩ :=
      marked_with_window (statement.is_ordered_iff.mp ordered).2.2 marked
    obtain rfl := Except.ok.inj (made.symm.trans selected)
    obtain ⟨texts, rfl, each⟩ :=
      order_clause_declared consistent permitted made distinct ordered written
    have whole := Except.ok.inj (marked.symm.trans (assembled statement.fetch))
    exact ⟨lock, texts, whole, each⟩
  · obtain ⟨rest, written⟩ := aggregate_of_marked made union calls marked
    obtain ⟨name, aliasName, single, found, declared, same⟩ :=
      aggregate_declared consistent permitted made distinct union column written
    exact ⟨name, aliasName, rest, single, found, declared, same⟩

/-- Members and others, ordered by a column and by a derived column. -/
def orderedUnion : Statement :=
  newMember.afterAll [.specify "dflocal" "MEMBER_ID", .derive "SCORE" "select 1",
    .orderBy "dflocal.MEMBER_ID" .descending, .orderByDerived "SCORE" .ascending,
    .addUnionText "select 2, 3" false]

def orderedUnionText : String :=
  "select dflocal.MEMBER_ID as c1, (select 1) as c2 from MEMBER dflocal union select 2, 3 " ++
    "order by c1 desc, c2 asc"

def orderedUnionColumns : List SelectColumn :=
  [⟨"dflocal.MEMBER_ID", "dflocal.MEMBER_ID", "c1"⟩, ⟨"SCORE", "(select 1)", "c2"⟩]

theorem order_of_union_declared :
    orderedUnion.render = .ok orderedUnionText ∧ ∃ texts,
      List.Forall₂ (orderedUnion.OrdersBy orderedUnionColumns) orderedUnion.order.elements
        texts := by
  have written : orderedUnion.marked = .ok orderedUnionText := by decide +kernel
  have rendered := render_of_hashless written (by decide +kernel)
  have made : orderedUnion.selectColumns = .ok orderedUnionColumns := rfl
  have distinct : (orderedUnionColumns.map SelectColumn.key).Nodup := by decide
  obtain ⟨_, _, _, ordered, _⟩ := alias_references_declared member_schema_built
    (new_member_reachable.afterAll _) made distinct rendered
  obtain ⟨_, texts, _, each⟩ := ordered rfl
  exact ⟨rendered, texts, each⟩

end Statement
end SqlComposer
