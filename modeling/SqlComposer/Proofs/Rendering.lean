import SqlComposer.Proofs.Composition
import SqlComposer.Proofs.Layout
import SqlComposer.Proofs.SelectList
import SqlComposer.Statement.Operation

/-!
When rendering is refused. Only an open or-scope, an aggregate without its one column, a union
ordered by what it does not select, and marks of sub-queries that do not match are left; whatever
else rendering checks on its way has been checked when it was registered.
-/
namespace SqlComposer.Statement

open SqlComposer.Order (SqlRefusal Unselected)

/-- An aggregate of a column, which has to be specified, alone. -/
def LacksOnlyColumn (statement : Statement) : Prop :=
  (statement.selectType = .max ∨ statement.selectType = .min ∨ statement.selectType = .sum ∨
    statement.selectType = .avg) ∧ statement.specifiedCount ≠ 1

/-- A union whose order asks for a column that is not in the select list. -/
def OrdersUnselected (statement : Statement) : Prop :=
  statement.selectType = .columns ∧ statement.hasUnion = true ∧
    statement.orderEffective = true ∧
    ∃ aliases, statement.selectAliases = .ok aliases ∧ Unselected aliases statement.order

/-- The refusals of a lookup that registration has done before. -/
inductive LookupRefusal : ClauseError → Prop where
  | join (aliasName : String) : LookupRefusal (.illegalState (.unknownJoin aliasName))
  | metadata (cause : MetadataError) : LookupRefusal (.metadataNotFound cause)
  | lock (dialect : Dialect) : LookupRefusal (.unsupported (.lock dialect))
  | ranking : LookupRefusal (.unsupported .manualOrderOfUnion)
  | column (column : String) : LookupRefusal (.illegalState (.columnNotSelected column))
  | during (activity : Activity) {inner : ClauseError} (within : LookupRefusal inner) :
      LookupRefusal (.during activity inner)

theorem lock_text_ok {statement : Statement} (consistent : statement.Consistent) :
    ∃ text, statement.lockText = .ok text := by
  unfold lockText
  split_ifs with locked
  · exact consistent.lock ((Bool.and_eq_true _ _).mp locked).1
  · exact ⟨_, rfl⟩

theorem table_hint_ok {statement : Statement} (consistent : statement.Consistent) :
    ∃ hint, statement.tableHint = .ok hint :=
  map_ok_iff.mpr (lock_text_ok consistent)

theorem suffix_ok {statement : Statement} (consistent : statement.Consistent) :
    ∃ suffix, statement.suffix = .ok suffix :=
  map_ok_iff.mpr (lock_text_ok consistent)

theorem select_columns_ok {statement : Statement} (consistent : statement.Consistent) :
    ∃ columns, statement.selectColumns = .ok columns := by
  obtain ⟨columns, made, _⟩ := select_columns_spec consistent
  exact ⟨columns, made⟩

theorem only_specified_refused {statement : Statement} (several : statement.specifiedCount ≠ 1) :
    statement.onlySpecified =
      .error (.ambiguousScalar statement.selectType statement.specifiedCount) :=
  if_pos several

theorem lacks_only_column_iff {statement : Statement} {function : String}
    (calls : statement.selectType.function? = some function)
    (column : statement.selectType ≠ .count) :
    statement.LacksOnlyColumn ↔ statement.specifiedCount ≠ 1 := by
  unfold LacksOnlyColumn
  cases type : statement.selectType with
  | columns => simp [type, SelectType.function?] at calls
  | count => exact absurd type column
  | max | min | sum | avg => simp

theorem not_lacks_of_columns {statement : Statement}
    (calls : statement.selectType.function? = none) : ¬ statement.LacksOnlyColumn := by
  rintro ⟨type, _⟩
  rcases type with same | same | same | same <;> simp [same, SelectType.function?] at calls

/-- The select clause itself fails only for an aggregate without a union. -/
theorem select_clause_cases {statement : Statement} (consistent : statement.Consistent)
    (columns : List SelectColumn) (hint : String) :
    ((statement.hasUnion = true ∨ ¬ statement.LacksOnlyColumn) ∧
        ∃ text, statement.selectClauseOf columns hint = .ok text) ∨
      statement.LacksOnlyColumn ∧ statement.selectClauseOf columns hint =
        .error (.ambiguousScalar statement.selectType statement.specifiedCount) := by
  unfold selectClauseOf
  cases calls : statement.selectType.function? with
  | none => exact .inl ⟨.inr (not_lacks_of_columns calls), _, rfl⟩
  | some function =>
      dsimp only
      split_ifs with union count
      · exact .inl ⟨.inl union, _, rfl⟩
      · refine .inl ⟨.inr ?_, _, rfl⟩
        rintro ⟨type, _⟩
        simp [count] at type
      · rw [lacks_only_column_iff calls count]
        by_cases single : statement.specifiedCount = 1
        · obtain ⟨column, _, found, _⟩ := only_specified_spec consistent single
          exact .inl ⟨.inr (not_not_intro single), _, by rw [found]; rfl⟩
        · refine .inr ⟨single, ?_⟩
          rw [only_specified_refused single]
          rfl

theorem aggregate_of_union_cases {statement : Statement} (consistent : statement.Consistent)
    {function : String} (calls : statement.selectType.function? = some function)
    (union : String) :
    (¬ statement.LacksOnlyColumn ∧
        ∃ text, statement.aggregateOfUnion function union = .ok text) ∨
      statement.LacksOnlyColumn ∧ statement.aggregateOfUnion function union =
        .error (.ambiguousScalar statement.selectType statement.specifiedCount) := by
  unfold aggregateOfUnion
  dsimp only
  split_ifs with count
  · refine .inl ⟨?_, _, rfl⟩
    rintro ⟨type, _⟩
    simp [count] at type
  · rw [lacks_only_column_iff calls count]
    by_cases single : statement.specifiedCount = 1
    · obtain ⟨column, aliases, found, aliased, selected⟩ := only_specified_spec consistent single
      obtain ⟨aliasName, known⟩ := (OrderedMap.mem_keys_iff_find? _ _).mp selected
      refine .inl ⟨not_not_intro single, ?_⟩
      rw [bind_ok_iff]
      refine ⟨column, found, ?_⟩
      rw [bind_ok_iff]
      refine ⟨aliases, aliased, ?_⟩
      rw [known]
      exact ⟨_, rfl⟩
    · refine .inr ⟨single, ?_⟩
      rw [only_specified_refused single]
      rfl

/-- Only a list is ordered. -/
theorem is_ordered_iff (statement : Statement) :
    statement.isOrdered = true ↔ statement.orderEffective = true ∧
      statement.order.elements ≠ [] ∧ statement.selectType = .columns := by
  have listed : statement.selectType.isScalar = false ↔ statement.selectType = .columns := by
    cases statement.selectType <;> decide
  simp only [isOrdered, Bool.and_eq_true, Bool.not_eq_true', listed, and_assoc,
    List.isEmpty_eq_false_iff]

theorem order_clause_cases {statement : Statement} (consistent : statement.Consistent) :
    (¬ statement.OrdersUnselected ∧ ∃ text, statement.orderClause = .ok text) ∨
      statement.OrdersUnselected ∧
        ∃ refusal, SqlRefusal refusal ∧ statement.orderClause = .error refusal := by
  obtain ⟨aliases, aliased, derivedSelected⟩ := select_aliases_spec consistent
  have known := consistent.order
  have unranked : statement.hasUnion = true → statement.order.hasManual = false := by
    intro union
    by_contra ranked
    have none := known.unranked (by simpa using ranked)
    simp [hasUnion, none] at union
  have derived : ∀ element ∈ statement.order.elements, element.isDerived = true →
      element.fullName ∈ aliases.keys := fun element member given =>
    derivedSelected _ (known.derived element member given)
  unfold orderClause
  split_ifs with ordered
  · obtain ⟨effective, _, columns⟩ := statement.is_ordered_iff.mp ordered
    have same : statement.OrdersUnselected ↔
        statement.hasUnion = true ∧ Unselected aliases statement.order := by
      simp [OrdersUnselected, columns, effective, aliased]
    have accepted := Order.sql_ok_iff statement.order statement.dialect aliases
      statement.hasUnion unranked derived
    rw [same, aliased]
    by_cases unselected : statement.hasUnion = true ∧ Unselected aliases statement.order
    · obtain ⟨refusal, refused⟩ := refused_of_not_ok fun ok => accepted.mp ok unselected
      refine .inr ⟨unselected, refusal, Order.sql_refusal unranked refused, ?_⟩
      change (statement.order.sql _ aliases _ >>= _) = _
      rw [refused]
      rfl
    · obtain ⟨text, written⟩ := accepted.mpr unselected
      refine .inl ⟨unselected, " " ++ text, ?_⟩
      change (statement.order.sql _ aliases _ >>= _) = _
      rw [written]
      rfl
  · refine .inl ⟨?_, _, rfl⟩
    rintro ⟨columns, _, effective, _, _, element, member, _⟩
    exact ordered (statement.is_ordered_iff.mpr
      ⟨effective, List.ne_nil_of_mem member, columns⟩)

/-- An order is written behind its words, one text for each of its elements. -/
theorem order_clause_of_ordered {statement : Statement} (ordered : statement.isOrdered = true)
    {order : String} (written : statement.orderClause = .ok order) :
    ∃ aliases texts, statement.selectAliases = .ok aliases ∧
      (statement.order.elements.mapM fun element =>
        (Order.elementColumn aliases statement.hasUnion element).map
          (element.sql statement.dialect)) = .ok texts ∧
      order = " order by " ++ Text.join ", " texts := by
  rw [orderClause, if_pos ordered] at written
  obtain ⟨aliases, aliased, written⟩ := bind_eq_ok written
  obtain ⟨clause, listed, written⟩ := bind_eq_ok written
  obtain rfl := (Except.ok.inj written).symm
  have some : ¬ statement.order.elements.isEmpty = true := by
    rw [List.isEmpty_iff]
    exact (statement.is_ordered_iff.mp ordered).2.1
  rw [Order.sql, if_neg some] at listed
  split_ifs at listed
  obtain ⟨texts, each, rfl⟩ := map_eq_ok listed
  refine ⟨aliases, texts, aliased, each, ?_⟩
  have blank : " order by " = " " ++ "order by " := by decide
  rw [blank, String.append_assoc]

theorem marked_cases {statement : Statement} (consistent : statement.Consistent)
    (closed : statement.orScope.isOpen = false) :
    (statement.LacksOnlyColumn ∧ statement.marked =
        .error (.ambiguousScalar statement.selectType statement.specifiedCount)) ∨
      (statement.OrdersUnselected ∧
        ∃ refusal, SqlRefusal refusal ∧ statement.marked = .error refusal) ∨
      (¬ statement.LacksOnlyColumn ∧ ¬ statement.OrdersUnselected ∧
        ∃ sql, statement.marked = .ok sql) := by
  obtain ⟨columns, listed⟩ := select_columns_ok consistent
  obtain ⟨lock, locked⟩ := lock_text_ok consistent
  rw [marked_of_closed closed listed locked]
  rcases select_clause_cases consistent columns "" with ⟨fits, plain, selected⟩ | ⟨lacks, refused⟩
  · rw [selected]
    rcases order_clause_cases consistent with
      ⟨fine, order, ordered⟩ | ⟨unselected, refusal, known, refused⟩
    · rw [ordered]
      cases calls : statement.selectType.function? with
      | none =>
          have whole := not_lacks_of_columns calls
          refine .inr (.inr ⟨whole, fine, ?_⟩)
          dsimp only [bind, Except.bind]
          split_ifs <;> exact ⟨_, rfl⟩
      | some function =>
          dsimp only [bind, Except.bind]
          split_ifs with union
          · rcases aggregate_of_union_cases consistent calls
              (plain ++ statement.body lock.hint plain) with ⟨whole, written⟩ | lacks
            · exact .inr (.inr ⟨whole, fine, written⟩)
            · exact .inl lacks
          · exact .inr (.inr ⟨fits.resolve_left union, fine, _, rfl⟩)
    · rw [refused]
      exact .inr (.inl ⟨unselected, refusal, known, rfl⟩)
  · rw [refused]
    exact .inl ⟨lacks, rfl⟩

theorem sql_refusal_is_no_lookup {refusal : ClauseError} (refused : SqlRefusal refusal) :
    ¬ LookupRefusal refusal := by
  cases refused <;> exact fun lookup => nomatch lookup

theorem layout_refusal_is_no_lookup {refusal : ClauseError}
    (refused : SubQuery.LayoutRefusal refusal) : ¬ LookupRefusal refusal := by
  cases refused <;> exact fun lookup => nomatch lookup

theorem marked_refusal {statement : Statement} (consistent : statement.Consistent)
    {refusal : ClauseError} (refused : statement.marked = .error refusal) :
    ¬ LookupRefusal refusal := by
  cases opened : statement.orScope.isOpen with
  | true =>
      rw [marked_of_open opened] at refused
      obtain rfl := Except.error.inj refused
      exact fun lookup => nomatch lookup
  | false =>
      rcases marked_cases consistent opened with
        ⟨_, same⟩ | ⟨_, other, known, same⟩ | ⟨_, _, sql, same⟩
      · rw [same] at refused
        obtain rfl := Except.error.inj refused
        exact fun lookup => nomatch lookup
      · rw [same] at refused
        obtain rfl := Except.error.inj refused
        exact sql_refusal_is_no_lookup known
      · rw [same] at refused
        cases refused

theorem marked_refused_iff {statement : Statement} (consistent : statement.Consistent) :
    (∃ refusal, statement.marked = .error refusal) ↔
      statement.orScope.isOpen = true ∨ statement.LacksOnlyColumn ∨
        statement.OrdersUnselected := by
  cases opened : statement.orScope.isOpen with
  | true => exact ⟨fun _ => .inl rfl, fun _ => ⟨_, marked_of_open opened⟩⟩
  | false =>
      rcases marked_cases consistent opened with
        ⟨lacks, same⟩ | ⟨unselected, refusal, _, same⟩ | ⟨whole, fine, sql, same⟩
      · exact ⟨fun _ => .inr (.inl lacks), fun _ => ⟨_, same⟩⟩
      · exact ⟨fun _ => .inr (.inr unselected), fun _ => ⟨_, same⟩⟩
      · rw [same]
        simp [whole, fine]

theorem render_eq {statement : Statement} :
    statement.render = statement.marked >>= SubQuery.layout := rfl

theorem render_of_marked {statement : Statement} {sql laid : String}
    (written : statement.marked = .ok sql) (kept : SubQuery.layout sql = .ok laid) :
    statement.render = .ok laid := by
  rw [render_eq, written]
  exact kept

/-- A reachable statement is refused when it is rendered for one of four reasons only. Its lock is
always written, and no lookup fails that has succeeded at registration. -/
theorem render_refused_iff {schema : Schema} (built : schema.Built) {statement : Statement}
    (reached : Reachable schema statement) :
    ((∃ refusal, statement.render = .error refusal) ↔
      statement.orScope.isOpen = true ∨ statement.LacksOnlyColumn ∨
        statement.OrdersUnselected ∨
        ∃ sql refusal, statement.marked = .ok sql ∧ SubQuery.layout sql = .error refusal) ∧
      (∃ suffix, statement.suffix = .ok suffix) ∧ (∃ hint, statement.tableHint = .ok hint) ∧
      ∀ refusal, statement.render = .error refusal → ¬ LookupRefusal refusal := by
  have consistent := reached.consistent built
  refine ⟨?_, suffix_ok consistent, table_hint_ok consistent, ?_⟩
  · have assembled := marked_refused_iff consistent
    constructor
    · rintro ⟨refusal, refused⟩
      rcases bind_eq_error refused with unmarked | ⟨sql, written, unlaid⟩
      · rcases assembled.mp ⟨refusal, unmarked⟩ with opened | lacks | unselected
        · exact .inl opened
        · exact .inr (.inl lacks)
        · exact .inr (.inr (.inl unselected))
      · exact .inr (.inr (.inr ⟨sql, refusal, written, unlaid⟩))
    · intro reason
      have early : (∃ refusal, statement.marked = .error refusal) →
          ∃ refusal, statement.render = .error refusal := by
        rintro ⟨refusal, unmarked⟩
        exact ⟨refusal, by rw [render_eq, unmarked]; rfl⟩
      rcases reason with opened | lacks | unselected | ⟨sql, refusal, written, unlaid⟩
      · exact early (assembled.mpr (.inl opened))
      · exact early (assembled.mpr (.inr (.inl lacks)))
      · exact early (assembled.mpr (.inr (.inr unselected)))
      · exact ⟨refusal, by rw [render_eq, written]; exact unlaid⟩
  · intro refusal refused
    rcases bind_eq_error refused with unmarked | ⟨sql, _, unlaid⟩
    · exact marked_refusal consistent unmarked
    · exact layout_refusal_is_no_lookup (SubQuery.layout_refusal unlaid)

/-- A sum without a column to sum up is refused, and nothing else is amiss with it. -/
theorem sum_without_column_refused :
    ∃ refusal, (newMember.afterAll [.classify .sum]).render = .error refusal :=
  (render_refused_iff member_schema_built (new_member_reachable.afterAll [.classify .sum])).1.mpr
    (.inr (.inl ⟨.inr (.inr (.inl rfl)), by decide⟩))

end SqlComposer.Statement
