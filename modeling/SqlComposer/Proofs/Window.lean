import SqlComposer.Proofs.Affixes
import SqlComposer.Proofs.DirectForm
import SqlComposer.Proofs.Rendering

/-!
The window of rows of a statement. It is written into the select that the statement is rendered to,
where it can only lengthen the text, and into no delete or update of the selected rows.
-/
namespace SqlComposer

/-- Texts that leave marks and lines as they are. -/
def IsOneLine (text : String) : Prop := ∀ c ∈ text.toList, c ≠ '#' ∧ c ≠ '\n'

instance (text : String) : Decidable (IsOneLine text) :=
  List.decidableBAll _ text.toList

theorem one_line_append {first second : String} (left : IsOneLine first)
    (right : IsOneLine second) : IsOneLine (first ++ second) := by
  intro c member
  rw [String.toList_append, List.mem_append] at member
  exact member.elim (left c) (right c)

theorem IsOneLine.hashless {text : String} (line : IsOneLine text) : '#' ∉ text.toList :=
  fun member => (line _ member).1 rfl

theorem one_line_of_number (number : Int) : IsOneLine (toString number) := by
  intro c member
  rcases chars_of_int number c member with digit | rfl
  · constructor
    · rintro rfl
      revert digit
      decide
    · rintro rfl
      revert digit
      decide
  · decide

theorem one_line_of_numbers (before between : String) (first second : Int)
    (left : IsOneLine before) (middle : IsOneLine between) :
    IsOneLine (before ++ toString first ++ between ++ toString second) := by
  have start := one_line_append left (one_line_of_number first)
  exact one_line_append (one_line_append start middle) (one_line_of_number second)

theorem paging_one_line (dialect : Dialect) (window : RowWindow) :
    IsOneLine (dialect.paging window).hint ∧ IsOneLine (dialect.paging window).suffix := by
  have numbers := one_line_of_numbers
  have empty : IsOneLine "" := by decide
  have offset : IsOneLine window.offsetFetch :=
    one_line_append (numbers " offset " " rows fetch next " _ _ (by decide) (by decide)) (by decide)
  cases dialect with
  | mysql | sqlite => exact ⟨empty, numbers " limit " ", " _ _ (by decide) (by decide)⟩
  | postgresql => exact ⟨empty, numbers " offset " " limit " _ _ (by decide) (by decide)⟩
  | h2 => exact ⟨empty, numbers " limit " " offset " _ _ (by decide) (by decide)⟩
  | oracle =>
      have hint : IsOneLine " * from (select plain.*, rownum rn from (select" := by decide
      exact ⟨hint, numbers ") plain) ext where ext.rn > " " and ext.rn <= " _ _ (by decide)
        (by decide)⟩
  | derby => exact ⟨empty, offset⟩
  | msAccess => exact ⟨empty, empty⟩
  | sqlServer =>
      unfold Dialect.paging
      dsimp only
      split_ifs
      · exact ⟨one_line_append (by decide) (one_line_of_number _), empty⟩
      · exact ⟨empty, one_line_append empty offset⟩
      · exact ⟨empty, one_line_append (by decide) offset⟩
  | db2 =>
      unfold Dialect.paging
      dsimp only
      split_ifs
      · have start : IsOneLine " fetch first " := by decide
        have number := one_line_append start (one_line_of_number window.size.toInt)
        exact ⟨empty, one_line_append number (by decide)⟩
      · exact ⟨empty, offset⟩

theorem paging_filled {dialect : Dialect} (native : dialect.limitsRows = true)
    (window : RowWindow) :
    0 < (dialect.paging window).hint.toList.length +
      (dialect.paging window).suffix.toList.length := by
  have same : ∀ text : String, toString text = text := fun _ => rfl
  cases dialect with
  | msAccess => cases native
  | sqlServer | db2 =>
      unfold Dialect.paging
      dsimp only
      split_ifs <;> simp [RowWindow.offsetFetch, String.toList_append, same]
  | oracle =>
      have hint : 0 < " * from (select plain.*, rownum rn from (select".toList.length := by decide
      exact Nat.add_pos_left hint _
  | _ => simp [Dialect.paging, RowWindow.offsetFetch, String.toList_append, same]

namespace Statement

theorem lock_suffix_free {statement : Statement} {lock : LockText}
    (locked : statement.lockText = .ok lock) : '#' ∉ lock.suffix.toList := by
  have aliasFree : '#' ∉ statement.baseAlias.toList := by
    intro member
    have word := (base_alias_name statement).word _ member
    revert word
    decide +kernel
  unfold lockText at locked
  split_ifs at locked
  · cases known : statement.dialect with
    | oracle =>
        rw [known] at locked
        obtain rfl := Except.ok.inj locked
        simp [String.toList_append, aliasFree]
    | sqlite | msAccess => rw [known] at locked; cases locked
    | _ =>
        rw [known] at locked
        obtain rfl := Except.ok.inj locked
        decide
  · obtain rfl := Except.ok.inj locked
    decide

/-- The same statement with another window. -/
def withFetch (statement : Statement) (fetch : FetchScope) : Statement := { statement with fetch }

theorem same_selection_of_fetch (statement : Statement) (fetch : FetchScope) :
    SameSelection statement (statement.withFetch fetch) :=
  ⟨rfl, rfl, rfl, rfl, rfl, fun _ => rfl, rfl, rfl, rfl, rfl⟩

theorem order_clause_of_fetch (statement : Statement) (fetch : FetchScope) :
    (statement.withFetch fetch).orderClause = statement.orderClause := by
  rw [orderClause, (same_selection_of_fetch statement fetch).select_aliases]
  rfl

/-- A list select as it is assembled: the texts of its window stand in its outermost select and
before the lock. -/
def assembled (statement : Statement) (columns : List SelectColumn) (order : String)
    (lock : LockText) (paging : PagingText) : String :=
  let plain := statement.listSelect columns ""
  let body := statement.fromClause lock.hint ++ statement.whereClause ++
    statement.unionClause plain
  if statement.hasUnion && statement.dialect.enclosesUnion then
    "select" ++ paging.hint ++ " * from (" ++ plain ++ body ++ ") " ++ mainAlias ++ order ++
      (paging.suffix ++ lock.suffix)
  else
    statement.listSelect columns paging.hint ++ body ++ order ++ (paging.suffix ++ lock.suffix)

/-- Whatever the window is, everything else in the assembled select stays. -/
theorem marked_with_window {statement : Statement} (listed : statement.selectType = .columns)
    {sql : String} (written : statement.marked = .ok sql) :
    ∃ (columns : List SelectColumn) (order : String) (lock : LockText),
      statement.selectColumns = .ok columns ∧ statement.orderClause = .ok order ∧
        statement.lockText = .ok lock ∧ ∀ fetch, (statement.withFetch fetch).marked =
          .ok (statement.assembled columns order lock (statement.withFetch fetch).paging) := by
  obtain ⟨columns, plain, order, lock, composed⟩ := composed_of_marked written
  have called : statement.selectType.function? = none := by
    rw [listed]
    rfl
  have same := same_selection_of_fetch statement
  have list := select_clause_lists (.inl called) columns ""
  obtain rfl := Except.ok.inj (composed.selected.symm.trans list)
  refine ⟨columns, order, lock, composed.listed, composed.ordered, composed.locked,
    fun fetch => ?_⟩
  refine Composed.marked ⟨composed.closed, (same fetch).select_columns.trans composed.listed, list,
    (order_clause_of_fetch statement fetch).trans composed.ordered, composed.locked, ?_⟩
  cases encloses : statement.hasUnion && statement.dialect.enclosesUnion with
  | true =>
      rw [assembled, encloses, if_pos rfl]
      exact .enclosed called encloses
  | false =>
      rw [assembled, encloses, if_neg Bool.false_ne_true]
      exact .list called encloses

/-- A list select as it is written with any window: a hint in its select, and a text before that of
the lock. -/
theorem marked_of_columns {statement : Statement} (listed : statement.selectType = .columns)
    {sql : String} (written : statement.marked = .ok sql) :
    ∃ middle lock : String, '#' ∉ lock.toList ∧ ∀ fetch,
      (statement.withFetch fetch).marked =
        .ok ("select" ++ (statement.withFetch fetch).paging.hint ++ " " ++ middle ++
          ((statement.withFetch fetch).paging.suffix ++ lock)) := by
  obtain ⟨columns, order, lock, _, _, locked, marked⟩ := marked_with_window listed written
  let plain := statement.listSelect columns ""
  let list := Text.join ", " (columns.map statement.columnText)
  let body := statement.fromClause lock.hint ++ statement.whereClause ++
    statement.unionClause plain
  cases encloses : statement.hasUnion && statement.dialect.enclosesUnion with
  | true =>
      refine ⟨"* from (" ++ plain ++ body ++ ") " ++ mainAlias ++ order, lock.suffix,
        lock_suffix_free locked, fun fetch => ?_⟩
      rw [marked, assembled, encloses, if_pos rfl]
      have blank : " * from (" = " " ++ "* from (" := by decide
      simp only [blank, plain, body, String.append_assoc]
  | false =>
      refine ⟨list ++ body ++ order, lock.suffix, lock_suffix_free locked, fun fetch => ?_⟩
      rw [marked, assembled, encloses, if_neg Bool.false_ne_true]
      simp only [listSelect, list, body, plain, String.append_assoc]

theorem paging_of_no_window (statement : Statement) {fetch : FetchScope}
    (open_ended : fetch.isEffective = false) :
    (statement.withFetch fetch).paging = PagingText.none := by
  have window : (statement.withFetch fetch).window? = none := by
    rw [window?, withFetch, open_ended]
    rfl
  rw [paging, window]
  split_ifs <;> rfl

theorem paging_of_window {statement : Statement} (listed : statement.selectType = .columns)
    (windowed : statement.fetch.isEffective = true) :
    statement.paging = statement.dialect.paging
      ⟨statement.fetch.pageStart, statement.fetch.size, statement.isOrdered⟩ := by
  have called : statement.selectType.isScalar = false := by
    rw [listed]
    rfl
  rw [paging, called, window?, windowed]
  rfl

/-- A window in a text with marks: a hint in its select and a suffix before that of the lock. -/
theorem layout_of_no_window {hint middle suffix lock : String} (hintLine : IsOneLine hint)
    (suffixLine : IsOneLine suffix) (free : '#' ∉ lock.toList) {narrow : String}
    (laid : SubQuery.layout ("select" ++ hint ++ " " ++ middle ++ (suffix ++ lock)) = .ok narrow) :
    ∃ wide, SubQuery.layout ("select " ++ middle ++ lock) = .ok wide ∧
      wide.length + hint.toList.length + suffix.toList.length ≤ narrow.length := by
  obtain ⟨chars, accepted, rfl⟩ := map_eq_ok laid
  have short : SubQuery.Quiet ("select".toList ++ [' ']) :=
    SubQuery.quiet_of_hashless (by decide)
  have hashless : '#' ∉ ("select" ++ hint).toList := by
    rw [String.toList_append, List.mem_append, not_or]
    exact ⟨by decide, hintLine.hashless⟩
  have unbroken : '\n' ∉ ("select" ++ hint).toList ++ [' '] := by
    rw [String.toList_append, List.mem_append, List.mem_append, not_or, not_or]
    exact ⟨⟨by decide, fun member => (hintLine _ member).2 rfl⟩, by decide⟩
  have before : SubQuery.columnAfter 0 ("select".toList ++ [' ']) ≤
      SubQuery.columnAfter 0 (("select" ++ hint).toList ++ [' ']) := by
    rw [SubQuery.column_after_unbroken unbroken, SubQuery.column_after_unbroken (by decide)]
    simp
  have long : ("select" ++ hint ++ " " ++ middle ++ (suffix ++ lock)).toList =
      ("select" ++ hint).toList ++ [' '] ++ middle.toList ++ (suffix.toList ++ lock.toList) := by
    simp [String.toList_append]
  rw [long] at accepted
  obtain ⟨shorter, laidShorter, lengths⟩ := SubQuery.layout_from_without short
    (SubQuery.quiet_of_hashless hashless) before suffixLine.hashless free
    accepted
  refine ⟨String.ofList shorter, ?_, ?_⟩
  · have text : ("select " ++ middle ++ lock).toList =
        "select".toList ++ [' '] ++ middle.toList ++ lock.toList := by
      simp [String.toList_append]
    rw [SubQuery.layout, text, laidShorter]
    rfl
  · rw [String.length_ofList, String.length_ofList]
    simp only [String.toList_append, List.length_append] at lengths
    omega

/-- A statement is written to a longer text with its window than without it. -/
theorem render_of_no_window {statement : Statement} (listed : statement.selectType = .columns)
    (native : statement.dialect.limitsRows = true) (windowed : statement.fetch.isEffective = true)
    {narrow : String} (rendered : statement.render = .ok narrow) {fetch : FetchScope}
    (unbounded : fetch.isEffective = false) :
    ∃ wide, (statement.withFetch fetch).render = .ok wide ∧ wide.length < narrow.length := by
  obtain ⟨sql, written, laid⟩ := bind_eq_ok rendered
  obtain ⟨middle, lock, free, marked⟩ := marked_of_columns listed written
  let window : RowWindow :=
    ⟨statement.fetch.pageStart, statement.fetch.size, statement.isOrdered⟩
  have paged : statement.paging = statement.dialect.paging window :=
    paging_of_window listed windowed
  have here := marked statement.fetch
  change statement.marked = .ok ("select" ++ statement.paging.hint ++ " " ++ middle ++
    (statement.paging.suffix ++ lock)) at here
  have there := marked fetch
  rw [paging_of_no_window statement unbounded] at there
  rw [written, paged] at here
  rw [Except.ok.inj here] at laid
  obtain ⟨hintLine, suffixLine⟩ := paging_one_line statement.dialect window
  obtain ⟨wide, laidWide, shorter⟩ := layout_of_no_window hintLine suffixLine free laid
  have filled := paging_filled native window
  refine ⟨wide, ?_, by omega⟩
  have text : "select" ++ PagingText.none.hint ++ " " ++ middle ++
      (PagingText.none.suffix ++ lock) = "select " ++ middle ++ lock := by
    rw [← String.toList_inj]
    simp [PagingText.none, String.toList_append]
  rw [render_eq, there, ← laidWide, ← text]
  rfl

theorem assignments_of_fetch (statement : Statement) (fetch : FetchScope)
    (columns : List (String × String)) :
    (statement.withFetch fetch).assignments columns = statement.assignments columns := by
  induction columns with
  | nil => rfl
  | cons column rest ih =>
      rw [assignments, assignments, ih]
      rfl

/-- The window of a statement has no part in the deletes and updates of its rows, although it has
one in the statement itself. -/
theorem updates_ignore_window {statement : Statement} (listed : statement.selectType = .columns)
    (native : statement.dialect.limitsRows = true) (windowed : statement.fetch.isEffective = true)
    {narrow : String} (rendered : statement.render = .ok narrow) :
    (∀ fetch : FetchScope, fetch.isEffective = false →
        ∃ wide, (statement.withFetch fetch).render = .ok wide ∧ wide.length < narrow.length) ∧
      ∀ fetch, (statement.withFetch fetch).renderDelete = statement.renderDelete ∧
        ∀ columns, (statement.withFetch fetch).renderUpdate columns =
          statement.renderUpdate columns := by
  refine ⟨fun fetch => render_of_no_window listed native windowed rendered, fun fetch => ?_⟩
  refine ⟨rfl, fun columns => ?_⟩
  rw [renderUpdate, renderUpdate, assignments_of_fetch]
  rfl

theorem render_of_hashless {statement : Statement} {sql : String}
    (written : statement.marked = .ok sql) (free : '#' ∉ sql.toList) :
    statement.render = .ok sql :=
  render_of_marked written (SubQuery.layout_of_hashless free)

def firstMember : Statement := newMember.afterAll [.fetchFirst 1]

def firstMemberText : String :=
  "select dflocal.MEMBER_ID as c1, dflocal.INVITER_ID as c2 from MEMBER dflocal limit 0, 1"

theorem first_member_rendered : firstMember.render = .ok firstMemberText := by
  have written : firstMember.marked = .ok firstMemberText := by rfl
  exact render_of_marked written
    (SubQuery.layout_of_no_marks (by decide +kernel) (by decide +kernel))

theorem updates_ignore_first_page :
    (∃ wide, (firstMember.withFetch {}).render = .ok wide ∧
        wide.length < firstMemberText.length) ∧
      (firstMember.withFetch {}).renderDelete = firstMember.renderDelete :=
  have listed : firstMember.selectType = .columns := rfl
  have ignored := updates_ignore_window listed rfl rfl first_member_rendered
  ⟨ignored.1 {} rfl, (ignored.2 {}).1⟩

/-- Only the first member is selected, and every member is deleted. -/
theorem delete_exceeds_first_page :
    let all := firstMember.after (.suppressFetch true)
    all.render =
        .ok "select dflocal.MEMBER_ID as c1, dflocal.INVITER_ID as c2 from MEMBER dflocal" ∧
      all.render ≠ firstMember.render ∧
        all.renderDelete = .ok "delete from MEMBER" ∧
          firstMember.renderDelete = .ok "delete from MEMBER" := by
  intro all
  have rendered : all.render =
      .ok "select dflocal.MEMBER_ID as c1, dflocal.INVITER_ID as c2 from MEMBER dflocal" := by
    have written : all.marked =
        .ok "select dflocal.MEMBER_ID as c1, dflocal.INVITER_ID as c2 from MEMBER dflocal" := by rfl
    exact render_of_marked written
      (SubQuery.layout_of_no_marks (by decide +kernel) (by decide +kernel))
  have deleted : SubQuery.layout "delete from MEMBER" = .ok "delete from MEMBER" :=
    SubQuery.layout_of_no_marks (by decide) (by decide)
  refine ⟨rendered, ?_, deleted, deleted⟩
  rw [rendered, first_member_rendered]
  decide +kernel

end Statement
end SqlComposer
