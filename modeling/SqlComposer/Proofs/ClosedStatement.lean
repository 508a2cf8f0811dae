import SqlComposer.Proofs.DeclaredAliases
import SqlComposer.Proofs.Interference
import SqlComposer.Proofs.SelectTexts
import SqlComposer.Proofs.TidyRun

/-!
Statements as they are written after a run of closed texts. Every part of a statement closes what it
opens, but for the window of Oracle, which opens two parentheses right after the first word and
closes them behind the order; so the statement as a whole is closed.
-/
namespace SqlComposer

theorem closed_builds : Builds Closed where
  append before after := (before.tidy.append after.tidy).read
  enclosed closed := closed.tidy.enclosed.read
  point := by decide
  index number := ((show Closed "c" by decide).tidy.append (tidy_number number)).read

/-- The texts of a window open and close the same parentheses. -/
theorem paging_balanced (dialect : Dialect) (window : RowWindow) :
    ∃ depth, Scans false 0 depth (dialect.paging window).hint ∧
      Scans false depth 0 (dialect.paging window).suffix := by
  have number : ∀ rows : Int64, Tidy false (toString rows.toInt) := fun rows =>
    tidy_of_figures (figures_of_int rows.toInt)
  have nothing : Tidy false "" := scans_of_word (by decide)
  have offset : Tidy false window.offsetFetch := by
    have opened := (tidy_word " offset " (by decide)).append (number window.start)
    have rows := opened.word " rows fetch next " (by decide)
    exact (rows.append (number window.size)).word _ (by decide)
  cases dialect with
  | mysql | sqlite =>
      have start := (tidy_word " limit " (by decide)).append (number window.start)
      have comma := start.word ", " (by decide)
      exact ⟨0, nothing, comma.append (number window.size)⟩
  | postgresql =>
      have start := (tidy_word " offset " (by decide)).append (number window.start)
      have limit := start.word " limit " (by decide)
      exact ⟨0, nothing, limit.append (number window.size)⟩
  | h2 =>
      have size := (tidy_word " limit " (by decide)).append (number window.size)
      have start := size.word " offset " (by decide)
      exact ⟨0, nothing, start.append (number window.start)⟩
  | oracle =>
      have hint : Scans false 0 2 " * from (select plain.*, rownum rn from (select" :=
        scans_of_word (by decide)
      have closing : Scans false 2 0 ") plain) ext where ext.rn > " := scans_of_word (by decide)
      have between : Tidy false " and ext.rn <= " := scans_of_word (by decide)
      have above := (closing.append (number window.start)).append between
      exact ⟨2, hint, above.append (number window.stop)⟩
  | sqlServer =>
      have top := (tidy_word " top " (by decide)).append (number window.size)
      refine ⟨0, ?_⟩
      unfold Dialect.paging
      dsimp only
      split_ifs
      · exact ⟨top, nothing⟩
      · exact ⟨nothing, nothing.append offset⟩
      · exact ⟨nothing, (tidy_word _ (by decide)).append offset⟩
  | db2 =>
      have first := (tidy_word " fetch first " (by decide)).append (number window.size)
      refine ⟨0, ?_⟩
      unfold Dialect.paging
      dsimp only
      split_ifs
      · exact ⟨nothing, first.word _ (by decide)⟩
      · exact ⟨nothing, offset⟩
  | derby => exact ⟨0, nothing, offset⟩
  | msAccess => exact ⟨0, nothing, nothing⟩

open Condition (Holder Key LikeOption)
open Template (Gap)

namespace Order

variable {column : String} (named : Closed column)

include named

theorem scans_rank_branches {values : List String} (ranked : ∀ value ∈ values, Closed value)
    (index : Nat) : Tidy false (Element.rankBranches column index values) := by
  induction values generalizing index with
  | nil => exact tidy_word "" (by decide)
  | cons value rest ih =>
      rw [List.forall_mem_cons] at ranked
      have tested := (tidy_word " when " (by decide)).append named.tidy
      have equal := tested.word " = " (by decide)
      have known := (equal.append ranked.1.tidy).word " then " (by decide)
      exact (known.append (tidy_number index)).append (ih ranked.2 (index + 1))

theorem scans_expression {element : Element} (closed : element.Closed) :
    Tidy false (element.expression column) := by
  unfold Element.expression
  cases manual : element.manual? with
  | none => exact named.tidy
  | some values =>
      have branches := scans_rank_branches named (closed.2 values manual) 0
      have ranked := (tidy_word "case" (by decide)).append branches
      have others := ranked.word " else " (by decide)
      exact (others.append (tidy_number values.length)).word _ (by decide)

/-- An element as it is written, with a place for nulls or without one. -/
theorem closed_element {element : Element} (closed : element.Closed) (dialect : Dialect) :
    SqlComposer.Closed (element.sql dialect column) := by
  have expression := scans_expression named closed
  have space : Tidy false " " := scans_of_word (by decide)
  have direction : Tidy false element.direction.word := by
    cases element.direction <;> exact scans_of_word (by decide)
  have plain := (expression.append space).append direction
  unfold Element.sql
  cases element.nulls? with
  | none => exact plain.read
  | some place =>
      have word : Tidy false place.word := by cases place <;> exact scans_of_word (by decide)
      have present : Tidy false place.presentRank := by
        cases place <;> exact scans_of_word (by decide)
      have absent : Tidy false place.absentRank := by
        cases place <;> exact scans_of_word (by decide)
      have nulls : Tidy false " nulls " := scans_of_word (by decide)
      have tested := (tidy_word "case when " (by decide)).append expression
      have found := tested.word " is not null then " (by decide)
      have missing := (found.append present).word " else " (by decide)
      have ranked := (missing.append absent).word " end asc, " (by decide)
      have cased := ((ranked.append expression).append space).append direction
      have opened := (scans_of_word (by decide) : Scans false 0 1 "iif(").append
        (expression.inside 1)
      have chosen := (opened.word " is not null, " (by decide)).append (present.inside 1)
      have other := (chosen.word ", " (by decide)).append (absent.inside 1)
      have closing := other.append (scans_of_word (by decide) : Scans false 1 0 ") asc, ")
      have called := ((closing.append expression).append space).append direction
      cases dialect with
      | postgresql | oracle | h2 | db2 | derby => exact ((plain.append nulls).append word).read
      | mysql | sqlServer | sqlite => exact cased.read
      | msAccess => exact called.read

end Order

namespace Statement

variable {statement : Statement}

theorem AllTidy.select_parts (tidy : statement.AllTidy false) :
    statement.SelectParts Closed where
  base := (statement.tidy_base_alias : Tidy false statement.baseAlias).read
  tables known column member := by
    obtain ⟨named, written⟩ := (tidy.tables.alias_table known).columns column member
    exact ⟨named.read, written.read⟩
  relations := tidy.list.relations
  derived := tidy.list.derived
  specified := tidy.list.specified

theorem scans_list_select (statement : Statement) {columns : List SelectColumn}
    (each : ∀ column ∈ columns, ColumnHas Closed column) {hint : String} {depth : Nat}
    (hinted : Scans false 0 depth hint) :
    Scans false 0 depth (statement.listSelect columns hint) := by
  have list : Tidy false (Text.join ", " (columns.map statement.columnText)) := by
    refine tidy_join (scans_of_word (by decide)) (List.forall_mem_map.mpr fun column member => ?_)
    obtain ⟨expression, aliasName⟩ := each column member
    unfold columnText
    split_ifs
    · exact expression.tidy
    · exact (expression.tidy.word _ (by decide)).append aliasName.tidy
  have opened := (tidy_word "select" (by decide)).append hinted
  exact (opened.word " " (by decide)).append (list.inside depth)

theorem tidy_function {type : SelectType} {function : String}
    (calls : type.function? = some function) : Tidy false function := by
  cases type <;> cases calls <;> exact scans_of_word (by decide)

theorem tidy_lock {inBranch : Bool} {dialect : Dialect} {aliasName : String}
    (aliased : Tidy inBranch aliasName) {lock : LockText}
    (accepted : dialect.lock aliasName = .ok lock) :
    Tidy inBranch lock.hint ∧ Tidy inBranch lock.suffix := by
  have nothing : Tidy inBranch "" := scans_of_word (by decide)
  have word : Tidy inBranch " for update of " := scans_of_word (by decide)
  cases dialect with
  | sqlite | msAccess => cases accepted
  | oracle =>
      obtain rfl := Except.ok.inj accepted
      exact ⟨nothing, word.append aliased⟩
  | mysql | postgresql | h2 | derby | db2 =>
      obtain rfl := Except.ok.inj accepted
      exact ⟨nothing, scans_of_word (by decide)⟩
  | sqlServer =>
      obtain rfl := Except.ok.inj accepted
      exact ⟨scans_of_word (by decide), nothing⟩

theorem tidy_lock_text {lock : LockText} (locked : statement.lockText = .ok lock) :
    Tidy false lock.hint ∧ Tidy false lock.suffix := by
  unfold lockText at locked
  split_ifs at locked
  · exact tidy_lock statement.tidy_base_alias locked
  · obtain rfl := Except.ok.inj locked
    exact ⟨scans_of_word (by decide), scans_of_word (by decide)⟩

/-- What the window opens in the select it closes behind the order. An aggregate has no window. -/
theorem window_balanced (statement : Statement) :
    ∃ depth, Scans false 0 depth statement.paging.hint ∧
      Scans false depth 0 statement.paging.suffix ∧
      (statement.selectType.isScalar = true → depth = 0) := by
  have nothing : Tidy false "" := scans_of_word (by decide)
  unfold paging
  split_ifs with scalar
  · exact ⟨0, nothing, nothing, fun _ => rfl⟩
  · cases statement.window? with
    | none => exact ⟨0, nothing, nothing, fun _ => rfl⟩
    | some window =>
        obtain ⟨depth, opens, closes⟩ := paging_balanced statement.dialect window
        exact ⟨depth, opens, closes, fun given => absurd given scalar⟩

/-- A union that is wrapped into a derived table. -/
theorem closed_enclosed_union {depth : Nat} {hint select rows order suffix : String}
    (opens : Scans false 0 depth hint) (selects : Tidy false select) (tables : Tidy false rows)
    (orders : Tidy false order) (closes : Scans false depth 0 suffix) :
    Closed ("select" ++ hint ++ " * from (" ++ select ++ rows ++ ") " ++ mainAlias ++ order ++
      suffix) := by
  have main : Tidy false mainAlias := scans_of_word (by decide)
  have word := (tidy_word "select" (by decide)).append opens
  have opened : Scans false (0 + depth) (1 + depth) " * from (" :=
    Scans.deeper (scans_of_word (by decide)) depth
  have closing : Scans false (1 + depth) (0 + depth) ") " :=
    Scans.deeper (scans_of_word (by decide)) depth
  rw [Nat.zero_add] at opened closing
  have head := (word.append opened).append (selects.inside _)
  have inner := head.append (tables.inside _)
  have around := (inner.append closing).append (main.inside depth)
  exact ((around.append (orders.inside depth)).append closes).read

variable (tidy : statement.AllTidy false) (tree : statement.JoinTree)

include tidy

theorem AllTidy.select_clause {columns : List SelectColumn}
    (listed : statement.selectColumns = .ok columns) {select : String}
    (selected : statement.selectClauseOf columns "" = .ok select) : Closed select := by
  have parts := tidy.select_parts
  have list : Tidy false (statement.listSelect columns "") :=
    scans_list_select statement (parts.select_columns closed_builds listed)
      (scans_of_word (by decide))
  cases selects_of_accepted selected with
  | list _ => exact list.read
  | count _ _ => decide
  | @aggregate function column _ calls only =>
      have called := (tidy_word "select " (by decide)).append (tidy_function calls)
      have enclosed := (parts.only_specified closed_builds only).tidy.enclosed
      have whole : Closed ("select " ++ function ++ ("(" ++ column ++ ")")) :=
        (called.append enclosed).read
      simpa only [String.append_assoc] using whole

theorem AllTidy.order_clause {order : String} (written : statement.orderClause = .ok order) :
    Closed order := by
  have parts := tidy.select_parts
  cases ordered : statement.isOrdered with
  | false =>
      rw [orderClause, ordered] at written
      obtain rfl := Except.ok.inj written
      decide
  | true =>
      obtain ⟨aliases, texts, aliased, each, rfl⟩ := order_clause_of_ordered ordered written
      have word : Tidy false " order by " := scans_of_word (by decide)
      refine (word.append (tidy_join (scans_of_word (by decide)) ?_)).read
      refine forall_outputs_of_map_m each fun element present text written => ?_
      obtain ⟨column, known, rfl⟩ := map_eq_ok written
      have closed := tidy.list.order element present
      refine (Order.closed_element ?_ closed statement.dialect).tidy
      unfold Order.elementColumn at known
      split_ifs at known
      · split at known
        · next aliasName found =>
            obtain rfl := Except.ok.inj known
            exact parts.select_alias closed_builds aliased found
        · cases known
      · obtain rfl := Except.ok.inj known
        exact closed.1

/-- The aggregate of a union goes around it. -/
theorem AllTidy.aggregate_of_union {function union : String}
    (calls : statement.selectType.function? = some function) (united : Closed union) {sql : String}
    (written : statement.aggregateOfUnion function union = .ok sql) : Closed sql := by
  obtain ⟨opening, opens, rfl⟩ := aggregate_of_union_shape written
  have closing : Scans false 1 0 ") dfmain" := scans_of_word (by decide)
  suffices opened : Scans false 0 1 opening from
    ((opened.append (united.tidy.inside 1)).append closing).read
  cases opens with
  | count _ => exact scans_of_word (by decide)
  | aggregate _ _ aliased found =>
      have named := (tidy.select_parts.select_alias closed_builds aliased found).tidy
      have word := (tidy_word "select " (by decide)).append (tidy_function calls)
      have call := word.append (scans_of_word (by decide) : Scans false 0 1 "(dfmain.")
      exact (call.append (named.inside 1)).append
        (scans_of_word (by decide) : Scans false 1 1 ") from (")

include tree

/-- A statement closes whatever it opens, its sub-queries still between their marks. -/
theorem AllTidy.marked_closed {sql : String} (written : statement.marked = .ok sql) :
    Closed sql := by
  obtain ⟨columns, plain, order, lock, composed⟩ := composed_of_marked written
  obtain ⟨hints, locks⟩ := tidy_lock_text composed.locked
  have selects := (tidy.select_clause composed.listed composed.selected).tidy
  have orders := (tidy.order_clause composed.ordered).tidy
  have united := (tidy.tables.union_clause selects.read).tidy
  have rows : Tidy false (statement.body lock.hint plain) :=
    ((tidy.tables.from_clause tree hints).append tidy.tables.where_clause).append united
  have whole := selects.append rows
  obtain ⟨depth, opens, unwinds, unpaged⟩ := statement.window_balanced
  have closes := unwinds.append locks
  cases composed.shape with
  | single _ calls =>
      have scalar : statement.selectType.isScalar = true := by
        cases type : statement.selectType <;> rw [type] at calls <;> first | rfl | cases calls
      rw [unpaged scalar] at closes
      exact ((whole.append orders).append closes).read
  | aggregate _ calls written => exact tidy.aggregate_of_union calls whole.read written
  | enclosed _ _ => exact closed_enclosed_union opens selects rows orders closes
  | list _ _ =>
      have columns := tidy.select_parts.select_columns closed_builds composed.listed
      have head := scans_list_select statement columns opens
      exact (((head.append (rows.inside depth)).append (orders.inside depth)).append closes).read

omit tidy tree

/-- Whatever the values, like options, or-scopes, joins, unions, orders, windows and locks of a run
are, the statement closes what it opens as soon as the given texts do. No literal of a branch may be
written with the mark of a select clause in it. -/
theorem rendered_closed {schema : Schema} (run : TidyRun false schema statement) {sql : String}
    (rendered : statement.render = .ok sql) :
    ∃ text, statement.marked = .ok text ∧ Closed text ∧ SubQuery.layout text = .ok sql ∧
      (¬ SubQuery.beginStem <:+: text.toList → Closed sql) := by
  obtain ⟨text, marked, laid⟩ := bind_eq_ok rendered
  have closed := run.all_tidy.marked_closed run.reachable.join_tree marked
  refine ⟨text, marked, closed, laid, fun unmarked => ?_⟩
  rw [← Text.has_mark_iff, Bool.not_eq_true] at unmarked
  rw [← SubQuery.eq_of_no_begin unmarked laid]
  exact closed

theorem tidy_member_schema (inBranch : Bool) : memberSchema.Tidy inBranch := by
  intro table member
  rw [List.mem_singleton.mp member]
  refine ⟨scans_of_word (by decide), scans_of_word (by decide), ?_⟩
  simp only [memberTable, List.forall_mem_cons]
  exact ⟨⟨scans_of_word (by decide), scans_of_word (by decide)⟩,
    ⟨scans_of_word (by decide), scans_of_word (by decide)⟩, nofun⟩

/-- Members whose identity is like a searched text, with an escape character of its own. -/
def likeMembers (escape : Char) (searched : String) : Statement :=
  newMember.after (.addCondition (.qualified "dflocal" ⟨"MEMBER_ID"⟩) .likeSearch
    (({} : Holder).set .likeSearch (.text searched)) (some { escape }))

theorem like_members_run {inBranch : Bool} {escape : Char} {searched : String}
    (absent : inBranch = true → ¬ Gap.unionSelect.mark <:+: searched.toList)
    (pattern : inBranch = true →
      ¬ Gap.unionSelect.mark <:+: (LikeOption.pattern { escape } searched).toList) :
    TidyRun inBranch memberSchema (likeMembers escape searched) := by
  have created : TidyRun inBranch memberSchema newMember :=
    .new (tidy_member_schema inBranch)
      (show ofTable memberSchema {} "MEMBER" .normalUse = .ok newMember from rfl)
  refine created.after ⟨scans_of_word (by decide), fun value known => ?_,
    fun other option known given branch => ?_, nofun⟩
  · obtain rfl := Option.some.inj known
    exact .text absent
  · obtain rfl := Value.text.inj (Option.some.inj known)
    obtain rfl := Option.some.inj given
    exact pattern branch

/-- Members with a derived column whose sub-query quotes a parenthesis. -/
def scoredMembers : Statement := newMember.after (.derive "SCORE" "select ')'")

theorem scored_members_run : TidyRun false memberSchema scoredMembers := by
  have created : TidyRun false memberSchema newMember :=
    .new (tidy_member_schema false)
      (show ofTable memberSchema {} "MEMBER" .normalUse = .ok newMember from rfl)
  exact created.after ⟨by decide, by decide⟩

/-- Those members, and once more the ones that are like a text. -/
def scoredOrLike (escape : Char) (searched : String) : Statement :=
  scoredMembers.after (.addUnion (likeMembers escape searched) false)

theorem like_clauses_of_text {searched : String} (filled : searched.isEmpty = false)
    (mode : Condition.Mode) (column : ColumnRef) (escape : Char) :
    Key.likeSearch.clauses mode column (({} : Holder).set .likeSearch (.text searched))
        (some { escape }) =
      .ok [.bound column .likeSearch
        (mode.dialect.textLiteral (LikeOption.pattern { escape } searched)) (some { escape })] := by
  have held := Holder.value_of_set {} .likeSearch (.text searched)
  exact Key.clauses_of_embedded rfl rfl (fun _ => rfl) mode column rfl held filled

/-- A branch of members that are like an operand, before it is filled. -/
def likeBranch (tables operand : String) : UnionBranch where
  text := Template.unionSelectGap ++ (tables ++ (" where " ++ Template.unionConditionGap ++
    ("dflocal.MEMBER_ID" ++ " like " ++ operand)) ++ "")
  keepsDuplicates := false

def likeOperand (escape : Char) (searched : String) : String :=
  Dialect.mysql.textLiteral (LikeOption.pattern { escape } searched) ++
    LikeOption.escapeClause { escape }

theorem like_members_gapped {escape : Char} {searched : String}
    (filled : searched.isEmpty = false) :
    Template.unionSelectGap ++ (likeMembers escape searched).unionGapped =
      (likeBranch memberTables (likeOperand escape searched)).text := by
  have clauses := like_clauses_of_text filled newMember.conditionMode
    (.qualified "dflocal" ⟨"MEMBER_ID"⟩) escape
  have column : (ColumnRef.qualified "dflocal" ⟨"MEMBER_ID"⟩).text ++ " " ++ "like" ++ " " =
      "dflocal.MEMBER_ID" ++ " like " := by decide +kernel
  rw [likeMembers, after_condition, clauses, likeBranch, ← member_tables_eq, likeOperand,
    ← @String.append_assoc ("dflocal.MEMBER_ID" ++ " like "), ← column]
  rfl

def scoredSelect : String := memberSelect ++ ", (select ')') as c3"

theorem marked_of_scored_branch (branch : UnionBranch) :
    ({ scoredMembers with unions := [branch] } : Statement).marked =
      .ok (scoredSelect ++ memberTables ++ (branch.connector ++ branch.filled scoredSelect)) := by
  have selected : selectClauseOf { scoredMembers with unions := [branch] }
      (giveAliases true 1 (newMember.baseEntries ++ [⟨"SCORE", "(select ')')", "SCORE"⟩])) "" =
        .ok scoredSelect := by rfl
  have written : ({ scoredMembers with unions := [branch] } : Statement).marked = (do
      let select ← selectClauseOf { scoredMembers with unions := [branch] }
        (giveAliases true 1 (newMember.baseEntries ++ [⟨"SCORE", "(select ')')", "SCORE"⟩])) ""
      return select ++ (newMember.fromClause "" ++ "") ++
        String.join [branch.connector ++ branch.filled select] ++ "" ++ "") := by rfl
  rw [written, selected, member_tables_eq]
  change Except.ok (scoredSelect ++ (memberTables ++ "") ++ _ ++ "" ++ "") = _
  simp [String.join_cons]

/-- A statement of all members and of those that are like an operand. -/
def likeText (select tables operand : String) : String :=
  select ++ tables ++
    (" union " ++ (select ++ tables ++ " where dflocal.MEMBER_ID like " ++ operand))

theorem scored_or_like_marked {escape : Char} {searched operand : String}
    (filled : searched.isEmpty = false)
    (branch : (likeBranch memberTables (likeOperand escape searched)).filled scoredSelect =
      scoredSelect ++ memberTables ++ " where dflocal.MEMBER_ID like " ++ operand) :
    (scoredOrLike escape searched).marked =
      .ok (likeText scoredSelect memberTables operand) := by
  have united : scoredOrLike escape searched =
      { scoredMembers with
        unions := [likeBranch memberTables (likeOperand escape searched)] } := by
    rw [scoredOrLike, after_union rfl rfl, like_members_gapped filled]
    rfl
  rw [united, marked_of_scored_branch, branch]
  rfl

section

variable {select tables : String} (selects : select = scoredSelect) (names : tables = memberTables)

include selects names

set_option maxRecDepth 2000 in
theorem like_branches_filled :
    (likeBranch tables "'(o''''k' escape ''''").filled select =
        select ++ tables ++ " where dflocal.MEMBER_ID like " ++ "'(o''''k' escape ''''" ∧
      (likeBranch tables "'##df:unionSelectClause#%' escape '#'").filled select =
        select ++ tables ++ " where dflocal.MEMBER_ID like " ++
          ("'#" ++ select ++ "%' escape '#'") := by
  have selectChars : select.toList = _ ++ _ := (congrArg String.toList selects).trans
    (String.toList_append.trans (congrArg₂ _ String.toList_ofList String.toList_ofList))
  have tableChars : tables.toList = _ := (congrArg String.toList names).trans String.toList_ofList
  constructor
  all_goals
    apply String.toList_injective
    simp only [likeBranch, UnionBranch.filled, Template.closeGaps, Template.to_list_replace,
      String.toList_append, selectChars, tableChars]
    decide +kernel

/-- Neither text has marks. The one with the select clause in its literal is not closed. -/
theorem like_texts_read :
    HashFree (likeText select tables "'(o''''k' escape ''''") ∧
      Text.hasMark SubQuery.beginStem
        (likeText select tables ("'#" ++ select ++ "%' escape '#'")).toList = false ∧
      Text.hasMark SubQuery.endStem
        (likeText select tables ("'#" ++ select ++ "%' escape '#'")).toList = false ∧
      ¬ Closed (likeText select tables ("'#" ++ select ++ "%' escape '#'")) := by
  have selectChars : select.toList = _ ++ _ := (congrArg String.toList selects).trans
    (String.toList_append.trans (congrArg₂ _ String.toList_ofList String.toList_ofList))
  have tableChars : tables.toList = _ := (congrArg String.toList names).trans String.toList_ofList
  unfold HashFree Closed
  simp only [likeText, String.toList_append, selectChars, tableChars]
  decide +kernel

end

/-- A text with a parenthesis and a quote, escaped by quotes. -/
theorem quoted_pattern_closed :
    (scoredOrLike '\'' "(o'k").render =
        .ok (likeText scoredSelect memberTables "'(o''''k' escape ''''") ∧
      Closed (likeText scoredSelect memberTables "'(o''''k' escape ''''") := by
  obtain ⟨hashless, _⟩ := like_texts_read rfl rfl
  obtain ⟨branch, _⟩ := like_branches_filled rfl rfl
  have operand : likeOperand '\'' "(o'k" = "'(o''''k' escape ''''" := by decide +kernel
  rw [← operand] at branch
  have written := scored_or_like_marked (show "(o'k".isEmpty = false by decide) branch
  rw [operand] at written
  have rendered := render_of_hashless written hashless
  have run : TidyRun false memberSchema (scoredOrLike '\'' "(o'k") :=
    scored_members_run.union (like_members_run (fun _ => by decide) (fun _ => by decide)) false
  obtain ⟨text, marked, _, _, closed⟩ := rendered_closed run rendered
  obtain rfl := Except.ok.inj (marked.symm.trans written)
  exact ⟨rendered, closed fun present => hashless (present.mem (by decide))⟩

/-- Escaping a text without a mark can make a pattern with one, and the select clause that is filled
there ends the literal at its own quote. -/
theorem filled_pattern_unclosed :
    MarkFree "#df:unionSelectClause%" ∧ TidyRun false memberSchema scoredMembers ∧
      TidyRun false memberSchema (likeMembers '#' "#df:unionSelectClause%") ∧
      (scoredOrLike '#' "#df:unionSelectClause%").render =
        .ok (likeText scoredSelect memberTables ("'#" ++ scoredSelect ++ "%' escape '#'")) ∧
      ¬ Closed (likeText scoredSelect memberTables ("'#" ++ scoredSelect ++ "%' escape '#'")) := by
  obtain ⟨_, noBegin, noEnd, unclosed⟩ := like_texts_read rfl rfl
  obtain ⟨_, branch⟩ := like_branches_filled rfl rfl
  have operand : likeOperand '#' "#df:unionSelectClause%" =
      "'##df:unionSelectClause#%' escape '#'" := by decide +kernel
  rw [← operand] at branch
  have written :=
    scored_or_like_marked (show "#df:unionSelectClause%".isEmpty = false by decide) branch
  exact ⟨by decide, scored_members_run, like_members_run nofun nofun,
    render_of_marked written (SubQuery.layout_of_no_marks noBegin noEnd), unclosed⟩

end Statement
end SqlComposer
