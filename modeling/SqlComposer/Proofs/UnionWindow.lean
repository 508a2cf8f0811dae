import SqlComposer.Proofs.Replacement
import SqlComposer.Proofs.Window

/-!
The window of a union. Every dialect puts the texts of a window around the whole union, Oracle even
a select that numbers its rows; but a window of SQL Server that starts at the first row is a hint in
the first branch and does not reach the others.
-/
namespace SqlComposer

/-- One text is a part of another. -/
def Within (inner outer : String) : Prop := ∃ before after, outer = before ++ inner ++ after

theorem within_iff_chars {inner outer : String} :
    Within inner outer ↔ inner.toList <:+: outer.toList := by
  constructor
  · rintro ⟨before, after, rfl⟩
    exact ⟨before.toList, after.toList, by rw [String.toList_append, String.toList_append]⟩
  · rintro ⟨before, after, shape⟩
    refine ⟨String.ofList before, String.ofList after, ?_⟩
    rw [← String.toList_inj, String.toList_append, String.toList_append, String.toList_ofList,
      String.toList_ofList, shape]

/-- A text that goes on behind its first characters is no part of itself with something put between
them, if its first character does not come again there. -/
theorem not_infix_of_inserted {c : Char} {first inserted rest : List Char}
    (once : c ∉ first ++ inserted) (parts : ¬ rest <+: inserted ++ rest) :
    ¬ c :: first ++ rest <:+: c :: first ++ inserted ++ rest := by
  rintro ⟨before, after, shape⟩
  cases before with
  | nil =>
      apply parts
      refine ⟨after, ?_⟩
      simpa [List.append_assoc] using shape
  | cons head before =>
      have lengths := congrArg List.length shape
      simp only [List.length_append, List.length_cons] at lengths
      have tails : before ++ c :: (first ++ rest ++ after) = first ++ inserted ++ rest := by
        simpa [List.append_assoc] using (List.cons.inj shape).2
      rcases List.append_eq_append_iff.mp tails with ⟨between, whole, behind⟩ | ⟨between, whole, _⟩
      · cases between with
        | nil =>
            have short := congrArg List.length whole
            simp only [List.length_append, List.length_nil] at short
            omega
        | cons next between =>
            obtain ⟨rfl, _⟩ := List.cons.inj behind
            apply once
            rw [whole]
            simp
      · have long := congrArg List.length whole
        simp only [List.length_append] at long
        omega

namespace Dialect

/-- The text before a select whose rows are numbered. -/
def numberingHead : Dialect → String
  | oracle => "select * from (select plain.*, rownum rn from ("
  | _ => ""

end Dialect

namespace Statement

/-- The window stands in the first select of the statement. -/
def LimitsFirstSelect (statement : Statement) : Prop :=
  statement.dialect = .sqlServer ∧ statement.fetch.pageStart = 0

/-- No mark of a sub-query stands in the statement as it is assembled. -/
def Unmarked (statement : Statement) : Prop :=
  ∀ sql, statement.marked = .ok sql →
    ¬ SubQuery.beginStem <:+: sql.toList ∧ ¬ SubQuery.endStem <:+: sql.toList

theorem render_of_unmarked {statement : Statement} {sql : String}
    (written : statement.marked = .ok sql) (noBegin : ¬ SubQuery.beginStem <:+: sql.toList)
    (noEnd : ¬ SubQuery.endStem <:+: sql.toList) : statement.render = .ok sql := by
  rw [← Text.has_mark_iff, Bool.not_eq_true] at noBegin noEnd
  exact render_of_marked written (SubQuery.layout_of_no_marks noBegin noEnd)

theorem assembled_of_suffix (statement : Statement) (columns : List SelectColumn)
    (order suffix : String) :
    statement.assembled columns order LockText.none ⟨"", suffix⟩ =
      statement.assembled columns order LockText.none PagingText.none ++ suffix := by
  unfold assembled PagingText.none LockText.none
  dsimp only
  split_ifs
  · simp only [String.append_empty, String.append_assoc]
  · simp only [String.append_empty, String.append_assoc]

/-- The window stands around the statement without it. -/
theorem assembled_around {statement : Statement} (columns : List SelectColumn)
    (order : String) {window : RowWindow}
    (outside : ¬ (statement.dialect = .sqlServer ∧ window.start = 0)) :
    let paging := statement.dialect.paging window
    statement.assembled columns order LockText.none paging =
      statement.dialect.numberingHead ++
        statement.assembled columns order LockText.none PagingText.none ++ paging.suffix := by
  intro paging
  have behind : paging.hint = "" → statement.dialect.numberingHead = "" →
      statement.assembled columns order LockText.none paging =
        statement.dialect.numberingHead ++
          statement.assembled columns order LockText.none PagingText.none ++ paging.suffix := by
    intro bare none
    have same : paging = ⟨"", paging.suffix⟩ := by rw [← bare]
    rw [none, same, assembled_of_suffix, String.empty_append]
  cases known : statement.dialect with
  | oracle =>
      have open_union : (statement.hasUnion && statement.dialect.enclosesUnion) = false := by
        rw [known]
        exact Bool.and_false _
      have head : "select" ++ " * from (select plain.*, rownum rn from (select" =
          "select * from (select plain.*, rownum rn from (" ++ "select" := by decide
      have hinted : paging.hint = " * from (select plain.*, rownum rn from (select" := by
        simp only [paging, known, Dialect.paging]
      simp only [assembled, open_union, Bool.false_eq_true, if_false, listSelect, hinted,
        Dialect.numberingHead, PagingText.none, LockText.none, String.append_empty]
      rw [head]
      simp only [String.append_assoc]
  | sqlServer =>
      rw [← known]
      have started : ¬ window.start = 0 := fun zero => outside ⟨known, zero⟩
      apply behind
      · simp only [paging, known, Dialect.paging, if_neg started]
      · rw [known]
        rfl
  | db2 =>
      rw [← known]
      apply behind
      · simp only [paging, known, Dialect.paging]
        split_ifs <;> rfl
      · rw [known]
        rfl
  | mysql | postgresql | h2 | derby | sqlite | msAccess =>
      rw [← known]
      apply behind
      · simp only [paging, known, Dialect.paging, PagingText.none]
      · rw [known]
        rfl

/-- A text whose first character is another one than that of a limit in a select. -/
def StartsApart (text : String) : Prop := ∃ c rest, text.toList = c :: rest ∧ c ≠ 't'

theorem StartsApart.append {text : String} (starts : StartsApart text) (behind : String) :
    StartsApart (text ++ behind) := by
  obtain ⟨c, rest, shape, other⟩ := starts
  exact ⟨c, rest ++ behind.toList, by rw [String.toList_append, shape, List.cons_append], other⟩

theorem alias_starts {statement : Statement} (relations : statement.RelationsKnown)
    {aliasName : String}
    (place : aliasName = statement.baseAlias ∨ aliasName ∈ statement.selectedRelations.keys) :
    StartsApart aliasName := by
  have outer : StartsApart "df" := ⟨'d', ['f'], by decide, by decide⟩
  have inner : StartsApart "sub" := ⟨'s', ['u', 'b'], by decide, by decide⟩
  rcases place with rfl | selected
  · unfold baseAlias
    cases statement.level with
    | zero => exact outer.append "local"
    | succ level => exact (inner.append _).append _
  · obtain ⟨tableName, number, _, rfl⟩ := relations.numbered _ (relations.selected _ selected)
    unfold relationAlias
    cases statement.level with
    | zero =>
        have word : "dfrelation_" = "df" ++ "relation_" := by decide
        rw [word]
        exact (((outer.append _).append _).append _).append _
    | succ level => exact (((((inner.append _).append _).append _).append _).append _)

theorem column_text_starts {statement : Statement} (relations : statement.RelationsKnown)
    {columns : List SelectColumn} (made : statement.selectColumns = .ok columns)
    {column : SelectColumn} (member : column ∈ columns) :
    StartsApart (statement.columnText column) := by
  have shows := (select_columns_show made).1 column member
  obtain ⟨key, expression, aliasName⟩ := column
  have starts : StartsApart expression := by
    cases shows with
    | column name place => exact ((alias_starts relations place).append _).append _
    | derived _ =>
        have opening : StartsApart "(" := ⟨'(', [], by decide, by decide⟩
        exact (opening.append _).append _
  unfold columnText
  split_ifs
  · exact starts
  · exact (starts.append _).append _

theorem list_starts {statement : Statement} (relations : statement.RelationsKnown)
    {columns : List SelectColumn} (made : statement.selectColumns = .ok columns) (hint : String) :
    StartsApart (Text.join ", " (columns.map statement.columnText) ++
      statement.fromClause hint) := by
  cases columns with
  | nil =>
      have source : StartsApart " from " := ⟨' ', "from ".toList, by decide, by decide⟩
      exact (((((source.append _).append _).append _).append _).append _)
  | cons column rest =>
      have first := column_text_starts relations made List.mem_cons_self
      cases rest with
      | nil => exact first.append _
      | cons other rest => exact ((first.append _).append _).append _

/-- The limit of a first select stands behind its first word. -/
theorem assembled_of_hint {statement : Statement} (known : statement.dialect = .sqlServer)
    (columns : List SelectColumn) (order limit : String) :
    statement.assembled columns order LockText.none ⟨limit, ""⟩ =
      "select" ++ limit ++ (" " ++ (Text.join ", " (columns.map statement.columnText) ++
        statement.fromClause "") ++ (statement.whereClause ++
        statement.unionClause (statement.listSelect columns "") ++ order)) := by
  have open_union : (statement.hasUnion && statement.dialect.enclosesUnion) = false := by
    rw [known]
    exact Bool.and_false _
  simp only [assembled, open_union, Bool.false_eq_true, if_false, listSelect, LockText.none,
    String.append_empty, String.append_assoc]

/-- A text with a limit behind its first word does not have the text without the limit in it. -/
theorem not_within_limited {size : Int} {list rest : String} (starts : StartsApart list) :
    ¬ Within ("select" ++ (" " ++ list ++ rest))
      ("select" ++ (" top " ++ toString size) ++ (" " ++ list ++ rest)) := by
  have word : "select".toList = 's' :: "elect".toList := by decide
  have limit : " top ".toList = ' ' :: 't' :: "op ".toList := by decide
  rw [within_iff_chars]
  simp only [String.toList_append, word]
  refine not_infix_of_inserted ?_ ?_
  · rw [List.mem_append, List.mem_append, not_or, not_or]
    refine ⟨by decide, by decide, fun member => ?_⟩
    rcases chars_of_int size 's' member with digit | minus
    · revert digit
      decide
    · revert minus
      decide
  · rintro ⟨behind, shape⟩
    obtain ⟨c, others, list_eq, other⟩ := starts
    have blank : " ".toList = [' '] := by decide
    simp only [limit, list_eq, blank, List.cons_append, List.nil_append,
      List.cons.injEq] at shape
    exact other shape.2.1

/-- The statement without its window, and where the window stands. -/
inductive Narrowed (statement : Statement) (wide : String) : String → Prop where
  | around (outside : ¬ statement.LimitsFirstSelect) :
      Narrowed statement wide
        (statement.dialect.numberingHead ++ wide ++ statement.paging.suffix)
  | inside (first : statement.LimitsFirstSelect) {list rest : String} (starts : StartsApart list)
      (split : wide = "select" ++ (" " ++ list ++ rest)) :
      Narrowed statement wide ("select" ++ (" top " ++ toString statement.fetch.size.toInt) ++
        (" " ++ list ++ rest))

theorem lock_text_of_unlocked {statement : Statement} (unlocked : statement.isLocked = false) :
    statement.lockText = .ok LockText.none := by
  rw [lockText, unlocked]
  rfl

theorem marked_narrowed {statement : Statement} (consistent : statement.Consistent)
    (listed : statement.selectType = .columns) (windowed : statement.fetch.isEffective = true)
    (unlocked : statement.isLocked = false) {fetch : FetchScope}
    (unbounded : fetch.isEffective = false) {narrow : String}
    (written : statement.marked = .ok narrow) :
    ∃ wide, (statement.withFetch fetch).marked = .ok wide ∧ statement.Narrowed wide narrow := by
  obtain ⟨columns, order, lock, made, _, locked, marked⟩ := marked_with_window listed written
  obtain rfl := Except.ok.inj ((lock_text_of_unlocked unlocked).symm.trans locked)
  have there := marked fetch
  rw [paging_of_no_window statement unbounded] at there
  have here := marked statement.fetch
  change statement.marked =
    .ok (statement.assembled columns order LockText.none statement.paging) at here
  refine ⟨_, there, ?_⟩
  obtain rfl := Except.ok.inj (here.symm.trans written)
  let window : RowWindow :=
    ⟨statement.fetch.pageStart, statement.fetch.size, statement.isOrdered⟩
  have paged : statement.paging = statement.dialect.paging window :=
    paging_of_window listed windowed
  by_cases first : statement.LimitsFirstSelect
  · have limit : statement.paging = ⟨" top " ++ toString statement.fetch.size.toInt, ""⟩ := by
      rw [paged, first.1, Dialect.paging, if_pos first.2]
      rfl
    rw [limit, assembled_of_hint first.1]
    refine .inside first (list_starts consistent.relations made "") ?_
    have none := assembled_of_hint first.1 columns order ""
    rw [String.append_empty] at none
    exact none
  · have outside : ¬ (statement.dialect = .sqlServer ∧ window.start = 0) := first
    have around := assembled_around columns order outside
    rw [← paged] at around
    rw [around]
    exact .around first

/-- A mark that does not stand in the narrowed text does not stand in the text without a window. -/
theorem Narrowed.absent {statement : Statement} {wide narrow : String}
    (narrowed : statement.Narrowed wide narrow) {mark : List Char} (blankless : ' ' ∉ mark)
    (wordless : ¬ mark <:+: "select".toList) (absent : ¬ mark <:+: narrow.toList) :
    ¬ mark <:+: wide.toList := by
  intro present
  apply absent
  cases narrowed with
  | around _ => exact present.trans (within_iff_chars.mp ⟨_, _, rfl⟩)
  | @inside _ list rest _ split =>
      have behind : (" " ++ list ++ rest).toList = ' ' :: (list ++ rest).toList := by
        simp [String.toList_append]
      rw [split, String.toList_append, behind] at present
      have apart : ' ' ∉ mark.tail := fun member => blankless (List.mem_of_mem_tail member)
      have later := (Text.infix_apart apart present).resolve_left wordless
      rw [String.toList_append, behind]
      exact later.trans (List.suffix_append _ _).isInfix

theorem Narrowed.render {statement : Statement} (unmarked : statement.Unmarked)
    {fetch : FetchScope} {wide narrow : String} (narrowed : statement.Narrowed wide narrow)
    (written : statement.marked = .ok narrow)
    (whole : (statement.withFetch fetch).marked = .ok wide) :
    statement.render = .ok narrow ∧ (statement.withFetch fetch).render = .ok wide := by
  obtain ⟨noBegin, noEnd⟩ := unmarked narrow written
  refine ⟨render_of_unmarked written noBegin noEnd, render_of_unmarked whole ?_ ?_⟩
  · exact narrowed.absent (by decide) (by decide) noBegin
  · exact narrowed.absent (by decide) (by decide) noEnd

theorem Narrowed.within_iff {statement : Statement} {wide narrow : String}
    (narrowed : statement.Narrowed wide narrow) :
    Within wide narrow ↔ ¬ statement.LimitsFirstSelect := by
  cases narrowed with
  | around outside => exact ⟨fun _ => outside, fun _ => ⟨_, _, rfl⟩⟩
  | inside first starts split =>
      rw [split]
      exact ⟨fun within => absurd within (not_within_limited starts), fun outside =>
        absurd first outside⟩

/-- A list select and its union without a window are a part of what they are with it, unless the
window of SQL Server starts at the first row: the limit then stands in the first select. -/
theorem window_around_select_iff {schema : Schema} (built : schema.Built) {statement : Statement}
    (reached : Reachable schema statement) (listed : statement.selectType = .columns)
    (windowed : statement.fetch.isEffective = true) (unlocked : statement.isLocked = false)
    (unmarked : statement.Unmarked) :
    let whole := statement.after (.suppressFetch true)
    ((∃ narrow, statement.render = .ok narrow) ↔ ∃ wide, whole.render = .ok wide) ∧
      ∀ narrow wide, statement.render = .ok narrow → whole.render = .ok wide →
        (Within wide narrow ↔ ¬ statement.LimitsFirstSelect) ∧
        (¬ statement.LimitsFirstSelect →
          narrow = statement.dialect.numberingHead ++ wide ++ statement.paging.suffix) ∧
        (statement.LimitsFirstSelect → ∃ rest, wide = "select" ++ rest ∧
          narrow = "select top " ++ toString statement.fetch.size.toInt ++ rest) := by
  intro whole
  have consistent := reached.consistent built
  let fetch : FetchScope := { statement.fetch with isSuppressed := true }
  have unbounded : fetch.isEffective = false := Bool.and_false _
  have rendered : ∀ narrow, statement.marked = .ok narrow → ∃ wide,
      statement.render = .ok narrow ∧ whole.render = .ok wide ∧ statement.Narrowed wide narrow := by
    intro narrow written
    obtain ⟨wide, there, narrowed⟩ :=
      marked_narrowed consistent listed windowed unlocked unbounded written
    obtain ⟨here, without⟩ := narrowed.render unmarked written there
    exact ⟨wide, here, without, narrowed⟩
  refine ⟨⟨?_, ?_⟩, ?_⟩
  · rintro ⟨_, accepted⟩
    obtain ⟨narrow, written, _⟩ := bind_eq_ok accepted
    obtain ⟨wide, _, without, _⟩ := rendered narrow written
    exact ⟨wide, without⟩
  · rintro ⟨_, accepted⟩
    obtain ⟨wide, written, _⟩ := bind_eq_ok accepted
    -- The statement is its suppressed form with the old window, so the select can be assembled.
    have listedWhole : whole.selectType = .columns := listed
    obtain ⟨_, _, _, _, _, _, marked⟩ := marked_with_window listedWhole written
    obtain ⟨_, here, _⟩ := rendered _ (marked statement.fetch)
    exact ⟨_, here⟩
  · intro narrow wide here there
    obtain ⟨text, written, _⟩ := bind_eq_ok here
    obtain ⟨other, hereAgain, thereAgain, narrowed⟩ := rendered text written
    obtain rfl := Except.ok.inj (here.symm.trans hereAgain)
    obtain rfl := Except.ok.inj (there.symm.trans thereAgain)
    refine ⟨narrowed.within_iff, fun outside => ?_, fun first => ?_⟩
    · cases narrowed with
      | around _ => rfl
      | inside first _ _ => exact absurd first outside
    · cases narrowed with
      | around outside => exact absurd first outside
      | inside _ _ split =>
          refine ⟨_, split, ?_⟩
          have word : "select top " = "select" ++ " top " := by decide
          simp only [word, String.append_assoc]

/-- One number out of those of the members and the former members. -/
def oneOfAll (dialect : Dialect) : Statement :=
  (memberIn dialect).afterAll
    [.specify "dflocal" "MEMBER_ID", .addUnionText "select ID from FORMER" false, .fetchFirst 1]

theorem one_of_all_reachable (dialect : Dialect) : Reachable memberSchema (oneOfAll dialect) :=
  (member_in_reachable dialect).afterAll _

def allMembersText : String :=
  "select dflocal.MEMBER_ID as c1 from MEMBER dflocal union select ID from FORMER"

def numberedMembersText : String :=
  "select * from (select plain.*, rownum rn from (" ++ allMembersText ++
    ") plain) ext where ext.rn > 0 and ext.rn <= 1"

def topOfMembersText : String :=
  "select top 1 dflocal.MEMBER_ID as c1 from MEMBER dflocal union select ID from FORMER"

theorem all_members_one_line : IsOneLine allMembersText := by decide +kernel

theorem unmarked_of_hashless {statement : Statement} {sql : String}
    (written : statement.marked = .ok sql) (free : '#' ∉ sql.toList) : statement.Unmarked := by
  intro other same
  obtain rfl := Except.ok.inj (written.symm.trans same)
  constructor
  · exact fun present => free (present.mem (by decide))
  · exact fun present => free (present.mem (by decide))

theorem all_members_rendered {dialect : Dialect}
    (known : dialect = .oracle ∨ dialect = .sqlServer) :
    ((oneOfAll dialect).after (.suppressFetch true)).render = .ok allMembersText := by
  have written : ((oneOfAll dialect).after (.suppressFetch true)).marked = .ok allMembersText := by
    rcases known with rfl | rfl <;> decide +kernel
  exact render_of_hashless written all_members_one_line.hashless

theorem window_around_all_members :
    (oneOfAll .oracle).render = .ok numberedMembersText ∧
      Within allMembersText numberedMembersText := by
  have written : (oneOfAll .oracle).marked = .ok numberedMembersText := by decide +kernel
  have line : IsOneLine numberedMembersText :=
    one_line_append (one_line_append (by decide) all_members_one_line) (by decide)
  have free := line.hashless
  have unmarked := unmarked_of_hashless written free
  have rendered := render_of_hashless written free
  have around := window_around_select_iff member_schema_built (one_of_all_reachable .oracle)
    rfl rfl rfl unmarked
  have stands := around.2 _ _ rendered (all_members_rendered (.inl rfl))
  have other : ¬ (oneOfAll .oracle).LimitsFirstSelect := by
    rintro ⟨dialect, _⟩
    cases dialect
  exact ⟨rendered, stands.1.mpr other⟩

/-- SQL Server takes one member and all former members. -/
theorem limit_in_first_branch :
    let limited := oneOfAll .sqlServer
    Reachable memberSchema limited ∧ limited.selectType = .columns ∧ limited.hasUnion = true ∧
      limited.fetch.isEffective = true ∧ limited.isLocked = false ∧ limited.Unmarked ∧
      limited.render = .ok topOfMembersText ∧
      (limited.after (.suppressFetch true)).render = .ok allMembersText ∧
      ¬ Within allMembersText topOfMembersText := by
  intro limited
  have written : limited.marked = .ok topOfMembersText := by decide +kernel
  have free : '#' ∉ topOfMembersText.toList := by decide +kernel
  refine ⟨one_of_all_reachable .sqlServer, rfl, rfl, rfl, rfl, unmarked_of_hashless written free,
    render_of_hashless written free, all_members_rendered (.inr rfl), ?_⟩
  rw [within_iff_chars]
  decide +kernel

end Statement
end SqlComposer
