import SqlComposer.Proofs.HashFreeSelect
import SqlComposer.Proofs.Rendering
import SqlComposer.Proofs.Sections
import SqlComposer.Proofs.Substitution

/-!
The statement of a template is the statement itself. In a run without number signs both are the
select clause, the from clause, the where clause and the union branches, one written at once and one
filled into a template; what stands around a union is written around the filled template as well.
-/
namespace SqlComposer.Statement

open Condition (Clause)
open Template (Gap Segment Unmarked fill filling write)

theorem clean_carried (branches : UnionBranch → UnionBranch → Prop) :
    (cleanLikeness branches).Carried (Kept fun text => Unmarked text.toList) where
  carries := unmarked_carries
  texts := by
    rintro first _ ⟨rfl, clean⟩
    exact ⟨rfl, clean.unmarked⟩
  admitted _ unmarked := ⟨rfl, unmarked⟩

section

variable {branches : UnionBranch → UnionBranch → Prop} {statement other : Statement}
  (coupled : Coupled (cleanLikeness branches) statement other)

include coupled

theorem from_clause_kept (names : statement.NamesFree) :
    other.fromClause "" = statement.fromClause "" ∧ Unmarked (statement.fromClause "").toList :=
  coupled.from_clause (clean_carried branches) names.table.sqlName
    (show HashFree "" by decide) (.inl rfl)

theorem conditions_kept : Clause.joined " and " other.conditions =
      Clause.joined " and " statement.conditions ∧
    Clean (Clause.joined " and " statement.conditions) :=
  coupled.joined_conditions clean_carries

end

/-- A statement of clean texts as a branch of itself. -/
theorem branch_early {statement : Statement}
    (coupled : Coupled (cleanLikeness (Early "")) statement statement)
    (names : statement.NamesFree) (keepsDuplicates : Bool) :
    Early "" ⟨Template.unionSelectGap ++ statement.unionGapped, keepsDuplicates⟩
      ⟨Template.unionSelectGap ++ statement.unionGapped, keepsDuplicates⟩ := by
  have tables := (from_clause_kept coupled names).2
  have filters := (conditions_kept coupled).2
  obtain ⟨segments, _, cut, _, _⟩ := early_segments coupled.branches
  have within := branch_in_segments tables filters cut
  exact ⟨rfl, _, _, within, within, fun _ => rfl⟩

/-- Every text of a run without number signs is clean, and every branch is in segments. -/
theorem HashFreeRun.coupled {schema : Schema} {statement : Statement}
    (run : HashFreeRun schema statement) :
    Coupled (cleanLikeness (Early "")) statement statement := by
  induction run with
  | new _ created => exact coupled_of_created created
  | withResolver _ resolver ih => exact ih.with_resolver resolver
  | nested _ _ created => exact coupled_of_created (create_of_nested created)
  | after run admits ih => exact ih.after clean_carries (matches_of_admits run.names admits)
  | @union _ _ statement branch run branchRun keepsDuplicates ih ihBranch =>
      have early := branch_early ihBranch branchRun.names keepsDuplicates
      exact ih.after clean_carries ⟨branch, rfl, early⟩

/-- What is written of a statement behind its select clause, with that select clause in its
branches. -/
def behindSelect (statement : Statement) (select : String) : String :=
  statement.fromClause "" ++ statement.whereClause ++ statement.unionClause select

theorem write_closed_segments (select : String) (statement : Statement) :
    write (filling select "") (statement.openSegments none .whereClause .firstCondition) =
      (statement.fromClause "" ++ statement.whereClause).toList := by
  unfold openSegments whereClause
  split_ifs <;> simp [write, Segment.write, filling]

/-- The template of a statement, filled with its select clause. -/
theorem filled_template {statement : Statement}
    (coupled : Coupled (cleanLikeness (Early "")) statement statement)
    (names : statement.NamesFree) {select : String} (selects : HashFree select) :
    fill statement.whereGapped select "" = select ++ statement.behindSelect select ∧
      Unmarked (fill statement.whereGapped select "").toList := by
  have tables := (from_clause_kept coupled names).2
  have filters := (conditions_kept coupled).2
  obtain ⟨segments, _, cut, _, _⟩ := early_segments coupled.branches
  have free : '#' ∉ (Text.trim "").toList := by decide
  have trimmed : Text.trim "" = "" := by decide
  have filled := fill_where_gapped tables filters cut select free
  rw [trimmed] at filled
  refine ⟨String.toList_injective ?_, ?_⟩
  · rw [filled, write_closed_segments, ← cut.clause selects, ← String.toList_append,
      ← String.toList_append]
    rfl
  · rw [filled, ← Template.write_append]
    have fit := all_segments_fit tables filters cut
    refine Unmarked.behind selects (Template.unmarked_write ?_ ?_ fit)
    · exact Template.settled_filling selects nofun
    · exact Template.hash_free_filling selects

/-- What a statement is written as, by its select clause with all that comes behind it: the text
itself, or the derived table that the text of a union is wrapped into. -/
inductive Around (statement : Statement) (filled : String) : String → Prop where
  | single (single : statement.hasUnion = false) : Around statement filled filled
  | columns (type : statement.selectType = .columns)
      (plain : statement.dialect.enclosesUnion = false) : Around statement filled filled
  | enclosed (union : statement.hasUnion = true) (type : statement.selectType = .columns)
      (encloses : statement.dialect.enclosesUnion = true) :
      Around statement filled ("select * from (" ++ filled ++ ") dfmain")
  | count (union : statement.hasUnion = true) (type : statement.selectType = .count) :
      Around statement filled ("select count(*) from (" ++ filled ++ ") dfmain")
  | aggregate {function column aliasName : String} {aliases : OrderedMap String String}
      (union : statement.hasUnion = true) (type : statement.selectType ≠ .count)
      (calls : statement.selectType.function? = some function)
      (only : statement.onlySpecified = .ok column)
      (listed : statement.selectAliases = .ok aliases)
      (found : aliases.find? column = some aliasName) :
      Around statement filled
        ("select " ++ function ++ "(dfmain." ++ aliasName ++ ") from (" ++ filled ++ ") dfmain")

theorem around_of_aggregate {statement : Statement} {function filled sql : String}
    (union : statement.hasUnion = true) (calls : statement.selectType.function? = some function)
    (written : statement.aggregateOfUnion function filled = .ok sql) :
    Around statement filled sql := by
  obtain ⟨_, opens, rfl⟩ := aggregate_of_union_shape written
  cases opens with
  | count counts => exact .count union counts
  | aggregate counts only listed found => exact .aggregate union counts calls only listed found

/-- Without a lock, a window of rows and an order nothing else is written. -/
theorem marked_around {statement : Statement} (unlocked : statement.isLocked = false)
    (whole : statement.fetch.isEffective = false) (unordered : statement.orderClause = .ok "")
    {sql : String} (written : statement.marked = .ok sql) :
    ∃ columns select, statement.selectColumns = .ok columns ∧
      statement.selectClauseOf columns "" = .ok select ∧
      Around statement (select ++ statement.behindSelect select) sql := by
  obtain ⟨columns, select, order, lock, composed⟩ := composed_of_marked written
  refine ⟨columns, select, composed.listed, composed.selected, ?_⟩
  have unlocking : statement.lockText = .ok LockText.none := by
    simp [lockText, unlocked]
  obtain rfl := Except.ok.inj (unlocking.symm.trans composed.locked)
  obtain rfl := Except.ok.inj (unordered.symm.trans composed.ordered)
  have paged : statement.paging = PagingText.none := by
    unfold paging window?
    rw [whole, if_neg Bool.false_ne_true]
    split_ifs <;> rfl
  have unhinted : statement.selectHint = "" := by
    rw [Statement.selectHint, paged]
    rfl
  have ending : statement.paging.suffix ++ LockText.none.suffix = "" := by
    rw [paged]
    rfl
  have rows : statement.body LockText.none.hint select = statement.behindSelect select := rfl
  cases composed.shape with
  | single single calls =>
      rw [rows, ending, String.append_empty, String.append_empty]
      exact .single single
  | aggregate union calls written => exact around_of_aggregate union calls written
  | enclosed calls encloses =>
      obtain ⟨union, encloses⟩ := Bool.and_eq_true_iff.mp encloses
      have shape : "select" ++ "" ++ " * from (" ++ select ++ statement.behindSelect select ++
          ") " ++ mainAlias ++ "" ++ "" =
          "select * from (" ++ (select ++ statement.behindSelect select) ++ ") dfmain" :=
        String.toList_injective (by simp [mainAlias])
      rw [rows, ending, unhinted, shape]
      exact .enclosed union (columns_of_no_function calls) encloses
  | list calls encloses =>
      have selected := (select_clause_lists (.inl calls) _ "").symm.trans composed.selected
      rw [rows, ending, unhinted, Except.ok.inj selected, String.append_empty,
        String.append_empty]
      cases union : statement.hasUnion with
      | false => exact .single union
      | true =>
          rw [union, Bool.true_and] at encloses
          exact .columns (columns_of_no_function calls) encloses

theorem layout_of_unmarked {sql : String} (unmarked : Unmarked sql.toList) :
    SubQuery.layout sql = .ok sql := by
  have absent : ∀ mark : List Char, Template.stem <:+: mark →
      Text.hasMark mark sql.toList = false := by
    intro mark within
    by_contra present
    exact unmarked (within.trans (Text.has_mark_iff.mp (Bool.not_eq_false _ ▸ present)))
  have begins : Template.stem <:+: SubQuery.beginStem := ⟨['-', '-'], "sqbegin#".toList, by decide⟩
  have ends : Template.stem <:+: SubQuery.endStem := ⟨['-', '-'], "sqend#".toList, by decide⟩
  exact SubQuery.layout_of_no_marks (absent _ begins) (absent _ ends)

theorem Around.unmarked {statement : Statement} (names : statement.NamesFree)
    (free : statement.SelectFree) {filled sql : String} (unmarked : Unmarked filled.toList)
    (around : Around statement filled sql) : Unmarked sql.toList := by
  have wrapped : ∀ opening : String, HashFree opening →
      Unmarked (opening ++ filled ++ ") dfmain").toList := by
    intro opening fits
    have nothing : Unmarked "".toList := (show HashFree "" by decide).unmarked
    have behind := unmarked_behind fits unmarked
    have closed := unmarked_across behind (show HashFree ") dfmain" by decide) (by decide) nothing
    rwa [String.append_empty] at closed
  cases around with
  | single _ | columns _ _ => exact unmarked
  | enclosed _ _ _ | count _ _ => exact wrapped _ (by decide)
  | @aggregate function column aliasName _ _ _ calls _ listed found =>
      have called : HashFree function := by
        cases type : statement.selectType <;> rw [type] at calls <;> cases calls <;> decide
      have opened := ((show HashFree "select " by decide).append called).append
        (show HashFree "(dfmain." by decide)
      have named := opened.append (select_alias_free names free listed found)
      exact wrapped _ (named.append (show HashFree ") from (" by decide))

/-- A run without number signs is written as its template is filled, with no mark to lay out. -/
theorem HashFreeRun.written {schema : Schema} {statement : Statement}
    (run : HashFreeRun schema statement) (unlocked : statement.isLocked = false)
    (whole : statement.fetch.isEffective = false) (unordered : statement.orderClause = .ok "")
    {sql : String} (marked : statement.marked = .ok sql) :
    ∃ select, statement.selectClause = .ok select ∧
      Around statement (fill statement.whereGapped select "") sql ∧
      Unmarked (fill statement.whereGapped select "").toList ∧ SubQuery.layout sql = .ok sql := by
  obtain ⟨columns, select, listed, selected, around⟩ :=
    marked_around unlocked whole unordered marked
  have selects := select_clause_free run.names run.select_free listed selected
  obtain ⟨same, unmarked⟩ := filled_template run.coupled run.names selects
  rw [← same] at around
  have kept := layout_of_unmarked (around.unmarked run.names run.select_free unmarked)
  refine ⟨select, ?_, around, unmarked, kept⟩
  rw [selectClause, listed]
  exact selected

/-- A run without number signs renders what its template is filled to, and no mark is left in it. A
union is wrapped into a derived table around the filled template. -/
theorem template_path_of_hash_free_run {schema : Schema} {statement : Statement}
    (run : HashFreeRun schema statement) (unlocked : statement.isLocked = false)
    (whole : statement.fetch.isEffective = false) (unordered : statement.orderClause = .ok "")
    {sql : String} (rendered : statement.render = .ok sql) :
    ∃ select, statement.selectClause = .ok select ∧
      Around statement (fill statement.whereGapped select "") sql ∧
      ∀ gap : Gap, Text.hasMark gap.mark (fill statement.whereGapped select "").toList = false := by
  obtain ⟨text, marked, laid⟩ := bind_eq_ok rendered
  obtain ⟨select, selected, around, unmarked, kept⟩ := run.written unlocked whole unordered marked
  obtain rfl := Except.ok.inj (laid.symm.trans kept)
  refine ⟨select, selected, around, fun gap => ?_⟩
  by_contra present
  exact unmarked.no_mark gap (Text.has_mark_iff.mp (Bool.not_eq_false _ ▸ present))

theorem member_schema_hash_free : memberSchema.HashFree := by
  intro table member
  rw [List.mem_singleton.mp member]
  exact ⟨by decide, by decide, by decide⟩

def uninvited : Operation := .addConditionText "dflocal.INVITER_ID is null"

def invitedMembers : Statement :=
  newMember.after (.addConditionText "dflocal.INVITER_ID is not null")

/-- The members without an inviter and those with one. -/
def dividedMembers : Statement :=
  (newMember.after uninvited).after (.addUnion invitedMembers false)

theorem uninvited_admitted : newMember.Admits uninvited :=
  show HashFree "dflocal.INVITER_ID is null" by decide

theorem invited_members_run : HashFreeRun memberSchema invitedMembers := by
  have created : HashFreeRun memberSchema newMember := .new member_schema_hash_free
    (show ofTable memberSchema {} "MEMBER" .normalUse = .ok newMember from rfl)
  exact created.after (show HashFree "dflocal.INVITER_ID is not null" by decide)

theorem divided_members_run : HashFreeRun memberSchema dividedMembers := by
  have created : HashFreeRun memberSchema newMember := .new member_schema_hash_free
    (show ofTable memberSchema {} "MEMBER" .normalUse = .ok newMember from rfl)
  exact .union (created.after uninvited_admitted) invited_members_run false

theorem template_path_of_divided_members :
    ∃ select sql, dividedMembers.selectClause = .ok select ∧ dividedMembers.render = .ok sql ∧
      Around dividedMembers (fill dividedMembers.whereGapped select "") sql := by
  have state : dividedMembers.isLocked = false ∧ dividedMembers.fetch.isEffective = false ∧
      dividedMembers.orderClause = .ok "" ∧ dividedMembers.marked.isOk = true := by
    decide +kernel
  obtain ⟨unlocked, whole, unordered, accepted⟩ := state
  obtain ⟨sql, marked⟩ : ∃ sql, dividedMembers.marked = .ok sql := by
    cases marked : dividedMembers.marked with
    | error refusal =>
        rw [marked] at accepted
        cases accepted
    | ok sql => exact ⟨sql, rfl⟩
  obtain ⟨_, _, _, _, kept⟩ := divided_members_run.written unlocked whole unordered marked
  have rendered := render_of_marked marked kept
  obtain ⟨select, selected, around, _⟩ :=
    template_path_of_hash_free_run divided_members_run unlocked whole unordered rendered
  exact ⟨select, sql, selected, rendered, around⟩

/-- The first join of a relation goes to the end of the joins. -/
theorem after_join {statement : Statement} {aliasName property : String} {added : Join}
    (fresh : statement.joinOf? aliasName property = none)
    (made : statement.newJoin aliasName property = .ok added) :
    statement.after (.join aliasName property) =
      { statement with joins := statement.joins.insert added.foreignAlias added } := by
  have ran : (Registration.outcome (join aliasName property) statement).2 =
      { statement with joins := statement.joins.insert added.foreignAlias added } := by
    rw [join, Registration.outcome_bind_get, fresh]
    dsimp only
    rw [Registration.outcome_bind_lift, made]
    rfl
  rw [after, Registration.perform_eq_outcome]
  change (Registration.outcome (join aliasName property >>= fun _ => pure ()) statement).2 = _
  rw [Registration.outcome_bind]
  rcases outcome : Registration.outcome (join aliasName property) statement with
    ⟨refusal | value, _⟩
  · rw [outcome] at ran
    exact ran
  · rw [outcome] at ran
    exact ran

/-- A condition in which the name of a gap stands between two days. -/
def datedCondition : String := "/*$day*/''df:whereClause/*$day*/''"

/-- Around the name there are number signs where the dialect puts them around a day. -/
theorem dated_condition_resolved :
    FixedCondition.resolve datedCondition
        ⟨"dflocal", "dfrelation_MEMBER_0", ⟨[("day", .date ⟨2024, 1, 1⟩)]⟩, .msAccess⟩ =
      .ok "#2024-01-01#df:whereClause#2024-01-01#" := by
  have parts : datedCondition.toList =
      "/*$day*/''".toList ++ ("df:whereClause".toList ++ "/*$day*/''".toList) := by decide
  rw [FixedCondition.resolve, FixedCondition.name_tables_of_plain (by decide), parts,
    @FixedCondition.substitute_reference _ _ _ "day".toList
      ("df:whereClause".toList ++ "/*$day*/''".toList) (.date ⟨2024, 1, 1⟩) (by decide) rfl,
    FixedCondition.substitute_behind (by decide),
    @FixedCondition.substitute_reference _ _ _ "day".toList [] (.date ⟨2024, 1, 1⟩) (by decide) rfl,
    FixedCondition.substitute]
  decide +kernel

def datedSchema : Schema where
  tables := memberSchema.tables
  relations :=
    ⟨[(("MEMBER", "inviter"), { inviter with fixedCondition? := some datedCondition })]⟩

/-- A new statement over members whose joins are dated, in MS Access. -/
def datedMember : Statement :=
  { newMember with schema := datedSchema, settings := { dialect := .msAccess } }

def datedRun : List Operation :=
  [.classify .count, .setParameter "day" (.date ⟨2024, 1, 1⟩), .join "dflocal" "inviter"]

def datedJoin : Join where
  localAlias := "dflocal"
  foreignAlias := "dfrelation_MEMBER_0"
  property := "inviter"
  foreignTable := "MEMBER"
  table := ⟨"MEMBER"⟩
  pairs := [(.qualified "dflocal" ⟨"INVITER_ID"⟩, .qualified "dfrelation_MEMBER_0" ⟨"MEMBER_ID"⟩)]
  fixedCondition? := some "#2024-01-01#df:whereClause#2024-01-01#"

/-- The statement before its join. -/
def countedMembers : Statement :=
  { datedMember with
    selectType := .count
    previousType? := some .columns
    parameters := ⟨[("day", .date ⟨2024, 1, 1⟩)]⟩ }

theorem dated_run_eq :
    datedMember.afterAll datedRun =
      { countedMembers with joins := ⟨[("dfrelation_MEMBER_0", datedJoin)]⟩ } := by
  have counted : datedMember.afterAll datedRun =
      countedMembers.after (.join "dflocal" "inviter") := rfl
  have made : countedMembers.newJoin "dflocal" "inviter" = .ok datedJoin := by
    have opened : countedMembers.newJoin "dflocal" "inviter" =
        ((FixedCondition.resolve datedCondition ⟨"dflocal", "dfrelation_MEMBER_0",
            ⟨[("day", .date ⟨2024, 1, 1⟩)]⟩, .msAccess⟩).map some >>=
          fun fixedCondition? => .ok { datedJoin with fixedCondition? }) := by rfl
    rw [opened, dated_condition_resolved]
    rfl
  rw [counted, after_join rfl made]
  rfl

def datedSource : String :=
  " from (MEMBER dflocal left outer join MEMBER dfrelation_MEMBER_0 on " ++
    "dflocal.INVITER_ID = dfrelation_MEMBER_0.MEMBER_ID and #2024-01-01#df:whereClause#2024-01-01#)"

def datedText : String := "select count(*)" ++ datedSource

set_option maxRecDepth 2000 in
theorem dated_text_marks : Text.hasMark SubQuery.beginStem datedText.toList = false ∧
    Text.hasMark SubQuery.endStem datedText.toList = false ∧
    Text.hasMark Gap.whereClause.mark datedText.toList = true := by
  have shape : ∃ chars, datedText.toList = chars ∧ Text.hasMark SubQuery.beginStem chars = false ∧
      Text.hasMark SubQuery.endStem chars = false ∧
      Text.hasMark Gap.whereClause.mark chars = true := by
    have source : datedSource.toList = _ := String.toList_append.trans
      (congrArg₂ (· ++ ·) String.toList_ofList String.toList_ofList)
    refine ⟨_, String.toList_append.trans (congrArg₂ (· ++ ·) String.toList_ofList source), ?_⟩
    decide +kernel
  obtain ⟨chars, same, marks⟩ := shape
  rwa [same]

theorem dated_source_eq : (datedMember.afterAll datedRun).fromClause "" = datedSource := by
  rw [dated_run_eq]
  decide +kernel

theorem dated_run_rendered : (datedMember.afterAll datedRun).render = .ok datedText := by
  have source := dated_source_eq
  rw [dated_run_eq] at source ⊢
  let counted : Statement :=
    { countedMembers with joins := ⟨[("dfrelation_MEMBER_0", datedJoin)]⟩ }
  have rows : counted.body LockText.none.hint "select count(*)" = datedSource := by
    have unfiltered : counted.body LockText.none.hint "select count(*)" =
        counted.fromClause "" ++ "" ++ "" := rfl
    rw [unfiltered, String.append_empty, String.append_empty]
    exact source
  have composed : counted.Composed _ "select count(*)" "" LockText.none _ :=
    ⟨rfl, rfl, rfl, rfl, rfl, .single rfl rfl⟩
  have written := composed.marked
  rw [rows] at written
  have joined : "select count(*)" ++ datedSource ++ "" ++ ("" ++ "") = datedText := by
    simp only [String.append_empty, datedText]
  have kept := SubQuery.layout_of_no_marks dated_text_marks.1 dated_text_marks.2.1
  exact render_of_marked (written.trans (congrArg Except.ok joined)) kept

/-- Neither the schema nor the run has a number sign in it, and yet a mark comes about. -/
theorem mark_between_days :
    let statement := datedMember.afterAll datedRun
    datedSchema.HashFree ∧ HashFree datedCondition ∧
      Reachable datedSchema statement ∧ statement.hasUnion = false ∧
      statement.orScope.isOpen = false ∧ statement.isLocked = false ∧
      statement.fetch.isEffective = false ∧ statement.orderClause = .ok "" ∧
      ∃ select sql, statement.selectClause = .ok select ∧ statement.render = .ok sql ∧
        ¬ (sql = fill statement.whereGapped select "" ∧ ∀ gap : Gap,
          Text.hasMark gap.mark (fill statement.whereGapped select "").toList = false) := by
  intro statement
  have created : Reachable datedSchema datedMember :=
    .new (show ofTable datedSchema { dialect := .msAccess } "MEMBER" .normalUse = .ok datedMember
      from rfl)
  refine ⟨member_schema_hash_free, by decide, created.afterAll datedRun, ?_⟩
  have selected : statement.selectClause = .ok "select count(*)" := by
    rw [show statement = _ from dated_run_eq]
    rfl
  have rendered : statement.render = .ok datedText := dated_run_rendered
  refine ⟨?_, ?_, ?_, ?_, ?_, "select count(*)", datedText, selected, rendered, ?_⟩
  iterate 5 rw [show statement = _ from dated_run_eq]; rfl
  rintro ⟨same, unmarked⟩
  have absent := unmarked .whereClause
  rw [← same, dated_text_marks.2.2] at absent
  cases absent

end SqlComposer.Statement
