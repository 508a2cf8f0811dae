import SqlComposer.Proofs.FileRun
import SqlComposer.Proofs.FromScope
import SqlComposer.Proofs.HashFree
import SqlComposer.Proofs.Listing
import SqlComposer.Proofs.Window

/-!
The scope of the union branches of a query file. A branch selects what the statement selects, but
its from clause is its own and has no joins. So the columns of a relation that the file selects are
named in its branches by an alias that no branch brings in, and every other column is in scope.
-/
namespace SqlComposer

namespace Schema

theorem built_of_add_tables {entries : List TableEntry} {before after : Schema}
    (built : before.Built) (added : before.addTables entries = .ok after) : after.Built := by
  induction entries generalizing before with
  | nil =>
      obtain rfl := Except.ok.inj added
      exact built
  | cons entry rest ih =>
      rcases bind_eq_ok added with ⟨table, _, added⟩
      rcases bind_eq_ok added with ⟨middle, here, later⟩
      exact ih (.addTable built here) later

theorem built_of_add_relations {relations : List Relation} {before after : Schema}
    (built : before.Built) (added : before.addRelations relations = .ok after) : after.Built := by
  induction relations generalizing before with
  | nil =>
      obtain rfl := Except.ok.inj added
      exact built
  | cons relation rest ih =>
      rcases bind_eq_ok added with ⟨middle, here, later⟩
      exact ih (.addRelation built here) later

end Schema

namespace QueryFile

/-- The schema of a file that has been read is built by its own operations. -/
theorem schema_built_of_parse {text : String} {file : QueryFile}
    (read : parse text = .ok file) : file.schema.Built := by
  unfold parse at read
  split at read
  · cases read
  · rcases bind_eq_ok read with ⟨settings, _, read⟩
    rcases bind_eq_ok read with ⟨schema, loaded, read⟩
    obtain rfl := Except.ok.inj read
    rcases bind_eq_ok (map_error_ok_iff.mp loaded) with ⟨tables, added, related⟩
    exact Schema.built_of_add_relations (Schema.built_of_add_tables .empty added) related

end QueryFile

namespace Statement

variable {statement : Statement}

/-- The columns of the select list that stand for themselves, each with the alias that qualifies it:
those of the base table, then those of the selected relations. -/
def qualifiedColumns (statement : Statement) : List (String × Column) :=
  let keepsKey := statement.selectType.isScalar && statement.hasUnion
  let base := statement.table.columns.filter fun column =>
    (keepsKey && column.isPrimary) || !statement.isLeftOut statement.baseAlias column.name
  base.map (Prod.mk statement.baseAlias) ++
  statement.selectedRelations.entries.flatMap fun relation =>
    match statement.aliasTable relation.1 with
    | .ok table =>
      (table.columns.filter fun column => !statement.isLeftOut relation.1 column.name).map
        (Prod.mk relation.1)
    | .error _ => []

def spelled (column : String × Column) : String × String :=
  (specifiedKey column.1 column.2, specifiedKey column.1 column.2)

/-- The aliases that the from clause of a statement brings in, in its order. -/
def introduced (statement : Statement) : List String :=
  (statement.fromParts "").foldl FromPart.bind []

theorem introduced_eq (statement : Statement) :
    statement.introduced = statement.baseAlias :: statement.joins.values.map Join.foreignAlias := by
  have joined : ∀ (closing : String) (joins : List Join) (known : List String),
      (joins.flatMap (Join.parts closing)).foldl FromPart.bind known =
        known ++ joins.map Join.foreignAlias := by
    intro closing joins
    induction joins with
    | nil => intro known; simp
    | cons join rest ih =>
        intro known
        rw [List.flatMap_cons, List.foldl_append, Join.bound_by_parts, ih, List.map_cons,
          List.append_assoc]
        rfl
  rw [introduced, fromParts, List.foldl_append, joined]
  rfl

theorem relation_entries_qualified {relations : List (String × String)}
    {entries : List SelectEntry}
    (collected : statement.allRelationEntries relations = .ok entries) :
    entries.map SelectEntry.shown = (relations.flatMap fun relation =>
      match statement.aliasTable relation.1 with
      | .ok table =>
        (table.columns.filter fun column => !statement.isLeftOut relation.1 column.name).map
          (Prod.mk relation.1)
      | .error _ => []).map spelled := by
  induction relations generalizing entries with
  | nil =>
      obtain rfl := Except.ok.inj collected
      rfl
  | cons relation rest ih =>
      rcases bind_eq_ok collected with ⟨table, known, collected⟩
      rcases bind_eq_ok collected with ⟨others, later, collected⟩
      obtain rfl := (Except.ok.inj collected).symm
      rw [List.map_append, ih later, List.flatMap_cons, List.map_append, known]
      congr 1
      rw [relationEntries, List.map_map, List.map_map]
      rfl

theorem select_columns_qualified {columns : List SelectColumn}
    (made : statement.selectColumns = .ok columns)
    (underived : statement.derivedColumns.entries = []) :
    columns.map SelectColumn.shown = statement.qualifiedColumns.map spelled := by
  rcases bind_eq_ok made with ⟨relations, collected, made⟩
  obtain rfl := (Except.ok.inj made).symm
  rw [give_aliases_shown, derivedEntries, underived, List.map_nil, List.append_nil,
    List.map_append, relation_entries_qualified collected, qualifiedColumns, List.map_append]
  congr 1
  rw [baseEntries, List.map_map, List.map_map]
  rfl

/-- A table that is joined has columns, since its relation equates some of them. -/
theorem joined_table_filled (tree : statement.JoinTree) (built : statement.schema.Built)
    {aliasName : String} (joined : aliasName ∈ statement.joins.keys) :
    ∃ table, statement.aliasTable aliasName = .ok table ∧ table.columns ≠ [] := by
  rw [← tree.named_values] at joined
  rcases List.mem_map.mp joined with ⟨join, member, rfl⟩
  rcases tree.founded_value member with
    ⟨nearTable, relation, farTable, _, declared, found, foreign, _, paired⟩
  rcases qualified_of_pairs paired with ⟨length, qualified⟩
  refine ⟨farTable, tree.far_table built member found foreign, ?_⟩
  cases pairs : join.pairs with
  | nil =>
      rw [pairs] at length
      exact absurd (List.eq_nil_of_length_eq_zero length.symm)
        (built.relation_has_pairs declared)
  | cons pair rest =>
      rw [pairs] at qualified
      rcases (qualified pair List.mem_cons_self).2 with ⟨column, there, _⟩
      exact List.ne_nil_of_mem there

theorem selected_relation_shown (known : statement.RelationsKnown) (tree : statement.JoinTree)
    (built : statement.schema.Built) {operations : List Operation}
    (specified : statement.SpecifiedBy operations) {aliasName : String}
    (selected : aliasName ∈ statement.selectedRelations.keys) :
    ∃ column, (aliasName, column) ∈ statement.qualifiedColumns := by
  rcases joined_table_filled tree built (known.selected aliasName selected) with
    ⟨table, tabled, filled⟩
  -- Any column is shown unless the file names columns of the relation, and then one of these is.
  have kept : ∃ column ∈ table.columns, statement.isLeftOut aliasName column.name = false := by
    cases found : statement.specifiedColumns.find? aliasName with
    | none =>
        rcases List.exists_mem_of_ne_nil _ filled with ⟨column, there⟩
        refine ⟨column, there, ?_⟩
        rw [isLeftOut, found]
    | some names =>
        rcases List.exists_mem_of_ne_nil _ (specified.asked found).1 with ⟨name, member⟩
        rcases known.specified aliasName names found with ⟨_, same, again, declared⟩
        obtain rfl := Except.ok.inj (tabled.symm.trans again)
        rcases declared name member with ⟨column, required, own⟩
        refine ⟨column, Table.mem_columns_of_required required, ?_⟩
        rw [own]
        exact specified_not_left_out found member
  rcases kept with ⟨column, there, shown⟩
  rcases List.mem_map.mp selected with ⟨relation, entry, rfl⟩
  refine ⟨column, List.mem_append_right _ (List.mem_flatMap.mpr ⟨relation, entry, ?_⟩)⟩
  rw [tabled]
  refine List.mem_map_of_mem (List.mem_filter.mpr ⟨there, ?_⟩)
  rw [shown]
  rfl

/-- What qualifies a column is the base alias or the alias of a selected relation. -/
theorem qualifier_cases {column : String × Column} (member : column ∈ statement.qualifiedColumns) :
    column.1 = statement.baseAlias ∨ column.1 ∈ statement.selectedRelations.keys := by
  rcases List.mem_append.mp member with base | relation
  · rcases List.mem_map.mp base with ⟨_, _, rfl⟩
    exact .inl rfl
  · rcases List.mem_flatMap.mp relation with ⟨entry, there, listed⟩
    split at listed
    · rcases List.mem_map.mp listed with ⟨_, _, rfl⟩
      exact .inr (List.mem_map_of_mem there)
    · cases listed

/-- A statement selects from its own from clause. -/
theorem own_columns_scoped (known : statement.RelationsKnown) (tree : statement.JoinTree) :
    ∀ column ∈ statement.qualifiedColumns, column.1 ∈ statement.introduced := by
  intro column member
  rw [introduced_eq, tree.named_values]
  rcases qualifier_cases member with base | selected
  · rw [base]
    exact List.mem_cons_self
  · exact List.mem_cons_of_mem _ (known.selected _ selected)

/-- Wherever a statement lists columns, its branches are a part of it, with the list in them. -/
theorem unions_in_marked {columns : List SelectColumn}
    (made : statement.selectColumns = .ok columns) (lists : statement.selectType = .columns)
    {sql : String} (marked : statement.marked = .ok sql) :
    ∃ before after,
      sql = before ++ statement.unionClause (statement.listText columns "") ++ after := by
  rcases composed_of_marked marked with ⟨_, _, order, lock, composed⟩
  rcases composed.plain_eq made (.inl lists) with ⟨rfl, rfl⟩
  let rows := statement.fromClause lock.hint ++ statement.whereClause
  let ending := order ++ (statement.paging.suffix ++ lock.suffix)
  cases composed.shape with
  | single _ calls | aggregate _ calls _ =>
      rw [lists] at calls
      cases calls
  | enclosed calls _ =>
      refine ⟨"select" ++ statement.selectHint ++ " * from (" ++ statement.listText columns "" ++
        rows, ") " ++ mainAlias ++ ending, ?_⟩
      simp only [body, rows, ending, String.append_assoc]
  | list calls _ =>
      refine ⟨statement.listText columns statement.selectHint ++ rows, ending, ?_⟩
      simp only [body, rows, ending, list_text_eq, String.append_assoc]

end Statement

namespace QueryFile

open Statement (Traced)

variable {α : Type} {file : QueryFile} {settings : Settings} {start built : Statement}

/-- The statement whose from clause and conditions a union entry adds. -/
def UnionEntry.branch (entry : UnionEntry) (file : QueryFile) (settings : Settings) :
    Except Problem Statement := do
  let fresh ← (Statement.ofTable file.schema settings file.query.table .unionQuery).mapError
    Problem.clause
  let ((), branch) ← (entry.conditions.forM (addCondition OrderedMap.empty)).run fresh
  return branch

/-- Every column that a branch selects is qualified by an alias of its own from clause. -/
def UnionEntry.Scoped (entry : UnionEntry) (file : QueryFile) (settings : Settings)
    (built : Statement) : Prop :=
  ∃ own, entry.branch file settings = .ok own ∧
    ∀ column ∈ built.qualifiedColumns, column.1 ∈ own.introduced

theorem each_ran {step : α → Building PUnit} {entries : List α} {before after : Statement}
    (ran : (entries.forM step : Building PUnit) before = .ok ((), after)) :
    ∀ entry ∈ entries, ∃ middle last, step entry middle = .ok ((), last) := by
  induction entries generalizing before with
  | nil =>
      intro entry member
      cases member
  | cons entry rest ih =>
      rcases for_m_cons_built.mp ran with ⟨middle, first, later⟩
      rw [List.forall_mem_cons]
      exact ⟨⟨before, middle, first⟩, ih later⟩

theorem branch_of_union {entry : UnionEntry} {before after : Statement}
    (ran : addUnion file.schema settings file.query.table entry before = .ok ((), after)) :
    ∃ own, entry.branch file settings = .ok own := by
  rcases bind_lift_built.mp ran with ⟨fresh, created, ran⟩
  rcases bind_lift_built.mp ran with ⟨⟨_, inner⟩, filled, _⟩
  refine ⟨inner, bind_eq_ok_iff.mpr ⟨fresh, created, ?_⟩⟩
  exact bind_eq_ok_iff.mpr ⟨((), inner), filled, rfl⟩

theorem branches_of_file (ran : file.statement settings = .ok built) :
    ∀ entry ∈ file.query.unions, ∃ own, entry.branch file settings = .ok own := by
  rcases steps_of_file ran with ⟨start, _, described⟩
  rcases query_run described with ⟨run⟩
  intro entry member
  rcases each_ran run.unions entry member with ⟨before, after, added⟩
  exact branch_of_union added

/-- A branch is a new statement with conditions and nothing else. -/
theorem branch_made
    (created : Statement.ofTable file.schema settings file.query.table .normalUse = .ok start)
    {entry : UnionEntry} {own : Statement} (ran : entry.branch file settings = .ok own) :
    ∃ each, List.Forall₂ (ConditionEntry.AskedAlone { start with purpose := .unionQuery }
        OrderedMap.empty) entry.conditions each ∧
      own = { start with
        purpose := .unionQuery
        conditions := each.flatMap (Condition.entriesFor .main)
        baseInline := each.flatMap (Condition.entriesFor .baseInline) } := by
  have new := Statement.create_for created .unionQuery
  rcases bind_eq_ok ran with ⟨fresh, made, ran⟩
  rcases bind_eq_ok ran with ⟨⟨_, inner⟩, filled, same⟩
  obtain rfl := pure_ok_iff.mp same
  obtain rfl := Except.ok.inj (new.symm.trans (map_error_ok_iff.mp made))
  exact conditions_of_new new filled

theorem branch_introduced
    (created : Statement.ofTable file.schema settings file.query.table .normalUse = .ok start)
    {entry : UnionEntry} {own : Statement} (ran : entry.branch file settings = .ok own) :
    own.introduced = [start.baseAlias] := by
  rcases Statement.blank_of_new created with ⟨_, unjoined, _, _⟩
  rcases branch_made created ran with ⟨each, _, rfl⟩
  rw [Statement.introduced_eq]
  dsimp only
  rw [unjoined]
  rfl

theorem asked_alone_unique {host : Statement} {names : JoinNames} {entry : ConditionEntry}
    {first second : List (Condition.Target × Condition.Clause)}
    (here : entry.AskedAlone host names first) (there : entry.AskedAlone host names second) :
    first = second :=
  Except.ok.inj (here.1.symm.trans there.1)

/-- The text of a branch is the rest of its statement behind a gap for the select clause. -/
theorem branch_text
    (created : Statement.ofTable file.schema settings file.query.table .normalUse = .ok start)
    {entry : UnionEntry} {own : Statement} (ran : entry.branch file settings = .ok own)
    {branch : UnionBranch} (becomes : entry.Becomes { start with purpose := .unionQuery } branch) :
    branch.text = Template.unionSelectGap ++ own.unionGapped := by
  rcases branch_made created ran with ⟨each, alone, rfl⟩
  rcases becomes with ⟨others, again, rfl⟩
  have unique : Relator.RightUnique (ConditionEntry.AskedAlone
      { start with purpose := .unionQuery } OrderedMap.empty) := fun _ _ _ => asked_alone_unique
  obtain rfl := List.right_unique_forall₂' unique alone again
  rfl

/-- A branch is in scope just when no relation is selected, since it brings in the base table. -/
theorem scoped_iff_unselected (schema : file.schema.Built)
    (ran : file.statement settings = .ok built) {entry : UnionEntry}
    (branched : ∃ own, entry.branch file settings = .ok own) :
    entry.Scoped file settings built ↔ built.selectedRelations.keys = [] := by
  rcases file_traced ran with ⟨operations, traced, _, _⟩
  rcases file_described ran with ⟨start, _, _, created, described⟩
  rcases branched with ⟨own, branched⟩
  have known := (traced.reachable.consistent schema).relations
  have tree := traced.reachable.join_tree
  have built_schema : built.schema.Built := by
    rw [traced.reachable.same_schema]
    exact schema
  have base : own.introduced = [built.baseAlias] := by
    rw [branch_introduced created branched, described.continues.base_alias]
  constructor
  · rintro ⟨again, same, in_scope⟩
    obtain rfl := Except.ok.inj (branched.symm.trans same)
    rw [List.eq_nil_iff_forall_not_mem]
    intro aliasName selected
    -- The relation would be shown with a column, whose alias is numbered and so not the base one.
    rcases Statement.selected_relation_shown known tree built_schema
      (traced.recounted schema).specified selected with ⟨column, shown⟩
    have brought := in_scope _ shown
    rw [base, List.mem_singleton] at brought
    rcases known.numbered _ (known.selected _ selected) with ⟨tableName, number, _, numbered⟩
    rw [numbered] at brought
    exact built.relation_alias_ne_base tableName number brought
  · intro unselected
    refine ⟨own, branched, fun column member => ?_⟩
    rw [base, List.mem_singleton]
    rcases Statement.qualifier_cases member with own_table | selected
    · exact own_table
    · rw [unselected] at selected
      cases selected

theorem unselected_iff (schema : file.schema.Built)
    (ran : file.statement settings = .ok built) :
    built.selectedRelations.keys = [] ↔ ∀ join ∈ file.query.joins, join.isSelected = false := by
  rcases file_traced ran with ⟨operations, traced, counted, _⟩
  have recounted := traced.recounted schema
  have asked : built.selectedRelations.keys = [] ↔
      operations.filterMap Statement.selection? = [] := by
    simp only [List.eq_nil_iff_forall_not_mem, ← recounted.selected.mem_keys, List.mem_map,
      not_exists, not_and]
    exact ⟨fun none pair member => none _ pair member rfl, fun none _ pair member _ =>
      none pair member⟩
  rw [asked, ← List.length_eq_zero_iff, counted, List.countP_eq_zero]
  simp only [Bool.not_eq_true]

/-- The select list of a file is made of qualified columns, and each union entry adds a branch with
the from clause of its own statement, whose gap the list is written into. The statement is in scope
of its own from clause; its branches are in scope of theirs just when the file selects no relation
or has no unions. Every file that is read has a schema that is built (`schema_built_of_parse`). -/
theorem union_branches_scoped_iff {file : QueryFile} (settings : Settings) {built : Statement}
    (schema : file.schema.Built) (ran : file.statement settings = .ok built) :
    (∃ columns, built.selectColumns = .ok columns ∧
      columns.map SelectColumn.shown = built.qualifiedColumns.map Statement.spelled ∧
      (built.selectType = .columns → ∀ sql, built.marked = .ok sql → ∃ before after,
        sql = before ++ built.unionClause (built.listText columns "") ++ after)) ∧
    List.Forall₂ (fun entry branch => ∃ own, entry.branch file settings = .ok own ∧
      branch.text = Template.unionSelectGap ++ own.unionGapped) file.query.unions built.unions ∧
    (∀ column ∈ built.qualifiedColumns, column.1 ∈ built.introduced) ∧
    ((∀ entry ∈ file.query.unions, entry.Scoped file settings built) ↔
      file.query.unions = [] ∨ ∀ join ∈ file.query.joins, join.isSelected = false) := by
  rcases file_traced ran with ⟨operations, traced, _, underived⟩
  rcases file_described ran with ⟨start, _, _, created, described⟩
  have branches := branches_of_file ran
  have consistent := traced.reachable.consistent schema
  have none : built.derivedColumns.entries = [] := by
    rw [(traced.recounted schema).derived.entries, underived]
    rfl
  rcases Statement.select_columns_spec consistent with ⟨columns, made, _⟩
  refine ⟨⟨columns, made, Statement.select_columns_qualified made none, fun lists _ =>
    Statement.unions_in_marked made lists⟩, ?_,
    Statement.own_columns_scoped consistent.relations traced.reachable.join_tree, ?_⟩
  · have together := (List.forall₂_and_left _ _).mpr ⟨branches, described.unions⟩
    refine together.imp fun entry branch given => ?_
    rcases given with ⟨⟨own, branched⟩, becomes⟩
    exact ⟨own, branched, branch_text created branched becomes⟩
  · rw [← unselected_iff schema ran]
    constructor
    · intro in_scope
      cases entries : file.query.unions with
      | nil => exact .inl rfl
      | cons entry rest =>
          have member : entry ∈ file.query.unions := by
            rw [entries]
            exact List.mem_cons_self
          exact .inr ((scoped_iff_unselected schema ran (branches entry member)).mp
            (in_scope entry member))
    · rintro (no_unions | unselected) entry member
      · rw [no_unions] at member
        cases member
      · exact (scoped_iff_unselected schema ran (branches entry member)).mpr unselected

/-- Inviters that are joined and not selected leave the union in scope. -/
theorem unselected_inviters_scoped :
    invitedFile.schema.Built ∧ ∃ built, invitedFile.statement {} = .ok built ∧
      ∀ entry ∈ invitedFile.query.unions, entry.Scoped invitedFile {} built := by
  have accepted : (invitedFile.statement {}).toBool = true := by decide +kernel
  rcases ok_of_to_bool accepted with ⟨built, ran⟩
  have unselected : ∀ join ∈ invitedFile.query.joins, join.isSelected = false := by decide
  have known : invitedFile.schema.Built := Statement.member_schema_built
  exact ⟨known, built, ran, (union_branches_scoped_iff {} known ran).2.2.2.mpr (.inr unselected)⟩

/-- Members with their selected inviters, once more in a union. -/
def selectedInviters : QueryFile :=
  { invitedFile with
    query := { invitedFile.query with
      columns := ["MEMBER_ID", "inviter.MEMBER_ID"]
      joins := [⟨"inviter", none, "inviter", false, true⟩]
      conditions := []
      orScopes := []
      unions := [⟨false, []⟩] } }

def inviterList : String := "select dflocal.MEMBER_ID as c1, dfrelation_MEMBER_0.MEMBER_ID as c2"

def inviterJoinText : String :=
  " left outer join MEMBER dfrelation_MEMBER_0 on " ++
    "dflocal.INVITER_ID = dfrelation_MEMBER_0.MEMBER_ID"

/-- Inviters that are selected are named in a branch that does not join them. -/
theorem selected_inviters_unscoped :
    ∃ built, selectedInviters.statement {} = .ok built ∧
      built.render = .ok (inviterList ++ (" from MEMBER dflocal" ++ inviterJoinText) ++
        (" union " ++ inviterList ++ " from MEMBER dflocal")) ∧
      ¬ ∀ entry ∈ selectedInviters.query.unions, entry.Scoped selectedInviters {} built := by
  have schema : selectedInviters.schema.Built := Statement.member_schema_built
  have written : (selectedInviters.statement {}).toOption.bind (fun built =>
      built.marked.toOption) = some (inviterList ++ (" from MEMBER dflocal" ++ inviterJoinText) ++
        (" union " ++ inviterList ++ " from MEMBER dflocal")) := by decide +kernel
  have listed : HashFree inviterList := by decide +kernel
  have joined : HashFree inviterJoinText := by decide +kernel
  have table : HashFree " from MEMBER dflocal" := by decide +kernel
  have union : HashFree " union " := by decide +kernel
  have free := (listed.append (table.append joined)).append ((union.append listed).append table)
  rcases Option.bind_eq_some_iff.mp written with ⟨built, made, marked⟩
  have ran := ok_of_to_option made
  have rendered := Statement.render_of_hashless (ok_of_to_option marked) free
  refine ⟨built, ran, rendered, fun in_scope => ?_⟩
  have branched := branches_of_file ran ⟨false, []⟩ List.mem_cons_self
  have unselected := (unselected_iff schema ran).mp
    ((scoped_iff_unselected schema ran branched).mp (in_scope _ List.mem_cons_self))
  cases unselected _ List.mem_cons_self

end QueryFile
end SqlComposer
