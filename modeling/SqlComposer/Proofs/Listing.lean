import SqlComposer.Proofs.History
import SqlComposer.Proofs.Rendering

/-!
The select list as a whole. Which columns it shows, in which order and under which aliases is told
from the history of the statement alone; the select clause writes the list as it is, and the map of
aliases is the list again.
-/
namespace SqlComposer

theorem OrderedMap.foldl_insert_of_distinct {κ ν : Type} [DecidableEq κ]
    (later earlier : List (κ × ν)) (distinct : ((earlier ++ later).map Prod.fst).Nodup) :
    later.foldl (fun (map : OrderedMap κ ν) pair => map.insert pair.1 pair.2) ⟨earlier⟩ =
      ⟨earlier ++ later⟩ := by
  induction later generalizing earlier with
  | nil => rw [List.foldl_nil, List.append_nil]
  | cons pair rest ih =>
      have fresh : pair.1 ∉ keys (⟨earlier⟩ : OrderedMap κ ν) := by
        intro present
        rw [List.map_append, List.nodup_append] at distinct
        exact distinct.2.2 _ present _ (by simp) rfl
      rw [List.append_cons] at distinct ⊢
      rw [List.foldl_cons, insert_of_new fresh]
      exact ih _ distinct

/-- Pairs with distinct keys are the entries of the map that is made of them. -/
theorem OrderedMap.ofList_of_distinct {κ ν : Type} [DecidableEq κ] (pairs : List (κ × ν))
    (distinct : (pairs.map Prod.fst).Nodup) : ofList pairs = ⟨pairs⟩ :=
  foldl_insert_of_distinct pairs [] distinct

namespace Statement

/-- The columns of a table that a select list shows: all of them when none is named, otherwise the
named ones and, where it is kept, the primary key. -/
def shownColumns (named : List String) (keepsKey : Bool) (table : Table) : List Column :=
  table.columns.filter fun column =>
    named.isEmpty || column.name ∈ named || (keepsKey && column.isPrimary)

def columnEntry (aliasName suffix : String) (column : Column) : SelectEntry :=
  let name := aliasName ++ "." ++ column.sqlName.text
  ⟨name, name, column.name ++ suffix⟩

/-- The select list that a history asks for: the base table, the selected relations, the derived
columns. -/
def Listed (statement : Statement) (operations : List Operation) (entries : List SelectEntry) :
    Prop :=
  ∃ tableOf : String → Table,
    (∀ selection ∈ selections operations,
      statement.aliasTable selection.1 = .ok (tableOf selection.1)) ∧
    entries =
      (shownColumns (specifiedNames operations statement.baseAlias statement.table)
          (statement.selectType.isScalar && statement.hasUnion) statement.table).map
        (columnEntry statement.baseAlias "") ++
      (selections operations).flatMap (fun selection =>
        (shownColumns (specifiedNames operations selection.1 (tableOf selection.1)) false
            (tableOf selection.1)).map
          (columnEntry selection.1 selection.2)) ++
      (derivations operations).map fun derivation =>
        ⟨derivation.1, "(" ++ derivation.2 ++ ")", derivation.1⟩

/-- Entries with their aliases: by their position, counted from one, or their own. -/
def positioned (useIndex : Bool) (entries : List SelectEntry) : List SelectColumn :=
  entries.mapIdx fun position entry =>
    ⟨entry.key, entry.expression,
      if useIndex then "c" ++ toString (position + 1) else entry.ownAlias⟩

theorem give_aliases_eq (useIndex : Bool) (number : Nat) (entries : List SelectEntry) :
    giveAliases useIndex number entries = entries.mapIdx fun position entry =>
      ⟨entry.key, entry.expression,
        if useIndex then "c" ++ toString (position + number) else entry.ownAlias⟩ := by
  induction entries generalizing number with
  | nil => rfl
  | cons entry rest ih =>
      rw [giveAliases, ih, List.mapIdx_cons, Nat.zero_add]
      simp only [Nat.add_right_comm _ 1 number, Nat.add_assoc]

theorem positioned_keys (useIndex : Bool) (entries : List SelectEntry) :
    (positioned useIndex entries).map SelectColumn.key = entries.map SelectEntry.key := by
  rw [positioned, ← give_aliases_eq, give_aliases_keys]

theorem shown_columns_eq {statement : Statement} {operations : List Operation}
    (specified : statement.SpecifiedBy operations) {aliasName : String} {table : Table}
    (tabled : statement.aliasTable aliasName = .ok table) (keepsKey : Bool) :
    (table.columns.filter fun column =>
        (keepsKey && column.isPrimary) || !statement.isLeftOut aliasName column.name) =
      shownColumns (specifiedNames operations aliasName table) keepsKey table := by
  refine List.filter_congr fun column _ => ?_
  have left := specified.left_out tabled column.name
  rw [Bool.eq_iff_iff]
  simp only [Bool.or_eq_true, Bool.not_eq_true', left, List.isEmpty_iff, decide_eq_true_eq]
  rw [or_comm, or_assoc]

theorem base_entries_eq {statement : Statement} {operations : List Operation}
    (specified : statement.SpecifiedBy operations) :
    statement.baseEntries =
      (shownColumns (specifiedNames operations statement.baseAlias statement.table)
          (statement.selectType.isScalar && statement.hasUnion) statement.table).map
        (columnEntry statement.baseAlias "") := by
  have tabled : statement.aliasTable statement.baseAlias = .ok statement.table := if_pos rfl
  rw [← shown_columns_eq specified tabled]
  refine List.map_congr_left fun column _ => ?_
  simp only [columnEntry, String.append_empty]

theorem relation_entries_eq {statement : Statement} {operations : List Operation}
    (specified : statement.SpecifiedBy operations) {aliasName : String} {table : Table}
    (tabled : statement.aliasTable aliasName = .ok table) (suffix : String) :
    statement.relationEntries aliasName suffix table =
      (shownColumns (specifiedNames operations aliasName table) false table).map
        (columnEntry aliasName suffix) := by
  rw [← shown_columns_eq specified tabled]
  simp only [Bool.false_and, Bool.false_or]
  rfl

theorem all_relation_entries_eq {statement : Statement} {operations : List Operation}
    (specified : statement.SpecifiedBy operations) {tableOf : String → Table}
    (relations : List (String × String))
    (tabled : ∀ relation ∈ relations,
      statement.aliasTable relation.1 = .ok (tableOf relation.1)) :
    statement.allRelationEntries relations =
      .ok (relations.flatMap fun relation =>
        (shownColumns (specifiedNames operations relation.1 (tableOf relation.1)) false
            (tableOf relation.1)).map
          (columnEntry relation.1 relation.2)) := by
  induction relations with
  | nil => rfl
  | cons relation rest ih =>
      obtain ⟨aliasName, suffix⟩ := relation
      have here := tabled _ List.mem_cons_self
      rw [allRelationEntries, here, ih fun other member =>
        tabled other (List.mem_cons_of_mem _ member)]
      simp only [bind, Except.bind, pure, Except.pure, List.flatMap_cons]
      rw [relation_entries_eq specified here]

theorem select_columns_eq {statement : Statement} {operations : List Operation}
    (recounted : statement.Recounted operations) {entries : List SelectEntry}
    (listed : statement.Listed operations entries) :
    statement.selectColumns = .ok (positioned statement.selectIndex entries) := by
  obtain ⟨tableOf, tabled, rfl⟩ := listed
  have selected : statement.selectedRelations.entries = selections operations :=
    recounted.selected.entries
  have derived : statement.derivedColumns.entries = derivations operations :=
    recounted.derived.entries
  rw [selectColumns, selected, all_relation_entries_eq recounted.specified _ tabled,
    base_entries_eq recounted.specified, derivedEntries, derived]
  exact congrArg Except.ok (give_aliases_eq _ 1 _)

/-- The tables behind the selected relations of a consistent statement are there. -/
theorem listed_of_consistent {statement : Statement} (consistent : statement.Consistent)
    {operations : List Operation} (recounted : statement.Recounted operations) :
    ∃ entries, statement.Listed operations entries := by
  refine ⟨_, fun aliasName =>
    (statement.aliasTable aliasName).toOption.getD statement.table, ?_, rfl⟩
  intro selection member
  have selected : statement.selectedRelations.entries = selections operations :=
    recounted.selected.entries
  rw [← selected] at member
  have relations := consistent.relations
  obtain ⟨table, tabled⟩ := relations.joined _
    (relations.selected _ (List.mem_map.mpr ⟨selection, member, rfl⟩))
  simp only [tabled]
  rfl

theorem shown_columns_congr {named other : List String} (same : ∀ name, name ∈ named ↔ name ∈ other)
    (keepsKey : Bool) (table : Table) :
    shownColumns named keepsKey table = shownColumns other keepsKey table := by
  have none : named = [] ↔ other = [] := by
    simp only [List.eq_nil_iff_forall_not_mem, same]
  refine List.filter_congr fun column _ => ?_
  rw [Bool.eq_iff_iff]
  simp only [Bool.or_eq_true, List.isEmpty_iff, decide_eq_true_eq, none, same]

/-- What has been specified counts as a set: neither the order nor the number of times matters. -/
theorem Listed.congr {statement other : Statement} {operations others : List Operation}
    {entries otherEntries : List SelectEntry} (listed : statement.Listed operations entries)
    (otherListed : other.Listed others otherEntries)
    (table : other.table = statement.table) (base : other.baseAlias = statement.baseAlias)
    (key : (other.selectType.isScalar && other.hasUnion) =
      (statement.selectType.isScalar && statement.hasUnion))
    (tables : ∀ aliasName, other.aliasTable aliasName = statement.aliasTable aliasName)
    (selected : selections others = selections operations)
    (derived : derivations others = derivations operations)
    (named : ∀ aliasName table, statement.aliasTable aliasName = .ok table → ∀ name,
      name ∈ specifiedNames others aliasName table ↔
        name ∈ specifiedNames operations aliasName table) :
    otherEntries = entries := by
  obtain ⟨tableOf, tabled, rfl⟩ := listed
  obtain ⟨otherTableOf, otherTabled, rfl⟩ := otherListed
  have own : statement.aliasTable statement.baseAlias = .ok statement.table := if_pos rfl
  rw [table, base, key, selected, derived, shown_columns_congr (named _ _ own)]
  refine congrArg (_ ++ · ++ _) (List.flatMap_congr fun selection member => ?_)
  have known := tabled selection member
  have same : otherTableOf selection.1 = tableOf selection.1 := by
    have again := otherTabled selection (selected ▸ member)
    rw [tables, known] at again
    exact (Except.ok.inj again).symm
  rw [same, shown_columns_congr (named _ _ known)]

def listText (statement : Statement) (columns : List SelectColumn) (hint : String) : String :=
  "select" ++ hint ++ " " ++ Text.join ", " (columns.map fun column =>
    if statement.purpose.isSubQuery then column.expression
    else column.expression ++ " as " ++ column.aliasName)

theorem list_text_eq (statement : Statement) (columns : List SelectColumn) (hint : String) :
    statement.listText columns hint = statement.listSelect columns hint := rfl

/-- A select clause that is no aggregate writes the list. -/
theorem select_clause_of_list {statement : Statement} (columns : List SelectColumn)
    (lists : statement.selectType = .columns ∨ statement.hasUnion = true) (hint : String) :
    statement.selectClauseOf columns hint = .ok (statement.listText columns hint) := by
  refine select_clause_lists (lists.imp_left fun type => ?_) columns hint
  rw [type]
  rfl

/-- The select clause of an accepted statement that lists columns is the list. -/
theorem Composed.plain_eq {statement : Statement} {columns found : List SelectColumn}
    {plain order sql : String} {lock : LockText}
    (composed : statement.Composed found plain order lock sql)
    (made : statement.selectColumns = .ok columns)
    (lists : statement.selectType = .columns ∨ statement.hasUnion = true) :
    columns = found ∧ plain = statement.listText columns "" := by
  obtain rfl := Except.ok.inj (composed.listed.symm.trans made)
  have listed := select_clause_of_list found lists ""
  exact ⟨rfl, Except.ok.inj (composed.selected.symm.trans listed)⟩

/-- Wherever a statement lists columns, the text of the list is a part of it. -/
theorem list_in_marked {statement : Statement} {columns : List SelectColumn}
    (made : statement.selectColumns = .ok columns)
    (lists : statement.selectType = .columns ∨ statement.hasUnion = true) {sql : String}
    (marked : statement.marked = .ok sql) :
    ∃ hint before after, (hint = "" ∨ hint = statement.selectHint) ∧
      sql = before ++ statement.listText columns hint ++ after := by
  obtain ⟨_, _, order, lock, composed⟩ := composed_of_marked marked
  obtain ⟨rfl, rfl⟩ := composed.plain_eq made lists
  let plain := statement.listText columns ""
  let rows := statement.body lock.hint plain
  let ending := order ++ (statement.paging.suffix ++ lock.suffix)
  cases composed.shape with
  | single single calls =>
      rcases lists with type | union
      · rw [type] at calls
        cases calls
      · rw [union] at single
        cases single
  | aggregate union calls written =>
      obtain ⟨opening, _, rfl⟩ := aggregate_of_union_shape written
      refine ⟨"", opening, rows ++ ") dfmain", .inl rfl, ?_⟩
      simp only [plain, rows, String.append_assoc]
  | enclosed calls encloses =>
      refine ⟨"", "select" ++ statement.selectHint ++ " * from (",
        rows ++ ") " ++ mainAlias ++ ending, .inl rfl, ?_⟩
      simp only [plain, rows, ending, String.append_assoc]
  | list calls encloses =>
      refine ⟨statement.selectHint, "", rows ++ ending, .inr rfl, ?_⟩
      simp only [plain, rows, ending, list_text_eq, String.append_assoc, String.empty_append]

/-- The map of aliases has an entry for each column of a list whose keys are distinct, in its order.
-/
theorem select_aliases_eq {statement : Statement} {columns : List SelectColumn}
    (made : statement.selectColumns = .ok columns)
    (distinct : (columns.map SelectColumn.key).Nodup) :
    statement.selectAliases = .ok ⟨columns.map fun column => (column.key, column.aliasName)⟩ := by
  rw [selectAliases, made]
  refine congrArg Except.ok (OrderedMap.ofList_of_distinct _ ?_)
  rw [List.map_map]
  exact distinct

/-- The select list of a reachable statement is what its history asks for, numbered through or under
its own aliases; of the specified columns only the set counts. A select clause that lists columns
writes the list as it is, and with distinct keys the map of aliases is the list again. -/
theorem select_list_of_history {schema : Schema} (built : schema.Built) {statement : Statement}
    (reached : Reachable schema statement) :
    (∃ operations, Traced schema statement operations) ∧
    ∀ operations, Traced schema statement operations →
      ((selections operations).map Prod.fst).Nodup ∧
      ((derivations operations).map Prod.fst).Nodup ∧
      ∃ entries, statement.Listed operations entries ∧
        statement.selectColumns = .ok (positioned statement.selectIndex entries) ∧
        (∀ specifiedColumns others,
          Traced schema { statement with specifiedColumns } others →
          (∀ aliasName table, statement.aliasTable aliasName = .ok table → ∀ name,
            name ∈ specifiedNames others aliasName table ↔
              name ∈ specifiedNames operations aliasName table) →
          selectColumns { statement with specifiedColumns } = statement.selectColumns) ∧
        (statement.selectType = .columns ∨ statement.hasUnion = true →
          (∀ hint, statement.selectClauseOf (positioned statement.selectIndex entries) hint =
            .ok (statement.listText (positioned statement.selectIndex entries) hint)) ∧
          statement.selectClause =
            .ok (statement.listText (positioned statement.selectIndex entries) "") ∧
          ∀ sql, statement.marked = .ok sql →
            ∃ hint before after, (hint = "" ∨ hint = statement.selectHint) ∧
              sql = before ++
                statement.listText (positioned statement.selectIndex entries) hint ++ after) ∧
        ((entries.map SelectEntry.key).Nodup →
          statement.selectAliases =
            .ok ⟨(positioned statement.selectIndex entries).map fun column =>
              (column.key, column.aliasName)⟩) := by
  refine ⟨reached.traced, fun operations traced => ?_⟩
  have consistent := reached.consistent built
  have recounted := traced.recounted built
  obtain ⟨entries, listed⟩ := listed_of_consistent consistent recounted
  have made := select_columns_eq recounted listed
  have selected : statement.selectedRelations.entries = selections operations :=
    recounted.selected.entries
  have derived : statement.derivedColumns.entries = derivations operations :=
    recounted.derived.entries
  refine ⟨selected ▸ recounted.selected.distinct, derived ▸ recounted.derived.distinct, entries,
    listed, made, ?_, fun lists =>
      ⟨fun hint => select_clause_of_list _ lists hint, ?_, fun sql =>
        list_in_marked made lists⟩, fun distinct => ?_⟩
  · intro specifiedColumns others otherTraced named
    have otherRecounted := otherTraced.recounted built
    obtain ⟨otherEntries, otherListed⟩ :=
      listed_of_consistent (otherTraced.reachable.consistent built) otherRecounted
    have sameSelected : selections others = selections operations :=
      otherRecounted.selected.entries.symm.trans selected
    have sameDerived : derivations others = derivations operations :=
      otherRecounted.derived.entries.symm.trans derived
    rw [select_columns_eq otherRecounted otherListed, made,
      listed.congr otherListed rfl rfl rfl (fun _ => rfl) sameSelected sameDerived named]
  · rw [selectClause, made]
    exact select_clause_of_list _ lists ""
  · refine select_aliases_eq made ?_
    rw [positioned_keys]
    exact distinct

/-- The operations of a run that selects one column of a member, in two spellings, and one of the
member's inviter. -/
def invitation : List Operation :=
  [.join "dflocal" "inviter", .selectRelation "dfrelation_MEMBER_0" "_inviter",
    .specify "dflocal" "inviter_id", .specify "dfrelation_MEMBER_0" "MEMBER_ID",
    .specify "dflocal" "Inviter_Id"]

theorem invitation_traced : Traced memberSchema (newMember.afterAll invitation) invitation := by
  have created : Traced memberSchema newMember [] :=
    .new (show ofTable memberSchema {} "MEMBER" .normalUse = .ok newMember from rfl)
  exact .accepted (.accepted (.accepted (.accepted (.accepted created rfl) rfl) rfl) rfl) rfl

theorem select_list_of_invitation :
    memberSchema.Built ∧ Reachable memberSchema (newMember.afterAll invitation) ∧
      ∃ entries, (newMember.afterAll invitation).Listed invitation entries ∧
        (newMember.afterAll invitation).selectColumns = .ok (positioned true entries) := by
  refine ⟨member_schema_built, invitation_traced.reachable, ?_⟩
  obtain ⟨_, _, entries, listed, made, _⟩ :=
    (select_list_of_history member_schema_built invitation_traced.reachable).2 invitation
      invitation_traced
  exact ⟨entries, listed, made⟩

example : (newMember.afterAll invitation).selectColumns = .ok
    [⟨"dflocal.INVITER_ID", "dflocal.INVITER_ID", "c1"⟩,
      ⟨"dfrelation_MEMBER_0.MEMBER_ID", "dfrelation_MEMBER_0.MEMBER_ID", "c2"⟩] := rfl

end Statement
end SqlComposer
