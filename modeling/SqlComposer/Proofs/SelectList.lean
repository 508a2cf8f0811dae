import SqlComposer.Proofs.Consistency

/-!
The select list of a consistent statement. It can always be made, and its aliases cover the derived
columns and every column that has been specified, which is what an order and an aggregate look up.
-/
namespace SqlComposer

/-- What an entry of the select list is called and what is written for it. -/
def SelectEntry.shown (entry : SelectEntry) : String × String := (entry.key, entry.expression)

def SelectColumn.shown (column : SelectColumn) : String × String := (column.key, column.expression)

namespace Statement

theorem all_relation_entries_ok (statement : Statement) (relations : List (String × String))
    (known : ∀ relation ∈ relations, ∃ table, statement.aliasTable relation.1 = .ok table) :
    ∃ entries, statement.allRelationEntries relations = .ok entries ∧
      ∀ relation ∈ relations, ∀ table, statement.aliasTable relation.1 = .ok table →
        ∀ entry ∈ statement.relationEntries relation.1 relation.2 table, entry ∈ entries := by
  induction relations with
  | nil => exact ⟨[], rfl, fun _ member => nomatch member⟩
  | cons relation rest ih =>
      obtain ⟨aliasName, suffix⟩ := relation
      obtain ⟨table, here⟩ := known _ List.mem_cons_self
      obtain ⟨entries, later, cover⟩ := ih fun other member =>
        known other (List.mem_cons_of_mem _ member)
      refine ⟨statement.relationEntries aliasName suffix table ++ entries, ?_, ?_⟩
      · rw [allRelationEntries, here, later]
        rfl
      · intro other member sameTable tabled entry selected
        rcases List.mem_cons.mp member with rfl | further
        · obtain rfl := Except.ok.inj (here.symm.trans tabled)
          exact List.mem_append_left _ selected
        · exact List.mem_append_right _ (cover other further sameTable tabled entry selected)

/-- An alias changes neither what a column is called nor what is written for it. -/
theorem give_aliases_shown (useIndex : Bool) (number : Nat) (entries : List SelectEntry) :
    (giveAliases useIndex number entries).map SelectColumn.shown =
      entries.map SelectEntry.shown := by
  induction entries generalizing number with
  | nil => rfl
  | cons entry rest ih =>
      rw [giveAliases, List.map_cons, List.map_cons, ih]
      rfl

theorem give_aliases_keys (useIndex : Bool) (number : Nat) (entries : List SelectEntry) :
    (giveAliases useIndex number entries).map SelectColumn.key =
      entries.map SelectEntry.key := by
  have keys := congrArg (List.map Prod.fst) (give_aliases_shown useIndex number entries)
  rw [List.map_map, List.map_map] at keys
  exact keys

/-- A column of the select list with what is written for it: a column of the base table or of a
selected relation stands for itself, a derived one for its sub-query. -/
inductive Shows (statement : Statement) : String → String → Prop where
  | column {aliasName : String} (name : String)
      (place : aliasName = statement.baseAlias ∨ aliasName ∈ statement.selectedRelations.keys) :
      Shows statement (aliasName ++ "." ++ name) (aliasName ++ "." ++ name)
  | derived {name subQuery : String}
      (member : (name, subQuery) ∈ statement.derivedColumns.entries) :
      Shows statement name ("(" ++ subQuery ++ ")")

theorem relation_entries_show {statement : Statement} {relations : List (String × String)}
    {entries : List SelectEntry} (collected : statement.allRelationEntries relations = .ok entries)
    (selected : ∀ relation ∈ relations, relation.1 ∈ statement.selectedRelations.keys) :
    ∀ entry ∈ entries, statement.Shows entry.key entry.expression := by
  induction relations generalizing entries with
  | nil =>
      obtain rfl := Except.ok.inj collected
      intro entry member
      cases member
  | cons relation rest ih =>
      obtain ⟨table, _, collected⟩ := bind_eq_ok collected
      obtain ⟨others, later, collected⟩ := bind_eq_ok collected
      obtain rfl := (Except.ok.inj collected).symm
      rw [List.forall_mem_cons] at selected
      intro entry member
      rcases List.mem_append.mp member with own | other
      · obtain ⟨column, _, rfl⟩ := List.mem_map.mp own
        exact .column column.sqlName.text (.inr selected.1)
      · exact ih later selected.2 entry other

theorem select_columns_show {statement : Statement} {columns : List SelectColumn}
    (made : statement.selectColumns = .ok columns) :
    (∀ column ∈ columns, statement.Shows column.key column.expression) ∧
      ∀ name subQuery, (name, subQuery) ∈ statement.derivedColumns.entries →
        (name, "(" ++ subQuery ++ ")") ∈ columns.map SelectColumn.shown := by
  obtain ⟨relations, collected, made⟩ := bind_eq_ok made
  obtain rfl := (Except.ok.inj made).symm
  have shown := give_aliases_shown statement.selectIndex 1
    (statement.baseEntries ++ relations ++ statement.derivedEntries)
  constructor
  · intro column member
    have listed : column.shown ∈ List.map SelectColumn.shown _ := List.mem_map_of_mem member
    rw [shown] at listed
    obtain ⟨entry, present, same⟩ := List.mem_map.mp listed
    obtain ⟨key, expression⟩ := Prod.mk.inj same
    rw [← key, ← expression]
    rcases List.mem_append.mp present with first | derived
    · rcases List.mem_append.mp first with base | relation
      · obtain ⟨own, _, rfl⟩ := List.mem_map.mp base
        exact .column own.sqlName.text (.inl rfl)
      · exact relation_entries_show collected
          (fun _ given => List.mem_map_of_mem given) entry relation
    · obtain ⟨pair, given, rfl⟩ := List.mem_map.mp derived
      exact .derived given
  · intro name subQuery given
    rw [shown]
    have derived : (⟨name, "(" ++ subQuery ++ ")", name⟩ : SelectEntry) ∈
        statement.derivedEntries := List.mem_map.mpr ⟨_, given, rfl⟩
    exact List.mem_map.mpr ⟨_, List.mem_append_right _ derived, rfl⟩

/-- The name under which a specified column is looked up in the select list. -/
def specifiedKey (aliasName : String) (column : Column) : String :=
  aliasName ++ "." ++ column.sqlName.text

theorem specified_not_left_out {statement : Statement} {aliasName name : String}
    {names : List String} (found : statement.specifiedColumns.find? aliasName = some names)
    (member : name ∈ names) : statement.isLeftOut aliasName name = false := by
  simp [isLeftOut, found, member]

theorem base_entries_cover {statement : Statement} {column : Column}
    (member : column ∈ statement.table.columns)
    (kept : statement.isLeftOut statement.baseAlias column.name = false) :
    ∃ entry ∈ statement.baseEntries, entry.shown =
      (specifiedKey statement.baseAlias column, specifiedKey statement.baseAlias column) := by
  refine ⟨_, List.mem_map.mpr ⟨column, ?_, rfl⟩, rfl⟩
  exact List.mem_filter.mpr ⟨member, by simp [kept]⟩

theorem relation_entries_cover {statement : Statement} {aliasName : String} (suffix : String)
    {table : Table} {column : Column} (member : column ∈ table.columns)
    (kept : statement.isLeftOut aliasName column.name = false) :
    ∃ entry ∈ statement.relationEntries aliasName suffix table,
      entry.shown = (specifiedKey aliasName column, specifiedKey aliasName column) := by
  refine ⟨_, List.mem_map.mpr ⟨column, ?_, rfl⟩, rfl⟩
  exact List.mem_filter.mpr ⟨member, by simp [kept]⟩

/-- Two statements that agree on what is selected and on the tables that it is selected from. -/
structure SameSelection (first second : Statement) : Prop where
  purpose : second.purpose = first.purpose
  type : second.selectType = first.selectType
  union : second.hasUnion = first.hasUnion
  table : second.table = first.table
  base : second.baseAlias = first.baseAlias
  tables : ∀ aliasName, second.aliasTable aliasName = first.aliasTable aliasName
  specified : second.specifiedColumns = first.specifiedColumns
  relations : second.selectedRelations = first.selectedRelations
  derived : second.derivedColumns = first.derivedColumns
  index : second.selectIndex = first.selectIndex

namespace SameSelection

variable {first second : Statement} (same : SameSelection first second)

include same

theorem is_left_out (aliasName name : String) :
    second.isLeftOut aliasName name = first.isLeftOut aliasName name := by
  rw [isLeftOut, isLeftOut, same.specified]

theorem all_relation_entries (relations : List (String × String)) :
    second.allRelationEntries relations = first.allRelationEntries relations := by
  induction relations with
  | nil => rfl
  | cons relation rest ih =>
      simp only [allRelationEntries, relationEntries, same.tables, same.is_left_out, ih]

theorem select_columns : second.selectColumns = first.selectColumns := by
  have base : second.baseEntries = first.baseEntries := by
    simp only [baseEntries, same.base, same.table, same.type, same.union, same.is_left_out]
  rw [selectColumns, selectColumns, same.relations, same.all_relation_entries, same.index, base,
    derivedEntries, derivedEntries, same.derived]

theorem select_aliases : second.selectAliases = first.selectAliases := by
  rw [selectAliases, selectAliases, same.select_columns]

theorem only_specified : second.onlySpecified = first.onlySpecified := by
  simp only [onlySpecified, specifiedCount, same.type, same.specified, same.tables]
  rfl

theorem select_clause_of (columns : List SelectColumn) (hint : String) :
    second.selectClauseOf columns hint = first.selectClauseOf columns hint := by
  have texts : second.columnText = first.columnText := by
    funext column
    rw [columnText, columnText, same.purpose]
  simp only [selectClauseOf, listSelect, same.type, same.union, same.only_specified, texts]

end SameSelection

theorem select_aliases_of_columns {statement : Statement} {columns : List SelectColumn}
    (made : statement.selectColumns = .ok columns) :
    ∃ aliases, statement.selectAliases = .ok aliases ∧
      ∀ key, key ∈ aliases.keys ↔ key ∈ columns.map SelectColumn.key := by
  refine ⟨_, by rw [selectAliases, made]; rfl, fun key => ?_⟩
  rw [OrderedMap.mem_keys_ofList, List.map_map]
  rfl

/-- The select list is made, and every column that has been specified is in it as itself. -/
theorem select_columns_spec {statement : Statement} (consistent : statement.Consistent) :
    ∃ columns, statement.selectColumns = .ok columns ∧
      ∀ aliasName names name table column,
        statement.specifiedColumns.find? aliasName = some names → name ∈ names →
        statement.aliasTable aliasName = .ok table → table.requireColumn name = .ok column →
        (specifiedKey aliasName column, specifiedKey aliasName column) ∈
          columns.map SelectColumn.shown := by
  have relations := consistent.relations
  have tables : ∀ relation ∈ statement.selectedRelations.entries,
      ∃ table, statement.aliasTable relation.1 = .ok table := by
    intro relation member
    have selected : relation.1 ∈ statement.selectedRelations.keys :=
      List.mem_map.mpr ⟨relation, member, rfl⟩
    exact relations.joined _ (relations.selected _ selected)
  obtain ⟨entries, collected, cover⟩ := all_relation_entries_ok statement _ tables
  refine ⟨giveAliases statement.selectIndex 1
    (statement.baseEntries ++ entries ++ statement.derivedEntries), ?_, ?_⟩
  · rw [selectColumns, collected]
    rfl
  · intro aliasName names name table column found member tabled required
    rw [give_aliases_shown, List.map_append, List.map_append]
    apply List.mem_append_left
    obtain ⟨place, known, knownTable, declared⟩ := relations.specified aliasName names found
    obtain rfl := Except.ok.inj (tabled.symm.trans knownTable)
    obtain ⟨sameColumn, requiredAgain, own⟩ := declared name member
    obtain rfl := Except.ok.inj (required.symm.trans requiredAgain)
    have kept : statement.isLeftOut aliasName column.name = false := by
      rw [own]
      exact specified_not_left_out found member
    have listed := Table.mem_columns_of_required required
    rcases place with rfl | selected
    · have base : statement.aliasTable statement.baseAlias = .ok statement.table := if_pos rfl
      obtain rfl := Except.ok.inj (base.symm.trans tabled)
      apply List.mem_append_left
      exact List.mem_map.mpr (base_entries_cover listed kept)
    · obtain ⟨relation, present, rfl⟩ := List.mem_map.mp selected
      obtain ⟨entry, given, shown⟩ := relation_entries_cover relation.2 listed kept
      apply List.mem_append_right
      exact List.mem_map.mpr ⟨entry, cover relation present table tabled entry given, shown⟩

theorem select_aliases_spec {statement : Statement} (consistent : statement.Consistent) :
    ∃ aliases, statement.selectAliases = .ok aliases ∧
      ∀ name ∈ statement.derivedColumns.keys, name ∈ aliases.keys := by
  obtain ⟨columns, made, _⟩ := select_columns_spec consistent
  obtain ⟨aliases, aliased, keys⟩ := select_aliases_of_columns made
  refine ⟨aliases, aliased, fun name derived => ?_⟩
  obtain ⟨⟨_, subQuery⟩, member, rfl⟩ := List.mem_map.mp derived
  obtain ⟨column, present, shown⟩ := List.mem_map.mp
    ((select_columns_show made).2 _ subQuery member)
  rw [keys]
  exact List.mem_map.mpr ⟨column, present, (Prod.mk.inj shown).1⟩

theorem only_specified_eq {statement : Statement} (single : statement.specifiedCount = 1) :
    ∃ entry ∈ statement.specifiedColumns.entries, ∃ name ∈ entry.2,
      statement.onlySpecified = do
        let table ← statement.aliasTable entry.1
        let column ← table.requireColumn name
        return entry.1 ++ "." ++ column.sqlName.text := by
  unfold onlySpecified
  rw [if_neg (by simpa using single)]
  split
  · next empty =>
      have nothing : statement.specifiedColumns.values.flatten = [] := by
        rw [List.flatten_eq_nil_iff, OrderedMap.values]
        intro names listed
        obtain ⟨entry, present, rfl⟩ := List.mem_map.mp listed
        simpa using List.findSome?_eq_none_iff.mp empty entry present
      rw [specifiedCount, nothing] at single
      cases single
  · next aliasName name first =>
      obtain ⟨entry, member, head⟩ := List.exists_of_findSome?_eq_some first
      obtain ⟨name, heads, shape⟩ := Option.map_eq_some_iff.mp head
      obtain ⟨rfl, rfl⟩ := Prod.mk.inj shape
      exact ⟨entry, member, _, List.mem_of_head? heads, rfl⟩

/-- The one specified column of an aggregate is found, and it is in the select list as itself. -/
theorem only_specified_shown {statement : Statement} (consistent : statement.Consistent)
    (single : statement.specifiedCount = 1) :
    ∃ column columns, statement.onlySpecified = .ok column ∧
      statement.selectColumns = .ok columns ∧
      (column, column) ∈ columns.map SelectColumn.shown := by
  have relations := consistent.relations
  obtain ⟨columns, made, cover⟩ := select_columns_spec consistent
  obtain ⟨⟨aliasName, names⟩, member, name, listed, only⟩ := only_specified_eq single
  have found := OrderedMap.find?_eq_some_of_mem relations.distinct member
  obtain ⟨_, table, tabled, declared⟩ := relations.specified aliasName names found
  obtain ⟨column, required, _⟩ := declared name listed
  refine ⟨_, columns, ?_, made,
    cover aliasName names name table column found listed tabled required⟩
  rw [only]
  change (statement.aliasTable aliasName >>= _) = _
  rw [tabled]
  change (table.requireColumn name >>= _) = _
  rw [required]
  rfl

theorem only_specified_spec {statement : Statement} (consistent : statement.Consistent)
    (single : statement.specifiedCount = 1) :
    ∃ column aliases, statement.onlySpecified = .ok column ∧
      statement.selectAliases = .ok aliases ∧ column ∈ aliases.keys := by
  obtain ⟨column, columns, found, made, shown⟩ := only_specified_shown consistent single
  obtain ⟨aliases, aliased, keys⟩ := select_aliases_of_columns made
  refine ⟨column, aliases, found, aliased, ?_⟩
  obtain ⟨listed, member, same⟩ := List.mem_map.mp shown
  rw [keys]
  exact List.mem_map.mpr ⟨listed, member, (Prod.mk.inj same).1⟩

end Statement
end SqlComposer
