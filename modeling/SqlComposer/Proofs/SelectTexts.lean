import SqlComposer.Proofs.Effect
import SqlComposer.Proofs.Schema

/-!
A property of all texts in a select list. When the names and the sub-queries that the list is made
of have it, and putting them together keeps it, then so do the columns and their aliases.
-/
namespace SqlComposer

/-- A property of texts that is kept when the parts of a select list are put together. -/
structure Builds (property : String → Prop) : Prop where
  append : ∀ {first second}, property first → property second → property (first ++ second)
  enclosed : ∀ {text}, property text → property ("(" ++ text ++ ")")
  point : property "."
  index : ∀ number : Nat, property ("c" ++ toString number)

namespace Statement

/-- What a select list takes from the schema and from the registrations. -/
structure SelectParts (property : String → Prop) (statement : Statement) : Prop where
  base : property statement.baseAlias
  tables : ∀ {aliasName table}, statement.aliasTable aliasName = .ok table →
    ∀ column ∈ table.columns, property column.name ∧ property column.sqlName.text
  relations : ∀ entry ∈ statement.selectedRelations.entries, property entry.1 ∧ property entry.2
  derived : ∀ entry ∈ statement.derivedColumns.entries, property entry.1 ∧ property entry.2
  specified : ∀ entry ∈ statement.specifiedColumns.entries, property entry.1

def EntryHas (property : String → Prop) (entry : SelectEntry) : Prop :=
  property entry.expression ∧ property entry.ownAlias

/-- What is written of a column in the select list. -/
def ColumnHas (property : String → Prop) (column : SelectColumn) : Prop :=
  property column.expression ∧ property column.aliasName

variable {property : String → Prop} (builds : Builds property) {statement : Statement}

theorem given_aliases_have (index : ∀ number : Nat, property ("c" ++ toString number))
    {useIndex : Bool} {number : Nat} {entries : List SelectEntry}
    (each : ∀ entry ∈ entries, EntryHas property entry) :
    ∀ column ∈ giveAliases useIndex number entries, ColumnHas property column := by
  induction entries generalizing number with
  | nil => exact nofun
  | cons entry rest ih =>
      rw [List.forall_mem_cons] at each
      rw [giveAliases, List.forall_mem_cons]
      refine ⟨⟨each.1.1, ?_⟩, ih each.2⟩
      dsimp only
      split_ifs
      · exact index number
      · exact each.1.2

namespace SelectParts

variable (parts : statement.SelectParts property)

include builds parts

theorem base_entries : ∀ entry ∈ statement.baseEntries, EntryHas property entry := by
  intro entry member
  obtain ⟨column, selected, rfl⟩ := List.mem_map.mp member
  have own : statement.aliasTable statement.baseAlias = .ok statement.table := if_pos rfl
  obtain ⟨named, written⟩ := parts.tables own column (List.mem_filter.mp selected).1
  exact ⟨builds.append (builds.append parts.base builds.point) written, named⟩

theorem relation_entries {relations : List (String × String)}
    (each : ∀ entry ∈ relations, property entry.1 ∧ property entry.2) {entries : List SelectEntry}
    (made : statement.allRelationEntries relations = .ok entries) :
    ∀ entry ∈ entries, EntryHas property entry := by
  induction relations generalizing entries with
  | nil =>
      obtain rfl := Except.ok.inj made
      exact nofun
  | cons relation rest ih =>
      rw [List.forall_mem_cons] at each
      obtain ⟨table, known, made⟩ := bind_eq_ok made
      obtain ⟨others, later, made⟩ := bind_eq_ok made
      obtain rfl := (Except.ok.inj made).symm
      intro entry member
      rcases List.mem_append.mp member with own | other
      · obtain ⟨column, selected, rfl⟩ := List.mem_map.mp own
        obtain ⟨named, written⟩ := parts.tables known column (List.mem_filter.mp selected).1
        exact ⟨builds.append (builds.append each.1.1 builds.point) written,
          builds.append named each.1.2⟩
      · exact ih each.2 later entry other

theorem derived_entries : ∀ entry ∈ statement.derivedEntries, EntryHas property entry := by
  intro entry member
  obtain ⟨⟨name, subQuery⟩, present, rfl⟩ := List.mem_map.mp member
  obtain ⟨named, worded⟩ := parts.derived _ present
  exact ⟨builds.enclosed worded, named⟩

theorem select_columns {columns : List SelectColumn}
    (listed : statement.selectColumns = .ok columns) :
    ∀ column ∈ columns, ColumnHas property column := by
  obtain ⟨relations, found, listed⟩ := bind_eq_ok listed
  obtain rfl := (Except.ok.inj listed).symm
  refine given_aliases_have builds.index fun entry member => ?_
  rcases List.mem_append.mp member with first | derived
  · rcases List.mem_append.mp first with base | relation
    · exact parts.base_entries builds entry base
    · exact parts.relation_entries builds parts.relations found entry relation
  · exact parts.derived_entries builds entry derived

theorem select_alias {aliases : OrderedMap String String}
    (listed : statement.selectAliases = .ok aliases) {key aliasName : String}
    (found : aliases.find? key = some aliasName) : property aliasName := by
  obtain ⟨columns, made, rfl⟩ := map_eq_ok listed
  have entry := OrderedMap.mem_entries_ofList (OrderedMap.mem_of_find?_eq_some found)
  obtain ⟨column, member, same⟩ := List.mem_map.mp entry
  rw [← (Prod.mk.inj same).2]
  exact (parts.select_columns builds made column member).2

theorem only_specified {column : String} (found : statement.onlySpecified = .ok column) :
    property column := by
  unfold onlySpecified at found
  split_ifs at found
  split at found
  · cases found
  · next aliasName name first =>
      obtain ⟨table, known, found⟩ := bind_eq_ok found
      obtain ⟨own, required, found⟩ := bind_eq_ok found
      obtain rfl := (Except.ok.inj found).symm
      obtain ⟨entry, member, head⟩ := List.exists_of_findSome?_eq_some first
      obtain ⟨_, _, same⟩ := Option.map_eq_some_iff.mp head
      have aliased := parts.specified entry member
      rw [(Prod.mk.inj same).1] at aliased
      have written := (parts.tables known own (Table.mem_columns_of_required required)).2
      exact builds.append (builds.append aliased builds.point) written

end SelectParts

end Statement
end SqlComposer
