import SqlComposer.Proofs.SchemaHistory
import SqlComposer.QueryFile.Schema
import Mathlib.Data.List.Perm.Basic

/-!
The tables of a document in any order. What makes a document acceptable, its tables with keys of
their own and its relations admitted among all of these tables, does not depend on the order, and
neither does the answer to a lookup, since no two entries answer to one key.
-/
namespace SqlComposer

theorem OrderedMap.find?_of_perm {κ ν : Type} [DecidableEq κ] {first second : OrderedMap κ ν}
    (permuted : first.entries.Perm second.entries) (distinct : first.keys.Nodup) (key : κ) :
    first.find? key = second.find? key := by
  have others : second.keys.Nodup := (permuted.map Prod.fst).nodup_iff.mp distinct
  refine Option.ext fun value => ⟨fun found => ?_, fun found => ?_⟩
  · exact find?_eq_some_of_mem others (permuted.mem_iff.mp (mem_of_find?_eq_some found))
  · exact find?_eq_some_of_mem distinct (permuted.mem_iff.mpr (mem_of_find?_eq_some found))

theorem nodup_keys_snoc {α κ : Type} (key : α → κ) {before : List α} {item : α} :
    ((before ++ [item]).map key).Nodup ↔ key item ∉ before.map key ∧ (before.map key).Nodup := by
  rw [List.map_append, List.map_singleton, ← List.concat_eq_append, List.nodup_concat]

namespace Schema

/-- The relations of a document, in the order of their declaration. -/
def relationsOf (entries : List TableEntry) : List Relation :=
  entries.flatMap fun entry => entry.relations.map entry.relation

/-- The schema that holds tables and relations under their keys. -/
def ofParts (tables : List Table) (relations : List Relation) : Schema where
  tables := ⟨tables.map fun table => (tableKey table.name, table)⟩
  relations := ⟨relations.map fun relation => (relationKey relation, relation)⟩

theorem keys_of_tables (tables : List Table) (relations : List Relation) :
    (ofParts tables relations).tables.keys = tables.map fun table => tableKey table.name := by
  rw [OrderedMap.keys, ofParts, List.map_map]
  rfl

theorem keys_of_relations (tables : List Table) (relations : List Relation) :
    (ofParts tables relations).relations.keys = relations.map relationKey := by
  rw [OrderedMap.keys, ofParts, List.map_map]
  rfl

theorem add_table_to_parts {tables : List Table} {relations : List Relation} {table : Table}
    {after : Schema} : (ofParts tables relations).addTable table = .ok after ↔
      tableKey table.name ∉ tables.map (fun table => tableKey table.name) ∧
        ofParts (tables ++ [table]) relations = after := by
  rw [add_table_ok_iff, keys_of_tables]
  refine and_congr_right fun fresh => ?_
  rw [← keys_of_tables tables relations] at fresh
  rw [OrderedMap.insert_of_new fresh, ofParts, ofParts, List.map_append]
  rfl

theorem add_relation_to_parts {tables : List Table} {relations : List Relation}
    {relation : Relation} {after : Schema} :
    (ofParts tables relations).addRelation relation = .ok after ↔
      (ofParts tables relations).Admits relation ∧
        relationKey relation ∉ relations.map relationKey ∧
          ofParts tables (relations ++ [relation]) = after := by
  rw [add_relation_ok_iff, keys_of_relations]
  refine and_congr_right fun _ => and_congr_right fun fresh => ?_
  rw [← keys_of_relations tables relations] at fresh
  rw [OrderedMap.insert_of_new fresh, ofParts, ofParts, List.map_append]
  rfl

theorem admits_congr {first second : Schema} (alike : ∀ name, first.table name = second.table name)
    (relation : Relation) : first.Admits relation ↔ second.Admits relation := by
  have founded : ∀ {one other : Schema}, (∀ name, one.table name = other.table name) →
      one.Admits relation → other.Admits relation := by
    rintro one other same ⟨filled, near, far, foundNear, foundFar, columns⟩
    exact ⟨filled, near, far, same _ ▸ foundNear, same _ ▸ foundFar, columns⟩
  exact ⟨founded alike, founded fun name => (alike name).symm⟩

theorem add_tables_ok_iff {entries : List TableEntry} {relations : List Relation}
    {before : List Table} {after : Schema}
    (distinct : (before.map fun table => tableKey table.name).Nodup) :
    (ofParts before relations).addTables entries = .ok after ↔
      ∃ tables, List.Forall₂ (fun entry table => entry.table = .ok table) entries tables ∧
        ((before ++ tables).map fun table => tableKey table.name).Nodup ∧
          ofParts (before ++ tables) relations = after := by
  induction entries generalizing before with
  | nil => simp [addTables, distinct]
  | cons entry rest ih =>
      constructor
      · intro added
        obtain ⟨table, made, added⟩ := bind_eq_ok added
        obtain ⟨_, taken, added⟩ := bind_eq_ok added
        obtain ⟨fresh, rfl⟩ := add_table_to_parts.mp taken
        have more :=
          (nodup_keys_snoc fun table : Table => tableKey table.name).mpr ⟨fresh, distinct⟩
        obtain ⟨tables, later, all, rfl⟩ := (ih more).mp added
        rw [← List.append_cons] at all ⊢
        exact ⟨table :: tables, .cons made later, all, rfl⟩
      · rintro ⟨_, made, all, rfl⟩
        obtain ⟨table, tables, here, later, rfl⟩ := List.forall₂_cons_left_iff.mp made
        rw [List.append_cons] at all
        have more := (List.nodup_append.mp (List.map_append ▸ all)).1
        have fresh := ((nodup_keys_snoc fun table : Table => tableKey table.name).mp more).1
        rw [addTables, here]
        change ((ofParts before relations).addTable table >>= fun schema =>
          schema.addTables rest) = _
        rw [add_table_to_parts.mpr ⟨fresh, rfl⟩]
        exact (ih more).mpr ⟨tables, later, all, by rw [← List.append_cons]⟩

theorem add_relations_ok_iff {added before : List Relation} {tables : List Table}
    {after : Schema} (distinct : (before.map relationKey).Nodup) :
    (ofParts tables before).addRelations added = .ok after ↔
      (∀ relation ∈ added, (ofParts tables []).Admits relation) ∧
        ((before ++ added).map relationKey).Nodup ∧ ofParts tables (before ++ added) = after := by
  induction added generalizing before with
  | nil => simp [addRelations, distinct]
  | cons relation rest ih =>
      have admits : (ofParts tables before).Admits relation ↔ (ofParts tables []).Admits relation :=
        admits_congr (show ∀ name, (ofParts tables before).table name =
          (ofParts tables []).table name from fun _ => rfl) relation
      rw [List.forall_mem_cons, List.append_cons]
      constructor
      · intro accepted
        obtain ⟨_, taken, accepted⟩ := bind_eq_ok accepted
        obtain ⟨admitted, fresh, rfl⟩ := add_relation_to_parts.mp taken
        have more := (nodup_keys_snoc relationKey).mpr ⟨fresh, distinct⟩
        obtain ⟨later, all, rfl⟩ := (ih more).mp accepted
        exact ⟨⟨admits.mp admitted, later⟩, all, rfl⟩
      · rintro ⟨⟨here, later⟩, all, rfl⟩
        have more := (List.nodup_append.mp (List.map_append ▸ all)).1
        have fresh := ((nodup_keys_snoc relationKey).mp more).1
        rw [addRelations, add_relation_to_parts.mpr ⟨admits.mpr here, fresh, rfl⟩]
        exact (ih more).mpr ⟨later, all, rfl⟩

/-- What a document has to be like for its schema to be accepted. -/
structure Loads (entries : List TableEntry) (tables : List Table) : Prop where
  made : List.Forall₂ (fun entry table => entry.table = .ok table) entries tables
  distinctTables : (tables.map fun table => tableKey table.name).Nodup
  distinctRelations : ((relationsOf entries).map relationKey).Nodup
  admitted : ∀ relation ∈ relationsOf entries, (ofParts tables []).Admits relation

theorem of_entries_ok_iff {entries : List TableEntry} {schema : Schema} :
    ofEntries entries = .ok schema ↔
      ∃ tables, Loads entries tables ∧ ofParts tables (relationsOf entries) = schema := by
  constructor
  · intro loaded
    obtain ⟨_, added, loaded⟩ := bind_eq_ok loaded
    obtain ⟨tables, made, distinct, rfl⟩ :=
      (@add_tables_ok_iff entries [] [] _ List.nodup_nil).mp added
    obtain ⟨admitted, single, rfl⟩ :=
      (@add_relations_ok_iff _ [] tables _ List.nodup_nil).mp loaded
    exact ⟨tables, ⟨made, distinct, single, admitted⟩, rfl⟩
  · rintro ⟨tables, ⟨made, distinct, single, admitted⟩, rfl⟩
    have added : empty.addTables entries = .ok (ofParts tables []) :=
      (@add_tables_ok_iff entries [] [] _ List.nodup_nil).mpr
        ⟨tables, made, distinct, rfl⟩
    rw [ofEntries, added]
    exact (@add_relations_ok_iff _ [] tables _ List.nodup_nil).mpr ⟨admitted, single, rfl⟩

theorem tables_found_of_perm {first second : List Table} (permuted : first.Perm second)
    (distinct : (first.map fun table => tableKey table.name).Nodup)
    (relations others : List Relation) (name : String) :
    (ofParts first relations).table name = (ofParts second others).table name := by
  rw [← keys_of_tables first relations] at distinct
  have found : (ofParts first relations).tables.find? (tableKey name) =
      (ofParts second others).tables.find? (tableKey name) :=
    OrderedMap.find?_of_perm (permuted.map _) distinct _
  rw [Schema.table, Schema.table, found]

theorem relations_found_of_perm {first second : List Relation} (permuted : first.Perm second)
    (distinct : (first.map relationKey).Nodup) (tables others : List Table)
    (localTable property : String) :
    (ofParts tables first).relation localTable property =
      (ofParts others second).relation localTable property := by
  rw [← keys_of_relations tables first] at distinct
  have found : (ofParts tables first).relations.find? (tableKey localTable, property) =
      (ofParts others second).relations.find? (tableKey localTable, property) :=
    OrderedMap.find?_of_perm (permuted.map _) distinct _
  rw [Schema.relation, Schema.relation, found]

theorem Loads.perm {first second : List TableEntry} (permuted : first.Perm second)
    {tables : List Table} (loads : Loads first tables) :
    ∃ others, Loads second others ∧ tables.Perm others := by
  obtain ⟨others, made, reordered⟩ := List.perm_comp_forall₂ permuted.symm loads.made
  have relations : (relationsOf second).Perm (relationsOf first) := permuted.symm.flatMap_right _
  refine ⟨others, ⟨made, ?_, ?_, fun relation member => ?_⟩, reordered.symm⟩
  · exact (reordered.map _).nodup_iff.mpr loads.distinctTables
  · exact (relations.map _).nodup_iff.mpr loads.distinctRelations
  · have admitted := loads.admitted relation (relations.mem_iff.mp member)
    exact (admits_congr (tables_found_of_perm reordered.symm loads.distinctTables [] []) _).mp
      admitted

/-- A document is accepted in any order of its tables or in none, and what is looked up in its
schema is the same in all of them. -/
theorem loading_order_irrelevant {first second : List TableEntry} (permuted : first.Perm second) :
    ((∃ schema, ofEntries first = .ok schema) ↔ ∃ schema, ofEntries second = .ok schema) ∧
      ∀ schema other, ofEntries first = .ok schema → ofEntries second = .ok other →
        (∀ name, schema.table name = other.table name) ∧
          ∀ localTable property,
            schema.relation localTable property = other.relation localTable property := by
  have transfers : ∀ {one another : List TableEntry}, one.Perm another →
      (∃ schema, ofEntries one = .ok schema) → ∃ schema, ofEntries another = .ok schema := by
    rintro one another reordered ⟨schema, loaded⟩
    obtain ⟨tables, loads, _⟩ := of_entries_ok_iff.mp loaded
    obtain ⟨others, loads, _⟩ := loads.perm reordered
    exact ⟨_, of_entries_ok_iff.mpr ⟨others, loads, rfl⟩⟩
  refine ⟨⟨transfers permuted, transfers permuted.symm⟩, fun schema other loaded reloaded => ?_⟩
  obtain ⟨tables, loads, rfl⟩ := of_entries_ok_iff.mp loaded
  obtain ⟨others, again, rfl⟩ := of_entries_ok_iff.mp reloaded
  obtain ⟨reordered, remade, perm⟩ := loads.perm permuted
  -- The tables of a document are determined by its entries.
  obtain rfl : others = reordered :=
    List.right_unique_forall₂' (fun _ _ _ one other => Except.ok.inj (one.symm.trans other))
      again.made remade.made
  exact ⟨tables_found_of_perm perm loads.distinctTables _ _,
    relations_found_of_perm (permuted.flatMap_right _) loads.distinctRelations _ _⟩

def statusEntry : TableEntry where
  name := "STATUS"
  sqlName? := none
  primaryKey := ["STATUS_CODE"]
  columns := ["STATUS_CODE"]
  relations := []

/-- Members with a relation to a table of its own and one to their own table. -/
def memberEntry : TableEntry where
  name := "MEMBER"
  sqlName? := none
  primaryKey := ["MEMBER_ID"]
  columns := ["MEMBER_ID", "INVITER_ID", "STATUS_CODE"]
  relations := [⟨"status", "STATUS", [("STATUS_CODE", "STATUS_CODE")], none⟩,
    ⟨"inviter", "MEMBER", [("INVITER_ID", "MEMBER_ID")], none⟩]

theorem status_before_or_after_member :
    [memberEntry, statusEntry].Perm [statusEntry, memberEntry] ∧
      ∃ schema other, ofEntries [memberEntry, statusEntry] = .ok schema ∧
        ofEntries [statusEntry, memberEntry] = .ok other ∧
          schema.relation "member" "status" = other.relation "member" "status" := by
  have permuted : [memberEntry, statusEntry].Perm [statusEntry, memberEntry] := .swap _ _ _
  obtain ⟨accepted, alike⟩ := loading_order_irrelevant permuted
  obtain ⟨other, reloaded⟩ := accepted.mp ⟨_, rfl⟩
  exact ⟨permuted, _, other, rfl, reloaded, (alike _ other rfl reloaded).2 "member" "status"⟩

end Schema
end SqlComposer
