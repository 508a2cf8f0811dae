import SqlComposer.Proofs.Schema

/-!
Schemas as their tables and relations are declared, one after another. A declaration that is refused
leaves the schema as it is. After any number of declarations the tables are told apart by their
keys, every relation leads from a table to a table over columns that are there, and what has been
found once is found again.
-/
namespace SqlComposer

theorem OrderedMap.find?_insert_of_new {κ ν : Type} [DecidableEq κ] {map : OrderedMap κ ν} {key : κ}
    (fresh : key ∉ map.keys) (value : ν) {other : κ} {kept : ν}
    (found : map.find? other = some kept) : (map.insert key value).find? other = some kept := by
  have different : other ≠ key := by
    rintro rfl
    exact fresh ((mem_keys_iff_find? _ _).mpr ⟨kept, found⟩)
  rw [find?_insert, if_neg different]
  exact found

/-- A table or a relation that a schema is asked to take in. -/
inductive Declaration where
  | table (table : Table)
  | relation (relation : Relation)

namespace Schema

/-- The key under which a relation is found. -/
def relationKey (relation : Relation) : String × String :=
  (tableKey relation.localTable, relation.property)

/-- The columns of a relation are there, each in its own table. -/
def HasColumns (near far : Table) (pair : String × String) : Prop :=
  (∃ column, near.requireColumn pair.1 = .ok column) ∧
    ∃ column, far.requireColumn pair.2 = .ok column

/-- A relation between tables that are there, over columns that are there. -/
structure Admits (schema : Schema) (relation : Relation) : Prop where
  filled : relation.pairs ≠ []
  founded : ∃ near far, schema.table relation.localTable = .ok near ∧
    schema.table relation.foreignTable = .ok far ∧
    ∀ pair ∈ relation.pairs, HasColumns near far pair

def declare (schema : Schema) : Declaration → Except ClauseError Schema
  | .table table => schema.addTable table
  | .relation relation => schema.addRelation relation

/-- The schema after a declaration, whether it has been refused or not. -/
def after (schema : Schema) (declaration : Declaration) : Schema :=
  match schema.declare declaration with
  | .ok changed => changed
  | .error _ => schema

def afterAll (schema : Schema) (declarations : List Declaration) : Schema :=
  declarations.foldl after schema

theorem relation_eq_ok_iff (schema : Schema) (localTable property : String)
    (relation : Relation) : schema.relation localTable property = .ok relation ↔
      schema.relations.find? (tableKey localTable, property) = some relation := by
  unfold Schema.relation
  cases schema.relations.find? (tableKey localTable, property) <;> simp

theorem check_pairs_ok_iff (near far : Table) (pairs : List (String × String)) :
    checkPairs near far pairs = .ok () ↔ ∀ pair ∈ pairs, HasColumns near far pair := by
  induction pairs with
  | nil => simp [checkPairs]
  | cons pair rest ih =>
      rw [List.forall_mem_cons, ← ih]
      constructor
      · intro checked
        obtain ⟨nearColumn, foundNear, checked⟩ := bind_eq_ok checked
        obtain ⟨farColumn, foundFar, checked⟩ := bind_eq_ok checked
        exact ⟨⟨⟨nearColumn, foundNear⟩, farColumn, foundFar⟩, checked⟩
      · rintro ⟨⟨⟨nearColumn, foundNear⟩, farColumn, foundFar⟩, checked⟩
        change (near.requireColumn pair.1 >>= fun _ => far.requireColumn pair.2 >>= fun _ =>
          checkPairs near far rest) = .ok ()
        rw [foundNear, foundFar]
        exact checked

theorem add_table_ok_iff {schema after : Schema} {table : Table} :
    schema.addTable table = .ok after ↔ tableKey table.name ∉ schema.tables.keys ∧
      { schema with tables := schema.tables.insert (tableKey table.name) table } = after := by
  unfold addTable
  dsimp only
  rw [← OrderedMap.contains_iff_mem_keys]
  split_ifs with taken <;> simp [taken]

theorem add_relation_ok_iff {schema after : Schema} {relation : Relation} :
    schema.addRelation relation = .ok after ↔ schema.Admits relation ∧
      relationKey relation ∉ schema.relations.keys ∧
        { schema with relations :=
            schema.relations.insert (relationKey relation) relation } = after := by
  constructor
  · intro added
    unfold addRelation at added
    obtain ⟨near, foundNear, added⟩ := bind_eq_ok added
    obtain ⟨far, foundFar, added⟩ := bind_eq_ok added
    split_ifs at added with bare
    obtain ⟨⟨⟩, checked, added⟩ := bind_eq_ok added
    dsimp only at added
    split_ifs at added with taken
    have columns := (check_pairs_ok_iff near far _).mp checked
    refine ⟨⟨by simpa using bare, near, far, foundNear, foundFar, columns⟩, ?_,
      Except.ok.inj added⟩
    rw [← OrderedMap.contains_iff_mem_keys]
    exact taken
  · rintro ⟨⟨filled, near, far, foundNear, foundFar, columns⟩, free, rfl⟩
    have checked := (check_pairs_ok_iff near far _).mpr columns
    rw [← OrderedMap.contains_iff_mem_keys] at free
    unfold addRelation
    rw [foundNear, foundFar]
    dsimp only [bind, Except.bind]
    rw [if_neg (by simpa using filled), checked]
    exact if_neg free

/-- Whatever one schema finds, the other one finds as well. -/
structure Extends (before after : Schema) : Prop where
  tables : ∀ key table, before.tables.find? key = some table →
    after.tables.find? key = some table
  relations : ∀ key relation, before.relations.find? key = some relation →
    after.relations.find? key = some relation

theorem Extends.refl (schema : Schema) : Extends schema schema :=
  ⟨fun _ _ found => found, fun _ _ found => found⟩

theorem Extends.trans {first second third : Schema} (early : Extends first second)
    (late : Extends second third) : Extends first third :=
  ⟨fun key table found => late.tables key table (early.tables key table found),
    fun key relation found => late.relations key relation (early.relations key relation found)⟩

theorem Extends.table {before after : Schema} (extended : Extends before after) {name : String}
    {table : Table} (found : before.table name = .ok table) : after.table name = .ok table := by
  rw [table_eq_ok_iff] at found ⊢
  exact extended.tables _ _ found

theorem Extends.relation {before after : Schema} (extended : Extends before after)
    {localTable property : String} {relation : Relation}
    (found : before.relation localTable property = .ok relation) :
    after.relation localTable property = .ok relation := by
  rw [relation_eq_ok_iff] at found ⊢
  exact extended.relations _ _ found

theorem Extends.admits {before after : Schema} (extended : Extends before after)
    {relation : Relation} (admitted : before.Admits relation) : after.Admits relation := by
  obtain ⟨filled, near, far, foundNear, foundFar, columns⟩ := admitted
  exact ⟨filled, near, far, extended.table foundNear, extended.table foundFar, columns⟩

theorem extends_of_declared {schema changed : Schema} {declaration : Declaration}
    (declared : schema.declare declaration = .ok changed) : schema.Extends changed := by
  cases declaration with
  | table table =>
      obtain ⟨fresh, rfl⟩ := add_table_ok_iff.mp declared
      exact ⟨fun _ _ => OrderedMap.find?_insert_of_new fresh table, fun _ _ found => found⟩
  | relation relation =>
      obtain ⟨_, fresh, rfl⟩ := add_relation_ok_iff.mp declared
      exact ⟨fun _ _ found => found, fun _ _ => OrderedMap.find?_insert_of_new fresh relation⟩

/-- Tables and relations stand under their own keys, and every relation is between tables that are
there. -/
structure Integral (schema : Schema) : Prop where
  tableKeys : ∀ entry ∈ schema.tables.entries, tableKey entry.2.name = entry.1
  distinctTables : schema.tables.keys.Nodup
  relationKeys : ∀ entry ∈ schema.relations.entries, relationKey entry.2 = entry.1
  distinctRelations : schema.relations.keys.Nodup
  admitted : ∀ relation ∈ schema.relations.values, schema.Admits relation

theorem Integral.empty : Schema.empty.Integral :=
  ⟨nofun, List.nodup_nil, nofun, List.nodup_nil, nofun⟩

theorem Integral.declared {schema changed : Schema} (integral : schema.Integral)
    {declaration : Declaration} (declared : schema.declare declaration = .ok changed) :
    changed.Integral := by
  have extended := extends_of_declared declared
  cases declaration with
  | table table =>
      obtain ⟨fresh, rfl⟩ := add_table_ok_iff.mp declared
      refine ⟨fun entry member => ?_, OrderedMap.nodup_keys_insert integral.distinctTables _ _,
        integral.relationKeys, integral.distinctRelations, fun relation member =>
          extended.admits (integral.admitted relation member)⟩
      rcases OrderedMap.mem_entries_insert member with old | rfl
      · exact integral.tableKeys entry old
      · rfl
  | relation relation =>
      obtain ⟨admits, fresh, rfl⟩ := add_relation_ok_iff.mp declared
      refine ⟨integral.tableKeys, integral.distinctTables, fun entry member => ?_,
        OrderedMap.nodup_keys_insert integral.distinctRelations _ _, fun other member => ?_⟩
      · rcases OrderedMap.mem_entries_insert member with old | rfl
        · exact integral.relationKeys entry old
        · rfl
      · rcases OrderedMap.mem_values_insert member with old | rfl
        · exact extended.admits (integral.admitted other old)
        · exact extended.admits admits

theorem after_cases (schema : Schema) (declaration : Declaration) :
    schema.declare declaration = .ok (schema.after declaration) ∨
      (∃ refusal, schema.declare declaration = .error refusal) ∧
        schema.after declaration = schema := by
  unfold after
  cases schema.declare declaration with
  | ok changed => exact .inl rfl
  | error refusal => exact .inr ⟨⟨refusal, rfl⟩, rfl⟩

/-- What every accepted declaration keeps holds after all of them, refused ones among them. -/
theorem declared_invariant {invariant : Schema → Prop}
    (kept : ∀ schema declaration changed, invariant schema →
      schema.declare declaration = .ok changed → invariant changed)
    {schema : Schema} (holds : invariant schema) (declarations : List Declaration) :
    invariant (schema.afterAll declarations) := by
  induction declarations generalizing schema with
  | nil => exact holds
  | cons declaration rest ih =>
      rcases schema.after_cases declaration with declared | ⟨_, unchanged⟩
      · exact ih (kept schema declaration _ holds declared)
      · rw [afterAll, List.foldl_cons, unchanged]
        exact ih holds

theorem extends_after_all (schema : Schema) (declarations : List Declaration) :
    schema.Extends (schema.afterAll declarations) :=
  declared_invariant (fun _ _ _ extended declared => extended.trans (extends_of_declared declared))
    (Extends.refl schema) declarations

theorem integral_of_declarations (declarations : List Declaration) :
    (Schema.empty.afterAll declarations).Integral :=
  declared_invariant (fun _ _ _ integral declared => integral.declared declared) Integral.empty
    declarations

theorem built_of_declarations (declarations : List Declaration) :
    (Schema.empty.afterAll declarations).Built := by
  refine declared_invariant (fun schema declaration changed built declared => ?_) .empty
    declarations
  cases declaration with
  | table table => exact .addTable built declared
  | relation relation => exact .addRelation built declared

theorem Integral.stored_table {schema : Schema} (integral : schema.Integral) {table : Table}
    (stored : table ∈ schema.tables.values) : schema.table table.name = .ok table := by
  obtain ⟨⟨key, found⟩, entry, rfl⟩ := List.mem_map.mp stored
  have keyed : tableKey found.name = key := integral.tableKeys (key, found) entry
  subst keyed
  exact (table_eq_ok_iff _ _ _).mpr
    (OrderedMap.find?_eq_some_of_mem integral.distinctTables entry)

theorem Integral.stored_relation {schema : Schema} (integral : schema.Integral)
    {relation : Relation} (stored : relation ∈ schema.relations.values) :
    schema.relation relation.localTable relation.property = .ok relation := by
  obtain ⟨⟨key, found⟩, entry, rfl⟩ := List.mem_map.mp stored
  have keyed : relationKey found = key := integral.relationKeys (key, found) entry
  subst keyed
  exact (relation_eq_ok_iff _ _ _ _).mpr
    (OrderedMap.find?_eq_some_of_mem integral.distinctRelations entry)

/-- A relation that is found for a table starts from this very table. -/
theorem Integral.relation_found {schema : Schema} (integral : schema.Integral)
    {localTable property : String} {relation : Relation}
    (found : schema.relation localTable property = .ok relation) :
    schema.Admits relation ∧ tableKey relation.localTable = tableKey localTable := by
  have entry := OrderedMap.mem_of_find?_eq_some ((relation_eq_ok_iff _ _ _ _).mp found)
  have keyed := integral.relationKeys _ entry
  exact ⟨integral.admitted relation (List.mem_map.mpr ⟨_, entry, rfl⟩), (Prod.mk.inj keyed).1⟩

/-- What a schema promises to those who look up tables and relations in it. -/
structure Sound (schema : Schema) : Prop where
  distinct : (schema.tables.values.map fun table => tableKey table.name).Nodup
  stored : ∀ table ∈ schema.tables.values, schema.table table.name = .ok table
  related : ∀ relation ∈ schema.relations.values,
    schema.relation relation.localTable relation.property = .ok relation
  admitted : ∀ relation ∈ schema.relations.values, schema.Admits relation

theorem Integral.sound {schema : Schema} (integral : schema.Integral) : schema.Sound := by
  refine ⟨?_, fun _ => integral.stored_table, fun _ => integral.stored_relation,
    integral.admitted⟩
  have named : (schema.tables.values.map fun table => tableKey table.name) =
      schema.tables.keys := by
    rw [OrderedMap.values, OrderedMap.keys, List.map_map]
    exact List.map_congr_left integral.tableKeys
  rw [named]
  exact integral.distinctTables

/-- Every lookup that one schema answers is answered alike by the other one. -/
structure Remembers (before after : Schema) : Prop where
  table : ∀ name table, before.table name = .ok table → after.table name = .ok table
  relation : ∀ localTable property relation,
    before.relation localTable property = .ok relation →
      after.relation localTable property = .ok relation
  column : ∀ tableName name column,
    (before.table tableName >>= fun table => table.requireColumn name) = .ok column →
      (after.table tableName >>= fun table => table.requireColumn name) = .ok column

theorem Extends.remembers {before after : Schema} (extended : Extends before after) :
    Remembers before after := by
  refine ⟨fun _ _ => extended.table, fun _ _ _ => extended.relation,
    fun tableName name column found => ?_⟩
  obtain ⟨table, tabled, required⟩ := bind_eq_ok found
  rw [extended.table tabled]
  exact required

end Schema
end SqlComposer
