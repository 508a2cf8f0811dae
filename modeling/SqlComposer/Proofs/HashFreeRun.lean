import SqlComposer.Proofs.Alongside
import SqlComposer.Proofs.Filling
import SqlComposer.Proofs.HashFree
import SqlComposer.Proofs.History

/-!
Runs of registrations without number signs. Every text of a statement that such a run makes is
clean, and so is every branch of its union, so that the gaps of its template are where they have
been put and nowhere else.
-/
namespace SqlComposer

open Condition (Clause Holder Key LikeOption Target)
open Template (Gap InSegments Segment Unmarked filling unfilled write)

structure Table.HashFree (table : Table) : Prop where
  name : SqlComposer.HashFree table.name
  sqlName : SqlComposer.HashFree table.sqlName.text
  columns : ∀ column ∈ table.columns,
    SqlComposer.HashFree column.name ∧ SqlComposer.HashFree column.sqlName.text

def Schema.HashFree (schema : Schema) : Prop := ∀ table ∈ schema.tables.values, table.HashFree

theorem Schema.HashFree.table {schema : Schema} (names : schema.HashFree) {name : String}
    {table : Table} (found : schema.table name = .ok table) : table.HashFree := by
  have entry := OrderedMap.mem_of_find?_eq_some ((Schema.table_eq_ok_iff _ _ _).mp found)
  exact names table (List.mem_map.mpr ⟨_, entry, rfl⟩)

theorem Table.HashFree.column {table : Table} (free : table.HashFree) {name : String}
    {column : Column} (found : table.requireColumn name = .ok column) :
    SqlComposer.HashFree column.name ∧ SqlComposer.HashFree column.sqlName.text :=
  free.columns column (mem_columns_of_required found)

theorem hash_free_qualified {aliasName : String} (aliased : HashFree aliasName)
    {column : ColumnName} (named : HashFree column.text) :
    HashFree (ColumnRef.qualified aliasName column).text :=
  (aliased.append (by decide)).append named

namespace Statement

/-- The names that a statement takes from its schema. -/
structure NamesFree (statement : Statement) : Prop where
  schema : statement.schema.HashFree
  table : statement.table.HashFree

theorem NamesFree.alias_table {statement : Statement} (names : statement.NamesFree)
    {aliasName : String} {table : Table} (found : statement.aliasTable aliasName = .ok table) :
    table.HashFree := by
  rcases alias_table_cases found with ⟨_, rfl⟩ | ⟨join, _, found⟩
  · exact names.table
  · exact names.schema.table found

theorem hash_free_pairs {localAlias foreignAlias : String} (near : HashFree localAlias)
    (far : HashFree foreignAlias) {localTable foreignTable : Table} (own : localTable.HashFree)
    (other : foreignTable.HashFree) {columns : List (String × String)}
    {pairs : List (ColumnRef × ColumnRef)}
    (made : joinPairs localAlias foreignAlias localTable foreignTable columns = .ok pairs) :
    ∀ pair ∈ pairs, HashFree pair.1.text ∧ HashFree pair.2.text := by
  induction columns generalizing pairs with
  | nil =>
      obtain rfl := Except.ok.inj made
      exact nofun
  | cons names rest ih =>
      obtain ⟨nearColumn, foundNear, made⟩ := bind_eq_ok made
      obtain ⟨farColumn, foundFar, made⟩ := bind_eq_ok made
      obtain ⟨others, later, made⟩ := bind_eq_ok made
      obtain rfl := (Except.ok.inj made).symm
      rw [List.forall_mem_cons]
      exact ⟨⟨hash_free_qualified near (own.column foundNear).2,
        hash_free_qualified far (other.column foundFar).2⟩, ih later⟩

theorem hash_free_relation_alias (statement : Statement) {tableName : String}
    (free : HashFree tableName) (number : Nat) :
    HashFree (statement.relationAlias tableName number) := by
  have count : HashFree (toString number) := .of_figures (figures_of_nat number)
  unfold relationAlias
  cases statement.level with
  | zero => exact ((HashFree.append (by decide) free).append (by decide)).append count
  | succ level =>
      have depth : HashFree (toString (level + 1)) := .of_figures (figures_of_nat (level + 1))
      exact ((((HashFree.append (by decide) depth).append (by decide)).append free).append
        (by decide)).append count

/-- Fixed conditions in which no mark starts: the others are left to their resolver. -/
def FixedUnmarked (join : Join) : Prop :=
  ∀ condition, join.fixedCondition? = some condition → Unmarked condition.toList

/-- What is alike in two runs without number signs, but for the branches. -/
def cleanLikeness (branches : UnionBranch → UnionBranch → Prop) : Likeness where
  texts := Kept Clean
  given := HashFree
  admits condition := Unmarked condition.toList
  branches := branches

theorem new_join_given {branches : UnionBranch → UnionBranch → Prop} {statement : Statement}
    (names : statement.NamesFree) {aliasName property : String} (aliased : HashFree aliasName)
    {added : Join} (made : statement.newJoin aliasName property = .ok added)
    (fixed : FixedUnmarked added) : added.Given (cleanLikeness branches) := by
  obtain ⟨localTable, relation, foreignTable, known, _, found, paired, shape⟩ := new_join_made made
  have own := names.alias_table known
  have other := names.schema.table found
  have named : added.foreignAlias = _ := congrArg Join.foreignAlias shape
  have table : added.table = foreignTable.sqlName := congrArg Join.table shape
  have renamed : HashFree added.foreignAlias := by
    rw [named]
    exact hash_free_relation_alias statement other.name statement.joins.size
  refine ⟨?_, renamed, hash_free_pairs aliased renamed own other paired, fixed⟩
  rw [table]
  exact other.sqlName

def EscapeFree (option? : Option LikeOption) : Prop :=
  ∀ option, option? = some option → option.escape ≠ '#'

/-- Operations that bring no number sign into a statement, those that add a branch aside. A literal
may be written with number signs, and so may a fixed condition as long as no mark starts in it. -/
def Admits (statement : Statement) : Operation → Prop
  | .selectRelation aliasName suffix => HashFree aliasName ∧ HashFree suffix
  | .specify aliasName _ => HashFree aliasName
  | .derive name subQuery => HashFree name ∧ HashFree subQuery
  | .join aliasName property =>
      HashFree aliasName ∧
        ∀ added, statement.newJoin aliasName property = .ok added → FixedUnmarked added
  | .addCondition column key holder option? =>
      HashFree column.text ∧ holder.HashFree key ∧ EscapeFree option?
  | .addConditionText text => HashFree text
  | .addBaseInline _ key holder option? => holder.HashFree key ∧ EscapeFree option?
  | .addJoinCondition aliasName _ key holder option? _ =>
      HashFree aliasName ∧ holder.HashFree key ∧ EscapeFree option?
  | .addUnionText _ _ | .addUnion _ _ => False
  | _ => True

theorem compares_alike_clean {branches : UnionBranch → UnionBranch → Prop} {dialect : Dialect}
    {column : ColumnRef} {key : Key} {holder : Holder} {option? : Option LikeOption}
    (named : HashFree column.text) (free : holder.HashFree key) (escapes : EscapeFree option?) :
    ComparesAlike (cleanLikeness branches) dialect column key holder holder option? := by
  intro mode _
  cases made : key.clauses mode column holder option? with
  | error refusal => exact .refused
  | ok clauses =>
      refine .accepted (List.forall₂_same.mpr fun clause member => ⟨rfl, rfl, ?_⟩)
      exact clean_clauses named escapes key mode free made clause member

theorem matches_of_admits {branches : UnionBranch → UnionBranch → Prop} {statement : Statement}
    (names : statement.NamesFree) {operation : Operation} (admits : statement.Admits operation) :
    Matches (cleanLikeness branches) statement operation operation := by
  have filtered : HashFree inlineAlias := by decide
  cases operation with
  | join aliasName property =>
      exact ⟨rfl, fun added made => new_join_given names admits.1 made (admits.2 added made)⟩
  | addCondition column key holder option? =>
      exact ⟨holder, rfl, compares_alike_clean admits.1 admits.2.1 admits.2.2⟩
  | addConditionText text => exact ⟨rfl, rfl, HashFree.clean admits⟩
  | addBaseInline name key holder option? =>
      refine ⟨holder, rfl, fun column found => ?_⟩
      have named := hash_free_qualified filtered (names.table.column found).2
      exact compares_alike_clean named admits.1 admits.2
  | addJoinCondition aliasName name key holder option? isOn =>
      refine ⟨holder, rfl, fun table column known found => ?_⟩
      have own : HashFree (if isOn then aliasName else inlineAlias) := by
        split_ifs
        · exact admits.1
        · exact filtered
      have named := hash_free_qualified own ((names.alias_table known).column found).2
      exact compares_alike_clean named admits.2.1 admits.2.2
  | addUnionText text keepsDuplicates => exact admits.elim
  | addUnion branch keepsDuplicates => exact admits.elim
  | _ => exact rfl

/-- Statements that are reached without number signs, their union branches included, over schemas
without them. What a statement is nested in does not matter. -/
inductive HashFreeRun : Schema → Statement → Prop where
  | new {schema : Schema} {settings : Settings} {tableName : String} {purpose : Purpose}
      {statement : Statement} (names : schema.HashFree)
      (created : ofTable schema settings tableName purpose = .ok statement) :
      HashFreeRun schema statement
  | withResolver {schema : Schema} {statement : Statement} (run : HashFreeRun schema statement)
      (resolver : FixedCondition.Resolver) : HashFreeRun schema { statement with resolver }
  | nested {schema : Schema} {outer statement : Statement} {tableName : String}
      {purpose : Purpose} (names : schema.HashFree) (reached : Reachable schema outer)
      (created : outer.nested tableName purpose = .ok statement) : HashFreeRun schema statement
  | after {schema : Schema} {statement : Statement} (run : HashFreeRun schema statement)
      {operation : Operation} (admits : statement.Admits operation) :
      HashFreeRun schema (statement.after operation)
  | union {schema other : Schema} {statement branch : Statement}
      (run : HashFreeRun schema statement) (branchRun : HashFreeRun other branch)
      (keepsDuplicates : Bool) :
      HashFreeRun schema (statement.after (.addUnion branch keepsDuplicates))

namespace HashFreeRun

variable {schema : Schema} {statement : Statement}

theorem reachable (run : HashFreeRun schema statement) : Reachable schema statement := by
  induction run with
  | new _ created => exact .new created
  | withResolver _ resolver ih => exact .withResolver ih resolver
  | nested _ reached created => exact .nested reached created
  | after _ _ ih => exact .after ih _
  | union _ _ _ ih _ => exact .after ih _

theorem schema_names (run : HashFreeRun schema statement) : schema.HashFree := by
  induction run with
  | new names _ => exact names
  | withResolver _ _ ih => exact ih
  | nested names _ _ => exact names
  | after _ _ ih => exact ih
  | union _ _ _ ih _ => exact ih

theorem names (run : HashFreeRun schema statement) : statement.NamesFree := by
  have known := @reachable_invariant schema (fun statement => statement.table.HashFree)
    (by
      intro settings resolver tableName purpose level made created
      obtain ⟨table, found, rfl⟩ := create_eq_ok created
      exact run.schema_names.table found)
    (fun _ _ known => known)
    (by
      intro before operation after _ known effect
      rw [effect.same_origin.table]
      exact known)
    statement run.reachable
  exact ⟨known.1 ▸ run.schema_names, known.2.2⟩

end HashFreeRun

end Statement
end SqlComposer
