import SqlComposer.Proofs.Consistency

/-!
What a run of operations has selected. A history keeps the operations that have been accepted, first
to last; the selected relations, the specified columns and the derived columns of a statement are
told from its history alone.
-/
namespace SqlComposer

theorem erase_dups_concat {α : Type} [BEq α] [LawfulBEq α] (list : List α) (last : α) :
    (list ++ [last]).eraseDups =
      if last ∈ list then list.eraseDups else list.eraseDups ++ [last] := by
  rw [List.eraseDups_append]
  split_ifs with present <;> simp [List.removeAll, present, List.eraseDups_cons]

theorem lookup_cons_eq_ite (pairs : List (String × String)) (key value other : String) :
    ((key, value) :: pairs).lookup other =
      if other = key then some value else pairs.lookup other := by
  rw [List.lookup_cons]
  split_ifs with same
  · rw [same, beq_self_eq_true]
  · rw [beq_eq_false_iff_ne.mpr same]

theorem filter_map_concat_none {α β : Type} {reading : α → Option β} {last : α}
    (unread : reading last = none) (list : List α) :
    (list ++ [last]).filterMap reading = list.filterMap reading := by
  rw [List.filterMap_append, List.filterMap_cons_none unread, List.filterMap_nil, List.append_nil]

namespace Statement

open Condition (Clause Target)
open Registration (Commits)

/-- A reachable statement with the operations that it has accepted, first to last. -/
inductive Traced (schema : Schema) : Statement → List Operation → Prop where
  | new {settings : Settings} {tableName : String} {purpose : Purpose} {statement : Statement}
      (created : ofTable schema settings tableName purpose = .ok statement) :
      Traced schema statement []
  | withResolver {statement : Statement} {operations : List Operation}
      (traced : Traced schema statement operations) (resolver : FixedCondition.Resolver) :
      Traced schema { statement with resolver } operations
  | nested {outer statement : Statement} {operations : List Operation} {tableName : String}
      {purpose : Purpose} (traced : Traced schema outer operations)
      (created : outer.nested tableName purpose = .ok statement) : Traced schema statement []
  | accepted {statement : Statement} {operations : List Operation} {operation : Operation}
      (traced : Traced schema statement operations)
      (accepts : (operation.perform statement).1 = .ok ()) :
      Traced schema (statement.after operation) (operations ++ [operation])
  | refused {statement : Statement} {operations : List Operation} {operation : Operation}
      {refusal : ClauseError} (traced : Traced schema statement operations)
      (refuses : (operation.perform statement).1 = .error refusal) :
      Traced schema (statement.after operation) operations

variable {schema : Schema}

theorem Traced.reachable {statement : Statement} {operations : List Operation}
    (traced : Traced schema statement operations) : Reachable schema statement := by
  induction traced with
  | new created => exact .new created
  | withResolver _ resolver ih => exact .withResolver ih resolver
  | nested _ created ih => exact .nested ih created
  | accepted _ _ ih => exact .after ih _
  | refused _ _ ih => exact .after ih _

/-- Every reachable statement has a history. -/
theorem Reachable.traced {statement : Statement} (reached : Reachable schema statement) :
    ∃ operations, Traced schema statement operations := by
  induction reached with
  | new created => exact ⟨[], .new created⟩
  | withResolver _ resolver ih =>
      obtain ⟨operations, traced⟩ := ih
      exact ⟨operations, .withResolver traced resolver⟩
  | nested _ created ih =>
      obtain ⟨operations, traced⟩ := ih
      exact ⟨[], .nested traced created⟩
  | @after statement _ operation ih =>
      obtain ⟨operations, traced⟩ := ih
      cases answer : (operation.perform statement).1 with
      | ok value => exact ⟨_, .accepted traced answer⟩
      | error refusal => exact ⟨_, .refused traced answer⟩

theorem after_of_refused {statement : Statement} (scopes : statement.ScopesJoined)
    {operation : Operation} {refusal : ClauseError}
    (refuses : (operation.perform statement).1 = .error refusal) :
    statement.after operation = statement := by
  rcases after_cases scopes operation with ⟨_, unchanged⟩ | ⟨accepts, _⟩
  · exact unchanged
  · rw [accepts] at refuses
    cases refuses

/-- What new statements have and every effect keeps, with its operation added to the history, holds
of every traced statement. -/
theorem traced_invariant (built : schema.Built)
    {invariant : Statement → List Operation → Prop}
    (created : ∀ schema settings resolver tableName purpose level statement,
      create schema settings resolver tableName purpose level = .ok statement →
        invariant statement [])
    (resolved : ∀ statement resolver operations, invariant statement operations →
      invariant { statement with resolver } operations)
    (kept : ∀ statement operations operation after, statement.RelationsKnown →
      invariant statement operations → Effect statement operation after →
        invariant after (operations ++ [operation]))
    {statement : Statement} {operations : List Operation}
    (traced : Traced schema statement operations) : invariant statement operations := by
  induction traced with
  | new made => exact created _ _ _ _ _ _ _ made
  | withResolver _ resolver ih => exact resolved _ resolver _ ih
  | nested _ made _ => exact created _ _ _ _ _ _ _ (create_of_nested made)
  | accepted before accepts ih =>
      have relations := (before.reachable.consistent built).relations
      exact kept _ _ _ _ relations ih (effect_of_accepted before.reachable.scopes_joined accepts)
  | refused before refuses ih =>
      rw [after_of_refused before.reachable.scopes_joined refuses]
      exact ih

/-- The relation that an operation selects, with the suffix of its columns. -/
def selection? : Operation → Option (String × String)
  | .selectRelation aliasName suffix => some (aliasName, suffix)
  | _ => none

/-- The derived column that an operation asks for, with its sub-query. -/
def derivation? : Operation → Option (String × String)
  | .derive name subQuery => some (name, subQuery)
  | _ => none

/-- Every relation at its first selection, with the suffix it was first selected with. -/
def selections (operations : List Operation) : List (String × String) :=
  let asked := operations.filterMap selection?
  (asked.map Prod.fst).eraseDups.map fun aliasName =>
    (aliasName, (asked.lookup aliasName).getD "")

/-- Every derived column at its first registration, with the sub-query it was last given. -/
def derivations (operations : List Operation) : List (String × String) :=
  let asked := operations.filterMap derivation?
  (asked.map Prod.fst).eraseDups.map fun name => (name, (asked.reverse.lookup name).getD "")

/-- The declared names of the columns of a table that have been specified under an alias. -/
def specifiedNames (operations : List Operation) (aliasName : String) (table : Table) :
    List String :=
  operations.filterMap fun operation =>
    match operation with
    | .specify asked name =>
      if asked = aliasName then (table.column? name).map Column.name else none
    | _ => none

/-- A map whose keys come in the order in which they were asked for, and whose values are the first
ones among the answers. -/
structure Recounts (map : OrderedMap String String) (asked answers : List (String × String)) :
    Prop where
  distinct : map.keys.Nodup
  keys : map.keys = (asked.map Prod.fst).eraseDups
  values : ∀ key, map.find? key = answers.lookup key

theorem Recounts.empty : Recounts OrderedMap.empty [] [] :=
  ⟨List.nodup_nil, rfl, fun _ => rfl⟩

theorem Recounts.entries {map : OrderedMap String String} {asked answers : List (String × String)}
    (recounts : Recounts map asked answers) :
    map.entries = (asked.map Prod.fst).eraseDups.map fun key =>
      (key, (answers.lookup key).getD "") := by
  rw [OrderedMap.entries_eq_of_distinct recounts.distinct "", recounts.keys]
  simp only [recounts.values]

theorem Recounts.mem_keys {map : OrderedMap String String} {asked answers : List (String × String)}
    (recounts : Recounts map asked answers) (key : String) :
    key ∈ asked.map Prod.fst ↔ key ∈ map.keys := by
  rw [recounts.keys, List.mem_eraseDups]

theorem Recounts.insert {map : OrderedMap String String}
    {asked answers updated : List (String × String)} (recounts : Recounts map asked answers)
    {key value : String}
    (answer : ∀ other, updated.lookup other =
      if other = key then some value else answers.lookup other) :
    Recounts (map.insert key value) (asked ++ [(key, value)]) updated := by
  refine ⟨OrderedMap.nodup_keys_insert recounts.distinct key value, ?_, fun other => ?_⟩
  · rw [OrderedMap.keys_insert, List.map_append, List.map_singleton, erase_dups_concat]
    simp only [recounts.mem_keys, recounts.keys]
  · rw [OrderedMap.find?_insert, answer, recounts.values]

/-- A relation that is selected already keeps its place and its suffix. -/
theorem Recounts.again {map : OrderedMap String String} {asked : List (String × String)}
    (recounts : Recounts map asked asked) {key : String} (value : String)
    (present : key ∈ map.keys) :
    Recounts map (asked ++ [(key, value)]) (asked ++ [(key, value)]) := by
  refine ⟨recounts.distinct, ?_, fun other => ?_⟩
  · rw [List.map_append, List.map_singleton, erase_dups_concat,
      if_pos ((recounts.mem_keys key).mpr present)]
    exact recounts.keys
  · rw [List.lookup_append, recounts.values]
    cases found : asked.lookup other with
    | some first => rfl
    | none =>
        have missing : other ∉ map.keys := by
          rw [← OrderedMap.find?_eq_none_iff, recounts.values]
          exact found
        have different : other ≠ key := by
          rintro rfl
          exact missing present
        rw [lookup_cons_eq_ite, if_neg different]
        rfl

/-- A column of the table behind an alias goes by a name that is asked for in some spelling. -/
def Calls (statement : Statement) (aliasName asked name : String) : Prop :=
  ∃ table column, statement.aliasTable aliasName = .ok table ∧
    table.requireColumn asked = .ok column ∧ column.name = name

structure SpecifiedBy (statement : Statement) (operations : List Operation) : Prop where
  asked : ∀ {aliasName names}, statement.specifiedColumns.find? aliasName = some names →
    names ≠ [] ∧ ∀ name ∈ names, ∃ asked, Operation.specify aliasName asked ∈ operations ∧
      statement.Calls aliasName asked name
  kept : ∀ {aliasName asked}, Operation.specify aliasName asked ∈ operations →
    ∃ names, statement.specifiedColumns.find? aliasName = some names ∧
      ∃ name ∈ names, statement.Calls aliasName asked name

theorem Calls.of_table {before after : Statement} {aliasName asked name : String}
    (calls : before.Calls aliasName asked name)
    (same : after.aliasTable aliasName = before.aliasTable aliasName) :
    after.Calls aliasName asked name := by
  obtain ⟨table, column, tabled, found⟩ := calls
  exact ⟨table, column, same.trans tabled, found⟩

/-- Whatever else an operation does, it leaves the specified columns and their tables alone. -/
theorem SpecifiedBy.of_same {before after : Statement} {operations : List Operation}
    (specified : before.SpecifiedBy operations) {operation : Operation}
    (other : ∀ aliasName name, operation ≠ .specify aliasName name)
    (columns : after.specifiedColumns = before.specifiedColumns)
    (tables : ∀ aliasName names, before.specifiedColumns.find? aliasName = some names →
      after.aliasTable aliasName = before.aliasTable aliasName) :
    after.SpecifiedBy (operations ++ [operation]) := by
  refine ⟨fun found => ?_, fun member => ?_⟩
  · rw [columns] at found
    obtain ⟨some, each⟩ := specified.asked found
    refine ⟨some, fun name member => ?_⟩
    obtain ⟨asked, present, calls⟩ := each name member
    exact ⟨asked, List.mem_append_left _ present, calls.of_table (tables _ _ found)⟩
  · rcases List.mem_append.mp member with before | last
    · obtain ⟨names, found, name, listed, calls⟩ := specified.kept before
      exact ⟨names, columns ▸ found, name, listed, calls.of_table (tables _ _ found)⟩
    · exact absurd (List.mem_singleton.mp last).symm (other _ _)

theorem SpecifiedBy.specify {statement : Statement} {operations : List Operation}
    (specified : statement.SpecifiedBy operations) {aliasName asked : String} {table : Table}
    {column : Column} (tabled : statement.aliasTable aliasName = .ok table)
    (found : table.requireColumn asked = .ok column) :
    SpecifiedBy
      { statement with
        specifiedColumns :=
          statement.specifiedColumns.alter aliasName [] (· ++ [column.name]) }
      (operations ++ [.specify aliasName asked]) := by
  have calls : statement.Calls aliasName asked column.name := ⟨table, column, tabled, found, rfl⟩
  rw [OrderedMap.alter_eq_insert]
  refine ⟨fun {other names} holds => ?_, fun {other name} member => ?_⟩
  · rw [OrderedMap.find?_insert] at holds
    split_ifs at holds with same
    · subst same
      obtain rfl := Option.some.inj holds
      refine ⟨by simp, fun name member => ?_⟩
      rcases List.mem_append.mp member with before | new
      · cases old : statement.specifiedColumns.find? other with
        | none => simp [old] at before
        | some names =>
            rw [old, Option.getD_some] at before
            obtain ⟨spelling, present, named⟩ := (specified.asked old).2 name before
            exact ⟨spelling, List.mem_append_left _ present, named⟩
      · rw [List.mem_singleton.mp new]
        exact ⟨asked, List.mem_append_right _ List.mem_cons_self, calls⟩
    · obtain ⟨some, each⟩ := specified.asked holds
      refine ⟨some, fun name member => ?_⟩
      obtain ⟨spelling, present, named⟩ := each name member
      exact ⟨spelling, List.mem_append_left _ present, named⟩
  · simp only [OrderedMap.find?_insert]
    rcases List.mem_append.mp member with before | last
    · obtain ⟨names, holds, known, listed, named⟩ := specified.kept before
      split_ifs with same
      · subst same
        rw [holds, Option.getD_some]
        exact ⟨_, rfl, known, List.mem_append_left _ listed, named⟩
      · exact ⟨names, holds, known, listed, named⟩
    · obtain ⟨rfl, rfl⟩ := Operation.specify.inj (List.mem_singleton.mp last)
      rw [if_pos rfl]
      exact ⟨_, rfl, column.name, List.mem_append_right _ List.mem_cons_self, calls⟩

/-- A column that has been specified in another spelling, or before, is not specified again. -/
theorem SpecifiedBy.specify_again {statement : Statement} {operations : List Operation}
    (specified : statement.SpecifiedBy operations) {aliasName asked : String} {table : Table}
    {column : Column} (tabled : statement.aliasTable aliasName = .ok table)
    (found : table.requireColumn asked = .ok column)
    (present : statement.isSpecified aliasName column.name = true) :
    statement.SpecifiedBy (operations ++ [.specify aliasName asked]) := by
  refine ⟨fun holds => ?_, fun {other name} member => ?_⟩
  · obtain ⟨some, each⟩ := specified.asked holds
    refine ⟨some, fun name member => ?_⟩
    obtain ⟨spelling, known, named⟩ := each name member
    exact ⟨spelling, List.mem_append_left _ known, named⟩
  · rcases List.mem_append.mp member with before | last
    · exact specified.kept before
    · obtain ⟨rfl, rfl⟩ := Operation.specify.inj (List.mem_singleton.mp last)
      unfold isSpecified at present
      split at present
      · next names holds =>
        exact ⟨names, holds, column.name, by simpa using present, table, column, tabled, found, rfl⟩
      · cases present

theorem mem_specified_names {operations : List Operation} {aliasName : String} {table : Table}
    {name : String} :
    name ∈ specifiedNames operations aliasName table ↔
      ∃ asked, Operation.specify aliasName asked ∈ operations ∧
        ∃ column, table.requireColumn asked = .ok column ∧ column.name = name := by
  simp only [specifiedNames, List.mem_filterMap, Table.require_column_eq_ok_iff]
  constructor
  · rintro ⟨operation, member, named⟩
    split at named
    · next spelling asked =>
      split_ifs at named with same
      subst same
      exact ⟨asked, member, Option.map_eq_some_iff.mp named⟩
    · cases named
  · rintro ⟨asked, member, named⟩
    refine ⟨_, member, ?_⟩
    simp only [if_true]
    exact Option.map_eq_some_iff.mpr named

/-- A column is left out exactly when others of its table have been specified and it has not. -/
theorem SpecifiedBy.left_out {statement : Statement} {operations : List Operation}
    (specified : statement.SpecifiedBy operations) {aliasName : String} {table : Table}
    (tabled : statement.aliasTable aliasName = .ok table) (name : String) :
    statement.isLeftOut aliasName name = false ↔
      specifiedNames operations aliasName table = [] ∨
        name ∈ specifiedNames operations aliasName table := by
  unfold isLeftOut
  cases found : statement.specifiedColumns.find? aliasName with
  | none =>
      have nothing : specifiedNames operations aliasName table = [] := by
        refine List.eq_nil_iff_forall_not_mem.mpr fun other member => ?_
        obtain ⟨asked, present, _⟩ := mem_specified_names.mp member
        obtain ⟨names, holds, _⟩ := specified.kept present
        rw [found] at holds
        cases holds
      simp [nothing]
  | some names =>
      obtain ⟨some, each⟩ := specified.asked found
      have listed : ∀ other, other ∈ names ↔ other ∈ specifiedNames operations aliasName table := by
        intro other
        rw [mem_specified_names]
        constructor
        · intro member
          obtain ⟨asked, present, sameTable, column, tabledAgain, required, named⟩ :=
            each other member
          obtain rfl := Except.ok.inj (tabled.symm.trans tabledAgain)
          exact ⟨asked, present, column, required, named⟩
        · rintro ⟨asked, present, column, required, rfl⟩
          obtain ⟨sameNames, holds, kept, member, sameTable, sameColumn, tabledAgain,
            requiredAgain, rfl⟩ := specified.kept present
          obtain rfl := Option.some.inj (found.symm.trans holds)
          obtain rfl := Except.ok.inj (tabled.symm.trans tabledAgain)
          obtain rfl := Except.ok.inj (required.symm.trans requiredAgain)
          exact member
      obtain ⟨first, present⟩ := List.exists_mem_of_ne_nil names some
      have occupied : specifiedNames operations aliasName table ≠ [] :=
        List.ne_nil_of_mem ((listed first).mp present)
      simp [occupied, listed]

/-- What a history tells about the selection of its statement. -/
structure Recounted (statement : Statement) (operations : List Operation) : Prop where
  selected : Recounts statement.selectedRelations (operations.filterMap selection?)
    (operations.filterMap selection?)
  derived : Recounts statement.derivedColumns (operations.filterMap derivation?)
    (operations.filterMap derivation?).reverse
  specified : statement.SpecifiedBy operations

/-- Operations that select, derive and specify nothing leave the selection as it was told. -/
theorem Recounted.of_same {before after : Statement} {operations : List Operation}
    (recounted : before.Recounted operations) {operation : Operation}
    (selects : selection? operation = none) (derives : derivation? operation = none)
    (specifies : ∀ aliasName name, operation ≠ .specify aliasName name)
    (selected : after.selectedRelations = before.selectedRelations)
    (derived : after.derivedColumns = before.derivedColumns)
    (columns : after.specifiedColumns = before.specifiedColumns)
    (tables : ∀ aliasName names, before.specifiedColumns.find? aliasName = some names →
      after.aliasTable aliasName = before.aliasTable aliasName) :
    after.Recounted (operations ++ [operation]) := by
  refine ⟨?_, ?_, recounted.specified.of_same specifies columns tables⟩
  · rw [filter_map_concat_none selects, selected]
    exact recounted.selected
  · rw [filter_map_concat_none derives, derived]
    exact recounted.derived

theorem Recounted.select_relation {statement : Statement} {operations : List Operation}
    (recounted : statement.Recounted operations) (aliasName suffix : String)
    (fresh : statement.selectedRelations.contains aliasName = false) :
    Recounted
      { statement with
        selectedRelations := statement.selectedRelations.insert aliasName suffix }
      (operations ++ [.selectRelation aliasName suffix]) := by
  have missing : (operations.filterMap selection?).lookup aliasName = none := by
    rw [← recounted.selected.values, OrderedMap.find?_eq_none_iff,
      ← OrderedMap.contains_iff_mem_keys, fresh]
    exact Bool.false_ne_true
  refine ⟨?_, ?_, recounted.specified.of_same (fun _ _ => nofun) rfl fun _ _ _ => rfl⟩
  · rw [List.filterMap_append]
    refine recounted.selected.insert fun other => ?_
    rw [List.lookup_append]
    change ((operations.filterMap selection?).lookup other).or
      ([(aliasName, suffix)].lookup other) = _
    rw [lookup_cons_eq_ite]
    split_ifs with same
    · rw [same, missing]
      rfl
    · exact Option.or_none
  · rw [filter_map_concat_none rfl]
    exact recounted.derived

theorem Recounted.derive {statement : Statement} {operations : List Operation}
    (recounted : statement.Recounted operations) (name subQuery : String) :
    Recounted
      { statement with derivedColumns := statement.derivedColumns.insert name subQuery }
      (operations ++ [.derive name subQuery]) := by
  refine ⟨?_, ?_, recounted.specified.of_same (fun _ _ => nofun) rfl fun _ _ _ => rfl⟩
  · rw [filter_map_concat_none rfl]
    exact recounted.selected
  · rw [List.filterMap_append]
    refine recounted.derived.insert fun other => ?_
    rw [List.reverse_append]
    exact lookup_cons_eq_ite _ name subQuery other

theorem Recounted.specify {before after : Statement} {operations : List Operation}
    (recounted : before.Recounted operations) {aliasName asked : String}
    (specified : after.SpecifiedBy (operations ++ [.specify aliasName asked]))
    (selected : after.selectedRelations = before.selectedRelations)
    (derived : after.derivedColumns = before.derivedColumns) :
    after.Recounted (operations ++ [.specify aliasName asked]) := by
  refine ⟨?_, ?_, specified⟩
  · rw [filter_map_concat_none rfl, selected]
    exact recounted.selected
  · rw [filter_map_concat_none rfl, derived]
    exact recounted.derived

theorem Recounted.select_again {statement : Statement} {operations : List Operation}
    (recounted : statement.Recounted operations) (aliasName suffix : String)
    (present : statement.selectedRelations.contains aliasName = true) :
    statement.Recounted (operations ++ [.selectRelation aliasName suffix]) := by
  refine ⟨?_, ?_, recounted.specified.of_same (fun _ _ => nofun) rfl fun _ _ _ => rfl⟩
  · rw [List.filterMap_append]
    exact recounted.selected.again suffix ((OrderedMap.contains_iff_mem_keys _ _).mp present)
  · rw [filter_map_concat_none rfl]
    exact recounted.derived

/-- Recording clauses touches no part of the selection. -/
theorem Recorded.recounted {statement after : Statement} {entries : List (Target × Clause)}
    (recorded : Recorded statement entries after) {operations : List Operation}
    (recounted : statement.Recounted operations) {operation : Operation}
    (selects : selection? operation = none) (derives : derivation? operation = none)
    (specifies : ∀ aliasName name, operation ≠ .specify aliasName name) :
    after.Recounted (operations ++ [operation]) := by
  have origin := recorded.same_origin
  obtain ⟨_, _, _, _, rfl, joins⟩ := recorded.frame
  exact recounted.of_same selects derives specifies rfl rfl rfl fun aliasName _ _ =>
    alias_table_of_same origin joins aliasName

theorem Effect.recounted {statement after : Statement} {operation : Operation}
    (effect : Effect statement operation after) (known : statement.RelationsKnown)
    {operations : List Operation} (recounted : statement.Recounted operations) :
    after.Recounted (operations ++ [operation]) := by
  have origin := effect.same_origin
  cases effect with
  | selectRelation _ _ fresh => exact recounted.select_relation _ _ fresh
  | selectRelationAgain present => exact recounted.select_again _ _ present
  | specify specifiable found =>
      have tabled := (specifiable_table_spec specifiable).2
      exact recounted.specify (recounted.specified.specify tabled found) rfl rfl
  | specifyAgain specifiable found present =>
      have tabled := (specifiable_table_spec specifiable).2
      exact recounted.specify (recounted.specified.specify_again tabled found present) rfl rfl
  | derive => exact recounted.derive _ _
  | join _ made =>
      refine recounted.of_same rfl rfl (fun _ _ => nofun) rfl rfl rfl fun aliasName _ found => ?_
      exact alias_table_of_new_join (new_join_fresh known.numbered made)
        (known.base_or_joined found)
  | makeInner found =>
      refine recounted.of_same rfl rfl (fun _ _ => nofun) rfl rfl rfl fun aliasName _ _ => ?_
      exact alias_table_of_same origin (same_joins_insert found rfl) aliasName
  | recorded recording _ _ record =>
      cases recording <;> exact record.recounted recounted rfl rfl fun _ _ => nofun
  | closeOrScope _ record =>
      exact record.recounted
        ⟨recounted.selected, recounted.derived, recounted.specified.asked,
          recounted.specified.kept⟩ rfl rfl fun _ _ => nofun
  | _ => exact recounted.of_same rfl rfl (fun _ _ => nofun) rfl rfl rfl fun _ _ _ => rfl

theorem new_recounted {schema : Schema} {settings : Settings}
    {resolver : FixedCondition.Resolver} {tableName : String} {purpose : Purpose} {level : Nat}
    {statement : Statement}
    (created : create schema settings resolver tableName purpose level = .ok statement) :
    statement.Recounted [] := by
  obtain ⟨table, _, rfl⟩ := create_eq_ok created
  exact ⟨.empty, .empty, fun found => (nomatch found), fun member => (nomatch member)⟩

/-- The history of a statement tells its selection. -/
theorem Traced.recounted {schema : Schema} (built : schema.Built) {statement : Statement}
    {operations : List Operation} (traced : Traced schema statement operations) :
    statement.Recounted operations :=
  traced_invariant built (fun _ _ _ _ _ _ _ => new_recounted)
    (fun _ _ _ recounted => ⟨recounted.selected, recounted.derived, recounted.specified.asked,
      recounted.specified.kept⟩)
    (fun _ _ _ _ known recounted effect => effect.recounted known recounted) traced

end Statement
end SqlComposer
