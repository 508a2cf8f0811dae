import SqlComposer.Proofs.ConditionEntry
import SqlComposer.Proofs.FileJoins

/-!
The conditions of a query file. What a condition asks for is told from its entry and from the
tables of a statement, without a state: the list that it is for, the column that it names there and
its clauses. A condition that is ignored asks for nothing, every other one for a clause, and later
states of the statement do not change the answer.
-/
namespace SqlComposer

open Condition (Clause Holder Key LikeOption Target entriesFor)

namespace Condition

/-- Parts of a split list stay apart only where each can be a term of an or-scope. -/
theorem list_clauses_single {key : Key} {mode : Mode}
    (joined : mode.inOrScope = true → mode.inAndPart = true) (column : ColumnRef) (value : Value) :
    ∃ clause, key.listClauses mode column value = [clause] := by
  unfold Key.listClauses
  dsimp only
  split
  case isTrue whole =>
    rcases whole with single | ⟨_, inside, apart⟩
    · exact List.length_eq_one_iff.mp single
    · exact absurd (joined inside) apart
  case isFalse => exact ⟨_, rfl⟩

end Condition

namespace Statement

/-- The mode of conditions at a place: outside of or-scopes, in one, or in one of its and-parts. -/
def modeWithin (host : Statement) (inOrScope inAndPart : Bool) : Condition.Mode :=
  { host.conditionMode with inOrScope, inAndPart }

def joinedColumn (host : Statement) (aliasName name : String) : Except ClauseError Column := do
  let _ ← host.requireJoin aliasName
  let table ← host.aliasTable aliasName
  table.requireColumn name

theorem Continues.mode_within {before after : Statement} (continues : before.Continues after)
    (inOrScope inAndPart : Bool) :
    after.modeWithin inOrScope inAndPart = before.modeWithin inOrScope inAndPart := by
  unfold modeWithin conditionMode dialect
  rw [continues.origin.settings]

theorem Continues.joined_column {before after : Statement} (continues : before.Continues after)
    {aliasName name : String} {column : Column}
    (found : before.joinedColumn aliasName name = .ok column) :
    after.joinedColumn aliasName name = .ok column := by
  rcases bind_eq_ok found with ⟨join, required, found⟩
  rcases bind_eq_ok found with ⟨table, known, found⟩
  rcases continues.joins _ _ ((require_join_eq_ok_iff _ _ _).mp required) with ⟨kept, there, same⟩
  have again := (require_join_eq_ok_iff _ _ _).mpr there
  have tables : after.aliasTable aliasName = before.aliasTable aliasName := by
    unfold aliasTable
    rw [continues.base_alias, continues.origin.table, required, again, continues.origin.schema]
    split_ifs
    · rfl
    · change before.schema.table kept.foreignTable = before.schema.table join.foreignTable
      rw [(joined_alike same).2.2.2]
  rw [joinedColumn, again, tables, known]
  exact found

theorem compare_accepts {statement : Statement} {target : Target}
    (there : statement.HasTarget target) (column : ColumnRef) (key : Key) (holder : Holder)
    (option? : Option LikeOption) :
    Registration.Commits (compare target column key holder option?) statement fun _ after =>
      ∃ clauses, key.clauses statement.conditionMode column holder option? = .ok clauses ∧
        Recorded statement (clauses.map fun clause => (target, clause)) after := by
  apply Registration.commits_bind_allow
  intro _
  apply Registration.commits_bind_get
  apply Registration.commits_bind_lift
  intro clauses made
  have targets : ∀ entry ∈ clauses.map fun clause => (target, clause),
      statement.HasTarget entry.1 := by
    intro entry member
    rcases List.mem_map.mp member with ⟨clause, _, rfl⟩
    exact there
  apply (register_clauses_completes _ statement targets).commits.mono
  intro _ after recorded
  exact ⟨clauses, made, recorded⟩

end Statement

namespace QueryFile

open Statement (Continues Recorded Sound)

def ConditionEntry.target (entry : ConditionEntry) (names : JoinNames) : Except Problem Target :=
  match entry.inline?, entry.on? with
  | some _, some _ => .error (.inlineAndOn entry.column)
  | some name, none =>
    if name = baseWord then .ok .baseInline
    else do
      let aliasName ← aliasOf names name
      return .joinInline aliasName
  | none, some name => do
    let aliasName ← aliasOf names name
    return .joinOn aliasName
  | none, none => .ok .main

/-- The column that a condition names, in the words of the list that it is for. -/
def ConditionEntry.columnFor (entry : ConditionEntry) (host : Statement) (names : JoinNames) :
    Target → Except Problem ColumnRef
  | .main => do
    let (aliasName, name) ← qualify host.baseAlias names entry.column
    (ColumnRef.ofText (aliasName ++ "." ++ name)).mapError Problem.clause
  | .baseInline => do
    let column ← (host.table.requireColumn entry.column).mapError Problem.clause
    return .qualified inlineAlias column.sqlName
  | .joinInline aliasName => do
    let column ← (host.joinedColumn aliasName entry.column).mapError Problem.clause
    return .qualified inlineAlias column.sqlName
  | .joinOn aliasName => do
    let column ← (host.joinedColumn aliasName entry.column).mapError Problem.clause
    return .qualified aliasName column.sqlName

/-- The clauses that a condition asks for, each with the list that it is for. -/
def ConditionEntry.requests (entry : ConditionEntry) (host : Statement) (names : JoinNames)
    (mode : Condition.Mode) : Except Problem (List (Target × Clause)) := do
  let key ← entry.comparison
  let holder ← entry.holder key
  let option? ← entry.option?
  let target ← entry.target names
  let column ← entry.columnFor host names target
  let clauses ← (key.clauses mode column holder option?).mapError Problem.clause
  return clauses.map fun clause => (target, clause)

/-- The clauses that the conditions of one place ask for. -/
def requestsOf (host : Statement) (names : JoinNames) (mode : Condition.Mode)
    (entries : List ConditionEntry) : Except Problem (List (Target × Clause)) := do
  let each ← entries.mapM fun entry => entry.requests host names mode
  return each.flatten

/-- A condition without a value to compare with. -/
def ConditionEntry.Ignored (entry : ConditionEntry) : Prop :=
  ∃ key holder, entry.comparison = .ok key ∧ entry.holder key = .ok holder ∧
    key.needsValue = true ∧ holder.Lacks key

theorem pure_ok_iff {α : Type} {given value : α} :
    (pure given : Except Problem α) = .ok value ↔ value = given := by
  change Except.ok given = _ ↔ _
  simp [eq_comm]

theorem column_for_of_continues {before after : Statement} (continues : before.Continues after)
    {entry : ConditionEntry} {names : JoinNames} {target : Target} {column : ColumnRef}
    (found : entry.columnFor before names target = .ok column) :
    entry.columnFor after names target = .ok column := by
  cases target with
  | main =>
      rw [ConditionEntry.columnFor, continues.base_alias]
      exact found
  | baseInline =>
      rw [ConditionEntry.columnFor, continues.origin.table]
      exact found
  | joinInline aliasName | joinOn aliasName =>
      rcases bind_eq_ok_iff.mp found with ⟨known, declared, found⟩
      have again := continues.joined_column (map_error_ok_iff.mp declared)
      rw [ConditionEntry.columnFor, again]
      exact found

theorem requests_ok_iff {entry : ConditionEntry} {host : Statement} {names : JoinNames}
    {mode : Condition.Mode} {requests : List (Target × Clause)} :
    entry.requests host names mode = .ok requests ↔
      ∃ key, entry.comparison = .ok key ∧ ∃ holder, entry.holder key = .ok holder ∧
        ∃ option?, entry.option? = .ok option? ∧ ∃ target, entry.target names = .ok target ∧
          ∃ column, entry.columnFor host names target = .ok column ∧
            ∃ clauses, key.clauses mode column holder option? = .ok clauses ∧
              requests = clauses.map fun clause => (target, clause) := by
  simp only [ConditionEntry.requests, bind_eq_ok_iff, map_error_ok_iff, pure_ok_iff]

/-- What an accepted condition asks for, by the fields of its entry. -/
theorem requests_iff {entry : ConditionEntry} {host : Statement} {names : JoinNames}
    {mode : Condition.Mode} {requests : List (Target × Clause)} :
    entry.requests host names mode = .ok requests ↔
      ∃ (key : Key) (given? : Option Value) (option? : Option LikeOption),
        entry.key = key.name ∧ entry.Gives given? ∧ entry.Likes option? ∧
        (option?.isSome = true → key.isLike = true) ∧
        ∃ target column, entry.target names = .ok target ∧
          entry.columnFor host names target = .ok column ∧
          ∃ clauses, Condition.Compared key mode column given? entry.bind? option? clauses ∧
            requests = clauses.map fun clause => (target, clause) := by
  rw [requests_ok_iff]
  constructor
  · rintro ⟨key, compared, holder, held, option?, given, target, aimed, column, named, clauses,
      made, whole⟩
    rcases ConditionEntry.gives_of_holder held with ⟨gives, bound⟩
    refine ⟨key, _, option?, ConditionEntry.comparison_ok_iff.mp compared, gives,
      ConditionEntry.option_ok_iff.mp given, Condition.fits_of_accepted made, target, column, aimed,
      named, clauses, ?_, whole⟩
    rw [← bound]
    exact Condition.compared_of_accepted made
  · rintro ⟨key, given?, option?, called, gives, likes, fits, target, column, aimed, named, clauses,
      compared, whole⟩
    rcases ConditionEntry.holder_of_gives gives key with ⟨holder, held, given, bound⟩
    rw [← given, ← bound] at compared
    exact ⟨key, ConditionEntry.comparison_ok_iff.mpr called, holder, held, option?,
      ConditionEntry.option_ok_iff.mpr likes, target, aimed, column, named, clauses,
      Condition.accepted_of_compared fits compared, whole⟩

theorem ignored_of_gives_iff {entry : ConditionEntry} {key : Key} (called : entry.key = key.name)
    {given? : Option Value} (gives : entry.Gives given?) :
    entry.Ignored ↔ key.needsValue = true ∧ ∀ value, given? = some value → value.Hollow := by
  have compared := ConditionEntry.comparison_ok_iff.mpr called
  constructor
  · rintro ⟨other, holder, again, held, needed, lacks⟩
    obtain rfl := Except.ok.inj (compared.symm.trans again)
    have same := (ConditionEntry.gives_of_holder held).1.unique gives
    exact ⟨needed, fun value given => lacks value (same.trans given)⟩
  · rintro ⟨needed, hollow⟩
    rcases ConditionEntry.holder_of_gives gives key with ⟨holder, held, same, _⟩
    exact ⟨key, holder, compared, held, needed, fun value found =>
      hollow value (same.symm.trans found)⟩

/-- A condition is ignored when its comparison needs a value and its entry has none, or one that
stands for nothing. -/
theorem ignored_iff (entry : ConditionEntry) :
    entry.Ignored ↔ ∃ key : Key, entry.key = key.name ∧ key.needsValue = true ∧
      (entry.value? = none ∨
        ∃ item value, entry.value? = some item ∧ operand item = .ok value ∧ value.Hollow) := by
  constructor
  · rintro ⟨key, holder, compared, held, needed, lacks⟩
    refine ⟨key, ConditionEntry.comparison_ok_iff.mp compared, needed, ?_⟩
    have gives := (ConditionEntry.gives_of_holder held).1
    cases found : holder.value? key with
    | none =>
        rw [found] at gives
        cases gives with
        | nothing absent => exact .inl absent
    | some value =>
        rw [found] at gives
        cases gives with
        | value present read => exact .inr ⟨_, value, present, read, lacks value found⟩
  · rintro ⟨key, called, needed, absent | ⟨item, value, present, read, hollow⟩⟩
    · refine (ignored_of_gives_iff called (.nothing absent)).mpr ⟨needed, ?_⟩
      intro value given
      cases given
    · refine (ignored_of_gives_iff called (.value present read)).mpr ⟨needed, ?_⟩
      intro other given
      cases given
      exact hollow

theorem requests_of_continues {before after : Statement} (continues : before.Continues after)
    {entry : ConditionEntry} {names : JoinNames} {inOrScope inAndPart : Bool}
    {requests : List (Target × Clause)}
    (asked : entry.requests before names (before.modeWithin inOrScope inAndPart) = .ok requests) :
    entry.requests after names (after.modeWithin inOrScope inAndPart) = .ok requests := by
  rcases requests_ok_iff.mp asked with
    ⟨key, compared, holder, held, option?, given, target, aimed, column, named, clauses, made,
      whole⟩
  rw [← continues.mode_within] at made
  exact requests_ok_iff.mpr ⟨key, compared, holder, held, option?, given, target, aimed, column,
    column_for_of_continues continues named, clauses, made, whole⟩

theorem joined_comparison {aliasName name : String} {key : Key} {holder : Holder}
    {option? : Option LikeOption} {isOn : Bool} {before after : Statement}
    (ran : register (Statement.addJoinCondition aliasName name key holder option? isOn) before =
      .ok ((), after)) :
    aliasName ∈ before.joins.keys ∧
      ∃ column, before.joinedColumn aliasName name = .ok column ∧
        register (if isOn then
            Statement.compare (.joinOn aliasName) (.qualified aliasName column.sqlName) key holder
              option?
          else
            Statement.compare (.joinInline aliasName) (.qualified inlineAlias column.sqlName) key
              holder option?) before = .ok ((), after) := by
  have asked := register_get_built.mp ran
  rcases register_lift_built.mp asked with ⟨join, required, asked⟩
  rcases register_lift_built.mp asked with ⟨table, known, asked⟩
  rcases register_lift_built.mp asked with ⟨column, declared, asked⟩
  have found := (Statement.require_join_eq_ok_iff _ _ _).mp required
  have present := (OrderedMap.mem_keys_iff_find? _ _).mpr ⟨join, found⟩
  have joined : before.joinedColumn aliasName name = .ok column := by
    rw [Statement.joinedColumn, required, known]
    exact declared
  exact ⟨present, column, joined, asked⟩

/-- An accepted condition has been compared with the column, in the list, that its entry names. -/
theorem condition_compared {names : JoinNames} {entry : ConditionEntry}
    {before after : Statement} (ran : addCondition names entry before = .ok ((), after)) :
    ∃ key holder option? target column,
      entry.comparison = .ok key ∧ entry.holder key = .ok holder ∧ entry.option? = .ok option? ∧
      entry.target names = .ok target ∧ entry.columnFor before names target = .ok column ∧
      before.HasTarget target ∧
      register (Statement.compare target column key holder option?) before = .ok ((), after) := by
  rcases bind_lift_built.mp ran with ⟨key, compared, ran⟩
  rcases bind_lift_built.mp ran with ⟨holder, held, ran⟩
  rcases bind_lift_built.mp ran with ⟨option?, given, ran⟩
  cases inline : entry.inline? with
  | none =>
      cases on : entry.on? with
      | none =>
          rw [inline, on] at ran
          rcases bind_lift_built.mp (bind_get_built.mp ran) with ⟨⟨aliasName, name⟩, read, ran⟩
          rcases bind_lift_built.mp ran with ⟨column, parsed, ran⟩
          have aimed : entry.target names = .ok .main := by
            rw [ConditionEntry.target, inline, on]
          have named : entry.columnFor before names .main = .ok column :=
            bind_eq_ok_iff.mpr ⟨(aliasName, name), read, parsed⟩
          exact ⟨key, holder, option?, .main, column, compared, held, given, aimed, named, trivial,
            ran⟩
      | some name =>
          rw [inline, on] at ran
          rcases bind_lift_built.mp ran with ⟨aliasName, known, ran⟩
          rcases joined_comparison ran with ⟨present, column, declared, asked⟩
          have aimed : entry.target names = .ok (.joinOn aliasName) := by
            rw [ConditionEntry.target, inline, on]
            exact bind_eq_ok_iff.mpr ⟨aliasName, known, rfl⟩
          have named : entry.columnFor before names (.joinOn aliasName) =
              .ok (.qualified aliasName column.sqlName) :=
            bind_eq_ok_iff.mpr ⟨column, map_error_ok_iff.mpr declared, rfl⟩
          exact ⟨key, holder, option?, _, _, compared, held, given, aimed, named, present, asked⟩
  | some name =>
      cases on : entry.on? with
      | some other =>
          rw [inline, on] at ran
          cases ran
      | none =>
          rw [inline, on] at ran
          dsimp only at ran
          split_ifs at ran with base
          · have asked := register_get_built.mp ran
            rcases register_lift_built.mp asked with ⟨column, declared, asked⟩
            have aimed : entry.target names = .ok .baseInline := by
              rw [ConditionEntry.target, inline, on]
              exact if_pos base
            have named : entry.columnFor before names .baseInline =
                .ok (.qualified inlineAlias column.sqlName) :=
              bind_eq_ok_iff.mpr ⟨column, map_error_ok_iff.mpr declared, rfl⟩
            exact ⟨key, holder, option?, _, _, compared, held, given, aimed, named, trivial, asked⟩
          · rcases bind_lift_built.mp ran with ⟨aliasName, known, ran⟩
            rcases joined_comparison ran with ⟨present, column, declared, asked⟩
            have aimed : entry.target names = .ok (.joinInline aliasName) := by
              rw [ConditionEntry.target, inline, on]
              dsimp only
              rw [if_neg base]
              exact bind_eq_ok_iff.mpr ⟨aliasName, known, rfl⟩
            have named : entry.columnFor before names (.joinInline aliasName) =
                .ok (.qualified inlineAlias column.sqlName) :=
              bind_eq_ok_iff.mpr ⟨column, map_error_ok_iff.mpr declared, rfl⟩
            exact ⟨key, holder, option?, _, _, compared, held, given, aimed, named, present, asked⟩

/-- One condition: the clauses that it asks for are recorded, and nothing else happens. -/
theorem condition_recorded {names : JoinNames} {entry : ConditionEntry} {before after : Statement}
    (ran : addCondition names entry before = .ok ((), after)) :
    ∃ requests, entry.requests before names before.conditionMode = .ok requests ∧
      (∀ request ∈ requests, before.HasTarget request.1) ∧
      (∀ request ∈ requests, request.2.andPart? = none) ∧ Recorded before requests after := by
  rcases condition_compared ran with
    ⟨key, holder, option?, target, column, compared, held, given, aimed, named, there, ran⟩
  rcases register_commits (Statement.compare_accepts there column key holder option?) ran with
    ⟨clauses, made, recorded⟩
  apply Exists.intro (clauses.map fun clause => (target, clause))
  constructor
  · exact requests_ok_iff.mpr ⟨key, compared, holder, held, option?, given, target, aimed, column,
      named, clauses, made, rfl⟩
  constructor
  · intro request member
    rcases List.mem_map.mp member with ⟨clause, _, rfl⟩
    exact there
  constructor
  · intro request member
    rcases List.mem_map.mp member with ⟨clause, here, rfl⟩
    exact Statement.clauses_plain made clause here
  · exact recorded

/-- An ignored condition asks for nothing, every other one for clauses of its own list. -/
theorem requests_answer {entry : ConditionEntry} {host : Statement} {names : JoinNames}
    {mode : Condition.Mode} {requests : List (Target × Clause)}
    (asked : entry.requests host names mode = .ok requests) :
    ∃ target clauses, entry.target names = .ok target ∧
      requests = clauses.map (fun clause => (target, clause)) ∧
      (clauses = [] ↔ entry.Ignored) ∧
      ((mode.inOrScope = true → mode.inAndPart = true) → clauses ≠ [] →
        ∃ clause, clauses = [clause]) := by
  rcases requests_iff.mp asked with
    ⟨key, given?, option?, called, gives, _, _, target, column, aimed, _, clauses, compared, whole⟩
  refine ⟨target, clauses, aimed, whole, ?_, ?_⟩
  · rw [ignored_of_gives_iff called gives]
    cases compared with
    | valueless needless => simp [needless]
    | ignored needed _ nothing =>
        refine iff_of_true rfl ⟨needed, fun value given => ?_⟩
        exact (Value.hollow_iff value).mpr (nothing value given)
    | list _ given filled _ =>
        have full := Condition.filled_iff.mpr filled
        exact iff_of_false (Condition.list_clauses_ne_nil full) fun lacks => full (lacks.2 _ given)
    | comment _ given filled _ | operand _ _ given filled _ _ =>
        have full := Condition.filled_iff.mpr filled
        exact iff_of_false (List.cons_ne_nil _ _) fun lacks => full (lacks.2 _ given)
  · intro joined some_clause
    cases compared with
    | ignored _ _ _ => exact absurd rfl some_clause
    | list _ _ _ _ => exact Condition.list_clauses_single joined column _
    | valueless _ | comment _ _ _ _ | operand _ _ _ _ _ _ => exact ⟨_, rfl⟩

/-- A condition outside of or-scopes and what it asks for: nothing when it is ignored, otherwise one
clause for its list. -/
def ConditionEntry.AskedAlone (host : Statement) (names : JoinNames) (entry : ConditionEntry)
    (requests : List (Target × Clause)) : Prop :=
  entry.requests host names (host.modeWithin false false) = .ok requests ∧
    ((entry.Ignored ∧ requests = []) ∨
      (¬ entry.Ignored ∧ ∃ target clause, entry.target names = .ok target ∧
        requests = [(target, clause)]))

theorem asked_alone {host : Statement} {names : JoinNames} {entry : ConditionEntry}
    {requests : List (Target × Clause)}
    (asked : entry.requests host names (host.modeWithin false false) = .ok requests) :
    entry.AskedAlone host names requests := by
  rcases requests_answer asked with ⟨target, clauses, aimed, rfl, ignored, single⟩
  apply And.intro asked
  by_cases none : clauses = []
  · rw [none]
    exact .inl ⟨ignored.mp none, rfl⟩
  · rcases single (fun inside => by cases inside) none with ⟨clause, rfl⟩
    exact .inr ⟨fun given => none (ignored.mpr given), target, clause, aimed, rfl⟩

theorem entries_for_request {host : Statement} {names : JoinNames} {mode : Condition.Mode}
    {entry : ConditionEntry} {requests : List (Target × Clause)}
    (asked : entry.requests host names mode = .ok requests) (target : Target) :
    entriesFor target requests ≠ [] ↔ entry.target names = .ok target ∧ ¬ entry.Ignored := by
  rcases requests_answer asked with ⟨own, clauses, aimed, rfl, ignored, _⟩
  rw [← ignored, aimed, Except.ok.injEq]
  cases clauses with
  | nil => simp [entriesFor]
  | cons clause rest =>
      by_cases same : own = target
      · simp [entriesFor, same]
      · simp [entriesFor, same]

theorem some_output_iff {α β : Type} {given : α → Prop} {made : β → Prop} {inputs : List α}
    {outputs : List β} (each : List.Forall₂ (fun input output => made output ↔ given input) inputs
      outputs) :
    (∃ output ∈ outputs, made output) ↔ ∃ input ∈ inputs, given input := by
  induction each with
  | nil => simp
  | cons here _ ih => simp [here, ih]

theorem entries_for_flatten (target : Target) (each : List (List (Target × Clause))) :
    entriesFor target each.flatten = (each.map (entriesFor target)).flatten := by
  rw [entriesFor, List.filter_flatten, List.map_flatten, List.map_map]
  rfl

/-- Conditions ask for something in a list when one of them that is not ignored is for it. -/
theorem entries_for_requests {host : Statement} {names : JoinNames} {mode : Condition.Mode}
    {entries : List ConditionEntry} {requests : List (Target × Clause)}
    (asked : requestsOf host names mode entries = .ok requests) (target : Target) :
    entriesFor target requests ≠ [] ↔
      ∃ entry ∈ entries, entry.target names = .ok target ∧ ¬ entry.Ignored := by
  rcases bind_eq_ok asked with ⟨each, mapped, whole⟩
  have answers : List.Forall₂ (fun entry requests => entriesFor target requests ≠ [] ↔
      entry.target names = .ok target ∧ ¬ entry.Ignored) entries each :=
    (forall_of_map_m mapped).imp fun _ _ asked => entries_for_request asked target
  rw [← some_output_iff answers, pure_ok_iff.mp whole, entries_for_flatten]
  simp

theorem each_asked_alone {host : Statement} {names : JoinNames} {entries : List ConditionEntry}
    {requests : List (Target × Clause)}
    (asked : requestsOf host names (host.modeWithin false false) entries = .ok requests) :
    ∃ each, List.Forall₂ (ConditionEntry.AskedAlone host names) entries each ∧
      ∀ target, entriesFor target requests = each.flatMap (entriesFor target) := by
  rcases bind_eq_ok asked with ⟨each, mapped, whole⟩
  apply Exists.intro each
  constructor
  · exact (forall_of_map_m mapped).imp fun _ _ => asked_alone
  · intro target
    rw [pure_ok_iff.mp whole, entries_for_flatten, List.flatMap_def]

theorem each_of_continues {α β : Type} {first second : α → Except Problem β}
    (kept : ∀ input output, first input = .ok output → second input = .ok output)
    {inputs : List α} {outputs : List β} (known : inputs.mapM first = .ok outputs) :
    inputs.mapM second = .ok outputs := by
  induction inputs generalizing outputs with
  | nil => exact known
  | cons input rest ih =>
      rw [List.mapM_cons] at known ⊢
      rcases bind_eq_ok_iff.mp known with ⟨output, here, known⟩
      rcases bind_eq_ok_iff.mp known with ⟨others, later, known⟩
      rw [kept input output here, ih later]
      exact known

theorem requests_of_all_continues {before after : Statement} (continues : before.Continues after)
    {entries : List ConditionEntry} {names : JoinNames} {inOrScope inAndPart : Bool}
    {requests : List (Target × Clause)}
    (asked : requestsOf before names (before.modeWithin inOrScope inAndPart) entries =
      .ok requests) :
    requestsOf after names (after.modeWithin inOrScope inAndPart) entries = .ok requests := by
  rcases bind_eq_ok_iff.mp asked with ⟨each, asked, whole⟩
  have again := each_of_continues (fun _ _ => requests_of_continues continues) asked
  exact bind_eq_ok_iff.mpr ⟨each, again, whole⟩

theorem requests_of_cons {host : Statement} {names : JoinNames} {mode : Condition.Mode}
    {entry : ConditionEntry} {rest : List ConditionEntry} {first later : List (Target × Clause)}
    (asked : entry.requests host names mode = .ok first)
    (others : requestsOf host names mode rest = .ok later) :
    requestsOf host names mode (entry :: rest) = .ok (first ++ later) := by
  rcases bind_eq_ok_iff.mp others with ⟨each, others, whole⟩
  rw [requestsOf, List.mapM_cons, asked, others, pure_ok_iff.mp whole]
  rfl

end QueryFile

namespace Statement

theorem Recorded.append {first second third : Statement} {left right : List (Target × Clause)}
    (recorded : Recorded first left second) (later : Recorded second right third) :
    Recorded first (left ++ right) third := by
  induction recorded with
  | nil statement => exact later
  | cons placed _ ih => exact .cons placed (ih later)

/-- Recording opens and closes nothing. -/
theorem Recorded.condition_mode {statement after : Statement} {entries : List (Target × Clause)}
    (recorded : Recorded statement entries after) :
    after.conditionMode = statement.conditionMode := by
  induction recorded with
  | nil statement => rfl
  | cons placed _ ih =>
      rw [ih]
      cases placed with
      | pushed frames => simp [conditionMode, dialect, Condition.OrScope.isOpen, frames,
          Condition.OrScope.inAndPart]
      | appended _ kept =>
          rcases append_clause_spec kept with ⟨_, _, _, rfl, _, _⟩
          rfl

end Statement

namespace QueryFile

open Statement (Continues Recorded Sound)

/-- What conditions ask for has been recorded, in their order. -/
structure Asked (entries : List ConditionEntry) (names : JoinNames) (before after : Statement)
    (requests : List (Target × Clause)) : Prop where
  continues : before.Continues after
  asked : requestsOf after names after.conditionMode entries = .ok requests
  plain : ∀ request ∈ requests, request.2.andPart? = none
  recorded : Recorded before requests after

/-- The conditions of one place, one after another. -/
theorem conditions_asked {names : JoinNames} {entries : List ConditionEntry}
    {before after : Statement} (sound : before.Sound)
    (ran : (entries.forM (addCondition names) : Building PUnit) before = .ok ((), after)) :
    ∃ requests, Asked entries names before after requests := by
  induction entries generalizing before with
  | nil =>
      rw [for_m_nil_built.mp ran]
      exact ⟨[], sound.continues, rfl, (fun _ member => by cases member), .nil before⟩
  | cons entry rest ih =>
      rcases for_m_cons_built.mp ran with ⟨middle, first, ran⟩
      rcases condition_recorded first with ⟨requests, asked, there, plain, recorded⟩
      have here := recorded.continues there sound
      rcases ih here.sound ran with ⟨others, later, askedLater, plainLater, recordedLater⟩
      have continues := here.trans later
      have whole := recorded.append recordedLater
      have mode : after.conditionMode = before.conditionMode := whole.condition_mode
      have same : before.conditionMode =
          before.modeWithin before.orScope.isOpen before.orScope.inAndPart := rfl
      apply Exists.intro (requests ++ others)
      apply Asked.mk continues _ _ whole
      · rw [same] at asked
        have again := requests_of_continues continues asked
        rw [continues.mode_within, ← same, ← mode] at again
        exact requests_of_cons again askedLater
      · intro request member
        rcases List.mem_append.mp member with old | new
        · exact plain request old
        · exact plainLater request new

end QueryFile
end SqlComposer
