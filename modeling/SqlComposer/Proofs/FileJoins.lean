import SqlComposer.Proofs.FileBuilding
import SqlComposer.Proofs.FromScope

/-!
The entries of a query file that bring in no condition: parameters, joins, columns, the order, the
rows to fetch. A join is known in the file by a name; the statement that is built has it, from the
origin and for the relation that the entry names, whatever is registered later.
-/
namespace SqlComposer

namespace Statement

theorem join_of_spec {statement : Statement} {aliasName property : String} {join : Join}
    (found : statement.joinOf? aliasName property = some join) :
    join ∈ statement.joins.values ∧ join.localAlias = aliasName ∧ join.property = property := by
  have alike := List.find?_some found
  simp only [decide_eq_true_eq] at alike
  exact ⟨List.mem_of_find?_eq_some found, alike⟩

theorem joined_alike {kept join : Join} (same : bareJoin kept = bareJoin join) :
    kept.localAlias = join.localAlias ∧ kept.property = join.property ∧
      kept.foreignAlias = join.foreignAlias ∧ kept.foreignTable = join.foreignTable := by
  simp only [bareJoin, Join.mk.injEq] at same
  exact ⟨same.1, same.2.2.1, same.2.1, same.2.2.2.1⟩

/-- A join that has been made is there in every later state, with the alias that it has. -/
theorem Continues.join_of {before after : Statement} (continues : before.Continues after)
    (tree : before.JoinTree) {aliasName property : String} {join : Join}
    (found : before.joinOf? aliasName property = some join) :
    ∃ kept, after.joinOf? aliasName property = some kept ∧
      kept.foreignAlias = join.foreignAlias := by
  rcases join_of_spec found with ⟨member, rfl, rfl⟩
  rcases continues.joins _ _ (tree.find_value member) with ⟨kept, there, same⟩
  rcases joined_alike same with ⟨start, named, alias_kept, _⟩
  have known := continues.sound.tree.join_of_value (OrderedMap.mem_values_of_find? there)
  rw [start, named] at known
  exact ⟨kept, known, alias_kept⟩

theorem Continues.base_alias {before after : Statement} (continues : before.Continues after) :
    after.baseAlias = before.baseAlias :=
  base_alias_of_origin continues.origin

end Statement

namespace QueryFile

open Statement (Continues Effect Quiet Sound Undisturbed)

variable {α : Type}

/-- The alias of the table that a join starts from. -/
def JoinEntry.origin (entry : JoinEntry) (host : Statement) (names : JoinNames) : Option String :=
  match entry.origin? with
  | none => some host.baseAlias
  | some name => names.find? name

/-- The aliases that a statement has for the joins of a file, by their names in the file. -/
def joinNames? (host : Statement) (names : JoinNames) : List JoinEntry → Option JoinNames
  | [] => some names
  | entry :: rest =>
    (entry.origin host names).bind fun origin =>
      (host.joinOf? origin entry.property).bind fun join =>
        joinNames? host (names.insert entry.name join.foreignAlias) rest

theorem alias_of_ok_iff {names : JoinNames} {name aliasName : String} :
    aliasOf names name = .ok aliasName ↔ names.find? name = some aliasName := by
  unfold aliasOf
  cases names.find? name <;> simp

theorem origin_of_continues {before after : Statement} (continues : before.Continues after)
    (entry : JoinEntry) (names : JoinNames) :
    entry.origin after names = entry.origin before names := by
  unfold JoinEntry.origin
  rw [continues.base_alias]

theorem join_names_of_continues {before after : Statement} (continues : before.Continues after)
    (tree : before.JoinTree) {entries : List JoinEntry} {names last : JoinNames}
    (known : joinNames? before names entries = some last) :
    joinNames? after names entries = some last := by
  induction entries generalizing names with
  | nil => exact known
  | cons entry rest ih =>
      rw [joinNames?] at known
      rcases Option.bind_eq_some_iff.mp known with ⟨origin, started, known⟩
      rcases Option.bind_eq_some_iff.mp known with ⟨join, found, known⟩
      rcases continues.join_of tree found with ⟨kept, there, same⟩
      rw [joinNames?, origin_of_continues continues, started, Option.bind_some, there,
        Option.bind_some, same]
      exact ih known

theorem joined_quietly {origin property aliasName : String} {before after : Statement}
    (sound : before.Sound)
    (ran : register (Statement.join origin property) before = .ok (aliasName, after)) :
    before.Undisturbed after ∧
      ∃ join, after.joinOf? origin property = some join ∧ join.foreignAlias = aliasName := by
  have joined := register_get_built.mp ran
  cases known : before.joinOf? origin property with
  | some existing =>
      rw [known] at joined
      rcases Prod.mk.inj (register_built.mp joined) with ⟨answer, rfl⟩
      exact ⟨sound.undisturbed, existing, known, Except.ok.inj answer⟩
  | none =>
      rw [known] at joined
      rcases register_lift_built.mp joined with ⟨added, made, joined⟩
      have changed : ((.ok added.foreignAlias : Except ClauseError String),
          { before with joins := before.joins.insert added.foreignAlias added }) =
        (.ok aliasName, after) := register_built.mp joined
      rcases Prod.mk.inj changed with ⟨answer, rfl⟩
      have undisturbed := (Effect.join known made).undisturbed .join sound
      have there := OrderedMap.find?_insert before.joins added.foreignAlias
        added.foreignAlias added
      rw [if_pos rfl] at there
      have found := undisturbed.sound.tree.join_of_value (OrderedMap.mem_values_of_find? there)
      rcases Statement.new_join_made made with ⟨_, _, _, _, _, _, _, shape⟩
      have start : added.localAlias = origin := by rw [shape]
      have named : added.property = property := by rw [shape]
      rw [start, named] at found
      exact ⟨undisturbed, added, found, Except.ok.inj answer⟩

theorem origin_built {entry : JoinEntry} {names : JoinNames} {next : String → Building α}
    {before after : Statement} {result : α}
    (ran : (match entry.origin? with
        | some name => liftM (aliasOf names name) >>= next
        | none => pure before.baseAlias >>= next : Building α) before = .ok (result, after)) :
    ∃ origin, entry.origin before names = some origin ∧
      next origin before = .ok (result, after) := by
  unfold JoinEntry.origin
  cases given : entry.origin? with
  | none =>
      rw [given] at ran
      rcases bind_built.mp ran with ⟨origin, middle, started, later⟩
      rcases pure_built.mp started with ⟨rfl, rfl⟩
      exact ⟨_, rfl, later⟩
  | some name =>
      rw [given] at ran
      rcases bind_lift_built.mp ran with ⟨origin, found, later⟩
      exact ⟨origin, alias_of_ok_iff.mp found, later⟩

theorem join_entry_quietly {names last : JoinNames} {number : Nat} {entry : JoinEntry}
    {before after : Statement} (sound : before.Sound)
    (ran : addJoin names number entry before = .ok (last, after)) :
    before.Undisturbed after ∧ ∃ origin join, entry.origin before names = some origin ∧
      after.joinOf? origin entry.property = some join ∧
      last = names.insert entry.name join.foreignAlias := by
  rcases origin_built (bind_get_built.mp ran) with ⟨origin, started, ran⟩
  rcases bind_built.mp ran with ⟨aliasName, middle, joined, ran⟩
  rcases joined_quietly sound joined with ⟨first, join, found, rfl⟩
  rcases optionally_quietly first.sound (fun _ => registered_quietly .makeInner first.sound) ran
    with ⟨inner, second, ran⟩
  rcases optionally_quietly second.sound (fun _ => registered_quietly .selectRelation second.sound)
    ran with ⟨selected, third, ran⟩
  rcases pure_built.mp ran with ⟨named, rfl⟩
  have later := second.trans third
  rcases later.join_of first.sound.tree found with ⟨kept, there, same⟩
  rw [← same] at named
  exact ⟨first.trans later, origin, kept, started, there, named⟩

/-- The joins of a file are made in its order, and their names stand for the aliases they get. -/
theorem join_entries_quietly {names last : JoinNames} {number : Nat} {entries : List JoinEntry}
    {before after : Statement} (sound : before.Sound)
    (ran : addJoins names number entries before = .ok (last, after)) :
    before.Undisturbed after ∧ joinNames? after names entries = some last := by
  induction entries generalizing names number before with
  | nil =>
      rcases pure_built.mp ran with ⟨rfl, rfl⟩
      exact ⟨sound.undisturbed, rfl⟩
  | cons entry rest ih =>
      rcases bind_built.mp ran with ⟨middle_names, middle, first, ran⟩
      rcases join_entry_quietly sound first with ⟨here, origin, join, started, found, rfl⟩
      rcases ih here.sound ran with ⟨later, known⟩
      rcases later.join_of here.sound.tree found with ⟨kept, there, same⟩
      rw [joinNames?, origin_of_continues (here.trans later).toContinues, started,
        Option.bind_some, there, Option.bind_some, same]
      exact ⟨here.trans later, known⟩

theorem parameter_quietly (entry : String × Toml.Value) (before after : Statement)
    (sound : before.Sound) (ran : addParameter entry before = .ok ((), after)) :
    before.Undisturbed after := by
  rcases bind_lift_built.mp ran with ⟨value, _, set⟩
  exact registered_quietly .setParameter sound set

theorem column_quietly (names : JoinNames) (text : String) (before after : Statement)
    (sound : before.Sound) (ran : addColumn names text before = .ok ((), after)) :
    before.Undisturbed after := by
  rcases bind_lift_built.mp (bind_get_built.mp ran) with ⟨⟨aliasName, column⟩, _, set⟩
  exact registered_quietly .specify sound set

/-- Operations for the order, the window, the lock and the kind of a query. -/
inductive Arranging : Operation → Prop where
  | orderBy {path : String} {direction : Order.Direction} : Arranging (.orderBy path direction)
  | placeNulls {place : Order.NullPlace} : Arranging (.placeNulls place)
  | rankManually {values : List Value} : Arranging (.rankManually values)
  | fetchFirst {size : Int64} : Arranging (.fetchFirst size)
  | fetchPage {page : Int64} : Arranging (.fetchPage page)
  | fetchScope {start size : Int64} : Arranging (.fetchScope start size)
  | lock : Arranging .lock
  | classify {type : SelectType} : Arranging (.classify type)

theorem Arranging.quiet {operation : Operation} (arranging : Arranging operation) :
    Quiet operation := by
  cases arranging <;> constructor

/-- A later state, after registrations that only arrange the rows of a query. -/
inductive Arranges : Statement → Statement → Prop where
  | none (statement : Statement) : Arranges statement statement
  | next {operation : Operation} {before middle after : Statement}
      (arranging : Arranging operation)
      (ran : register operation.registration before = .ok ((), middle))
      (later : Arranges middle after) : Arranges before after

theorem arranges_of_registered {operation : Operation} (arranging : Arranging operation)
    {before after : Statement} (ran : register operation.registration before = .ok ((), after)) :
    Arranges before after :=
  .next arranging ran (.none after)

theorem Arranges.trans {first second third : Statement} (here : Arranges first second)
    (later : Arranges second third) : Arranges first third := by
  induction here with
  | none _ => exact later
  | next arranging ran _ ih => exact .next arranging ran (ih later)

theorem Arranges.undisturbed {before after : Statement} (arranges : Arranges before after)
    (sound : before.Sound) : before.Undisturbed after := by
  induction arranges with
  | none _ => exact sound.undisturbed
  | next arranging ran _ ih =>
      have first := registered_quietly arranging.quiet sound ran
      exact first.trans (ih first.sound)

theorem ranking_arranges {items? : Option (List Toml.Value)} {before after : Statement}
    (ran : (match items? with
        | some items => do
          let values ← operands items
          register (Statement.rankManually values)
        | _ => pure () : Building Unit) before = .ok ((), after)) : Arranges before after := by
  cases items? with
  | none =>
      rcases pure_built.mp ran with ⟨_, rfl⟩
      exact .none _
  | some items =>
      rcases bind_lift_built.mp ran with ⟨values, _, set⟩
      exact arranges_of_registered .rankManually set

theorem order_arranges {names : JoinNames} {entry : OrderEntry} {before after : Statement}
    (ran : addOrder names entry before = .ok ((), after)) : Arranges before after := by
  unfold addOrder at ran
  rcases bind_lift_built.mp (bind_get_built.mp ran) with ⟨path, _, ran⟩
  rcases bind_built.mp ran with ⟨_, ordered, added, later⟩
  apply Arranges.next .orderBy added
  cases word : entry.nulls? with
  | none =>
      rw [word] at later
      exact ranking_arranges later
  | some text =>
      rw [word] at later
      rcases bind_lift_built.mp later with ⟨place, _, later⟩
      rcases bind_built.mp later with ⟨_, placed, set, ranked⟩
      exact .next .placeNulls set (ranking_arranges ranked)

theorem orders_arrange {names : JoinNames} {entries : List OrderEntry} {before after : Statement}
    (ran : (entries.forM (addOrder names) : Building Unit) before = .ok ((), after)) :
    Arranges before after := by
  induction entries generalizing before with
  | nil =>
      rw [for_m_nil_built.mp ran]
      exact .none _
  | cons entry rest ih =>
      rcases for_m_cons_built.mp ran with ⟨middle, first, later⟩
      exact (order_arranges first).trans (ih later)

theorem page_arranges {page? : Option Int64} {before after : Statement}
    (ran : (match page? with
        | some page => register (Statement.fetchPage page)
        | _ => pure () : Building Unit) before = .ok ((), after)) : Arranges before after := by
  cases page? with
  | none =>
      rcases pure_built.mp ran with ⟨_, rfl⟩
      exact .none _
  | some page => exact arranges_of_registered .fetchPage ran

theorem fetch_arranges {rows? : Option FetchEntry} {before after : Statement}
    (ran : (rows?.forM addFetch : Building Unit) before = .ok ((), after)) :
    Arranges before after := by
  cases rows? with
  | none =>
      rcases pure_built.mp ran with ⟨_, rfl⟩
      exact .none _
  | some entry =>
      change addFetch entry before = .ok ((), after) at ran
      unfold addFetch at ran
      split_ifs at ran
      · rcases bind_built.mp ran with ⟨_, fetched, set, ran⟩
        exact .next .fetchScope set (page_arranges ran)
      · rcases bind_built.mp ran with ⟨_, fetched, set, ran⟩
        exact .next .fetchFirst set (page_arranges ran)

theorem kind_arranges {word? : Option String} {before after : Statement}
    (ran : asKind word? before = .ok ((), after)) : Arranges before after := by
  cases word? with
  | none =>
      rcases pure_built.mp ran with ⟨_, rfl⟩
      exact .none _
  | some word =>
      rcases bind_lift_built.mp ran with ⟨type, _, set⟩
      exact arranges_of_registered .classify set

theorem after_rows_arranges {query : Query} {before after : Statement}
    (ran : afterRows query before = .ok ((), after)) : Arranges before after := by
  unfold afterRows at ran
  split_ifs at ran
  · rcases bind_built.mp ran with ⟨_, locked, set, kind⟩
    exact .next .lock set (kind_arranges kind)
  · exact kind_arranges ran

/-- What a query asks for after its unions arranges its rows. -/
theorem QueryRun.arranges {schema : Schema} {settings : Settings} {query : Query}
    {start built : Statement} (run : QueryRun schema settings query start built) :
    Arranges run.united built :=
  ((orders_arrange run.orders).trans (fetch_arranges run.rows)).trans
    (after_rows_arranges run.rest)

end QueryFile
end SqlComposer
