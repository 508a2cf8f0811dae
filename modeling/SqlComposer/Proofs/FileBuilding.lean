import SqlComposer.Proofs.JoinTree
import SqlComposer.Proofs.ScopeRun
import SqlComposer.QueryFile.Building

/-!
Running the steps that build a statement from a query file. Every accepted registration leaves a
statement that continues the one before it: nothing that was settled is taken back, and every join
is still found under its alias.
-/
namespace SqlComposer

namespace Statement

open Condition (Clause Target)

/-- What registrations rely on: the scopes have lists to go to, and the joins are a tree. -/
structure Sound (statement : Statement) : Prop where
  scopes : statement.ScopesJoined
  tree : statement.JoinTree

/-- A later state of a statement. -/
structure Continues (before after : Statement) : Prop where
  sound : after.Sound
  origin : SameOrigin before after
  joins : ∀ aliasName join, before.joins.find? aliasName = some join →
    ∃ kept, after.joins.find? aliasName = some kept ∧ bareJoin kept = bareJoin join

theorem Sound.continues {statement : Statement} (sound : statement.Sound) :
    statement.Continues statement :=
  ⟨sound, ⟨rfl, rfl, rfl, rfl, rfl⟩, fun _ join found => ⟨join, found, rfl⟩⟩

theorem SameOrigin.trans {first second third : Statement} (left : SameOrigin first second)
    (right : SameOrigin second third) : SameOrigin first third :=
  ⟨right.schema.trans left.schema, right.settings.trans left.settings,
    right.table.trans left.table, right.purpose.trans left.purpose, right.level.trans left.level⟩

theorem Continues.trans {first second third : Statement} (left : first.Continues second)
    (right : second.Continues third) : first.Continues third := by
  apply Continues.mk right.sound (left.origin.trans right.origin)
  intro aliasName join found
  rcases left.joins aliasName join found with ⟨middle, there, same⟩
  rcases right.joins aliasName middle there with ⟨kept, last, again⟩
  exact ⟨kept, last, again.trans same⟩

theorem SameJoins.kept {before after : OrderedMap String Join} (same : SameJoins before after)
    {aliasName : String} {join : Join} (found : before.find? aliasName = some join) :
    ∃ kept, after.find? aliasName = some kept ∧ bareJoin kept = bareJoin join := by
  have agreed := same.2 aliasName
  rw [found, Option.map_some, Option.map_eq_some_iff] at agreed
  exact agreed

theorem Effect.continues {statement after : Statement} {operation : Operation}
    (effect : Effect statement operation after) (sound : statement.Sound) :
    statement.Continues after := by
  apply Continues.mk ⟨effect.scopes_joined sound.scopes, effect.join_tree sound.tree⟩
    effect.same_origin
  intro aliasName join found
  rcases effect.joins_cases with same | ⟨_, _, added, _, made, rfl⟩
  · exact same.kept found
  · have fresh := new_join_fresh sound.tree.numbered made
    have other : aliasName ≠ added.foreignAlias := by
      rintro rfl
      exact fresh ((OrderedMap.mem_keys_iff_find? _ _).mpr ⟨join, found⟩)
    exact ⟨join, by rw [OrderedMap.find?_insert, if_neg other, found], rfl⟩

theorem Recorded.continues {statement after : Statement} {entries : List (Target × Clause)}
    (recorded : Recorded statement entries after)
    (there : ∀ entry ∈ entries, statement.HasTarget entry.1) (sound : statement.Sound) :
    statement.Continues after := by
  have scopes := recorded.scopes_joined there sound.scopes
  have origin := recorded.same_origin
  rcases recorded.frame with ⟨_, _, _, _, rfl, same⟩
  exact ⟨⟨scopes, sound.tree.of_same origin same⟩, origin, fun _ _ found => same.kept found⟩

theorem new_sound {schema : Schema} {settings : Settings} {resolver : FixedCondition.Resolver}
    {tableName : String} {purpose : Purpose} {level : Nat} {statement : Statement}
    (created : create schema settings resolver tableName purpose level = .ok statement) :
    statement.Sound := by
  have tree := new_join_tree created
  rcases create_eq_ok created with ⟨table, _, rfl⟩
  exact ⟨fun _ member => (by cases member), tree⟩

/-- A later state that has the same conditions, scopes and union branches. -/
structure Undisturbed (before after : Statement) : Prop extends before.Continues after where
  lists : ∀ target, after.listOf target = before.listOf target
  orScope : after.orScope = before.orScope
  unions : after.unions = before.unions

theorem Sound.undisturbed {statement : Statement} (sound : statement.Sound) :
    statement.Undisturbed statement :=
  ⟨sound.continues, fun _ => rfl, rfl, rfl⟩

theorem Undisturbed.trans {first second third : Statement} (left : first.Undisturbed second)
    (right : second.Undisturbed third) : first.Undisturbed third :=
  ⟨left.toContinues.trans right.toContinues,
    fun target => (right.lists target).trans (left.lists target),
    right.orScope.trans left.orScope, right.unions.trans left.unions⟩

/-- The operations that touch no condition, no scope and no union branch. -/
inductive Quiet : Operation → Prop where
  | classify {type : SelectType} : Quiet (.classify type)
  | selectRelation {aliasName suffix : String} : Quiet (.selectRelation aliasName suffix)
  | specify {aliasName name : String} : Quiet (.specify aliasName name)
  | join {aliasName property : String} : Quiet (.join aliasName property)
  | makeInner {aliasName : String} : Quiet (.makeInner aliasName)
  | setParameter {name : String} {value : Value} : Quiet (.setParameter name value)
  | orderBy {path : String} {direction : Order.Direction} : Quiet (.orderBy path direction)
  | placeNulls {place : Order.NullPlace} : Quiet (.placeNulls place)
  | rankManually {values : List Value} : Quiet (.rankManually values)
  | fetchFirst {size : Int64} : Quiet (.fetchFirst size)
  | fetchPage {page : Int64} : Quiet (.fetchPage page)
  | fetchScope {start size : Int64} : Quiet (.fetchScope start size)
  | lock : Quiet .lock

theorem Effect.undisturbed {statement after : Statement} {operation : Operation}
    (effect : Effect statement operation after) (quiet : Quiet operation)
    (sound : statement.Sound) : statement.Undisturbed after := by
  have continues := effect.continues sound
  cases effect with
  | join _ made => exact ⟨continues, join_keeps_lists sound.tree.numbered made, rfl, rfl⟩
  | makeInner found => exact ⟨continues, inner_keeps_lists found, rfl, rfl⟩
  | recorded recording => cases recording <;> cases quiet
  | rollback | useSelectIndex | derive | openOrScope | closeOrScope | beginAndPart | endAndPart
  | moveLastConditionFirst | moveNone | clearConditions | reverseOrReplaceOrder | orderByDerived
  | useOrder | clearOrder | addUnionText | addUnion | suppressFetch => cases quiet
  | _ =>
      apply Undisturbed.mk continues _ rfl rfl
      intro target
      cases target <;> rfl

end Statement

namespace QueryFile

open Statement (Continues Effect Quiet Sound Undisturbed)
open Registration (outcome)

variable {α β : Type}

theorem map_error_ok_iff {result : Except ClauseError α} {value : α} :
    result.mapError Problem.clause = .ok value ↔ result = .ok value := by
  cases result <;> simp [Except.mapError]

theorem bind_built {first : Building α} {next : α → Building β} {before after : Statement}
    {result : β} :
    (first >>= next) before = .ok (result, after) ↔
      ∃ value middle, first before = .ok (value, middle) ∧
        next value middle = .ok (result, after) := by
  change first before >>= (fun ran => next ran.1 ran.2) = _ ↔ _
  rw [bind_eq_ok_iff]
  simp only [Prod.exists]

theorem bind_get_built {next : Statement → Building α} {before after : Statement} {result : α} :
    (get >>= next) before = .ok (result, after) ↔ next before before = .ok (result, after) :=
  Iff.rfl

theorem bind_lift_built {given : Except Problem α} {next : α → Building β}
    {before after : Statement} {result : β} :
    (liftM given >>= next) before = .ok (result, after) ↔
      ∃ value, given = .ok value ∧ next value before = .ok (result, after) := by
  cases given with
  | error problem =>
      change Except.error problem = _ ↔ _
      simp
  | ok value =>
      change next value before = _ ↔ _
      simp

theorem pure_built {value given : α} {before after : Statement} :
    (pure given : Building α) before = .ok (value, after) ↔ value = given ∧ after = before := by
  change Except.ok (given, before) = _ ↔ _
  simp [eq_comm]

theorem register_built {registration : Registration α} {value : α} {before after : Statement} :
    register registration before = .ok (value, after) ↔
      registration.outcome before = (.ok value, after) := by
  unfold register Registration.outcome
  rcases Id.run (registration.run before) with ⟨refusal | given, changed⟩ <;> simp

theorem register_get_built {next : Statement → Registration α} {before after : Statement}
    {value : α} :
    register (get >>= next) before = .ok (value, after) ↔
      register (next before) before = .ok (value, after) := by
  rw [register_built, register_built, Registration.outcome_bind_get]

theorem register_lift_built {given : Except ClauseError β} {next : β → Registration α}
    {before after : Statement} {value : α} :
    register (liftM given >>= next) before = .ok (value, after) ↔
      ∃ found, given = .ok found ∧ register (next found) before = .ok (value, after) := by
  simp only [register_built, Registration.outcome_bind_lift]
  cases given <;> simp

theorem register_commits {registration : Registration α} {before after : Statement} {value : α}
    {accepted : α → Statement → Prop}
    (commits : Registration.Commits registration before accepted)
    (ran : register registration before = .ok (value, after)) : accepted value after := by
  rw [Registration.Commits, register_built.mp ran] at commits
  exact commits

theorem for_m_nil_built {step : α → Building PUnit} {before after : Statement} :
    ([].forM step : Building PUnit) before = .ok ((), after) ↔ after = before := by
  change Except.ok ((), before) = _ ↔ _
  simp [eq_comm]

theorem for_m_cons_built {step : α → Building PUnit} {entry : α} {rest : List α}
    {before after : Statement} :
    ((entry :: rest).forM step : Building PUnit) before = .ok ((), after) ↔
      ∃ middle, step entry before = .ok ((), middle) ∧
        (rest.forM step : Building PUnit) middle = .ok ((), after) := by
  change (step entry >>= fun _ => rest.forM step) before = _ ↔ _
  rw [bind_built]
  constructor
  · rintro ⟨_, middle, first, later⟩
    exact ⟨middle, first, later⟩
  · rintro ⟨middle, first, later⟩
    exact ⟨(), middle, first, later⟩

theorem registered_effect {operation : Operation} {before after : Statement}
    (sound : before.Sound) (ran : register operation.registration before = .ok ((), after)) :
    Effect before operation after := by
  have effect := register_commits (Statement.operation_commits sound.scopes operation) ran
  exact effect

theorem registered_quietly {operation : Operation} (quiet : Quiet operation)
    {before after : Statement} (sound : before.Sound)
    (ran : register operation.registration before = .ok ((), after)) :
    before.Undisturbed after :=
  (registered_effect sound ran).undisturbed quiet sound

/-- A step that leaves the conditions alone and is taken or not, with what comes after it. -/
theorem optionally_quietly {taken : Prop} [Decidable taken] {step : Building Unit}
    {next : Unit → Building α} {before after : Statement} {result : α} (sound : before.Sound)
    (quiet : ∀ after, step before = .ok ((), after) → before.Undisturbed after)
    (ran : (if taken then step >>= next else next ()) before = .ok (result, after)) :
    ∃ middle, before.Undisturbed middle ∧ next () middle = .ok (result, after) := by
  split_ifs at ran
  · rcases bind_built.mp ran with ⟨_, middle, first, later⟩
    exact ⟨middle, quiet middle first, later⟩
  · exact ⟨before, sound.undisturbed, ran⟩

/-- Steps that each leave the conditions alone leave them alone together. -/
theorem each_quietly {step : α → Building PUnit}
    (quiet : ∀ entry before after, before.Sound → step entry before = .ok ((), after) →
      before.Undisturbed after)
    (entries : List α) {before after : Statement} (sound : before.Sound)
    (ran : (entries.forM step : Building PUnit) before = .ok ((), after)) :
    before.Undisturbed after := by
  induction entries generalizing before with
  | nil =>
      rw [for_m_nil_built.mp ran]
      exact sound.undisturbed
  | cons entry rest ih =>
      rcases for_m_cons_built.mp ran with ⟨middle, first, later⟩
      have here := quiet entry before middle sound first
      exact here.trans (ih here.sound later)

/-- The last step of a file: the kind of its select list, if it names one. -/
def asKind (word? : Option String) : Building Unit := do
  if let some word := word? then
    let type ← selectType word
    register (Statement.classify type)

/-- The steps of a file after the rows to fetch. -/
def afterRows (query : Query) : Building Unit := do
  if query.isLocked then
    register Statement.lock
  asKind query.select?

/-- The states that the steps of a query go through, one part of the query after the other. -/
structure QueryRun (schema : Schema) (settings : Settings) (query : Query)
    (start built : Statement) where
  names : JoinNames
  given : Statement
  joined : Statement
  selected : Statement
  restricted : Statement
  filled : Statement
  united : Statement
  ordered : Statement
  fetched : Statement
  parameters : (query.parameters.forM addParameter : Building Unit) start = .ok ((), given)
  joins : addJoins OrderedMap.empty 0 query.joins given = .ok (names, joined)
  columns : (query.columns.forM (addColumn names) : Building Unit) joined = .ok ((), selected)
  conditions : (query.conditions.forM (addCondition names) : Building Unit) selected =
    .ok ((), restricted)
  orScopes : (query.orScopes.forM (addOrScope names) : Building Unit) restricted = .ok ((), filled)
  unions : (query.unions.forM (addUnion schema settings query.table) : Building Unit) filled =
    .ok ((), united)
  orders : (query.orders.forM (addOrder names) : Building Unit) united = .ok ((), ordered)
  rows : (query.fetch?.forM addFetch : Building Unit) ordered = .ok ((), fetched)
  rest : afterRows query fetched = .ok ((), built)

theorem query_run {schema : Schema} {settings : Settings} {query : Query}
    {start built : Statement} (ran : addQuery schema settings query start = .ok ((), built)) :
    Nonempty (QueryRun schema settings query start built) := by
  rcases bind_built.mp ran with ⟨_, given, parameters, ran⟩
  rcases bind_built.mp ran with ⟨names, joined, joins, ran⟩
  rcases bind_built.mp ran with ⟨_, selected, columns, ran⟩
  rcases bind_built.mp ran with ⟨_, restricted, conditions, ran⟩
  rcases bind_built.mp ran with ⟨_, filled, orScopes, ran⟩
  rcases bind_built.mp ran with ⟨_, united, unions, ran⟩
  rcases bind_built.mp ran with ⟨_, ordered, orders, ran⟩
  rcases bind_built.mp ran with ⟨_, fetched, rows, rest⟩
  exact ⟨⟨names, given, joined, selected, restricted, filled, united, ordered, fetched,
    parameters, joins, columns, conditions, orScopes, unions, orders, rows, rest⟩⟩

end QueryFile
end SqlComposer
