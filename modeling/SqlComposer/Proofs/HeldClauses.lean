import SqlComposer.Proofs.Aliases

/-!
A property that every clause of a statement has. A list, an inline view or a scope takes in only
what an operation asks for and what a closed scope leaves, so the property is kept by a run when the
requested clauses have it and when a term of an and-part and the clause of a closed scope inherit
it.
-/
namespace SqlComposer

open Condition (Clause OrScope Target Terms)

namespace Condition

/-- The terms of a scope have a property, and no list is entered without a term for it. -/
def Terms.Have (terms : Terms) (property : Clause → Prop) : Prop :=
  ∀ entry ∈ terms.entries, entry.2 ≠ [] ∧ ∀ clause ∈ entry.2, property clause

/-- A property of clauses that the terms made of them inherit. -/
structure Inherited (property : Clause → Prop) : Prop where
  part : ∀ clause identity, property clause → property (.andPart clause identity)
  flatten : ∀ clauses, clauses ≠ [] → (∀ clause ∈ clauses, property clause) →
    property (Condition.flatten clauses)

section

variable {property : Clause → Prop}

theorem Inherited.term (inherited : Inherited property) (scope : OrScope) {clause : Clause}
    (holds : property clause) : property (scope.term clause) := by
  unfold OrScope.term
  split
  · exact inherited.part _ _ holds
  · exact holds

theorem Terms.Have.clauses {terms : Terms} (have_all : terms.Have property) (target : Target) :
    ∀ clause ∈ terms.clauses target, property clause := by
  intro clause member
  unfold Terms.clauses at member
  cases found : OrderedMap.find? terms target with
  | none => simp [found] at member
  | some clauses =>
      rw [found] at member
      exact (have_all _ (OrderedMap.mem_of_find?_eq_some found)).2 clause member

theorem Terms.Have.push {terms : Terms} (have_all : terms.Have property) (target : Target)
    {clause : Clause} (holds : property clause) : (terms.push target clause).Have property := by
  rw [push_eq_insert]
  intro entry member
  rcases OrderedMap.mem_entries_insert member with old | rfl
  · exact have_all entry old
  · refine ⟨by simp, fun other present => ?_⟩
    rcases List.mem_append.mp present with before | here
    · exact have_all.clauses target other before
    · rw [List.mem_singleton.mp here]
      exact holds

theorem Terms.Have.push_all {terms : Terms} (have_all : terms.Have property)
    {entries : List (Target × Clause)} (each : ∀ entry ∈ entries, property entry.2) :
    (terms.pushAll entries).Have property := by
  induction entries generalizing terms with
  | nil => exact have_all
  | cons entry rest ih =>
      rw [List.forall_mem_cons] at each
      exact ih (have_all.push entry.1 each.1) each.2

theorem Terms.Have.reflected (inherited : Inherited property) {terms : Terms}
    (have_all : terms.Have property) : ∀ entry ∈ terms.reflected, property entry.2 := by
  intro entry member
  obtain ⟨source, kept, rfl⟩ := List.mem_map.mp member
  obtain ⟨some_clause, each⟩ := have_all source (List.mem_filter.mp kept).1
  exact inherited.flatten source.2 some_clause each

end

end Condition

namespace Statement

/-- Every clause has a property, wherever the statement keeps it. -/
structure Holds (property : Clause → Prop) (statement : Statement) : Prop where
  conditions : ∀ clause ∈ statement.conditions, property clause
  baseInline : ∀ clause ∈ statement.baseInline, property clause
  joins : ∀ join ∈ statement.joins.values,
    (∀ clause ∈ join.inlineClauses, property clause) ∧ ∀ clause ∈ join.onClauses, property clause
  scopes : ∀ frame ∈ statement.orScope.frames, Condition.Terms.Have frame property

section

variable {property : Clause → Prop} {statement after : Statement}

theorem holds_of_new {schema : Schema} {settings : Settings} {resolver : FixedCondition.Resolver}
    {tableName : String} {purpose : Purpose} {level : Nat}
    (created : create schema settings resolver tableName purpose level = .ok statement) :
    statement.Holds property := by
  obtain ⟨_, _, rfl⟩ := create_eq_ok created
  exact ⟨nofun, nofun, nofun, nofun⟩

theorem forall_mem_append_singleton {clauses : List Clause} {clause : Clause}
    (each : ∀ other ∈ clauses, property other) (holds : property clause) :
    ∀ other ∈ clauses ++ [clause], property other := by
  simpa [or_imp, forall_and] using ⟨each, holds⟩

theorem Holds.insert_join (holds : statement.Holds property) {aliasName : String} {join : Join}
    (inline : ∀ clause ∈ join.inlineClauses, property clause)
    (on : ∀ clause ∈ join.onClauses, property clause) :
    Holds property { statement with joins := statement.joins.insert aliasName join } := by
  refine ⟨holds.conditions, holds.baseInline, fun other member => ?_, holds.scopes⟩
  rcases OrderedMap.mem_values_insert member with old | rfl
  · exact holds.joins other old
  · exact ⟨inline, on⟩

theorem Holds.append_clause (holds : statement.Holds property) {target : Target} {clause : Clause}
    (added : property clause) (appended : statement.appendClause target clause = .ok after) :
    after.Holds property := by
  cases target with
  | main =>
      obtain rfl := (Except.ok.inj appended).symm
      exact ⟨forall_mem_append_singleton holds.conditions added, holds.baseInline, holds.joins,
        holds.scopes⟩
  | baseInline =>
      obtain rfl := (Except.ok.inj appended).symm
      exact ⟨holds.conditions, forall_mem_append_singleton holds.baseInline added, holds.joins,
        holds.scopes⟩
  | joinInline aliasName =>
      obtain ⟨join, required, rfl⟩ := map_eq_ok appended
      have present := OrderedMap.mem_values_of_find? ((require_join_eq_ok_iff _ _ _).mp required)
      obtain ⟨inline, on⟩ := holds.joins join present
      exact holds.insert_join (forall_mem_append_singleton inline added) on
  | joinOn aliasName =>
      obtain ⟨join, required, rfl⟩ := map_eq_ok appended
      have present := OrderedMap.mem_values_of_find? ((require_join_eq_ok_iff _ _ _).mp required)
      obtain ⟨inline, on⟩ := holds.joins join present
      exact holds.insert_join inline (forall_mem_append_singleton on added)

theorem Placed.holds (inherited : Condition.Inherited property) {target : Target}
    {clause : Clause} (placed : Placed statement target clause after) (added : property clause)
    (holds : statement.Holds property) : after.Holds property := by
  cases placed with
  | @pushed frame outer frames =>
      refine ⟨holds.conditions, holds.baseInline, holds.joins, ?_⟩
      have scopes := holds.scopes
      rw [frames, List.forall_mem_cons] at scopes
      rw [List.forall_mem_cons]
      exact ⟨scopes.1.push target (inherited.term _ added), scopes.2⟩
  | appended _ kept => exact holds.append_clause added kept

theorem Recorded.holds (inherited : Condition.Inherited property)
    {entries : List (Target × Clause)} (recorded : Recorded statement entries after)
    (added : ∀ entry ∈ entries, property entry.2) (holds : statement.Holds property) :
    after.Holds property := by
  induction recorded with
  | nil statement => exact holds
  | cons first later ih =>
      rw [List.forall_mem_cons] at added
      exact ih added.2 (first.holds inherited added.1 holds)

/-- Closing a scope hands its clauses to the scope around it or to their lists. -/
theorem Holds.close_scope (inherited : Condition.Inherited property) {orScope : OrScope}
    {reflected : List (Target × Clause)}
    (closed : statement.orScope.closeScope = .ok (orScope, reflected))
    (record : Recorded { statement with orScope } reflected after)
    (holds : statement.Holds property) : after.Holds property := by
  have scopes := holds.scopes
  obtain ⟨_, ⟨frame, frames, rfl, rfl⟩ | ⟨frame, outer, rest, frames, rfl, rfl⟩⟩ :=
    OrScope.close_scope_cases closed
  · rw [frames, List.forall_mem_cons] at scopes
    refine record.holds inherited (scopes.1.reflected inherited) ?_
    exact ⟨holds.conditions, holds.baseInline, holds.joins, nofun⟩
  · rw [frames, List.forall_mem_cons, List.forall_mem_cons] at scopes
    obtain ⟨inner, around, others⟩ := scopes
    refine record.holds inherited nofun ⟨holds.conditions, holds.baseInline, holds.joins, ?_⟩
    rw [List.forall_mem_cons]
    exact ⟨around.push_all (inner.reflected inherited), others⟩

/-- One accepted operation whose own clauses have the property. -/
theorem Effect.holds (inherited : Condition.Inherited property) {operation : Operation}
    (effect : Effect statement operation after)
    (added : ∀ entry ∈ statement.requested operation, property entry.2)
    (holds : statement.Holds property) : after.Holds property := by
  cases effect with
  | recorded _ _ _ record => exact record.holds inherited added holds
  | closeOrScope closed record => exact holds.close_scope inherited closed record
  | openOrScope opened =>
      obtain ⟨_, rfl⟩ := (OrScope.open_scope_eq_ok_iff _ _).mp opened
      refine ⟨holds.conditions, holds.baseInline, holds.joins, ?_⟩
      rw [List.forall_mem_cons]
      exact ⟨nofun, holds.scopes⟩
  | beginAndPart begun =>
      obtain ⟨_, _, rfl⟩ := (OrScope.begin_and_part_eq_ok_iff _ _).mp begun
      exact ⟨holds.conditions, holds.baseInline, holds.joins, holds.scopes⟩
  | endAndPart ended =>
      obtain ⟨_, rfl⟩ := (OrScope.end_and_part_eq_ok_iff _ _).mp ended
      exact ⟨holds.conditions, holds.baseInline, holds.joins, holds.scopes⟩
  | join _ made =>
      obtain ⟨_, _, _, _, _, _, _, _, inline, on⟩ := new_join_spec made
      exact holds.insert_join (by simp [inline]) (by simp [on])
  | makeInner found =>
      obtain ⟨inline, on⟩ := holds.joins _ (OrderedMap.mem_values_of_find? found)
      exact holds.insert_join inline on
  | moveLastConditionFirst found =>
      refine ⟨?_, holds.baseInline, holds.joins, holds.scopes⟩
      rw [List.forall_mem_cons]
      exact ⟨holds.conditions _ (List.mem_of_getLast? found),
        fun clause member => holds.conditions clause (List.dropLast_subset _ member)⟩
  | clearConditions => exact ⟨nofun, nofun, holds.joins, holds.scopes⟩
  | _ => exact ⟨holds.conditions, holds.baseInline, holds.joins, holds.scopes⟩

end

end Statement
end SqlComposer
