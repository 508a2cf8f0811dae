import SqlComposer.Proofs.OrderedMap
import SqlComposer.Proofs.Registration

/-!
Recording clauses. A clause goes to the innermost open scope or to the list that it is for, and
nothing else of the statement moves: the joins keep their order, their aliases and everything but
their own lists of clauses.
-/
namespace SqlComposer.Statement

open Condition (Clause OrScope Target Terms)
open Registration (Completes completes_bind completes_bind_get completes_bind_lift)

/-- The clauses that the statement itself holds for a target. -/
def listOf (statement : Statement) : Target → List Clause
  | .main => statement.conditions
  | .baseInline => statement.baseInline
  | .joinInline aliasName =>
      ((statement.joins.find? aliasName).map Join.inlineClauses).getD []
  | .joinOn aliasName => ((statement.joins.find? aliasName).map Join.onClauses).getD []

def HasTarget (statement : Statement) : Target → Prop
  | .main | .baseInline => True
  | .joinInline aliasName | .joinOn aliasName => aliasName ∈ statement.joins.keys

/-- A join as it was when its relation was joined. -/
def bareJoin (join : Join) : Join :=
  { join with inlineClauses := [], onClauses := [], isInner := false }

def SameJoins (before after : OrderedMap String Join) : Prop :=
  after.keys = before.keys ∧
    ∀ aliasName, (after.find? aliasName).map bareJoin = (before.find? aliasName).map bareJoin

theorem same_joins_refl (joins : OrderedMap String Join) : SameJoins joins joins :=
  ⟨rfl, fun _ => rfl⟩

theorem SameJoins.trans {first second third : OrderedMap String Join}
    (left : SameJoins first second) (right : SameJoins second third) : SameJoins first third :=
  ⟨right.1.trans left.1, fun aliasName => (right.2 aliasName).trans (left.2 aliasName)⟩

theorem same_joins_insert {joins : OrderedMap String Join} {aliasName : String}
    {join changed : Join} (found : joins.find? aliasName = some join)
    (same : bareJoin changed = bareJoin join) :
    SameJoins joins (joins.insert aliasName changed) := by
  have present : aliasName ∈ joins.keys :=
    (OrderedMap.mem_keys_iff_find? joins aliasName).mpr ⟨join, found⟩
  refine ⟨OrderedMap.keys_insert_of_mem present changed, fun other => ?_⟩
  rw [OrderedMap.find?_insert]
  split_ifs with asked
  · rw [asked, found, Option.map_some, Option.map_some, same]
  · rfl

theorem require_join_eq_ok_iff (statement : Statement) (aliasName : String) (join : Join) :
    statement.requireJoin aliasName = .ok join ↔ statement.joins.find? aliasName = some join := by
  unfold requireJoin
  cases statement.joins.find? aliasName <;> simp

/-- An alias with a table is the base alias or that of a join. -/
theorem alias_table_cases {statement : Statement} {aliasName : String} {table : Table}
    (found : statement.aliasTable aliasName = .ok table) :
    aliasName = statement.baseAlias ∧ table = statement.table ∨
      ∃ join, statement.joins.find? aliasName = some join ∧
        statement.schema.table join.foreignTable = .ok table := by
  unfold aliasTable at found
  split_ifs at found with base
  · exact .inl ⟨base, (Except.ok.inj found).symm⟩
  · obtain ⟨join, required, found⟩ := bind_eq_ok found
    exact .inr ⟨join, (require_join_eq_ok_iff _ _ _).mp required, found⟩

theorem require_join_of_mem {statement : Statement} {aliasName : String}
    (present : aliasName ∈ statement.joins.keys) :
    ∃ join, statement.requireJoin aliasName = .ok join := by
  obtain ⟨join, found⟩ := (OrderedMap.mem_keys_iff_find? _ _).mp present
  exact ⟨join, (require_join_eq_ok_iff statement aliasName join).mpr found⟩

/-- The whole effect of adding a clause to its list. -/
theorem append_clause_spec {statement after : Statement} {target : Target} {clause : Clause}
    (appended : statement.appendClause target clause = .ok after) :
    ∃ conditions baseInline joins,
      after = { statement with conditions, baseInline, joins } ∧
      SameJoins statement.joins joins ∧
      ∀ other, after.listOf other =
        statement.listOf other ++ if other = target then [clause] else [] := by
  cases target with
  | main | baseInline =>
      obtain rfl := (Except.ok.inj appended).symm
      refine ⟨_, _, _, rfl, same_joins_refl _, fun other => ?_⟩
      cases other <;> simp [listOf]
  | joinInline aliasName | joinOn aliasName =>
      simp only [appendClause] at appended
      cases required : statement.requireJoin aliasName with
      | error refusal => simp [required, Except.map] at appended
      | ok join =>
          rw [required] at appended
          obtain rfl := (Except.ok.inj appended).symm
          have found := (require_join_eq_ok_iff _ _ _).mp required
          refine ⟨_, _, _, rfl, same_joins_insert found rfl, fun other => ?_⟩
          cases other <;> simp only [listOf, OrderedMap.find?_insert] <;> split_ifs <;> simp_all

theorem append_clause_of_target {statement : Statement} {target : Target} (clause : Clause)
    (there : statement.HasTarget target) :
    ∃ after, statement.appendClause target clause = .ok after := by
  cases target with
  | main => exact ⟨_, rfl⟩
  | baseInline => exact ⟨_, rfl⟩
  | joinInline aliasName | joinOn aliasName =>
      obtain ⟨join, required⟩ := require_join_of_mem there
      exact ⟨_, by rw [appendClause, required]; rfl⟩

/-- One clause recorded, in the innermost open scope or else in its list. -/
inductive Placed (statement : Statement) (target : Target) (clause : Clause) :
    Statement → Prop where
  | pushed {frame : Terms} {outer : List Terms}
      (frames : statement.orScope.frames = frame :: outer) :
      Placed statement target clause
        { statement with
          orScope :=
            { statement.orScope with
              frames := frame.push target (statement.orScope.term clause) :: outer } }
  | appended {after : Statement} (closed : statement.orScope.frames = [])
      (kept : statement.appendClause target clause = .ok after) :
      Placed statement target clause after

inductive Recorded : Statement → List (Target × Clause) → Statement → Prop where
  | nil (statement : Statement) : Recorded statement [] statement
  | cons {statement next after : Statement} {target : Target} {clause : Clause}
      {rest : List (Target × Clause)} (first : Placed statement target clause next)
      (later : Recorded next rest after) : Recorded statement ((target, clause) :: rest) after

/-- Recording changes the lists and the scopes alone. -/
theorem Placed.frame {statement after : Statement} {target : Target} {clause : Clause}
    (placed : Placed statement target clause after) :
    ∃ conditions baseInline joins orScope,
      after = { statement with conditions, baseInline, joins, orScope } ∧
      SameJoins statement.joins joins := by
  cases placed with
  | pushed frames => exact ⟨_, _, _, _, rfl, same_joins_refl _⟩
  | appended closed kept =>
      obtain ⟨_, _, _, rfl, same, _⟩ := append_clause_spec kept
      exact ⟨_, _, _, _, rfl, same⟩

theorem Recorded.frame {statement after : Statement} {entries : List (Target × Clause)}
    (recorded : Recorded statement entries after) :
    ∃ conditions baseInline joins orScope,
      after = { statement with conditions, baseInline, joins, orScope } ∧
      SameJoins statement.joins joins := by
  induction recorded with
  | nil statement => exact ⟨_, _, _, _, rfl, same_joins_refl _⟩
  | cons first later ih =>
      obtain ⟨_, _, _, _, rfl, before⟩ := first.frame
      obtain ⟨_, _, _, _, shape, same⟩ := ih
      exact ⟨_, _, _, _, shape, before.trans same⟩

theorem has_target_congr {before after : Statement}
    (same : after.joins.keys = before.joins.keys) (target : Target) :
    after.HasTarget target ↔ before.HasTarget target := by
  cases target <;> simp [HasTarget, same]

theorem Placed.has_target_iff {statement after : Statement} {target : Target} {clause : Clause}
    (placed : Placed statement target clause after) (other : Target) :
    after.HasTarget other ↔ statement.HasTarget other := by
  obtain ⟨_, _, _, _, rfl, same⟩ := placed.frame
  exact has_target_congr same.1 other

theorem register_clause_completes {statement : Statement} {target : Target} (clause : Clause)
    (there : statement.HasTarget target) :
    Completes (registerClause target clause) statement fun _ after =>
      Placed statement target clause after := by
  refine completes_bind_get ?_
  cases frames : statement.orScope.frames with
  | nil =>
      obtain ⟨next, kept⟩ := append_clause_of_target clause there
      simp only [OrScope.isOpen, frames, List.isEmpty_nil, Bool.not_true, Bool.false_eq_true,
        if_false]
      exact completes_bind_lift kept ⟨_, _, rfl, .appended frames kept⟩
  | cons frame outer =>
      have accepted : statement.orScope.push target clause =
          .ok { statement.orScope with
            frames := frame.push target (statement.orScope.term clause) :: outer } := by
        rw [OrScope.push, frames]
      simp only [OrScope.isOpen, frames, List.isEmpty_cons, Bool.not_false, if_true]
      exact completes_bind_lift accepted ⟨_, _, rfl, .pushed frames⟩

/-- With all its targets there, a list of clauses is recorded to the end. -/
theorem register_clauses_completes (entries : List (Target × Clause)) (statement : Statement)
    (there : ∀ entry ∈ entries, statement.HasTarget entry.1) :
    Completes (registerClauses entries) statement fun _ after =>
      Recorded statement entries after := by
  induction entries generalizing statement with
  | nil => exact ⟨(), statement, rfl, .nil statement⟩
  | cons entry rest ih =>
      obtain ⟨target, clause⟩ := entry
      refine completes_bind (register_clause_completes clause (there _ List.mem_cons_self)) ?_
      intro _ next placed
      have moved : ∀ entry ∈ rest, next.HasTarget entry.1 := by
        intro entry member
        rw [placed.has_target_iff]
        exact there entry (List.mem_cons_of_mem _ member)
      obtain ⟨value, after, ran, recorded⟩ := ih next moved
      exact ⟨value, after, ran, .cons placed recorded⟩

end SqlComposer.Statement
