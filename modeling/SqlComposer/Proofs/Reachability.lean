import SqlComposer.Proofs.Effect

/-!
Invariants of reachable statements. An invariant has to hold of a new statement, must not depend on
the resolver of fixed conditions, and has to be kept by every effect; the terms of open scopes are
dealt with here once, so that a refused registration is seen to leave a statement as it was.
-/
namespace SqlComposer.Statement

open Condition (Clause OrScope Target)
open Registration (Commits Completes)

theorem open_scopes_joined {statement : Statement} {orScope : OrScope}
    (scopes : statement.ScopesJoined) (opened : statement.orScope.openScope = .ok orScope) :
    ScopesJoined { statement with orScope } := by
  obtain ⟨_, rfl⟩ := (OrScope.open_scope_eq_ok_iff _ _).mp opened
  intro frame member target present
  rcases List.mem_cons.mp member with rfl | outer
  · cases present
  · exact scopes frame outer target present

theorem closed_scopes_joined {statement : Statement} {orScope : OrScope}
    {reflected : List (Target × Clause)} (scopes : statement.ScopesJoined)
    (closed : statement.orScope.closeScope = .ok (orScope, reflected)) :
    ScopesJoined { statement with orScope } := by
  rcases OrScope.close_scope_cases closed with
    ⟨_, ⟨frame, _, rfl, _⟩ | ⟨frame, outer, rest, frames, rfl, _⟩⟩
  · intro other member
    cases member
  · intro other member target present
    rcases List.mem_cons.mp member with rfl | later
    · rcases Condition.mem_keys_push_all present with own | ⟨entry, given, rfl⟩
      · exact scopes outer (by simp [frames]) target own
      · have inner := Condition.reflected_targets frame entry given
        exact scopes frame (by simp [frames]) entry.1 inner
    · exact scopes other (by simp [frames, later]) target present

theorem Placed.scopes_joined {statement after : Statement} {target : Target} {clause : Clause}
    (placed : Placed statement target clause after) (there : statement.HasTarget target)
    (scopes : statement.ScopesJoined) : after.ScopesJoined := by
  cases placed with
  | @pushed frame outer frames =>
      intro other member asked present
      rcases List.mem_cons.mp member with rfl | later
      · rcases Condition.mem_keys_push present with before | rfl
        · exact scopes frame (by simp [frames]) asked before
        · exact there
      · exact scopes other (by simp [frames, later]) asked present
  | appended closed kept =>
      obtain ⟨_, _, _, rfl, _, _⟩ := append_clause_spec kept
      intro other member
      simp [closed] at member

theorem Recorded.scopes_joined {statement after : Statement} {entries : List (Target × Clause)}
    (recorded : Recorded statement entries after)
    (there : ∀ entry ∈ entries, statement.HasTarget entry.1) (scopes : statement.ScopesJoined) :
    after.ScopesJoined := by
  induction recorded with
  | nil statement => exact scopes
  | cons first later ih =>
      have here := first.scopes_joined (there _ List.mem_cons_self) scopes
      refine ih ?_ here
      intro entry member
      rw [first.has_target_iff]
      exact there entry (List.mem_cons_of_mem _ member)

/-- No list that an open scope has terms for is ever lost, since joins are only added. -/
theorem scopes_joined_of_subset {before after : Statement} (scopes : before.ScopesJoined)
    (frames : after.orScope.frames = before.orScope.frames)
    (joins : ∀ aliasName ∈ before.joins.keys, aliasName ∈ after.joins.keys) :
    after.ScopesJoined := by
  intro frame member target present
  rw [frames] at member
  have there := scopes frame member target present
  cases target with
  | main | baseInline => exact trivial
  | joinInline aliasName | joinOn aliasName => exact joins aliasName there

theorem mem_keys_insert_join {joins : OrderedMap String Join} {aliasName other : String}
    {join : Join} (member : other ∈ joins.keys) : other ∈ (joins.insert aliasName join).keys := by
  rw [OrderedMap.keys_insert]
  split_ifs
  · exact member
  · exact List.mem_append_left _ member

theorem Effect.scopes_joined {statement after : Statement} {operation : Operation}
    (effect : Effect statement operation after) (scopes : statement.ScopesJoined) :
    after.ScopesJoined := by
  cases effect with
  | recorded _ _ there record => exact record.scopes_joined there scopes
  | closeOrScope closed record =>
      have there := closed_scope_targets scopes closed
      exact record.scopes_joined there (closed_scopes_joined scopes closed)
  | openOrScope opened => exact open_scopes_joined scopes opened
  | beginAndPart begun =>
      obtain ⟨_, _, rfl⟩ := (OrScope.begin_and_part_eq_ok_iff _ _).mp begun
      exact scopes
  | endAndPart ended =>
      obtain ⟨_, rfl⟩ := (OrScope.end_and_part_eq_ok_iff _ _).mp ended
      exact scopes
  | join _ _ | makeInner _ =>
      exact scopes_joined_of_subset scopes rfl fun _ => mem_keys_insert_join
  | _ => exact scopes

/-- What is settled when a statement is created. -/
structure SameOrigin (before after : Statement) : Prop where
  schema : after.schema = before.schema
  settings : after.settings = before.settings
  table : after.table = before.table
  purpose : after.purpose = before.purpose
  level : after.level = before.level

theorem Recorded.same_origin {statement after : Statement} {entries : List (Target × Clause)}
    (recorded : Recorded statement entries after) : SameOrigin statement after := by
  obtain ⟨_, _, _, _, rfl, _⟩ := recorded.frame
  exact ⟨rfl, rfl, rfl, rfl, rfl⟩

theorem Effect.same_origin {statement after : Statement} {operation : Operation}
    (effect : Effect statement operation after) : SameOrigin statement after := by
  cases effect with
  | recorded _ _ _ record => exact record.same_origin
  | closeOrScope _ record =>
      have recorded := record.same_origin
      exact ⟨recorded.schema, recorded.settings, recorded.table, recorded.purpose, recorded.level⟩
  | _ => exact ⟨rfl, rfl, rfl, rfl, rfl⟩

theorem create_eq_ok {schema : Schema} {settings : Settings}
    {resolver : FixedCondition.Resolver} {tableName : String} {purpose : Purpose} {level : Nat}
    {statement : Statement}
    (created : create schema settings resolver tableName purpose level = .ok statement) :
    ∃ table, schema.table tableName = .ok table ∧
      statement = {
        schema, settings, resolver, table, purpose, level,
        selectIndex := settings.selectIndex } := by
  unfold create at created
  obtain ⟨name, named, created⟩ := bind_eq_ok created
  obtain ⟨table, found, created⟩ := bind_eq_ok created
  have same := (requireName_eq_ok_iff.mp named).1
  exact ⟨table, same ▸ found, (Except.ok.inj created).symm⟩

theorem create_of_nested {outer statement : Statement} {tableName : String} {purpose : Purpose}
    (made : outer.nested tableName purpose = .ok statement) :
    create outer.schema outer.settings outer.resolver tableName purpose (outer.level + 1) =
      .ok statement := by
  unfold nested at made
  split_ifs at made
  exact made

/-- An operation is refused and leaves the statement as it is, or it has its effect. -/
theorem after_cases {statement : Statement} (scopes : statement.ScopesJoined)
    (operation : Operation) :
    ((∃ refusal, (operation.perform statement).1 = .error refusal) ∧
        statement.after operation = statement) ∨
      ((operation.perform statement).1 = .ok () ∧
        Effect statement operation (statement.after operation)) := by
  have commits := operation_commits scopes operation
  unfold Commits at commits
  rw [Statement.after, Registration.perform_eq_outcome]
  rcases ran : operation.registration.outcome statement with ⟨refusal | value, after⟩
  · rw [ran] at commits
    exact .inl ⟨⟨refusal, rfl⟩, commits⟩
  · rw [ran] at commits
    exact .inr ⟨rfl, commits⟩

/-- What new statements have, resolvers do not matter for and effects keep holds of every reachable
statement. -/
theorem reachable_invariant {schema : Schema} {invariant : Statement → Prop}
    (created : ∀ settings resolver tableName purpose level statement,
      create schema settings resolver tableName purpose level = .ok statement → invariant statement)
    (resolved : ∀ statement resolver, invariant statement → invariant { statement with resolver })
    (kept : ∀ statement operation after, statement.schema = schema → invariant statement →
      Effect statement operation after → invariant after)
    {statement : Statement} (reached : Reachable schema statement) :
    statement.schema = schema ∧ statement.ScopesJoined ∧ invariant statement := by
  induction reached with
  | new made =>
      have holds := created _ _ _ _ _ _ made
      obtain ⟨table, _, rfl⟩ := create_eq_ok made
      exact ⟨rfl, (fun _ member => nomatch member), holds⟩
  | withResolver _ resolver ih => exact ⟨ih.1, ih.2.1, resolved _ resolver ih.2.2⟩
  | nested _ made ih =>
      have made := create_of_nested made
      rw [ih.1] at made
      have holds := created _ _ _ _ _ _ made
      obtain ⟨table, _, rfl⟩ := create_eq_ok made
      exact ⟨rfl, (fun _ member => nomatch member), holds⟩
  | @after statement _ operation ih =>
      obtain ⟨same, scopes, holds⟩ := ih
      rcases after_cases scopes operation with ⟨_, unchanged⟩ | ⟨_, effect⟩
      · rw [unchanged]
        exact ⟨same, scopes, holds⟩
      · exact ⟨effect.same_origin.schema.trans same, effect.scopes_joined scopes,
          kept _ _ _ same holds effect⟩

theorem Reachable.schema_and_scopes {schema : Schema} {statement : Statement}
    (reached : Reachable schema statement) :
    statement.schema = schema ∧ statement.ScopesJoined := by
  have holds : statement.schema = schema ∧ statement.ScopesJoined ∧ True :=
    reachable_invariant (fun _ _ _ _ _ _ _ => trivial) (fun _ _ _ => trivial)
      (fun _ _ _ _ _ _ => trivial) reached
  exact ⟨holds.1, holds.2.1⟩

theorem Reachable.same_schema {schema : Schema} {statement : Statement}
    (reached : Reachable schema statement) : statement.schema = schema :=
  reached.schema_and_scopes.1

theorem Reachable.scopes_joined {schema : Schema} {statement : Statement}
    (reached : Reachable schema statement) : statement.ScopesJoined :=
  reached.schema_and_scopes.2

theorem after_of_completes {statement : Statement} {holds : Statement → Prop}
    (operation : Operation)
    (completes : Completes operation.registration statement fun _ after => holds after) :
    (operation.perform statement).1 = .ok () ∧ holds (statement.after operation) := by
  obtain ⟨value, after, ran, known⟩ := completes
  rw [Statement.after, Registration.perform_eq_outcome, ran]
  exact ⟨rfl, known⟩

theorem effect_of_accepted {statement : Statement} (scopes : statement.ScopesJoined)
    {operation : Operation} (accepted : (operation.perform statement).1 = .ok ()) :
    Effect statement operation (statement.after operation) := by
  rcases after_cases scopes operation with ⟨⟨refusal, refused⟩, _⟩ | ⟨_, effect⟩
  · rw [refused] at accepted
    cases accepted
  · exact effect

/-- A registration that is refused has changed nothing: no step after its first write can fail. -/
theorem refused_operation_keeps_statement {schema : Schema} {statement : Statement}
    (reached : Reachable schema statement) (operation : Operation) {refusal : ClauseError}
    (refused : (operation.perform statement).1 = .error refusal) :
    (operation.perform statement).2 = statement := by
  have commits := operation_commits reached.scopes_joined operation
  unfold Commits at commits
  rw [Registration.perform_eq_outcome] at refused ⊢
  rcases ran : operation.registration.outcome statement with ⟨cause | value, after⟩
  · rw [ran] at commits
    exact commits
  · rw [ran] at refused
    cases refused

/-- Members, each invited by another one. -/
def memberTable : Table where
  name := "MEMBER"
  sqlName := ⟨"MEMBER"⟩
  columns := [⟨"MEMBER_ID", ⟨"MEMBER_ID"⟩, true⟩, ⟨"INVITER_ID", ⟨"INVITER_ID"⟩, false⟩]

def inviter : Relation where
  property := "inviter"
  localTable := "MEMBER"
  foreignTable := "MEMBER"
  pairs := [("INVITER_ID", "MEMBER_ID")]

def memberSchema : Schema where
  tables := ⟨[("MEMBER", memberTable)]⟩
  relations := ⟨[(("MEMBER", "inviter"), inviter)]⟩

def newMember : Statement where
  schema := memberSchema
  settings := {}
  resolver := FixedCondition.resolve
  table := memberTable
  purpose := .normalUse
  level := 0
  selectIndex := true

theorem new_member_reachable : Reachable memberSchema newMember :=
  .new (show ofTable memberSchema {} "MEMBER" .normalUse = .ok newMember from rfl)

/-- The members in a dialect. -/
def memberIn (dialect : Dialect) : Statement := { newMember with settings := { dialect } }

theorem member_in_reachable (dialect : Dialect) : Reachable memberSchema (memberIn dialect) :=
  .new (show ofTable memberSchema { dialect } "MEMBER" .normalUse = .ok (memberIn dialect) from rfl)

/-- An or-scope is not closed around an open and-part. -/
theorem refused_close_keeps_statement :
    let opened := newMember.afterAll [.openOrScope, .beginAndPart, .addConditionText "POINT > 0"]
    (Operation.closeOrScope.perform opened).2 = opened :=
  refused_operation_keeps_statement (new_member_reachable.afterAll _) .closeOrScope
    (show (Operation.closeOrScope.perform (newMember.afterAll
        [.openOrScope, .beginAndPart, .addConditionText "POINT > 0"])).1 =
      .error (.illegalState .andPartStillOpen) from rfl)

end SqlComposer.Statement
