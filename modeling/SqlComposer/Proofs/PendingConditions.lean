import SqlComposer.Proofs.OutsideScope
import SqlComposer.Proofs.ScopeRun
import SqlComposer.Proofs.Window

/-!
Conditions of an open or-scope. A statement with an open scope is not rendered, and no update or
delete is made of it; a template, and with it a union branch, is made all the same, and is the one
of the run in which the scope was never opened.
-/
namespace SqlComposer.Statement

open Condition (Clause OrScope Target Terms entriesFor)
open Registration

/-- A statement with an open scope, and the one of the same operations without those that opened
the scope and went into it. -/
inductive Pending (schema : Schema) : Statement → Statement → Prop where
  | opened {statement : Statement} (reached : Reachable schema statement)
      (closed : statement.orScope.isOpen = false)
      (accepted : (Operation.openOrScope.perform statement).1 = .ok ()) :
      Pending schema statement (statement.after .openOrScope)
  | withResolver {bare statement : Statement} (pending : Pending schema bare statement)
      (resolver : FixedCondition.Resolver) :
      Pending schema { bare with resolver } { statement with resolver }
  | inside {bare statement : Statement} {operation : Operation}
      (pending : Pending schema bare statement) (concerned : concernsScope operation = true)
      (kept : (statement.after operation).orScope.isOpen = true) :
      Pending schema bare (statement.after operation)
  | beside {bare statement : Statement} {operation : Operation}
      (pending : Pending schema bare statement) (outside : concernsScope operation = false) :
      Pending schema (bare.after operation) (statement.after operation)

/-- What is recorded while a scope is open goes into the scope. -/
theorem Recorded.apart_of_open {statement after : Statement} {entries : List (Target × Clause)}
    (recorded : Recorded statement entries after) (opened : statement.orScope.frames ≠ []) :
    ScopeApart statement after := by
  induction recorded with
  | nil statement => exact .of statement.orScope
  | cons first later ih =>
      cases first with
      | pushed frames =>
          obtain ⟨orScope⟩ := ih (List.cons_ne_nil _ _)
          exact .of orScope
      | appended closed kept => exact absurd closed opened

/-- As long as its scope stays open, an operation that concerns the scope changes nothing else. -/
theorem Effect.apart_of_open {statement after : Statement} {operation : Operation}
    (effect : Effect statement operation after) (concerned : concernsScope operation = true)
    (opened : statement.orScope.isOpen = true) (kept : after.orScope.isOpen = true) :
    ScopeApart statement after := by
  cases effect with
  | recorded _ _ _ record => exact record.apart_of_open (OrScope.is_open_iff.mp opened)
  | openOrScope | beginAndPart | endAndPart => exact .of _
  | closeOrScope closed record =>
      rcases OrScope.close_scope_cases closed with
        ⟨_, ⟨frame, _, rfl, rfl⟩ | ⟨_, _, _, _, rfl, rfl⟩⟩
      · obtain ⟨scopes, _⟩ := record.lists_of_closed rfl
        rw [scopes] at kept
        cases kept
      · cases record
        exact .of _
  | _ => cases concerned

/-- Only one operation opens the first scope. -/
theorem Effect.opens {statement after : Statement} {operation : Operation}
    (effect : Effect statement operation after) (closed : statement.orScope.isOpen = false)
    (opened : after.orScope.isOpen = true) : operation = .openOrScope := by
  have outside := OrScope.is_closed_iff.mp closed
  cases effect with
  | openOrScope => rfl
  | recorded _ _ _ record =>
      rw [(record.lists_of_closed outside).1, closed] at opened
      cases opened
  | closeOrScope ended =>
      rcases OrScope.close_scope_cases ended with ⟨_, ⟨_, frames, _⟩ | ⟨_, _, _, frames, _⟩⟩
      · rw [outside] at frames
        cases frames
      · rw [outside] at frames
        cases frames
  | beginAndPart begun =>
      obtain ⟨inside, _⟩ := (OrScope.begin_and_part_eq_ok_iff _ _).mp begun
      exact absurd outside inside
  | endAndPart ended =>
      obtain ⟨_, rfl⟩ := (OrScope.end_and_part_eq_ok_iff _ _).mp ended
      rw [OrScope.is_open_iff] at opened
      exact absurd outside opened
  | _ =>
      rw [closed] at opened
      cases opened

theorem Effect.same_scope {statement after : Statement} {operation : Operation}
    (effect : Effect statement operation after) (outside : concernsScope operation = false) :
    after.orScope = statement.orScope := by
  cases effect with
  | recorded recording => cases recording <;> cases outside
  | openOrScope | closeOrScope | beginAndPart | endAndPart => cases outside
  | _ => rfl

theorem after_same_scope {statement : Statement} (scopes : statement.ScopesJoined)
    {operation : Operation} (outside : concernsScope operation = false) :
    (statement.after operation).orScope = statement.orScope := by
  rcases after_cases scopes operation with ⟨_, unchanged⟩ | ⟨_, effect⟩
  · rw [unchanged]
  · exact effect.same_scope outside

/-- A statement with an open scope, and one without that is the same otherwise. -/
structure Beside (schema : Schema) (bare statement : Statement) : Prop where
  bare_reached : Reachable schema bare
  reached : Reachable schema statement
  closed : bare.orScope.isOpen = false
  opened : statement.orScope.isOpen = true
  apart : ScopeApart bare statement

variable {schema : Schema} {bare statement : Statement}

theorem ScopeApart.trans {first second third : Statement} (left : ScopeApart first second)
    (right : ScopeApart second third) : ScopeApart first third := by
  obtain ⟨_⟩ := left
  obtain ⟨orScope⟩ := right
  exact .of orScope

theorem opened_beside (reached : Reachable schema statement)
    (closed : statement.orScope.isOpen = false)
    (accepted : (Operation.openOrScope.perform statement).1 = .ok ()) :
    Beside schema statement (statement.after .openOrScope) := by
  have effect := effect_of_accepted reached.scopes_joined accepted
  have later : Reachable schema (statement.after .openOrScope) := reached.after .openOrScope
  generalize statement.after .openOrScope = after at effect later ⊢
  cases effect with
  | openOrScope begun =>
      obtain ⟨_, rfl⟩ := (OrScope.open_scope_eq_ok_iff _ _).mp begun
      exact ⟨reached, later, closed, rfl, .of _⟩
  | recorded recording => cases recording

theorem Pending.beside_bare (pending : Pending schema bare statement) :
    Beside schema bare statement := by
  induction pending with
  | opened reached closed accepted => exact opened_beside reached closed accepted
  | withResolver _ resolver ih =>
      obtain ⟨bareReached, reached, closed, opened, ⟨orScope⟩⟩ := ih
      exact ⟨bareReached.withResolver resolver, reached.withResolver resolver, closed, opened,
        .of orScope⟩
  | @inside bare statement operation _ concerned kept ih =>
      refine ⟨ih.bare_reached, ih.reached.after operation, ih.closed, kept, ?_⟩
      rcases after_cases ih.reached.scopes_joined operation with ⟨_, unchanged⟩ | ⟨_, effect⟩
      · rw [unchanged]
        exact ih.apart
      · exact ih.apart.trans (effect.apart_of_open concerned ih.opened kept)
  | @beside bare statement operation _ outside ih =>
      refine ⟨ih.bare_reached.after operation, ih.reached.after operation, ?_, ?_,
        (perform_apart outside ih.apart).2⟩
      · rw [after_same_scope ih.bare_reached.scopes_joined outside]
        exact ih.closed
      · rw [after_same_scope ih.reached.scopes_joined outside]
        exact ih.opened

/-- Every statement with an open scope has one beside it that never opened the scope. -/
theorem Reachable.pending (reached : Reachable schema statement)
    (opened : statement.orScope.isOpen = true) : ∃ bare, Pending schema bare statement := by
  induction reached with
  | new created =>
      obtain ⟨_, _, rfl⟩ := create_eq_ok created
      cases opened
  | nested _ created =>
      obtain ⟨_, _, rfl⟩ := create_eq_ok (create_of_nested created)
      cases opened
  | withResolver _ resolver ih =>
      obtain ⟨bare, pending⟩ := ih opened
      exact ⟨_, pending.withResolver resolver⟩
  | @after statement reached operation ih =>
      cases before : statement.orScope.isOpen with
      | true =>
          obtain ⟨bare, pending⟩ := ih before
          cases concerned : concernsScope operation with
          | true => exact ⟨bare, pending.inside concerned opened⟩
          | false => exact ⟨_, pending.beside concerned⟩
      | false =>
          rcases after_cases reached.scopes_joined operation with
            ⟨_, unchanged⟩ | ⟨accepted, effect⟩
          · rw [unchanged, before] at opened
            cases opened
          · obtain rfl := effect.opens before opened
            exact ⟨statement, .opened reached before accepted⟩

theorem reflected_of_some {frame : Terms} {target : Target} (some : frame.clauses target ≠ []) :
    entriesFor target frame.reflected ≠ [] := by
  cases found : OrderedMap.find? frame target with
  | none =>
      rw [Terms.clauses, found] at some
      exact absurd rfl some
  | some clauses =>
      rw [Terms.clauses, found] at some
      have present := OrderedMap.mem_of_find?_eq_some found
      have reflected : (target, Condition.flatten clauses) ∈ frame.reflected :=
        List.mem_map.mpr ⟨_, List.mem_filter.mpr ⟨present, by simpa using some⟩, rfl⟩
      refine List.ne_nil_of_mem (List.mem_map.mpr ⟨_, List.mem_filter.mpr ⟨reflected, ?_⟩, rfl⟩)
      exact decide_eq_true rfl

/-- Some clause for the where clause is in an open scope. -/
def HasPending (statement : Statement) : Prop :=
  ∃ frame ∈ statement.orScope.frames, frame.clauses .main ≠ []

/-- The operations that close all scopes. -/
def closing (orScope : OrScope) : List Operation :=
  (if orScope.inAndPart then [.endAndPart] else []) ++
    List.replicate orScope.frames.length .closeOrScope

theorem close_or_scope_accepted (scopes : statement.ScopesJoined) {orScope : OrScope}
    {reflected : List (Target × Clause)}
    (closed : statement.orScope.closeScope = .ok (orScope, reflected)) :
    Recorded { statement with orScope } reflected (statement.after .closeOrScope) := by
  have there := closed_scope_targets scopes closed
  refine (after_of_completes .closeOrScope (completes_bind_get (completes_bind_lift closed ?_))).2
  refine completes_bind (completes_set statement _) ?_
  rintro _ _ rfl
  exact register_clauses_completes reflected { statement with orScope } there

theorem after_end_and_part (begun : statement.orScope.andPart? ≠ none) :
    statement.after .endAndPart =
      { statement with orScope := { statement.orScope with andPart? := none } } := by
  have ended := (OrScope.end_and_part_eq_ok_iff _ _).mpr ⟨begun, rfl⟩
  have completes : Completes endAndPart statement _ :=
    completes_bind_get (completes_bind_lift ended (completes_set statement _))
  exact (after_of_completes .endAndPart completes).2

/-- The innermost scope is closed: what it holds for the where clause goes there or into the scope
around it. -/
theorem close_innermost (scopes : statement.ScopesJoined) {frame : Terms} {outer : List Terms}
    (frames : statement.orScope.frames = frame :: outer)
    (ended : statement.orScope.andPart? = none) :
    let after := statement.after .closeOrScope
    after.orScope.andPart? = none ∧ after.orScope.frames.length = outer.length ∧
      ∃ added, after.conditions = statement.conditions ++ added ∧
        (statement.HasPending → added ≠ [] ∨ after.HasPending) := by
  cases outer with
  | nil =>
      have closed := OrScope.close_outermost ended frames
      obtain ⟨scope, lists⟩ := (close_or_scope_accepted scopes closed).lists_of_closed rfl
      refine ⟨by rw [scope]; exact ended, by rw [scope], _, lists .main, ?_⟩
      rintro ⟨other, member, some⟩
      rw [frames, List.mem_singleton] at member
      exact .inl (reflected_of_some (member ▸ some))
  | cons next rest =>
      have recorded := close_or_scope_accepted scopes (OrScope.close_inner ended frames)
      generalize statement.after .closeOrScope = after at recorded ⊢
      cases recorded
      refine ⟨ended, rfl, [], (List.append_nil _).symm, ?_⟩
      rintro ⟨other, member, some⟩
      right
      have merged := Condition.clauses_push_all frame.reflected next .main
      rw [frames, List.mem_cons, List.mem_cons] at member
      rcases member with rfl | rfl | later
      · refine ⟨_, List.mem_cons_self, ?_⟩
        rw [merged]
        exact List.append_ne_nil_of_right_ne_nil _ (reflected_of_some some)
      · refine ⟨_, List.mem_cons_self, ?_⟩
        rw [merged]
        exact List.append_ne_nil_of_left_ne_nil some _
      · exact ⟨other, List.mem_cons_of_mem _ later, some⟩

theorem close_all {count : Nat} (reached : Reachable schema statement)
    (frames : statement.orScope.frames.length = count)
    (ended : statement.orScope.andPart? = none) :
    let closed := statement.afterAll (List.replicate count .closeOrScope)
    closed.orScope.isOpen = false ∧
      ∃ added, closed.conditions = statement.conditions ++ added ∧
        (statement.HasPending → added ≠ []) := by
  induction count generalizing statement with
  | zero =>
      have outside := List.eq_nil_of_length_eq_zero frames
      refine ⟨OrScope.is_closed_iff.mpr outside, [], (List.append_nil _).symm, ?_⟩
      rintro ⟨frame, member, _⟩
      rw [outside] at member
      cases member
  | succ count ih =>
      obtain ⟨frame, outer, shape⟩ := List.exists_cons_of_length_eq_add_one frames
      obtain ⟨idle, length, first, begins, carried⟩ :=
        close_innermost reached.scopes_joined shape ended
      rw [shape, List.length_cons, Nat.add_right_cancel_iff] at frames
      obtain ⟨closed, added, ends, pending⟩ :=
        ih (reached.after .closeOrScope) (length.trans frames) idle
      refine ⟨closed, first ++ added, ?_, fun holds => ?_⟩
      · rw [← List.append_assoc, ← begins]
        exact ends
      · rcases carried holds with some | later
        · exact List.append_ne_nil_of_left_ne_nil some _
        · exact List.append_ne_nil_of_right_ne_nil _ (pending later)

/-- Closing leaves no scope open and adds what was pending to the where clause. -/
theorem closing_adds_pending (reached : Reachable schema statement) :
    let closed := statement.afterAll (closing statement.orScope)
    closed.orScope.isOpen = false ∧
      ∃ added, closed.conditions = statement.conditions ++ added ∧
        (statement.HasPending → added ≠ []) := by
  unfold closing OrScope.inAndPart
  cases part : statement.orScope.andPart? with
  | none => exact close_all reached rfl part
  | some identity =>
      have ended := after_end_and_part (part ▸ Option.some_ne_none identity)
      have frames : (statement.after .endAndPart).orScope.frames = statement.orScope.frames := by
        rw [ended]
      obtain ⟨closed, added, conditions, kept⟩ :=
        close_all (reached.after .endAndPart) (congrArg List.length frames) (by rw [ended])
      have same : (statement.after .endAndPart).conditions = statement.conditions := by rw [ended]
      rw [same] at conditions
      refine ⟨closed, added, conditions, fun holds => kept ?_⟩
      unfold HasPending
      rw [frames]
      exact holds

theorem updates_refused (opened : statement.orScope.isOpen = true) :
    statement.renderDelete = .error (.illegalState .orScopeStillOpen) ∧
      ∀ columns, ∃ refusal, statement.renderUpdate columns = .error refusal := by
  have selected : statement.updateWhere = .error (.illegalState .orScopeStillOpen) := by
    rw [updateWhere, if_pos opened]
  constructor
  · rw [renderDelete, selected]
    rfl
  · intro columns
    unfold renderUpdate
    split_ifs
    · exact ⟨_, rfl⟩
    · rw [selected]
      cases statement.assignments columns.entries with
      | error refusal => exact ⟨refusal, rfl⟩
      | ok assignments => exact ⟨_, rfl⟩

theorem ScopeApart.same_templates (apart : ScopeApart bare statement) :
    statement.whereGapped = bare.whereGapped ∧ statement.unionGapped = bare.unionGapped := by
  obtain ⟨orScope⟩ := apart
  exact ⟨rfl, rfl⟩

/-- A pending condition is in no text: rendering, updates and deletes are refused, and the templates
and the union branch are those of the run beside it, which misses what closing would have added. -/
theorem pending_conditions_dropped (reached : Reachable schema statement)
    (pending : statement.HasPending) :
    (statement.render = .error (.illegalState .orScopeStillOpen) ∧
      statement.renderDelete = .error (.illegalState .orScopeStillOpen) ∧
      ∀ columns, ∃ refusal, statement.renderUpdate columns = .error refusal) ∧
    ∃ bare, Pending schema bare statement ∧
      (statement.whereGapped = bare.whereGapped ∧ statement.unionGapped = bare.unionGapped) ∧
      (∀ whole keepsDuplicates, (Operation.addUnion statement keepsDuplicates).perform whole =
        (Operation.addUnion bare keepsDuplicates).perform whole) ∧
      let closed := statement.afterAll (closing statement.orScope)
      closed.orScope.isOpen = false ∧
        ∃ added, added ≠ [] ∧ closed.conditions = bare.conditions ++ added := by
  have opened : statement.orScope.isOpen = true := by
    obtain ⟨frame, member, _⟩ := pending
    exact OrScope.is_open_iff.mpr (List.ne_nil_of_mem member)
  obtain ⟨bare, runs⟩ := reached.pending opened
  have apart := runs.beside_bare.apart
  obtain ⟨closed, added, conditions, kept⟩ := closing_adds_pending reached
  have templates := apart.same_templates
  refine ⟨⟨?_, updates_refused opened⟩, bare, runs, templates, ?_, closed, added, kept pending, ?_⟩
  · rw [render, marked, if_pos opened]
    rfl
  · intro whole keepsDuplicates
    change (addUnion statement _).run whole = (addUnion bare _).run whole
    rw [addUnion, addUnion, templates.2]
  · obtain ⟨_⟩ := apart
    exact conditions

/-- Members with points, as long as the scope of the condition is open. -/
def pendingMember : Statement :=
  newMember.afterAll [.openOrScope, .addConditionText "POINT > 0"]

theorem pending_member_frames :
    pendingMember.orScope.frames = [⟨[(.main, [.text "POINT > 0"])]⟩] := by
  decide +kernel

theorem pending_member_holds : pendingMember.HasPending := by
  refine ⟨⟨[(.main, [.text "POINT > 0"])]⟩, ?_, by decide⟩
  rw [pending_member_frames]
  exact List.mem_singleton_self _

theorem pending_points_dropped :
    pendingMember.render = .error (.illegalState .orScopeStillOpen) ∧
      ∃ bare, Pending memberSchema bare pendingMember ∧
        pendingMember.unionGapped = bare.unionGapped ∧
        ∃ added, added ≠ [] ∧
          (pendingMember.after .closeOrScope).conditions = bare.conditions ++ added := by
  have reached : Reachable memberSchema pendingMember := new_member_reachable.afterAll _
  obtain ⟨⟨refused, _⟩, bare, runs, ⟨_, branch⟩, _, _, added, some, conditions⟩ :=
    pending_conditions_dropped reached pending_member_holds
  exact ⟨refused, bare, runs, branch, added, some, conditions⟩

def allMembersTwice : String :=
  "select dflocal.MEMBER_ID as c1, dflocal.INVITER_ID as c2 from MEMBER dflocal" ++
    " union select dflocal.MEMBER_ID as c1, dflocal.INVITER_ID as c2 from MEMBER dflocal"

theorem pending_points_not_in_union :
    Reachable memberSchema pendingMember ∧ pendingMember.HasPending ∧
      pendingMember.whereGapped = " from MEMBER dflocal #df:whereClause#" ∧
      pendingMember.unionGapped = " from MEMBER dflocal #df:unionWhereClause#" ∧
      ((Operation.addUnion pendingMember false).perform newMember).1 = .ok () ∧
      (newMember.after (.addUnion pendingMember false)).render = .ok allMembersTwice := by
  have written : (newMember.after (.addUnion pendingMember false)).marked =
      .ok allMembersTwice := by decide +kernel
  exact ⟨new_member_reachable.afterAll _, pending_member_holds, by decide +kernel,
    by decide +kernel, rfl, render_of_hashless written (by decide +kernel)⟩

end SqlComposer.Statement
