import SqlComposer.Proofs.ScopeRun

/-!
What becomes of the terms of an or-scope. As long as a scope is not closed, a run of operations only
adds to the ends of its lists of terms, whatever it does in scopes inside; when the scope is closed,
the terms for a list are the alternatives of one clause.
-/
namespace SqlComposer

open Condition (Clause OrScope Target Terms)

namespace Condition

theorem term_groups_of_plain_cons {clause : Clause} (plain : clause.andPart? = none)
    (rest : List Clause) : termGroups (clause :: rest) = [clause] :: termGroups rest := by
  rw [termGroups]
  split
  · rw [if_neg (by simp [plain])]
    simp [*]
  · rfl

theorem term_groups_of_plain {clauses : List Clause}
    (plain : ∀ clause ∈ clauses, clause.andPart? = none) (later : List Clause) :
    termGroups (clauses ++ later) = clauses.map (fun clause => [clause]) ++ termGroups later := by
  induction clauses with
  | nil => rfl
  | cons clause rest ih =>
      rw [List.forall_mem_cons] at plain
      rw [List.cons_append, term_groups_of_plain_cons plain.1, ih plain.2]
      rfl

/-- A clause outside and-parts starts a group of its own and ends the one before it. -/
theorem term_groups_before_plain (earlier : List Clause) {clause : Clause}
    (plain : clause.andPart? = none) (rest : List Clause) :
    termGroups (earlier ++ clause :: rest) =
      termGroups earlier ++ termGroups (clause :: rest) := by
  induction earlier with
  | nil => rfl
  | cons first more ih =>
      cases more with
      | nil =>
          rw [term_groups_of_plain_cons plain] at ih ⊢
          have apart : ¬ (first.andPart?.isSome ∧ first.andPart? = none) := by
            rintro ⟨labelled, same⟩
            rw [same] at labelled
            cases labelled
          rw [List.singleton_append, term_groups_of_grouped (term_groups_of_plain_cons plain rest),
            plain, if_neg apart]
          rfl
      | cons next others =>
          obtain ⟨group, groups, grouped⟩ := term_groups_cons next others
          have merged : termGroups (next :: others ++ clause :: rest) =
              (next :: group) :: (groups ++ termGroups (clause :: rest)) := by
            rw [ih, grouped]
            rfl
          rw [List.cons_append, term_groups_of_grouped merged, term_groups_of_grouped grouped]
          split_ifs <;> rfl

/-- Terms outside and-parts are alternatives of their own in the clause of a closed scope. -/
theorem flatten_of_plain (earlier : List Clause) {clauses : List Clause}
    (plain : ∀ clause ∈ clauses, clause.andPart? = none) (some_clause : clauses ≠ [])
    (later : List Clause) :
    flatten (earlier ++ clauses ++ later) =
      .text (disjunction ((termGroups earlier).map groupText ++ clauses.map Clause.sql ++
        (termGroups later).map groupText)) := by
  have groups : termGroups (earlier ++ clauses ++ later) =
      termGroups earlier ++ clauses.map (fun clause => [clause]) ++ termGroups later := by
    cases clauses with
    | nil => exact absurd rfl some_clause
    | cons clause rest =>
        rw [List.append_assoc, List.cons_append,
          term_groups_before_plain earlier (plain clause List.mem_cons_self), ← List.cons_append,
          term_groups_of_plain plain, List.append_assoc]
  rw [flatten, groups, List.map_append, List.map_append, List.map_map]
  rfl

/-- Terms that are still there, perhaps with others behind them. -/
def Terms.Grows (before after : Terms) : Prop :=
  ∀ target, ∃ later, after.clauses target = before.clauses target ++ later

theorem grows_refl (terms : Terms) : terms.Grows terms :=
  fun _ => ⟨[], (List.append_nil _).symm⟩

theorem Terms.Grows.trans {first second third : Terms} (left : first.Grows second)
    (right : second.Grows third) : first.Grows third := by
  intro target
  obtain ⟨early, grown⟩ := left target
  obtain ⟨late, grownAgain⟩ := right target
  exact ⟨early ++ late, by rw [grownAgain, grown, List.append_assoc]⟩

theorem grows_push (terms : Terms) (target : Target) (clause : Clause) :
    terms.Grows (terms.push target clause) :=
  fun other => ⟨_, clauses_push terms target other clause⟩

theorem grows_push_all (terms : Terms) (entries : List (Target × Clause)) :
    terms.Grows (terms.pushAll entries) :=
  fun target => ⟨_, clauses_push_all entries terms target⟩

/-- Open scopes of which one stands on given outer ones and has grown since. -/
def GrownOn (outer : List Terms) (frame : Terms) (frames : List Terms) : Prop :=
  ∃ inner next, frames = inner ++ next :: outer ∧ frame.Grows next

theorem GrownOn.push_first {outer rest : List Terms} {frame first : Terms}
    (grown : GrownOn outer frame (first :: rest)) {next : Terms} (grows : first.Grows next) :
    GrownOn outer frame (next :: rest) := by
  obtain ⟨inner, here, shape, since⟩ := grown
  cases inner with
  | nil =>
      obtain ⟨rfl, rfl⟩ := List.cons.inj shape
      exact ⟨[], next, rfl, since.trans grows⟩
  | cons top others =>
      obtain ⟨rfl, rfl⟩ := List.cons.inj shape
      exact ⟨next :: others, here, rfl, since⟩

/-- Without its first scope, unless that is the one in question. -/
theorem GrownOn.tail {outer rest : List Terms} {frame first : Terms}
    (grown : GrownOn outer frame (first :: rest)) (above : outer.length < rest.length) :
    GrownOn outer frame rest := by
  obtain ⟨inner, here, shape, since⟩ := grown
  cases inner with
  | nil =>
      obtain ⟨_, rfl⟩ := List.cons.inj shape
      exact absurd above (Nat.lt_irrefl _)
  | cons top others =>
      obtain ⟨_, rfl⟩ := List.cons.inj shape
      exact ⟨others, here, rfl, since⟩

theorem mem_reflected {terms : Terms} {target : Target} (some_clause : terms.clauses target ≠ []) :
    (target, flatten (terms.clauses target)) ∈ terms.reflected := by
  unfold Terms.clauses at *
  cases found : OrderedMap.find? terms target with
  | none => simp [found] at some_clause
  | some clauses =>
      rw [found] at some_clause
      refine List.mem_map.mpr ⟨(target, clauses), List.mem_filter.mpr ⟨?_, ?_⟩, rfl⟩
      · exact OrderedMap.mem_of_find?_eq_some found
      · simpa using some_clause

theorem mem_entries_for_of_mem {target : Target} {clause : Clause}
    {entries : List (Target × Clause)} (member : (target, clause) ∈ entries) :
    clause ∈ entriesFor target entries :=
  List.mem_map.mpr ⟨_, List.mem_filter.mpr ⟨member, by simp⟩, rfl⟩

end Condition

namespace Statement

open Condition (GrownOn)

/-- What takes the clauses for a list: the innermost open scope or, when none is open, the list. -/
def taken (statement : Statement) (target : Target) : List Clause :=
  match statement.orScope.frames with
  | [] => statement.listOf target
  | frame :: _ => frame.clauses target

variable {statement after : Statement} {outer : List Terms} {frame : Terms}

theorem Recorded.grown {entries : List (Target × Clause)}
    (recorded : Recorded statement entries after)
    (grown : GrownOn outer frame statement.orScope.frames) :
    GrownOn outer frame after.orScope.frames := by
  induction recorded with
  | nil statement => exact grown
  | cons first later ih =>
      refine ih ?_
      cases first with
      | pushed frames =>
          rw [frames] at grown
          exact grown.push_first (Condition.grows_push _ _ _)
      | appended _ kept =>
          obtain ⟨_, _, _, rfl, _, _⟩ := append_clause_spec kept
          exact grown

/-- One accepted operation that does not close the scope. -/
theorem Effect.grown {operation : Operation} (effect : Effect statement operation after)
    (grown : GrownOn outer frame statement.orScope.frames)
    (above : outer.length < after.orScope.frames.length) :
    GrownOn outer frame after.orScope.frames := by
  cases effect with
  | recorded _ _ _ record => exact record.grown grown
  | openOrScope opened =>
      obtain ⟨_, rfl⟩ := (OrScope.open_scope_eq_ok_iff _ _).mp opened
      obtain ⟨inner, next, shape, since⟩ := grown
      exact ⟨OrderedMap.empty :: inner, next, by rw [shape]; rfl, since⟩
  | beginAndPart begun =>
      obtain ⟨_, _, rfl⟩ := (OrScope.begin_and_part_eq_ok_iff _ _).mp begun
      exact grown
  | endAndPart ended =>
      obtain ⟨_, rfl⟩ := (OrScope.end_and_part_eq_ok_iff _ _).mp ended
      exact grown
  | closeOrScope closed record =>
      obtain ⟨_, ⟨_, frames, rfl, rfl⟩ | ⟨_, around, rest, frames, rfl, rfl⟩⟩ :=
        OrScope.close_scope_cases closed
      · rw [(record.lists_of_closed rfl).1] at above
        exact absurd above (Nat.not_lt_zero _)
      · cases record with
        | nil =>
            rw [frames] at grown
            exact (grown.tail above).push_first (Condition.grows_push_all _ _)
  | _ => exact grown

/-- During a run more scopes are open all the time than a number of them. -/
def StaysAbove (depth : Nat) (statement : Statement) : List Operation → Prop
  | [] => True
  | operation :: rest =>
      depth < (statement.after operation).orScope.frames.length ∧
        StaysAbove depth (statement.after operation) rest

theorem run_grown {schema : Schema} (reached : Reachable schema statement)
    (grown : GrownOn outer frame statement.orScope.frames) {run : List Operation}
    (above : statement.StaysAbove outer.length run) :
    GrownOn outer frame (statement.afterAll run).orScope.frames := by
  induction run generalizing statement with
  | nil => exact grown
  | cons operation rest ih =>
      obtain ⟨here, later⟩ := above
      refine ih (reached.after operation) ?_ later
      rcases after_cases reached.scopes_joined operation with ⟨_, same⟩ | ⟨_, effect⟩
      · rw [same]
        exact grown
      · exact effect.grown grown here

/-- A closed scope leaves one clause for every list that it has terms for. -/
theorem closed_scope_taken {schema : Schema} (reached : Reachable schema statement)
    (frames : statement.orScope.frames = frame :: outer)
    (accepted : (Operation.closeOrScope.perform statement).1 = .ok ()) {target : Target}
    (some_clause : frame.clauses target ≠ []) :
    Condition.flatten (frame.clauses target) ∈
      (statement.after .closeOrScope).taken target := by
  have entered := Condition.mem_entries_for_of_mem (Condition.mem_reflected some_clause)
  have effect := effect_of_accepted reached.scopes_joined accepted
  generalize statement.after .closeOrScope = after at effect ⊢
  cases effect with
  | recorded recording => cases recording
  | closeOrScope closed record =>
      obtain ⟨_, ⟨_, shape, rfl, rfl⟩ | ⟨_, around, rest, shape, rfl, rfl⟩⟩ :=
        OrScope.close_scope_cases closed
      · obtain ⟨rfl, _⟩ := List.cons.inj (frames.symm.trans shape)
        obtain ⟨scopes, lists⟩ := record.lists_of_closed rfl
        rw [taken, scopes]
        dsimp only
        rw [lists]
        exact List.mem_append_right _ entered
      · obtain ⟨rfl, rfl⟩ := List.cons.inj (frames.symm.trans shape)
        cases record with
        | nil =>
            change _ ∈ (around.pushAll frame.reflected).clauses target
            rw [Condition.clauses_push_all]
            exact List.mem_append_right _ entered

/-- Terms of an open scope outside and-parts are alternatives of the clause that the scope leaves,
however the run goes on before the scope is closed. -/
theorem plain_terms_disjoined {schema : Schema} (reached : Reachable schema statement)
    (frames : statement.orScope.frames = frame :: outer) {target : Target}
    {earlier clauses : List Clause} (held : frame.clauses target = earlier ++ clauses)
    (plain : ∀ clause ∈ clauses, clause.andPart? = none) (some_clause : clauses ≠ [])
    {run : List Operation} (above : statement.StaysAbove outer.length run)
    (innermost : (statement.afterAll run).orScope.frames.length = outer.length + 1)
    (accepted : (Operation.closeOrScope.perform (statement.afterAll run)).1 = .ok ()) :
    ∃ later, Clause.text (Condition.disjunction
        ((Condition.termGroups earlier).map Condition.groupText ++ clauses.map Clause.sql ++
          later)) ∈ ((statement.afterAll run).after .closeOrScope).taken target := by
  obtain ⟨inner, next, shape, grows⟩ :=
    run_grown reached ⟨[], frame, frames, Condition.grows_refl frame⟩ above
  have alone : inner = [] := by
    rw [shape, List.length_append, List.length_cons] at innermost
    exact List.length_eq_zero_iff.mp (by omega)
  rw [alone, List.nil_append] at shape
  obtain ⟨later, grown⟩ := grows target
  rw [held] at grown
  have some_term : next.clauses target ≠ [] := by
    rw [grown]
    simp [some_clause]
  have closed := closed_scope_taken (reached.afterAll run) shape accepted some_term
  rw [grown, Condition.flatten_of_plain earlier plain some_clause] at closed
  exact ⟨_, closed⟩

end Statement
end SqlComposer
