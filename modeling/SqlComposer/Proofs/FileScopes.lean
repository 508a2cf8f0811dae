import SqlComposer.Proofs.FileConditions

/-!
The or-scopes of a query file. The forest of a file is put together from what its conditions ask
for; the statement that is built follows it, entry by entry: single conditions, then the scopes,
each with its single conditions before its and-parts.
-/
namespace SqlComposer

open Condition (Clause OrScope ScopeEntry ScopeEvent ScopeTerm Standing Target Tracks entriesFor
  grouped?)

namespace Condition

theorem entry_events_of_clauses (requests : List (Target × Clause)) :
    ScopeEntry.allEvents (requests.map ScopeEntry.clause) = requests.map ScopeEvent.clause := by
  induction requests with
  | nil => rfl
  | cons request rest ih =>
      rw [List.map_cons, List.map_cons, ← ih]
      rfl

theorem term_events_of_clauses (requests : List (Target × Clause)) :
    ScopeTerm.allEvents (requests.map ScopeTerm.clause) = requests.map ScopeEvent.clause := by
  induction requests with
  | nil => rfl
  | cons request rest ih =>
      rw [List.map_cons, List.map_cons, ← ih]
      rfl

theorem list_of_clauses (requests : List (Target × Clause)) (target : Target) :
    ScopeEntry.list (requests.map ScopeEntry.clause) target = entriesFor target requests := by
  induction requests with
  | nil => rfl
  | cons request rest ih =>
      rw [List.map_cons, ScopeEntry.list, List.map_cons, List.flatten_cons, ← ScopeEntry.list, ih,
        entries_for_cons, ScopeEntry.clauses, entries_for_cons]
      rw [show entriesFor target [] = [] from rfl, List.append_nil]

theorem grouped_eq_none_iff {connector : String} {texts : List String} :
    grouped? connector texts = none ↔ texts = [] := by
  rcases texts with _ | ⟨first, _ | ⟨second, rest⟩⟩ <;> simp [grouped?]

theorem texts_ne_nil_iff {target : Target} {terms : List ScopeTerm} :
    ScopeTerm.texts target terms ≠ [] ↔ ∃ term ∈ terms, term.text? target ≠ none := by
  induction terms with
  | nil => simp [ScopeTerm.texts]
  | cons term rest ih =>
      cases text : term.text? target with
      | none => simp [ScopeTerm.texts, text, ← ih]
      | some written => simp [ScopeTerm.texts, text]

/-- A scope leaves one clause for a list that one of its terms has something for, else none. -/
theorem scope_clauses_cases (target : Target) (terms : List ScopeTerm) :
    ((∃ term ∈ terms, term.text? target ≠ none) ∧
        ∃ clause, ScopeEntry.clauses target (.scope terms) = [clause]) ∨
      ((∀ term ∈ terms, term.text? target = none) ∧
        ScopeEntry.clauses target (.scope terms) = []) := by
  rw [ScopeEntry.clauses]
  cases group : grouped? " or " (ScopeTerm.texts target terms) with
  | none =>
      have empty := grouped_eq_none_iff.mp group
      have nothing : ¬ ∃ term ∈ terms, term.text? target ≠ none := fun some_term =>
        texts_ne_nil_iff.mpr some_term empty
      push Not at nothing
      exact .inr ⟨nothing, rfl⟩
  | some text =>
      have filled : ScopeTerm.texts target terms ≠ [] := by
        intro empty
        rw [grouped_eq_none_iff.mpr empty] at group
        cases group
      exact .inl ⟨texts_ne_nil_iff.mp filled, .text text, rfl⟩

theorem clause_text_ne_none_iff {target : Target} {request : Target × Clause} :
    (ScopeTerm.clause request).text? target ≠ none ↔ request.1 = target := by
  simp [ScopeTerm.text?]

theorem and_part_text_ne_none_iff {target : Target} {part : List (Target × Clause)} :
    (ScopeTerm.andPart part).text? target ≠ none ↔ entriesFor target part ≠ [] := by
  rw [ScopeTerm.text?, ne_eq, grouped_eq_none_iff, List.map_eq_nil_iff]

theorem entries_for_ne_nil_iff {target : Target} {requests : List (Target × Clause)} :
    entriesFor target requests ≠ [] ↔ ∃ request ∈ requests, request.1 = target := by
  simp [entriesFor]

/-- Whether a scope has something for a list, by its single clauses and its and-parts. -/
theorem some_term_iff {target : Target} {singles : List (Target × Clause)}
    {parts : List (List (Target × Clause))} :
    (∃ term ∈ singles.map ScopeTerm.clause ++ parts.map ScopeTerm.andPart,
        term.text? target ≠ none) ↔
      entriesFor target singles ≠ [] ∨ ∃ part ∈ parts, entriesFor target part ≠ [] := by
  rw [entries_for_ne_nil_iff]
  constructor
  · intro given
    rcases given with ⟨term, member, written⟩
    rcases List.mem_append.mp member with single | grouped
    · rcases List.mem_map.mp single with ⟨request, here, rfl⟩
      exact .inl ⟨request, here, clause_text_ne_none_iff.mp written⟩
    · rcases List.mem_map.mp grouped with ⟨part, here, rfl⟩
      exact .inr ⟨part, here, and_part_text_ne_none_iff.mp written⟩
  · intro given
    rcases given with ⟨request, here, aimed⟩ | ⟨part, here, filled⟩
    · exact ⟨.clause request, List.mem_append_left _ (List.mem_map_of_mem here),
        clause_text_ne_none_iff.mpr aimed⟩
    · exact ⟨.andPart part, List.mem_append_right _ (List.mem_map_of_mem here),
        and_part_text_ne_none_iff.mpr filled⟩

/-- Whether a scope and an and-part are open is what a standing says. -/
theorem Tracks.open_iff {scope : OrScope} {standing : Standing} (tracks : Tracks scope standing) :
    scope.isOpen = !standing.scopes.isEmpty ∧ scope.inAndPart = standing.part?.isSome := by
  cases tracks with
  | @outsidePart entries scopes idle frames =>
      have same : scope.frames.isEmpty = scopes.isEmpty := by
        rw [Bool.eq_iff_iff, List.isEmpty_iff_length_eq_zero, List.isEmpty_iff_length_eq_zero,
          frames.length_eq]
      simp [OrScope.isOpen, OrScope.inAndPart, idle, same]
  | insidePart newest frames =>
      simp [OrScope.isOpen, OrScope.inAndPart, newest, frames]

end Condition

namespace Statement

theorem Follows.condition_mode {statement : Statement} {standing : Standing}
    (follows : statement.Follows standing) :
    statement.conditionMode =
      statement.modeWithin (!standing.scopes.isEmpty) standing.part?.isSome := by
  rcases follows.scopes.open_iff with ⟨opened, inside⟩
  rw [← opened, ← inside]
  rfl

/-- The operations that open and close scopes and and-parts. -/
inductive Scoping : Operation → Prop where
  | openOrScope : Scoping .openOrScope
  | closeOrScope : Scoping .closeOrScope
  | beginAndPart : Scoping .beginAndPart
  | endAndPart : Scoping .endAndPart

/-- A later state that follows a standing and has the same union branches. -/
structure Reaches (before : Statement) (standing : Standing) (after : Statement) : Prop where
  continues : before.Continues after
  unions : after.unions = before.unions
  follows : after.Follows standing

theorem Reaches.trans {first second third : Statement} {middle last : Standing}
    (left : first.Reaches middle second) (right : second.Reaches last third) :
    first.Reaches last third :=
  ⟨left.continues.trans right.continues, right.unions.trans left.unions, right.follows⟩

theorem Effect.reaches {statement after : Statement} {operation : Operation}
    (effect : Effect statement operation after) (scoping : Scoping operation)
    (sound : statement.Sound) {standing next : Standing} (follows : statement.Follows standing)
    (taken : standing.takeAll (statement.events operation) = some next) :
    statement.Reaches next after := by
  have continues := effect.continues sound
  have adds : rewritesConditions operation = false := by cases scoping <;> rfl
  rcases effect.follows sound.tree.numbered adds follows with ⟨other, takenAgain, reached⟩
  cases Option.some.inj (takenAgain.symm.trans taken)
  have unions : after.unions = statement.unions := by
    cases effect with
    | recorded recording => cases recording <;> cases scoping
    | closeOrScope _ record =>
        rcases record.frame with ⟨_, _, _, _, rfl, _⟩
        rfl
    | openOrScope | beginAndPart | endAndPart => rfl
    | _ => cases scoping
  exact ⟨continues, unions, reached⟩

end Statement

namespace QueryFile

open Statement (Continues Reaches Recorded Scoping Sound)

/-- The terms of an or-scope: its single conditions, then its and-parts. -/
def OrScopeEntry.terms (entry : OrScopeEntry) (host : Statement) (names : JoinNames) :
    Except Problem (List ScopeTerm) := do
  let singles ← requestsOf host names (host.modeWithin true false) entry.conditions
  let parts ← entry.andParts.mapM (requestsOf host names (host.modeWithin true true))
  return singles.map .clause ++ parts.map .andPart

/-- The forest that a file asks for: its single conditions, then its or-scopes. -/
def Query.forest (query : Query) (host : Statement) (names : JoinNames) :
    Except Problem (List ScopeEntry) := do
  let singles ← requestsOf host names (host.modeWithin false false) query.conditions
  let scopes ← query.orScopes.mapM fun entry => entry.terms host names
  return singles.map .clause ++ scopes.map .scope

/-- One of the conditions of an or-scope is for a list and is not ignored. -/
def OrScopeEntry.HasFor (entry : OrScopeEntry) (names : JoinNames) (target : Target) : Prop :=
  ∃ condition ∈ entry.conditions ++ entry.andParts.flatten,
    condition.target names = .ok target ∧ ¬ condition.Ignored

/-- An or-scope and what it asks for: one clause for every list that it has a condition for that is
not ignored, and nothing for the other lists. -/
def OrScopeEntry.AskedTogether (host : Statement) (names : JoinNames) (entry : OrScopeEntry)
    (terms : List ScopeTerm) : Prop :=
  entry.terms host names = .ok terms ∧
    ∀ target,
      (entry.HasFor names target ∧ ∃ clause, ScopeEntry.clauses target (.scope terms) = [clause]) ∨
        (¬ entry.HasFor names target ∧ ScopeEntry.clauses target (.scope terms) = [])

theorem has_for_iff {entry : OrScopeEntry} {host : Statement} {names : JoinNames}
    {terms : List ScopeTerm} (known : entry.terms host names = .ok terms) (target : Target) :
    (∃ term ∈ terms, term.text? target ≠ none) ↔ entry.HasFor names target := by
  rcases bind_eq_ok known with ⟨singles, own, known⟩
  rcases bind_eq_ok known with ⟨parts, grouped, whole⟩
  have answers : List.Forall₂ (fun conditions part => entriesFor target part ≠ [] ↔
      ∃ condition ∈ conditions, condition.target names = .ok target ∧ ¬ condition.Ignored)
      entry.andParts parts :=
    (forall_of_map_m grouped).imp fun _ _ asked => entries_for_requests asked target
  rw [pure_ok_iff.mp whole, Condition.some_term_iff, entries_for_requests own target,
    some_output_iff answers, OrScopeEntry.HasFor]
  simp only [List.mem_append, List.mem_flatten]
  grind

theorem asked_together {entry : OrScopeEntry} {host : Statement} {names : JoinNames}
    {terms : List ScopeTerm} (known : entry.terms host names = .ok terms) :
    entry.AskedTogether host names terms := by
  apply And.intro known
  intro target
  rcases Condition.scope_clauses_cases target terms with ⟨some_term, one⟩ | ⟨no_term, none⟩
  · exact .inl ⟨(has_for_iff known target).mp some_term, one⟩
  · apply Or.inr (And.intro _ none)
    intro given
    rcases (has_for_iff known target).mpr given with ⟨term, member, written⟩
    exact written (no_term term member)

theorem terms_of_continues {before after : Statement} (continues : before.Continues after)
    {entry : OrScopeEntry} {names : JoinNames} {terms : List ScopeTerm}
    (known : entry.terms before names = .ok terms) : entry.terms after names = .ok terms := by
  rcases bind_eq_ok_iff.mp known with ⟨singles, own, known⟩
  rcases bind_eq_ok_iff.mp known with ⟨parts, grouped, known⟩
  apply bind_eq_ok_iff.mpr ⟨singles, requests_of_all_continues continues own, _⟩
  apply bind_eq_ok_iff.mpr ⟨parts, _, known⟩
  exact each_of_continues (fun _ _ => requests_of_all_continues continues) grouped

theorem Asked.reaches {entries : List ConditionEntry} {names : JoinNames}
    {before after : Statement} {requests : List (Target × Clause)}
    (asked : Asked entries names before after requests) {standing next : Standing}
    (follows : before.Follows standing)
    (taken : standing.takeAll (requests.map ScopeEvent.clause) = some next) :
    before.Reaches next after := by
  rcases asked.recorded.follows asked.plain follows with ⟨other, takenAgain, reached⟩
  cases Option.some.inj (takenAgain.symm.trans taken)
  rcases asked.recorded.frame with ⟨_, _, _, _, shape, _⟩
  exact ⟨asked.continues, by rw [shape], reached⟩

theorem scope_step {operation : Operation} (scoping : Scoping operation) {before after : Statement}
    (sound : before.Sound) {standing next : Standing} (follows : before.Follows standing)
    (ran : register operation.registration before = .ok ((), after))
    (taken : standing.takeAll (before.events operation) = some next) :
    before.Reaches next after :=
  (registered_effect sound ran).reaches scoping sound follows taken

/-- Entries that each add a piece to a standing add all of their pieces. What each of them asks for
is told from the last state as well. -/
theorem each_reached {α β γ : Type} {step : α → Building PUnit}
    {asked : Statement → α → Except Problem β} {standing : List γ → Standing} {piece : β → γ}
    (kept : ∀ before after : Statement, before.Continues after → ∀ entry answer,
      asked before entry = .ok answer → asked after entry = .ok answer)
    (reached : ∀ entry pieces (before after : Statement), before.Sound →
      before.Follows (standing pieces) → step entry before = .ok ((), after) →
        ∃ answer, asked after entry = .ok answer ∧
          before.Reaches (standing (pieces ++ [piece answer])) after)
    (inputs : List α) {pieces : List γ} {before after : Statement} (sound : before.Sound)
    (follows : before.Follows (standing pieces))
    (ran : (inputs.forM step : Building PUnit) before = .ok ((), after)) :
    ∃ answers, inputs.mapM (asked after) = .ok answers ∧
      before.Reaches (standing (pieces ++ answers.map piece)) after := by
  induction inputs generalizing before pieces with
  | nil =>
      rw [for_m_nil_built.mp ran]
      refine ⟨[], rfl, sound.continues, rfl, ?_⟩
      rw [List.map_nil, List.append_nil]
      exact follows
  | cons entry rest ih =>
      rcases for_m_cons_built.mp ran with ⟨middle, first, ran⟩
      rcases reached entry pieces before middle sound follows first with ⟨answer, known, here⟩
      rcases ih here.continues.sound here.follows ran with ⟨answers, others, later⟩
      apply Exists.intro (answer :: answers)
      constructor
      · rw [List.mapM_cons, kept middle after later.continues entry answer known, others]
        rfl
      · have whole := here.trans later
        rw [List.append_assoc] at whole
        exact whole

/-- An and-part becomes one more term of the open scope. -/
theorem and_part_reached {names : JoinNames} {conditions : List ConditionEntry}
    {before after : Statement} (sound : before.Sound) {entries : List ScopeEntry}
    {terms : List ScopeTerm} (follows : before.Follows ⟨entries, [terms], none⟩)
    (ran : addAndPart names conditions before = .ok ((), after)) :
    ∃ part, requestsOf after names (after.modeWithin true true) conditions = .ok part ∧
      before.Reaches ⟨entries, [terms ++ [.andPart part]], none⟩ after := by
  rcases bind_built.mp ran with ⟨_, begun, opened, ran⟩
  rcases bind_built.mp ran with ⟨_, filled, added, ended⟩
  have first := scope_step .beginAndPart sound follows opened rfl
  rcases conditions_asked first.continues.sound added with ⟨part, asked⟩
  have taken := Condition.take_all_part entries [terms] part []
  have second := asked.reaches first.follows taken
  have third := scope_step .endAndPart second.continues.sound second.follows ended rfl
  have known := asked.asked
  rw [second.follows.condition_mode] at known
  exact ⟨part, requests_of_all_continues third.continues known, first.trans (second.trans third)⟩

theorem and_parts_reached {names : JoinNames} {parts : List (List ConditionEntry)}
    {before after : Statement} (sound : before.Sound) {entries : List ScopeEntry}
    {terms : List ScopeTerm} (follows : before.Follows ⟨entries, [terms], none⟩)
    (ran : (parts.forM (addAndPart names) : Building PUnit) before = .ok ((), after)) :
    ∃ requests, parts.mapM (requestsOf after names (after.modeWithin true true)) = .ok requests ∧
      before.Reaches ⟨entries, [terms ++ requests.map .andPart], none⟩ after :=
  @each_reached _ _ _ (addAndPart names)
    (fun host => requestsOf host names (host.modeWithin true true))
    (fun terms => ⟨entries, [terms], none⟩) .andPart
    (fun _ _ continues _ _ => requests_of_all_continues continues)
    (fun _ _ _ _ sound follows ran => and_part_reached sound follows ran)
    parts terms before after sound follows ran

/-- An or-scope becomes one more entry. -/
theorem or_scope_reached {names : JoinNames} {entry : OrScopeEntry} {before after : Statement}
    (sound : before.Sound) {entries : List ScopeEntry}
    (follows : before.Follows ⟨entries, [], none⟩)
    (ran : addOrScope names entry before = .ok ((), after)) :
    ∃ terms, entry.terms after names = .ok terms ∧
      before.Reaches ⟨entries ++ [.scope terms], [], none⟩ after := by
  rcases bind_built.mp ran with ⟨_, opened, start, ran⟩
  rcases bind_built.mp ran with ⟨_, filled, added, ran⟩
  rcases bind_built.mp ran with ⟨_, parted, joined, ended⟩
  have first := scope_step .openOrScope sound follows start rfl
  rcases conditions_asked first.continues.sound added with ⟨singles, asked⟩
  have taken := Condition.take_all_terms (singles.map ScopeTerm.clause) entries [] []
  rw [Condition.term_events_of_clauses] at taken
  have second := asked.reaches first.follows taken
  rcases and_parts_reached second.continues.sound second.follows joined with ⟨parts, known, third⟩
  have last := scope_step .closeOrScope third.continues.sound third.follows ended rfl
  have own := asked.asked
  rw [second.follows.condition_mode] at own
  have singles_kept := requests_of_all_continues (third.trans last).continues own
  have parts_kept := each_of_continues
    (fun _ _ => requests_of_all_continues last.continues) known
  apply Exists.intro (singles.map ScopeTerm.clause ++ parts.map ScopeTerm.andPart)
  constructor
  · apply bind_eq_ok_iff.mpr ⟨singles, singles_kept, _⟩
    exact bind_eq_ok_iff.mpr ⟨parts, parts_kept, rfl⟩
  · exact first.trans (second.trans (third.trans last))

theorem or_scopes_reached {names : JoinNames} {scopes : List OrScopeEntry}
    {before after : Statement} (sound : before.Sound) {entries : List ScopeEntry}
    (follows : before.Follows ⟨entries, [], none⟩)
    (ran : (scopes.forM (addOrScope names) : Building PUnit) before = .ok ((), after)) :
    ∃ terms, scopes.mapM (fun entry => entry.terms after names) = .ok terms ∧
      before.Reaches ⟨entries ++ terms.map .scope, [], none⟩ after :=
  @each_reached _ _ _ (addOrScope names) (fun host entry => entry.terms host names)
    (fun entries => ⟨entries, [], none⟩) .scope
    (fun _ _ continues _ _ => terms_of_continues continues)
    (fun _ _ _ _ sound follows ran => or_scope_reached sound follows ran)
    scopes entries before after sound follows ran

theorem forest_of_continues {before after : Statement} (continues : before.Continues after)
    {query : Query} {names : JoinNames} {forest : List ScopeEntry}
    (known : query.forest before names = .ok forest) : query.forest after names = .ok forest := by
  rcases bind_eq_ok_iff.mp known with ⟨singles, own, known⟩
  rcases bind_eq_ok_iff.mp known with ⟨scopes, opened, known⟩
  apply bind_eq_ok_iff.mpr ⟨singles, requests_of_all_continues continues own, _⟩
  apply bind_eq_ok_iff.mpr ⟨scopes, _, known⟩
  exact each_of_continues (fun _ _ => terms_of_continues continues) opened

/-- The single conditions and the or-scopes of a file are its forest. -/
theorem forest_reached {query : Query} {names : JoinNames} {before middle after : Statement}
    (sound : before.Sound) (follows : before.Follows {})
    (singly : (query.conditions.forM (addCondition names) : Building PUnit) before =
      .ok ((), middle))
    (scoped_ran : (query.orScopes.forM (addOrScope names) : Building PUnit) middle =
      .ok ((), after)) :
    ∃ forest, query.forest after names = .ok forest ∧ before.Reaches ⟨forest, [], none⟩ after := by
  rcases conditions_asked sound singly with ⟨singles, asked⟩
  have taken := Condition.take_all_entries (singles.map ScopeEntry.clause) []
  rw [Condition.entry_events_of_clauses] at taken
  have first := asked.reaches follows taken
  rcases or_scopes_reached first.continues.sound first.follows scoped_ran with
    ⟨terms, known, second⟩
  have own := asked.asked
  rw [first.follows.condition_mode] at own
  apply Exists.intro (singles.map ScopeEntry.clause ++ terms.map ScopeEntry.scope)
  constructor
  · apply bind_eq_ok_iff.mpr
      ⟨singles, requests_of_all_continues second.continues own, _⟩
    exact bind_eq_ok_iff.mpr ⟨terms, known, rfl⟩
  · exact first.trans second

end QueryFile
end SqlComposer
