import SqlComposer.Proofs.Aliases
import SqlComposer.Proofs.Comparison
import SqlComposer.Proofs.ScopeFrames

/-!
Runs of accepted operations on a new statement, read as a forest of or-scopes. When no scope is open
at the end, every list of the statement is the one that the forest gives it.
-/
namespace SqlComposer.Statement

open Condition (Clause Holder Key LikeOption OrScope ScopeEntry ScopeEvent Standing Target Tracks
  entriesFor)

/-- What an operation does to scopes and lists. -/
def events (statement : Statement) : Operation → List ScopeEvent
  | .openOrScope => [.opened]
  | .closeOrScope => [.closed]
  | .beginAndPart => [.partBegun]
  | .endAndPart => [.partEnded]
  | operation => (statement.requested operation).map ScopeEvent.clause

def trace (statement : Statement) : List Operation → List ScopeEvent
  | [] => []
  | operation :: rest => statement.events operation ++ (statement.after operation).trace rest

/-- Operations are accepted one after another. -/
def Accepts (statement : Statement) : List Operation → Prop
  | [] => True
  | operation :: rest =>
      (operation.perform statement).1 = .ok () ∧ (statement.after operation).Accepts rest

/-- The operations that rewrite a list instead of adding to it. -/
def rewritesConditions : Operation → Bool
  | .moveLastConditionFirst | .clearConditions => true
  | _ => false

structure Follows (statement : Statement) (standing : Standing) : Prop where
  lists : ∀ target, statement.listOf target = ScopeEntry.list standing.entries target
  scopes : Tracks statement.orScope standing

/-- A join with the clauses that its alias has already leaves all lists as they are. -/
theorem list_of_insert_join {statement : Statement} {aliasName : String} {join : Join}
    (inline : join.inlineClauses = statement.listOf (.joinInline aliasName))
    (on : join.onClauses = statement.listOf (.joinOn aliasName)) (target : Target) :
    listOf { statement with joins := statement.joins.insert aliasName join } target =
      statement.listOf target := by
  cases target with
  | main => rfl
  | baseInline => rfl
  | joinInline other =>
      simp only [listOf, OrderedMap.find?_insert]
      split_ifs with asked
      · rw [asked]
        exact inline
      · rfl
  | joinOn other =>
      simp only [listOf, OrderedMap.find?_insert]
      split_ifs with asked
      · rw [asked]
        exact on
      · rfl

theorem Follows.of_same {before after : Statement} {standing : Standing}
    (follows : before.Follows standing)
    (lists : ∀ target, after.listOf target = before.listOf target)
    (scopes : after.orScope = before.orScope) : after.Follows standing :=
  ⟨fun target => (lists target).trans (follows.lists target), scopes ▸ follows.scopes⟩

theorem list_append (entries : List ScopeEntry) (entry : ScopeEntry) (target : Target) :
    ScopeEntry.list (entries ++ [entry]) target =
      ScopeEntry.list entries target ++ entry.clauses target := by
  simp [ScopeEntry.list]

theorem list_clauses_plain (key : Key) (mode : Condition.Mode) (column : ColumnRef)
    (value : Value) : ∀ clause ∈ key.listClauses mode column value, clause.andPart? = none := by
  intro clause member
  rcases Condition.list_clauses_cases key mode column value with same | ⟨_, _, same⟩
  · rw [same] at member
    obtain ⟨part, rfl, _⟩ := Condition.mem_list_parts member
    rfl
  · rw [same] at member
    rw [List.mem_singleton.mp member]
    rfl

/-- A clause belongs to an and-part only after it has been registered in one. -/
theorem clauses_plain {key : Key} {mode : Condition.Mode} {column : ColumnRef} {holder : Holder}
    {option? : Option LikeOption} {clauses : List Clause}
    (made : key.clauses mode column holder option? = .ok clauses) :
    ∀ clause ∈ clauses, clause.andPart? = none := by
  cases Condition.compared_of_accepted made with
  | ignored _ _ _ => exact List.forall_mem_nil _
  | list _ _ _ _ => exact list_clauses_plain key mode column _
  | valueless _ | comment _ _ _ _ | operand _ _ _ _ _ _ =>
      intro clause member
      rw [List.mem_singleton.mp member]
      rfl

theorem comparison_plain (statement : Statement) (target : Target) (column : ColumnRef) (key : Key)
    (holder : Holder) (option? : Option LikeOption) :
    ∀ entry ∈ statement.comparison target column key holder option?,
      entry.2.andPart? = none := by
  unfold comparison
  cases made : key.clauses statement.conditionMode column holder option? with
  | error refusal => simp
  | ok clauses =>
      intro entry member
      obtain ⟨clause, given, rfl⟩ := List.mem_map.mp member
      exact clauses_plain made clause given

theorem requested_plain (statement : Statement) (operation : Operation) :
    ∀ entry ∈ statement.requested operation, entry.2.andPart? = none := by
  unfold requested
  split
  · exact comparison_plain _ _ _ _ _ _
  · intro entry member
    rw [List.mem_singleton.mp member]
    rfl
  · split
    · exact comparison_plain _ _ _ _ _ _
    · simp
  · split
    · simp
    · split
      · simp
      · split_ifs
        · exact comparison_plain _ _ _ _ _ _
        · exact comparison_plain _ _ _ _ _ _
  · simp

theorem Placed.follows {statement after : Statement} {standing : Standing} {target : Target}
    {clause : Clause} (placed : Placed statement target clause after)
    (plain : clause.andPart? = none) (follows : statement.Follows standing) :
    ∃ next, standing.take (.clause (target, clause)) = some next ∧ after.Follows next := by
  cases placed with
  | pushed frames =>
      obtain ⟨next, taken, entries, tracks⟩ :=
        Condition.tracks_clause follows.scopes frames (target, clause) plain
      refine ⟨next, taken, fun other => ?_, tracks⟩
      rw [entries]
      exact follows.lists other
  | appended closed kept =>
      obtain ⟨conditions, baseInline, joins, rfl, _, lists⟩ := append_clause_spec kept
      obtain ⟨held, scopes⟩ := follows
      cases scopes with
      | outsidePart idle frames =>
          rw [closed] at frames
          cases frames
          refine ⟨_, rfl, fun other => ?_, .outsidePart idle (by rw [closed]; exact .nil)⟩
          rw [lists, held, list_append]
          by_cases asked : other = target
          · simp [ScopeEntry.clauses, entriesFor, asked]
          · simp [ScopeEntry.clauses, entriesFor, asked, Ne.symm asked]
      | insidePart _ frames =>
          rw [closed] at frames
          cases frames

theorem Recorded.follows {statement after : Statement} {entries : List (Target × Clause)}
    (recorded : Recorded statement entries after)
    (plain : ∀ entry ∈ entries, entry.2.andPart? = none) {standing : Standing}
    (follows : statement.Follows standing) :
    ∃ next, standing.takeAll (entries.map ScopeEvent.clause) = some next ∧
      after.Follows next := by
  induction recorded generalizing standing with
  | nil statement => exact ⟨standing, rfl, follows⟩
  | cons first later ih =>
      obtain ⟨middle, taken, between⟩ := first.follows (plain _ List.mem_cons_self) follows
      obtain ⟨next, rest, finally_follows⟩ :=
        ih (fun entry member => plain entry (List.mem_cons_of_mem _ member)) between
      refine ⟨next, ?_, finally_follows⟩
      rw [List.map_cons, Condition.take_all_cons, taken]
      exact rest

/-- With no scope open, recorded clauses go to the ends of their lists. -/
theorem Recorded.lists_of_closed {statement after : Statement}
    {entries : List (Target × Clause)} (recorded : Recorded statement entries after)
    (closed : statement.orScope.frames = []) :
    after.orScope = statement.orScope ∧
      ∀ target, after.listOf target = statement.listOf target ++ entriesFor target entries := by
  induction recorded with
  | nil statement => exact ⟨rfl, fun target => (List.append_nil _).symm⟩
  | cons first later ih =>
      cases first with
      | pushed frames =>
          rw [closed] at frames
          cases frames
      | appended _ kept =>
          obtain ⟨_, _, _, rfl, _, lists⟩ := append_clause_spec kept
          obtain ⟨scopes, rest⟩ := ih closed
          refine ⟨scopes, fun target => ?_⟩
          rw [rest, lists, Condition.entries_for_cons, List.append_assoc]

theorem join_keeps_lists {statement : Statement} (numbered : statement.NumberedAliases)
    {aliasName property : String} {added : Join}
    (made : statement.newJoin aliasName property = .ok added) (target : Target) :
    listOf { statement with joins := statement.joins.insert added.foreignAlias added } target =
      statement.listOf target := by
  have absent := (OrderedMap.find?_eq_none_iff _ _).mpr (new_join_fresh numbered made)
  obtain ⟨_, _, _, _, _, _, _, _, inline, on⟩ := new_join_spec made
  refine list_of_insert_join ?_ ?_ target
  · rw [inline, listOf, absent]
    rfl
  · rw [on, listOf, absent]
    rfl

theorem inner_keeps_lists {statement : Statement} {aliasName : String} {join : Join}
    (found : statement.joins.find? aliasName = some join) (target : Target) :
    listOf
        { statement with joins := statement.joins.insert aliasName { join with isInner := true } }
        target =
      statement.listOf target := by
  refine list_of_insert_join ?_ ?_ target
  · rw [listOf, found]
    rfl
  · rw [listOf, found]
    rfl

theorem events_of_recording (statement : Statement) {operation : Operation}
    (recording : IsRecording operation) :
    statement.events operation = (statement.requested operation).map ScopeEvent.clause := by
  cases recording <;> rfl

theorem close_follows {statement after : Statement} {orScope : OrScope} {standing : Standing}
    {reflected : List (Target × Clause)} (follows : statement.Follows standing)
    (closed : statement.orScope.closeScope = .ok (orScope, reflected))
    (record : Recorded { statement with orScope } reflected after) :
    ∃ next, standing.take .closed = some next ∧ after.Follows next := by
  obtain ⟨next, taken, tracks, ⟨entries, rfl⟩ | ⟨entry, entries, outermost, given⟩⟩ :=
    Condition.tracks_close follows.scopes closed
  · cases record with
    | nil =>
        refine ⟨next, taken, fun target => ?_, tracks⟩
        rw [entries]
        exact follows.lists target
  · obtain ⟨scopes, lists⟩ := record.lists_of_closed outermost
    refine ⟨next, taken, fun target => ?_, by rw [scopes]; exact tracks⟩
    rw [lists, given, entries, list_append, ← follows.lists]
    rfl

/-- One accepted operation: the forest takes its events and the statement follows it. -/
theorem Effect.follows {statement after : Statement} {operation : Operation} {standing : Standing}
    (effect : Effect statement operation after) (numbered : statement.NumberedAliases)
    (adds : rewritesConditions operation = false) (follows : statement.Follows standing) :
    ∃ next, standing.takeAll (statement.events operation) = some next ∧ after.Follows next := by
  cases effect with
  | recorded recording _ _ record =>
      rw [events_of_recording statement recording]
      exact record.follows (requested_plain statement operation) follows
  | openOrScope opened =>
      obtain ⟨next, taken, entries, tracks⟩ := Condition.tracks_open follows.scopes opened
      exact ⟨next, by rw [events, Condition.take_all_cons, taken]; rfl,
        fun target => entries ▸ follows.lists target, tracks⟩
  | beginAndPart begun =>
      obtain ⟨next, taken, entries, tracks⟩ := Condition.tracks_begin follows.scopes begun
      exact ⟨next, by rw [events, Condition.take_all_cons, taken]; rfl,
        fun target => entries ▸ follows.lists target, tracks⟩
  | endAndPart ended =>
      obtain ⟨next, taken, entries, tracks⟩ := Condition.tracks_end follows.scopes ended
      exact ⟨next, by rw [events, Condition.take_all_cons, taken]; rfl,
        fun target => entries ▸ follows.lists target, tracks⟩
  | closeOrScope closed record =>
      obtain ⟨next, taken, follows⟩ := close_follows follows closed record
      exact ⟨next, by rw [events, Condition.take_all_cons, taken]; rfl, follows⟩
  | join _ made =>
      exact ⟨standing, rfl, follows.of_same (join_keeps_lists numbered made) rfl⟩
  | makeInner found => exact ⟨standing, rfl, follows.of_same (inner_keeps_lists found) rfl⟩
  | moveLastConditionFirst | moveNone | clearConditions => cases adds
  | _ =>
      refine ⟨standing, rfl, follows.of_same (fun target => ?_) rfl⟩
      cases target <;> rfl

theorem run_follows (run : List Operation) {statement : Statement} {standing : Standing}
    (scopes : statement.ScopesJoined) (numbered : statement.NumberedAliases)
    (adds : ∀ operation ∈ run, rewritesConditions operation = false)
    (accepted : statement.Accepts run) (follows : statement.Follows standing) :
    ∃ next, standing.takeAll (statement.trace run) = some next ∧
      (statement.afterAll run).Follows next := by
  induction run generalizing statement standing with
  | nil => exact ⟨standing, rfl, follows⟩
  | cons operation rest ih =>
      have effect := effect_of_accepted scopes accepted.1
      obtain ⟨middle, taken, between⟩ :=
        effect.follows numbered (adds operation List.mem_cons_self) follows
      obtain ⟨next, later, finished⟩ :=
        ih (effect.scopes_joined scopes) (effect.numbered_aliases numbered)
          (fun other member => adds other (List.mem_cons_of_mem _ member)) accepted.2 between
      refine ⟨next, ?_, finished⟩
      rw [trace, Condition.take_all_append, taken]
      exact later

theorem new_follows {schema : Schema} {settings : Settings} {resolver : FixedCondition.Resolver}
    {tableName : String} {purpose : Purpose} {level : Nat} {statement : Statement}
    (created : create schema settings resolver tableName purpose level = .ok statement) :
    statement.Follows {} := by
  obtain ⟨table, _, rfl⟩ := create_eq_ok created
  refine ⟨fun target => ?_, .outsidePart rfl .nil⟩
  cases target <;> rfl

/-- The events of a run that leaves no scope open are those of exactly one forest, and every list
of the statement is what that forest gives it. -/
theorem lists_of_closed_run {schema : Schema} {settings : Settings}
    {resolver : FixedCondition.Resolver} {tableName : String} {purpose : Purpose} {level : Nat}
    {statement : Statement}
    (created : create schema settings resolver tableName purpose level = .ok statement)
    (run : List Operation) (adds : ∀ operation ∈ run, rewritesConditions operation = false)
    (accepted : statement.Accepts run)
    (closed : (statement.afterAll run).orScope.isOpen = false) :
    ∃ forest, ScopeEntry.allEvents forest = statement.trace run ∧
      (∀ other, ScopeEntry.allEvents other = statement.trace run → other = forest) ∧
      ∀ target, (statement.afterAll run).listOf target = ScopeEntry.list forest target := by
  have scopes : statement.ScopesJoined := by
    obtain ⟨table, _, rfl⟩ := create_eq_ok created
    exact fun _ member => nomatch member
  obtain ⟨standing, taken, lists, tracks⟩ :=
    run_follows run scopes (new_numbered_aliases created) adds accepted (new_follows created)
  have outside : (statement.afterAll run).orScope.frames = [] := by
    simpa [OrScope.isOpen] using closed
  cases tracks with
  | @outsidePart entries terms _ frames =>
      rw [outside] at frames
      cases frames
      have events := Condition.take_all_events taken
      simp only [Standing.events, Condition.scopesEvents, List.append_nil] at events
      refine ⟨entries, events, fun other same => ?_, lists⟩
      exact Condition.forest_unique (same.trans events.symm)
  | insidePart _ frames =>
      rw [outside] at frames
      cases frames

/-- A scope that holds a scope with an and-part, and a clause for a join. -/
def nestedRun : List Operation :=
  [.join "dflocal" "inviter", .openOrScope, .addConditionText "A",
    .addJoinCondition "dfrelation_MEMBER_0" "MEMBER_ID" .isNull {} none true, .openOrScope,
    .addConditionText "B", .beginAndPart, .addConditionText "C", .addConditionText "D",
    .endAndPart, .closeOrScope, .closeOrScope, .addConditionText "E"]

theorem lists_of_nested_run :
    ∃ forest, ScopeEntry.allEvents forest = newMember.trace nestedRun ∧
      (∀ other, ScopeEntry.allEvents other = newMember.trace nestedRun → other = forest) ∧
      ∀ target, (newMember.afterAll nestedRun).listOf target = ScopeEntry.list forest target :=
  lists_of_closed_run
    (show create memberSchema {} FixedCondition.resolve "MEMBER" .normalUse 0 = .ok newMember
      from rfl)
    nestedRun (by decide) ⟨rfl, rfl, rfl, rfl, rfl, rfl, rfl, rfl, rfl, rfl, rfl, rfl, rfl, trivial⟩
    rfl

end SqlComposer.Statement
