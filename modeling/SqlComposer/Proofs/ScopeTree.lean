import SqlComposer.Proofs.OrScope

/-!
What a run of or-scopes means. The events of a run form a forest: clauses outside of any scope,
scopes, and inside them clauses, and-parts and further scopes. The text that such a forest gives a
list is defined from the forest alone, without frames, identities or the order of the keys.
-/
namespace SqlComposer.Condition

inductive ScopeEvent where
  | opened
  | closed
  | partBegun
  | partEnded
  | clause (entry : Target × Clause)

inductive ScopeTerm where
  | clause (entry : Target × Clause)
  | andPart (entries : List (Target × Clause))
  | scope (terms : List ScopeTerm)

/-- An entry of the lists: a clause outside of any scope, or an outermost scope. -/
inductive ScopeEntry where
  | clause (entry : Target × Clause)
  | scope (terms : List ScopeTerm)

/-- Texts with a connector between them, in parentheses when there are two or more. -/
def grouped? (connector : String) : List String → Option String
  | [] => none
  | [text] => some text
  | texts => some ("(" ++ Text.join connector texts ++ ")")

mutual

/-- The text of a term for one list, none when the term has nothing for that list. -/
def ScopeTerm.text? (target : Target) : ScopeTerm → Option String
  | .clause entry => if entry.1 = target then some entry.2.sql else none
  | .andPart entries => grouped? " and " ((entriesFor target entries).map Clause.sql)
  | .scope terms => grouped? " or " (ScopeTerm.texts target terms)

def ScopeTerm.texts (target : Target) : List ScopeTerm → List String
  | [] => []
  | term :: rest => (ScopeTerm.text? target term).toList ++ ScopeTerm.texts target rest

end

def ScopeEntry.clauses (target : Target) : ScopeEntry → List Clause
  | .clause entry => entriesFor target [entry]
  | .scope terms => ((grouped? " or " (ScopeTerm.texts target terms)).map Clause.text).toList

/-- The whole list that a forest gives a target. -/
def ScopeEntry.list (entries : List ScopeEntry) (target : Target) : List Clause :=
  (entries.map (ScopeEntry.clauses target)).flatten

mutual

def ScopeTerm.events : ScopeTerm → List ScopeEvent
  | .clause entry => [.clause entry]
  | .andPart entries => .partBegun :: (entries.map ScopeEvent.clause ++ [.partEnded])
  | .scope terms => .opened :: (ScopeTerm.allEvents terms ++ [.closed])

def ScopeTerm.allEvents : List ScopeTerm → List ScopeEvent
  | [] => []
  | term :: rest => ScopeTerm.events term ++ ScopeTerm.allEvents rest

end

def ScopeEntry.events : ScopeEntry → List ScopeEvent
  | .clause entry => [.clause entry]
  | .scope terms => .opened :: (ScopeTerm.allEvents terms ++ [.closed])

/-- The events in which a forest is registered from left to right. -/
def ScopeEntry.allEvents (entries : List ScopeEntry) : List ScopeEvent :=
  (entries.map ScopeEntry.events).flatten

/-- A forest as far as it has been registered: the finished entries, the terms so far of each open
scope with the innermost first, and the clauses so far of an open and-part. -/
structure Standing where
  entries : List ScopeEntry := []
  scopes : List (List ScopeTerm) := []
  part? : Option (List (Target × Clause)) := none

def Standing.take : Standing → ScopeEvent → Option Standing
  | ⟨entries, scopes, none⟩, .opened => some ⟨entries, [] :: scopes, none⟩
  | ⟨entries, [terms], none⟩, .closed => some ⟨entries ++ [.scope terms], [], none⟩
  | ⟨entries, terms :: outer :: rest, none⟩, .closed =>
      some ⟨entries, (outer ++ [.scope terms]) :: rest, none⟩
  | ⟨entries, terms :: outer, none⟩, .partBegun => some ⟨entries, terms :: outer, some []⟩
  | ⟨entries, terms :: outer, some part⟩, .partEnded =>
      some ⟨entries, (terms ++ [.andPart part]) :: outer, none⟩
  | ⟨entries, [], none⟩, .clause entry => some ⟨entries ++ [.clause entry], [], none⟩
  | ⟨entries, terms :: outer, none⟩, .clause entry =>
      some ⟨entries, (terms ++ [.clause entry]) :: outer, none⟩
  | ⟨entries, scopes, some part⟩, .clause entry => some ⟨entries, scopes, some (part ++ [entry])⟩
  | _, _ => none

def Standing.takeAll (standing : Standing) (events : List ScopeEvent) : Option Standing :=
  events.foldlM Standing.take standing

theorem take_all_append (standing : Standing) (first second : List ScopeEvent) :
    standing.takeAll (first ++ second) = (standing.takeAll first).bind (·.takeAll second) := by
  simp [Standing.takeAll, List.foldlM_append, bind]

theorem take_all_cons (standing : Standing) (event : ScopeEvent) (rest : List ScopeEvent) :
    standing.takeAll (event :: rest) = (standing.take event).bind (·.takeAll rest) := by
  simp [Standing.takeAll, bind]

theorem take_all_part (entries : List ScopeEntry) (scopes : List (List ScopeTerm))
    (clauses part : List (Target × Clause)) :
    Standing.takeAll ⟨entries, scopes, some part⟩ (clauses.map ScopeEvent.clause) =
      some ⟨entries, scopes, some (part ++ clauses)⟩ := by
  induction clauses generalizing part with
  | nil => simp [Standing.takeAll]
  | cons entry rest ih =>
      rw [List.map_cons, take_all_cons, Standing.take, Option.bind_some, ih, List.append_assoc,
        List.singleton_append]

mutual

theorem take_all_term (term : ScopeTerm) (entries : List ScopeEntry) (terms : List ScopeTerm)
    (outer : List (List ScopeTerm)) :
    Standing.takeAll ⟨entries, terms :: outer, none⟩ term.events =
      some ⟨entries, (terms ++ [term]) :: outer, none⟩ := by
  cases term with
  | clause entry => rfl
  | andPart clauses =>
      rw [ScopeTerm.events, take_all_cons, Standing.take, Option.bind_some, take_all_append,
        take_all_part, Option.bind_some, take_all_cons]
      rfl
  | scope inner =>
      rw [ScopeTerm.events, take_all_cons, Standing.take, Option.bind_some, take_all_append,
        take_all_terms inner entries [] (terms :: outer), Option.bind_some, take_all_cons]
      rfl

theorem take_all_terms (added : List ScopeTerm) (entries : List ScopeEntry)
    (terms : List ScopeTerm) (outer : List (List ScopeTerm)) :
    Standing.takeAll ⟨entries, terms :: outer, none⟩ (ScopeTerm.allEvents added) =
      some ⟨entries, (terms ++ added) :: outer, none⟩ := by
  cases added with
  | nil => simp [ScopeTerm.allEvents, Standing.takeAll]
  | cons term rest =>
      rw [ScopeTerm.allEvents, take_all_append, take_all_term term entries terms outer,
        Option.bind_some, take_all_terms rest entries (terms ++ [term]) outer, List.append_assoc,
        List.singleton_append]

end

theorem take_all_entry (entry : ScopeEntry) (entries : List ScopeEntry) :
    Standing.takeAll ⟨entries, [], none⟩ entry.events =
      some ⟨entries ++ [entry], [], none⟩ := by
  cases entry with
  | clause entry => rfl
  | scope terms =>
      rw [ScopeEntry.events, take_all_cons, Standing.take, Option.bind_some, take_all_append,
        take_all_terms, Option.bind_some, take_all_cons]
      rfl

/-- Taking the events of a forest gives the forest back. -/
theorem take_all_entries (added entries : List ScopeEntry) :
    Standing.takeAll ⟨entries, [], none⟩ (ScopeEntry.allEvents added) =
      some ⟨entries ++ added, [], none⟩ := by
  induction added generalizing entries with
  | nil => simp [ScopeEntry.allEvents, Standing.takeAll]
  | cons entry rest ih =>
      rw [ScopeEntry.allEvents, List.map_cons, List.flatten_cons, take_all_append, take_all_entry,
        Option.bind_some]
      have joined : entries ++ entry :: rest = entries ++ [entry] ++ rest := by simp
      rw [joined]
      exact ih (entries ++ [entry])

theorem forest_unique {first second : List ScopeEntry}
    (same : ScopeEntry.allEvents first = ScopeEntry.allEvents second) : first = second := by
  have left := take_all_entries first []
  rw [same, take_all_entries second []] at left
  simpa using left.symm

def scopesEvents : List (List ScopeTerm) → List ScopeEvent
  | [] => []
  | terms :: outer => scopesEvents outer ++ .opened :: ScopeTerm.allEvents terms

/-- The events that have led to a standing. -/
def Standing.events (standing : Standing) : List ScopeEvent :=
  ScopeEntry.allEvents standing.entries ++ scopesEvents standing.scopes ++
    match standing.part? with
    | none => []
    | some part => .partBegun :: part.map ScopeEvent.clause

theorem all_term_events_append (terms : List ScopeTerm) (term : ScopeTerm) :
    ScopeTerm.allEvents (terms ++ [term]) = ScopeTerm.allEvents terms ++ term.events := by
  induction terms with
  | nil => simp [ScopeTerm.allEvents]
  | cons first rest ih =>
      rw [List.cons_append, ScopeTerm.allEvents, ih, ScopeTerm.allEvents, List.append_assoc]

theorem take_events {standing next : Standing} {event : ScopeEvent}
    (taken : standing.take event = some next) : next.events = standing.events ++ [event] := by
  revert taken
  fun_cases Standing.take standing event with
  | case9 => intro taken; cases taken
  | _ =>
      intro taken
      obtain rfl := Option.some.inj taken
      simp [Standing.events, scopesEvents, all_term_events_append, ScopeTerm.events,
        ScopeEntry.events, ScopeTerm.allEvents, ScopeEntry.allEvents]

theorem take_all_events {standing next : Standing} {events : List ScopeEvent}
    (taken : standing.takeAll events = some next) :
    next.events = standing.events ++ events := by
  induction events generalizing standing with
  | nil =>
      obtain rfl := Option.some.inj taken
      simp
  | cons event rest ih =>
      rw [take_all_cons] at taken
      obtain ⟨middle, first, later⟩ := Option.bind_eq_some_iff.mp taken
      rw [ih later, take_events first, List.append_assoc, List.singleton_append]

end SqlComposer.Condition
