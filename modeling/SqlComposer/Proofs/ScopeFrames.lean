import SqlComposer.Proofs.ScopeTree

/-!
The frames of open or-scopes follow the forest that has been registered so far. The clauses of an
and-part stay together in every list of the innermost frame, because its identity is newer than
every other one there and because no scope can be opened or closed before it ends.
-/
namespace SqlComposer.Condition

theorem grouped_eq_disjunction {texts : List String} (some_text : texts ≠ []) :
    grouped? " or " texts = some (disjunction texts) := by
  cases texts with
  | nil => exact absurd rfl some_text
  | cons first rest => cases rest <;> rfl

theorem grouped_eq_group_text {clauses : List Clause} (some_clause : clauses ≠ []) :
    grouped? " and " (clauses.map Clause.sql) = some (groupText clauses) := by
  cases clauses with
  | nil => exact absurd rfl some_clause
  | cons first rest => cases rest <;> rfl

/-- A frame holds the terms of a scope: list by list its groups have the texts of the terms, and
every and-part in it has an identity below the bound. -/
structure Settled (bound : Nat) (frame : Terms) (terms : List ScopeTerm) : Prop where
  distinct : (OrderedMap.keys frame).Nodup
  older : ∀ target, ∀ clause ∈ frame.clauses target, ∀ identity,
    clause.andPart? = some identity → identity < bound
  texts : ∀ target,
    (termGroups (frame.clauses target)).map groupText = ScopeTerm.texts target terms

theorem texts_append (target : Target) (terms : List ScopeTerm) (term : ScopeTerm) :
    ScopeTerm.texts target (terms ++ [term]) =
      ScopeTerm.texts target terms ++ (term.text? target).toList := by
  induction terms with
  | nil => simp [ScopeTerm.texts]
  | cons first rest ih =>
      rw [List.cons_append, ScopeTerm.texts, ih, ScopeTerm.texts, List.append_assoc]

/-- A frame that takes the clauses of one more term, whose and-parts are new, holds that term. -/
theorem settled_extend {bound next : Nat} {frame : Terms} {terms : List ScopeTerm}
    (settled : Settled bound frame terms) (grows : bound ≤ next) (term : ScopeTerm)
    (entries : List (Target × Clause))
    (newer : ∀ entry ∈ entries, ∀ identity,
      entry.2.andPart? = some identity → bound ≤ identity ∧ identity < next)
    (texts : ∀ target,
      (termGroups (entriesFor target entries)).map groupText = (term.text? target).toList) :
    Settled next (frame.pushAll entries) (terms ++ [term]) := by
  refine ⟨nodup_keys_push_all entries settled.distinct, ?_, ?_⟩
  · intro target clause member identity labelled
    rw [clauses_push_all, List.mem_append] at member
    rcases member with old | new
    · have below := settled.older target clause old identity labelled
      omega
    · obtain ⟨entry, given, rfl⟩ := mem_entries_for new
      exact (newer entry given identity labelled).2
  · intro target
    have apart : ∀ left ∈ frame.clauses target, ∀ right ∈ entriesFor target entries,
        ∀ identity, left.andPart? = some identity → right.andPart? ≠ some identity := by
      intro left old right new identity leftLabel rightLabel
      obtain ⟨entry, given, rfl⟩ := mem_entries_for new
      have below := settled.older target left old identity leftLabel
      have above := (newer entry given identity rightLabel).1
      omega
    rw [clauses_push_all, term_groups_append apart, List.map_append, settled.texts, texts,
      texts_append]

theorem settled_empty (bound : Nat) : Settled bound OrderedMap.empty [] :=
  ⟨List.nodup_nil, (fun _ _ member => nomatch member), fun _ => rfl⟩

theorem settled_mono {bound next : Nat} {frame : Terms} {terms : List ScopeTerm}
    (settled : Settled bound frame terms) (grows : bound ≤ next) : Settled next frame terms := by
  refine ⟨settled.distinct, ?_, settled.texts⟩
  intro target clause member identity labelled
  have below := settled.older target clause member identity labelled
  omega

theorem settled_clause {bound : Nat} {frame : Terms} {terms : List ScopeTerm}
    (settled : Settled bound frame terms) (entry : Target × Clause)
    (plain : entry.2.andPart? = none) :
    Settled bound (frame.push entry.1 entry.2) (terms ++ [.clause entry]) := by
  refine settled_extend settled (Nat.le_refl bound) (.clause entry) [entry] ?_ ?_
  · intro other member identity labelled
    rw [List.mem_singleton.mp member, plain] at labelled
    cases labelled
  · intro target
    by_cases asked : entry.1 = target
    · simp [entriesFor, ScopeTerm.text?, asked, termGroups, groupText]
    · simp [entriesFor, ScopeTerm.text?, asked, termGroups]

theorem term_groups_ne_nil {clauses : List Clause} (some_clause : clauses ≠ []) :
    termGroups clauses ≠ [] := by
  cases clauses with
  | nil => exact absurd rfl some_clause
  | cons first rest =>
      obtain ⟨group, groups, grouped⟩ := term_groups_cons first rest
      rw [grouped]
      exact List.cons_ne_nil _ _

/-- What a closed scope leaves for a list is the text of its terms for that list. -/
theorem reflected_of_settled {bound : Nat} {frame : Terms} {terms : List ScopeTerm}
    (settled : Settled bound frame terms) (target : Target) :
    entriesFor target frame.reflected =
      ((grouped? " or " (ScopeTerm.texts target terms)).map Clause.text).toList := by
  rw [reflected_entries frame settled.distinct, ← settled.texts]
  by_cases empty : frame.clauses target = []
  · rw [if_pos empty, empty]
    rfl
  · have grouped : (termGroups (frame.clauses target)).map groupText ≠ [] := by
      simpa using term_groups_ne_nil empty
    rw [if_neg empty, grouped_eq_disjunction grouped]
    rfl

theorem settled_scope {bound : Nat} {frame inner : Terms} {terms innerTerms : List ScopeTerm}
    (settled : Settled bound frame terms) (closed : Settled bound inner innerTerms) :
    Settled bound (frame.pushAll inner.reflected) (terms ++ [.scope innerTerms]) := by
  refine settled_extend settled (Nat.le_refl bound) (.scope innerTerms) inner.reflected ?_ ?_
  · intro entry member identity labelled
    obtain ⟨source, _, rfl⟩ := List.mem_map.mp member
    cases labelled
  · intro target
    rw [reflected_of_settled closed, ScopeTerm.text?]
    cases grouped? " or " (ScopeTerm.texts target innerTerms) <;> rfl

/-- Clauses as an and-part of an identity registers them. -/
def labelled (identity : Nat) (part : List (Target × Clause)) : List (Target × Clause) :=
  part.map fun entry => (entry.1, .andPart entry.2 identity)

theorem entries_for_labelled (target : Target) (identity : Nat) (part : List (Target × Clause)) :
    entriesFor target (labelled identity part) =
      (entriesFor target part).map (Clause.andPart · identity) := by
  simp only [entriesFor, labelled, List.filter_map, List.map_map]
  rfl

theorem settled_part {bound : Nat} {frame : Terms} {terms : List ScopeTerm}
    (settled : Settled bound frame terms) (part : List (Target × Clause)) :
    Settled (bound + 1) (frame.pushAll (labelled bound part)) (terms ++ [.andPart part]) := by
  refine settled_extend settled (Nat.le_succ bound) (.andPart part) _ ?_ ?_
  · intro entry member identity same
    obtain ⟨source, _, rfl⟩ := List.mem_map.mp member
    obtain rfl := Option.some.inj same
    omega
  · intro target
    rw [entries_for_labelled, ScopeTerm.text?]
    cases given : entriesFor target part with
    | nil => rfl
    | cons clause rest =>
        have sqls : ((clause :: rest).map (Clause.andPart · bound)).map Clause.sql =
            (clause :: rest).map Clause.sql := by
          rw [List.map_map]
          rfl
        rw [term_groups_of_part, ← sqls, grouped_eq_group_text (by simp)]
        rfl

/-- The open scopes hold what a standing says of them. Inside an and-part the innermost frame also
has the clauses of that part, under the newest identity. -/
inductive Tracks (scope : OrScope) : Standing → Prop where
  | outsidePart {entries : List ScopeEntry} {scopes : List (List ScopeTerm)}
      (idle : scope.andPart? = none)
      (frames : List.Forall₂ (Settled (scope.andParts + 1)) scope.frames scopes) :
      Tracks scope ⟨entries, scopes, none⟩
  | insidePart {entries : List ScopeEntry} {terms : List ScopeTerm}
      {scopes : List (List ScopeTerm)} {frame : Terms} {outer : List Terms}
      {part : List (Target × Clause)}
      (newest : scope.andPart? = some scope.andParts)
      (frames : scope.frames = frame.pushAll (labelled scope.andParts part) :: outer)
      (inner : Settled scope.andParts frame terms)
      (others : List.Forall₂ (Settled scope.andParts) outer scopes) :
      Tracks scope ⟨entries, terms :: scopes, some part⟩

section

variable {scope after : OrScope} {standing : Standing}

theorem tracks_open (tracks : Tracks scope standing) (opened : scope.openScope = .ok after) :
    ∃ next, standing.take .opened = some next ∧ next.entries = standing.entries ∧
      Tracks after next := by
  obtain ⟨idle, rfl⟩ := (OrScope.open_scope_eq_ok_iff _ _).mp opened
  cases tracks with
  | outsidePart _ frames =>
      exact ⟨_, rfl, rfl, .outsidePart idle (.cons (settled_empty _) frames)⟩
  | insidePart newest =>
      rw [newest] at idle
      cases idle

theorem tracks_begin (tracks : Tracks scope standing) (begun : scope.beginAndPart = .ok after) :
    ∃ next, standing.take .partBegun = some next ∧ next.entries = standing.entries ∧
      Tracks after next := by
  obtain ⟨nested, idle, rfl⟩ := (OrScope.begin_and_part_eq_ok_iff _ _).mp begun
  cases tracks with
  | outsidePart _ frames =>
      cases shape : scope.frames with
      | nil => exact absurd shape nested
      | cons frame outer =>
          rw [shape] at frames
          cases frames with
          | cons inner others =>
              refine ⟨_, rfl, rfl, .insidePart rfl ?_ inner others⟩
              rfl
  | insidePart newest =>
      rw [newest] at idle
      cases idle

theorem tracks_end (tracks : Tracks scope standing) (ended : scope.endAndPart = .ok after) :
    ∃ next, standing.take .partEnded = some next ∧ next.entries = standing.entries ∧
      Tracks after next := by
  obtain ⟨within, rfl⟩ := (OrScope.end_and_part_eq_ok_iff _ _).mp ended
  cases tracks with
  | outsidePart idle => exact absurd idle within
  | @insidePart _ _ _ _ _ part _ frames inner others =>
      have older := others.imp fun _ _ settled => settled_mono settled (Nat.le_succ _)
      refine ⟨_, rfl, rfl, .outsidePart rfl ?_⟩
      rw [frames]
      exact .cons (settled_part inner part) older

theorem tracks_clause {frame : Terms} {outer : List Terms} (tracks : Tracks scope standing)
    (frames : scope.frames = frame :: outer) (entry : Target × Clause)
    (plain : entry.2.andPart? = none) :
    ∃ next, standing.take (.clause entry) = some next ∧ next.entries = standing.entries ∧
      Tracks { scope with frames := frame.push entry.1 (scope.term entry.2) :: outer } next := by
  cases tracks with
  | outsidePart idle settled =>
      rw [frames] at settled
      cases settled with
      | cons inner others =>
          refine ⟨_, rfl, rfl, .outsidePart idle (.cons ?_ others)⟩
          rw [OrScope.term, idle]
          exact settled_clause inner entry plain
  | @insidePart _ _ _ settled _ part newest shape inner others =>
      obtain ⟨rfl, rfl⟩ := List.cons.inj (frames.symm.trans shape)
      refine ⟨_, rfl, rfl, .insidePart newest ?_ inner others⟩
      simp [Terms.pushAll, labelled, OrScope.term, newest]

/-- An inner scope becomes a term of the scope around it, the outermost one an entry. -/
theorem tracks_close {reflected : List (Target × Clause)} (tracks : Tracks scope standing)
    (closed : scope.closeScope = .ok (after, reflected)) :
    ∃ next, standing.take .closed = some next ∧ Tracks after next ∧
      ((next.entries = standing.entries ∧ reflected = []) ∨
        ∃ entry, next.entries = standing.entries ++ [entry] ∧ after.frames = [] ∧
          ∀ target, entriesFor target reflected = entry.clauses target) := by
  obtain ⟨idle, ⟨frame, shape, rfl, rfl⟩ | ⟨frame, around, rest, shape, rfl, rfl⟩⟩ :=
    OrScope.close_scope_cases closed
  · cases tracks with
    | outsidePart _ frames =>
        rw [shape] at frames
        obtain _ | ⟨inner, _ | _⟩ := frames
        exact ⟨_, rfl, .outsidePart idle .nil, .inr ⟨_, rfl, rfl, reflected_of_settled inner⟩⟩
    | insidePart newest =>
        rw [newest] at idle
        cases idle
  · cases tracks with
    | outsidePart _ frames =>
        rw [shape] at frames
        obtain _ | ⟨inner, _ | ⟨settled, others⟩⟩ := frames
        exact ⟨_, rfl, .outsidePart idle (.cons (settled_scope settled inner) others),
          .inl ⟨rfl, rfl⟩⟩
    | insidePart newest =>
        rw [newest] at idle
        cases idle

end

end SqlComposer.Condition
