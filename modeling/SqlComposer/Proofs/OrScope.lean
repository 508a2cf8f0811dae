import SqlComposer.Condition.OrScope
import SqlComposer.Proofs.OrderedMap
import Mathlib.Data.List.Forall2

/-!
What each move of an or-scope needs and does, and the terms that a scope holds for a list. Closing
gives every list that has terms one clause and gives the other lists none.
-/
namespace SqlComposer.Condition

/-- The terms for one list, in the order of their registration. -/
def Terms.clauses (terms : Terms) (target : Target) : List Clause :=
  (OrderedMap.find? terms target).getD []

theorem push_eq_insert (terms : Terms) (target : Target) (clause : Clause) :
    terms.push target clause = OrderedMap.insert terms target (terms.clauses target ++ [clause]) :=
  OrderedMap.alter_eq_insert terms target [] (· ++ [clause])

theorem clauses_push (terms : Terms) (target other : Target) (clause : Clause) :
    (terms.push target clause).clauses other =
      terms.clauses other ++ if other = target then [clause] else [] := by
  rw [push_eq_insert, Terms.clauses, OrderedMap.find?_insert]
  by_cases asked : other = target
  · rw [if_pos asked, if_pos asked, asked]
    rfl
  · rw [if_neg asked, if_neg asked, List.append_nil]
    rfl

theorem mem_keys_push {terms : Terms} {target other : Target} {clause : Clause}
    (member : other ∈ OrderedMap.keys (terms.push target clause)) :
    other ∈ OrderedMap.keys terms ∨ other = target := by
  rw [push_eq_insert, OrderedMap.keys_insert] at member
  split_ifs at member
  · exact .inl member
  · simpa using member

theorem nodup_keys_push {terms : Terms} (distinct : (OrderedMap.keys terms).Nodup)
    (target : Target) (clause : Clause) :
    (OrderedMap.keys (terms.push target clause)).Nodup := by
  rw [push_eq_insert]
  exact OrderedMap.nodup_keys_insert distinct target _

theorem reflected_targets (terms : Terms) :
    ∀ entry ∈ terms.reflected, entry.1 ∈ OrderedMap.keys terms := by
  intro entry member
  obtain ⟨source, kept, rfl⟩ := List.mem_map.mp member
  exact List.mem_map.mpr ⟨source, (List.mem_filter.mp kept).1, rfl⟩

/-- A list of clauses cut down to those for one target. -/
def entriesFor (target : Target) (entries : List (Target × Clause)) : List Clause :=
  (entries.filter fun entry => entry.1 = target).map Prod.snd

theorem entries_for_cons (target : Target) (entry : Target × Clause)
    (rest : List (Target × Clause)) :
    entriesFor target (entry :: rest) =
      (if target = entry.1 then [entry.2] else []) ++ entriesFor target rest := by
  by_cases asked : target = entry.1
  · simp [entriesFor, asked]
  · simp [entriesFor, asked, Ne.symm asked]

theorem entries_for_of_not_mem {target : Target} {entries : List (Target × Clause)}
    (absent : ∀ entry ∈ entries, entry.1 ≠ target) : entriesFor target entries = [] := by
  rw [entriesFor, List.map_eq_nil_iff, List.filter_eq_nil_iff]
  intro entry member
  simpa using absent entry member

theorem mem_entries_for {target : Target} {entries : List (Target × Clause)} {clause : Clause}
    (member : clause ∈ entriesFor target entries) :
    ∃ entry ∈ entries, entry.2 = clause := by
  obtain ⟨entry, kept, same⟩ := List.mem_map.mp member
  exact ⟨entry, (List.mem_filter.mp kept).1, same⟩

theorem reflected_entries (terms : Terms) (distinct : (OrderedMap.keys terms).Nodup)
    (target : Target) :
    entriesFor target terms.reflected =
      if terms.clauses target = [] then [] else [flatten (terms.clauses target)] := by
  obtain ⟨entries⟩ := terms
  induction entries with
  | nil => rfl
  | cons entry rest ih =>
      obtain ⟨own, clauses⟩ := entry
      obtain ⟨absent, later⟩ := List.nodup_cons.mp distinct
      by_cases same : own = target
      · subst same
        have others : entriesFor own (Terms.reflected ⟨rest⟩) = [] := by
          refine entries_for_of_not_mem fun other member equal => absent ?_
          rw [← equal]
          exact reflected_targets ⟨rest⟩ other member
        have here : Terms.clauses ⟨(own, clauses) :: rest⟩ own = clauses := by
          simp [Terms.clauses, OrderedMap.find?]
        rw [here]
        cases clauses with
        | nil => exact others
        | cons clause more =>
            change entriesFor own (_ :: Terms.reflected ⟨rest⟩) = _
            rw [entries_for_cons, others]
            simp
      · have elsewhere : Terms.clauses ⟨(own, clauses) :: rest⟩ target =
            Terms.clauses ⟨rest⟩ target := by
          simp [Terms.clauses, OrderedMap.find?, same]
        rw [elsewhere, ← ih later]
        cases clauses with
        | nil => rfl
        | cons clause more =>
            change entriesFor target (_ :: Terms.reflected ⟨rest⟩) = _
            rw [entries_for_cons, if_neg (Ne.symm same), List.nil_append]

/-- The terms of a scope after a closed scope inside it has given its own. -/
def Terms.pushAll (terms : Terms) (entries : List (Target × Clause)) : Terms :=
  entries.foldl (fun terms entry => terms.push entry.1 entry.2) terms

theorem clauses_push_all (entries : List (Target × Clause)) (terms : Terms) (target : Target) :
    (terms.pushAll entries).clauses target =
      terms.clauses target ++ entriesFor target entries := by
  induction entries generalizing terms with
  | nil => simp [Terms.pushAll, entriesFor]
  | cons entry rest ih =>
      rw [entries_for_cons, ← List.append_assoc, ← clauses_push]
      exact ih (terms.push entry.1 entry.2)

theorem mem_keys_push_all {entries : List (Target × Clause)} {terms : Terms} {target : Target}
    (member : target ∈ OrderedMap.keys (terms.pushAll entries)) :
    target ∈ OrderedMap.keys terms ∨ ∃ entry ∈ entries, entry.1 = target := by
  induction entries generalizing terms with
  | nil => exact .inl member
  | cons entry rest ih =>
      rcases ih member with pushed | ⟨other, later, same⟩
      · rcases mem_keys_push pushed with before | here
        · exact .inl before
        · exact .inr ⟨entry, List.mem_cons_self, here.symm⟩
      · exact .inr ⟨other, List.mem_cons_of_mem _ later, same⟩

theorem nodup_keys_push_all (entries : List (Target × Clause)) {terms : Terms}
    (distinct : (OrderedMap.keys terms).Nodup) :
    (OrderedMap.keys (terms.pushAll entries)).Nodup := by
  induction entries generalizing terms with
  | nil => exact distinct
  | cons entry rest ih => exact ih (nodup_keys_push distinct entry.1 entry.2)

/-- The first group starts with the first clause. -/
theorem term_groups_cons (clause : Clause) (rest : List Clause) :
    ∃ group groups, termGroups (clause :: rest) = (clause :: group) :: groups := by
  rw [termGroups]
  split
  · split_ifs
    · exact ⟨_, _, rfl⟩
    · exact ⟨_, _, rfl⟩
  · exact ⟨_, _, rfl⟩

theorem term_groups_of_grouped {clause next : Clause} {rest group : List Clause}
    {groups : List (List Clause)} (grouped : termGroups rest = (next :: group) :: groups) :
    termGroups (clause :: rest) =
      if clause.andPart?.isSome ∧ clause.andPart? = next.andPart? then
        (clause :: next :: group) :: groups
      else [clause] :: (next :: group) :: groups := by
  rw [termGroups, grouped]

/-- Clauses of different and-parts are in different groups. -/
theorem term_groups_append {left right : List Clause}
    (apart : ∀ before ∈ left, ∀ later ∈ right, ∀ identity,
      before.andPart? = some identity → later.andPart? ≠ some identity) :
    termGroups (left ++ right) = termGroups left ++ termGroups right := by
  induction left with
  | nil => rfl
  | cons clause rest ih =>
      have together := ih fun before member => apart before (List.mem_cons_of_mem _ member)
      cases rest with
      | nil =>
          cases right with
          | nil => rfl
          | cons next more =>
              obtain ⟨group, groups, grouped⟩ := term_groups_cons next more
              have different : ¬ (clause.andPart?.isSome ∧ clause.andPart? = next.andPart?) := by
                rintro ⟨labelled, same⟩
                obtain ⟨identity, known⟩ := Option.isSome_iff_exists.mp labelled
                refine apart clause List.mem_cons_self next List.mem_cons_self identity known ?_
                rw [← same, known]
              rw [List.cons_append, List.nil_append, term_groups_of_grouped grouped,
                if_neg different, grouped]
              rfl
      | cons next more =>
          obtain ⟨group, groups, grouped⟩ := term_groups_cons next more
          have merged : termGroups (next :: more ++ right) =
              (next :: group) :: (groups ++ termGroups right) := by
            rw [together, grouped]
            rfl
          rw [List.cons_append, term_groups_of_grouped merged, term_groups_of_grouped grouped]
          split_ifs <;> rfl

theorem term_groups_of_part (identity : Nat) (clause : Clause) (rest : List Clause) :
    termGroups ((clause :: rest).map (Clause.andPart · identity)) =
      [(clause :: rest).map (Clause.andPart · identity)] := by
  induction rest generalizing clause with
  | nil => rfl
  | cons next more ih =>
      rw [List.map_cons, termGroups, ih next]
      simp [Clause.andPart?]

namespace OrScope

theorem is_open_iff {scope : OrScope} : scope.isOpen = true ↔ scope.frames ≠ [] := by
  simp [isOpen]

theorem is_closed_iff {scope : OrScope} : scope.isOpen = false ↔ scope.frames = [] := by
  simp [isOpen]

theorem open_scope_eq_ok_iff (scope after : OrScope) :
    scope.openScope = .ok after ↔
      scope.andPart? = none ∧
        after = { scope with frames := OrderedMap.empty :: scope.frames } := by
  unfold openScope
  cases scope.andPart? <;> simp [eq_comm]

theorem begin_and_part_eq_ok_iff (scope after : OrScope) :
    scope.beginAndPart = .ok after ↔
      scope.frames ≠ [] ∧ scope.andPart? = none ∧
        after = { scope with
          andPart? := some (scope.andParts + 1), andParts := scope.andParts + 1 } := by
  unfold beginAndPart
  cases scope.frames <;> cases scope.andPart? <;> simp [eq_comm]

theorem end_and_part_eq_ok_iff (scope after : OrScope) :
    scope.endAndPart = .ok after ↔
      scope.andPart? ≠ none ∧ after = { scope with andPart? := none } := by
  unfold endAndPart
  cases scope.andPart? <;> simp [eq_comm]

/-- An outermost scope gives its clauses to the lists, every other one to the scope around it. -/
theorem close_scope_cases {scope after : OrScope} {reflected : List (Target × Clause)}
    (closed : scope.closeScope = .ok (after, reflected)) :
    scope.andPart? = none ∧
      ((∃ frame, scope.frames = [frame] ∧ after = { scope with frames := [] } ∧
          reflected = frame.reflected) ∨
        ∃ frame outer rest, scope.frames = frame :: outer :: rest ∧
          after = { scope with frames := outer.pushAll frame.reflected :: rest } ∧
          reflected = []) := by
  unfold closeScope at closed
  split_ifs at closed with opened
  refine ⟨by simpa using opened, ?_⟩
  split at closed
  · cases closed
  · next frame frames =>
      obtain ⟨rfl, rfl⟩ := Prod.mk.inj (Except.ok.inj closed)
      exact .inl ⟨frame, frames, rfl, rfl⟩
  · next frame outer rest frames =>
      obtain ⟨rfl, rfl⟩ := Prod.mk.inj (Except.ok.inj closed)
      exact .inr ⟨frame, outer, rest, frames, rfl, rfl⟩

theorem close_outermost {scope : OrScope} {frame : Terms} (ended : scope.andPart? = none)
    (frames : scope.frames = [frame]) :
    scope.closeScope = .ok ({ scope with frames := [] }, frame.reflected) := by
  obtain ⟨_, _, _⟩ := scope
  subst ended frames
  rfl

theorem close_inner {scope : OrScope} {frame outer : Terms} {rest : List Terms}
    (ended : scope.andPart? = none) (frames : scope.frames = frame :: outer :: rest) :
    scope.closeScope =
      .ok ({ scope with frames := outer.pushAll frame.reflected :: rest }, []) := by
  obtain ⟨_, _, _⟩ := scope
  subst ended frames
  rfl

end OrScope

/-- Clauses are grouped by their and-parts alone. -/
theorem term_groups_related {alike : Clause → Clause → Prop}
    (part : ∀ first second, alike first second → second.andPart? = first.andPart?)
    {firsts seconds : List Clause} (each : List.Forall₂ alike firsts seconds) :
    List.Forall₂ (List.Forall₂ alike) (termGroups firsts) (termGroups seconds) := by
  induction each with
  | nil => exact .nil
  | @cons first second firsts seconds here _ ih =>
      rw [termGroups, termGroups]
      generalize termGroups firsts = groups at ih ⊢
      generalize termGroups seconds = others at ih ⊢
      cases ih with
      | nil => exact .cons (.cons here .nil) .nil
      | cons group later =>
          cases group with
          | nil => exact .cons (.cons here .nil) (.cons .nil later)
          | cons next more =>
              dsimp only
              rw [part _ _ here, part _ _ next]
              split_ifs
              · exact .cons (.cons here (.cons next more)) later
              · exact .cons (.cons here .nil) (.cons (.cons next more) later)

/-- A group of one clause is written as the clause, every other one in parentheses. -/
theorem group_text_related {related : String → String → Prop} {alike : Clause → Clause → Prop}
    {firsts seconds : List Clause} (each : List.Forall₂ alike firsts seconds)
    (texts : ∀ first second, alike first second → related first.sql second.sql)
    (enclosed : related ("(" ++ Clause.joined " and " firsts ++ ")")
      ("(" ++ Clause.joined " and " seconds ++ ")")) :
    related (groupText firsts) (groupText seconds) := by
  cases each with
  | nil => exact enclosed
  | cons first rest =>
      cases rest with
      | nil => exact texts _ _ first
      | cons second more => exact enclosed

theorem disjunction_related {related : String → String → Prop} {firsts seconds : List String}
    (each : List.Forall₂ related firsts seconds)
    (enclosed : related ("(" ++ Text.join " or " firsts ++ ")")
      ("(" ++ Text.join " or " seconds ++ ")")) :
    related (disjunction firsts) (disjunction seconds) := by
  cases each with
  | nil => exact enclosed
  | cons first rest =>
      cases rest with
      | nil => exact first
      | cons second more => exact enclosed

end SqlComposer.Condition
