import SqlComposer.Proofs.OrScope
import SqlComposer.Proofs.Refusals
import SqlComposer.Condition.Register

/-!
Membership of a column in a list, and what is left of it when the list is split. A condition is
true, false or unknown. Being in the whole list is being in any of its parts, and not being in it is
not being in all of them.
-/
namespace SqlComposer.Condition

/-- The truth of conditions joined by `or`: true when one of them is, else unknown when one is. -/
def anyTruth (truths : List (Option Bool)) : Option Bool :=
  if some true ∈ truths then some true else if none ∈ truths then none else some false

def allTruth (truths : List (Option Bool)) : Option Bool :=
  if some false ∈ truths then some false else if none ∈ truths then none else some true

theorem truth_ext {first second : Option Bool} (holds : first = some true ↔ second = some true)
    (fails : first = some false ↔ second = some false) : first = second := by
  rcases first with _ | _ | _ <;> rcases second with _ | _ | _ <;> simp_all

/-- Truths are alike when none of them is the other one or unknown. -/
theorem all_truths_iff (truths : List (Option Bool)) (value : Bool) :
    (∀ truth ∈ truths, truth = some value) ↔ some (!value) ∉ truths ∧ none ∉ truths := by
  constructor
  · intro each
    refine ⟨fun other => ?_, fun unknown => nomatch each _ unknown⟩
    have same := Option.some.inj (each _ other)
    cases value <;> cases same
  · rintro ⟨other, unknown⟩ truth member
    rcases truth with _ | _ | _ <;> cases value <;>
      first | rfl | exact absurd member unknown | exact absurd member other

theorem any_truth_holds_iff (truths : List (Option Bool)) :
    anyTruth truths = some true ↔ some true ∈ truths := by
  unfold anyTruth
  split_ifs <;> simp_all

theorem any_truth_fails_iff (truths : List (Option Bool)) :
    anyTruth truths = some false ↔ ∀ truth ∈ truths, truth = some false := by
  rw [all_truths_iff, anyTruth, Bool.not_false]
  split_ifs with holds unknown <;> simp [*]

theorem all_truth_fails_iff (truths : List (Option Bool)) :
    allTruth truths = some false ↔ some false ∈ truths := by
  unfold allTruth
  split_ifs <;> simp_all

theorem all_truth_holds_iff (truths : List (Option Bool)) :
    allTruth truths = some true ↔ ∀ truth ∈ truths, truth = some true := by
  rw [all_truths_iff, allTruth, Bool.not_true]
  split_ifs with fails unknown <;> simp [*]

theorem negated_eq_some_iff (truth : Option Bool) (value : Bool) :
    truth.map not = some value ↔ truth = some !value := by
  rcases truth with _ | _ | _ <;> cases value <;> decide

/-- A test of a column against a list of literals: whether it is one of them, or whether it is none
of them. -/
structure ListTest where
  key : Key
  literals : List String

namespace ListTest

def clause (column : ColumnRef) (test : ListTest) : Clause :=
  .bound column test.key ("(" ++ Text.join ", " test.literals ++ ")") none

/-- The truth of a test for a column of which it is known what literals it equals. -/
def truth (equals : String → Option Bool) (test : ListTest) : Option Bool :=
  let included := anyTruth (test.literals.map equals)
  if test.key = .notInScope then included.map not else included

end ListTest

/-- A condition on a column made of tests against lists. -/
inductive ListCondition where
  | test (own : ListTest)
  | any (tests : List ListTest)
  | all (tests : List ListTest)

namespace ListCondition

def clause (column : ColumnRef) : ListCondition → Clause
  | .test own => own.clause column
  | .any tests =>
      .text ("(" ++ Clause.joined " or " (tests.map (ListTest.clause column)) ++ ")")
  | .all tests =>
      .text ("(" ++ Clause.joined " and " (tests.map (ListTest.clause column)) ++ ")")

def truth (equals : String → Option Bool) : ListCondition → Option Bool
  | .test own => own.truth equals
  | .any tests => anyTruth (tests.map (ListTest.truth equals))
  | .all tests => allTruth (tests.map (ListTest.truth equals))

end ListCondition

/-- Membership in any of the parts is membership in the list. -/
theorem any_part_included (equals : String → Option Bool) (parts : List (List String)) :
    anyTruth (parts.map fun part => anyTruth (part.map equals)) =
      anyTruth (parts.flatten.map equals) := by
  refine truth_ext ?_ ?_
  · simp only [any_truth_holds_iff, List.mem_map, List.mem_flatten]
    constructor
    · rintro ⟨part, member, holds⟩
      obtain ⟨literal, listed, same⟩ := holds
      exact ⟨literal, ⟨part, member, listed⟩, same⟩
    · rintro ⟨literal, ⟨part, member, listed⟩, same⟩
      exact ⟨part, member, literal, listed, same⟩
  · simp only [any_truth_fails_iff, List.forall_mem_map, List.mem_flatten]
    exact ⟨fun each literal ⟨part, member, listed⟩ => each part member literal listed,
      fun each part member literal listed => each literal ⟨part, member, listed⟩⟩

/-- To be in none of the parts is not to be in the list. -/
theorem all_parts_excluded (equals : String → Option Bool) (parts : List (List String)) :
    allTruth (parts.map fun part => (anyTruth (part.map equals)).map not) =
      (anyTruth (parts.flatten.map equals)).map not := by
  rw [← any_part_included]
  refine truth_ext ?_ ?_
  · rw [all_truth_holds_iff, negated_eq_some_iff, Bool.not_true, any_truth_fails_iff,
      List.forall_mem_map, List.forall_mem_map]
    simp only [negated_eq_some_iff, Bool.not_true]
  · rw [all_truth_fails_iff, negated_eq_some_iff, Bool.not_false, any_truth_holds_iff,
      List.mem_map, List.mem_map]
    simp only [negated_eq_some_iff, Bool.not_false]

/-- The conditions that a test of a list becomes when the list comes in parts: the test itself, one
condition of all the parts, or one test for each part as terms of an or-scope. -/
inductive Split (key : Key) (asTerms : Prop) (parts : List (List String)) :
    List ListCondition → Prop where
  | whole {part : List String} (single : parts = [part]) :
      Split key asTerms parts [.test ⟨key, part⟩]
  | any (included : key = .inScope) (joined : ¬ asTerms) :
      Split key asTerms parts [.any (parts.map (ListTest.mk key))]
  | all (excluded : key = .notInScope) :
      Split key asTerms parts [.all (parts.map (ListTest.mk key))]
  | terms (included : key = .inScope) (separate : asTerms) :
      Split key asTerms parts (parts.map fun part => .test ⟨key, part⟩)

theorem Split.some_condition {key : Key} {asTerms : Prop} {parts : List (List String)}
    {conditions : List ListCondition} (split : Split key asTerms parts conditions)
    (some_part : parts ≠ []) : conditions ≠ [] := by
  cases split with
  | whole | any | all => exact List.cons_ne_nil _ _
  | terms => simpa using some_part

/-- Whatever is known of a column, the conditions joined by `or` tell whether it passes the test of
the whole list. -/
theorem Split.truth {key : Key} {asTerms : Prop} {parts : List (List String)}
    {conditions : List ListCondition} (split : Split key asTerms parts conditions)
    (equals : String → Option Bool) :
    anyTruth (conditions.map (ListCondition.truth equals)) =
      ListTest.truth equals ⟨key, parts.flatten⟩ := by
  have alone : ∀ truth, anyTruth [truth] = truth := by
    rintro (_ | _ | _) <;> rfl
  cases split with
  | whole single =>
      rw [List.map_singleton, alone, single, List.flatten_singleton]
      rfl
  | any included =>
      rw [List.map_singleton, alone, included]
      simpa [ListCondition.truth, ListTest.truth, Function.comp_def] using
        any_part_included equals parts
  | all excluded =>
      rw [List.map_singleton, alone, excluded]
      simpa [ListCondition.truth, ListTest.truth, Function.comp_def] using
        all_parts_excluded equals parts
  | terms included =>
      rw [included]
      simpa [ListCondition.truth, ListTest.truth, Function.comp_def] using
        any_part_included equals parts

theorem chunks_bounded {α : Type} {size : Nat} (positive : 0 < size) (values : List α) :
    ∀ chunk ∈ chunks size values, chunk ≠ [] ∧ chunk.length ≤ size := by
  fun_induction chunks size values with
  | case1 => exact List.forall_mem_nil _
  | case2 value rest ih =>
      rw [List.forall_mem_cons]
      refine ⟨⟨List.cons_ne_nil _ _, ?_⟩, ih⟩
      rw [List.length_cons, List.length_take]
      omega

/-- A list that is no longer than a part may be is not split. -/
theorem chunks_of_short {α : Type} {size : Nat} {values : List α} (some_value : values ≠ [])
    (short : values.length ≤ size) : chunks size values = [values] := by
  cases values with
  | nil => exact absurd rfl some_value
  | cons value rest =>
      rw [List.length_cons] at short
      rw [chunks, List.take_of_length_le (by omega), List.drop_of_length_le (by omega), chunks]

/-- The largest number of literals in one list, if there is one. -/
def Mode.limit? (mode : Mode) : Option Nat := mode.listLimit?.filter (0 < ·)

theorem list_size_of_limit {mode : Mode} {limit : Nat} (limited : mode.limit? = some limit)
    (count : Nat) : 0 < limit ∧ mode.listSize count = limit := by
  obtain ⟨known, positive⟩ := Option.filter_eq_some_iff.mp limited
  rw [decide_eq_true_eq] at positive
  obtain ⟨less, rfl⟩ := Nat.exists_eq_succ_of_ne_zero (Nat.ne_of_gt positive)
  exact ⟨positive, by rw [Mode.listSize, known]⟩

theorem list_size_of_no_limit {mode : Mode} (unlimited : mode.limit? = none) (count : Nat) :
    mode.listSize count = max count 1 := by
  unfold Mode.listSize
  split
  · next limit known => simp [Mode.limit?, known] at unlimited
  · rfl

/-- Literals in parts that are not empty and not longer than a limit. -/
structure Partition (limit? : Option Nat) (literals : List String) (parts : List (List String)) :
    Prop where
  whole : parts.flatten = literals
  filled : ∀ part ∈ parts, part ≠ []
  bounded : ∀ limit, limit? = some limit → ∀ part ∈ parts, part.length ≤ limit
  single : (∀ limit, limit? = some limit → literals.length ≤ limit) → parts = [literals]

theorem partition_of_chunks (mode : Mode) {literals : List String} (some_literal : literals ≠ []) :
    Partition mode.limit? literals (chunks (mode.listSize literals.length) literals) := by
  have positive : 0 < mode.listSize literals.length := by
    cases limited : mode.limit? with
    | none => rw [list_size_of_no_limit limited]; omega
    | some limit =>
        obtain ⟨positive, size⟩ := list_size_of_limit limited literals.length
        omega
  have bounded := chunks_bounded positive literals
  refine ⟨flatten_chunks _ _, fun part member => (bounded part member).1,
    fun limit limited part member => ?_, fun short => chunks_of_short some_literal ?_⟩
  · rw [← (list_size_of_limit limited literals.length).2]
    exact (bounded part member).2
  · cases limited : mode.limit? with
    | none => rw [list_size_of_no_limit limited]; omega
    | some limit =>
        rw [(list_size_of_limit limited literals.length).2]
        exact short limit limited

/-- The clauses of a list comparison with a value that has elements: they split its list, and only
in an or-scope and outside an and-part they are terms of their own. -/
theorem list_clauses_split {key : Key} (listed : key.isList = true) (mode : Mode)
    (column : ColumnRef) {value : Value} (filled : value.isEmpty = false) :
    ∃ parts conditions,
      Partition mode.limit? (value.effectiveElements.map (Value.literal mode.dialect)) parts ∧
      Split key (mode.inOrScope = true ∧ mode.inAndPart = false) parts conditions ∧
      key.listClauses mode column value = conditions.map (ListCondition.clause column) := by
  have some_literal : value.effectiveElements.map (Value.literal mode.dialect) ≠ [] := by
    rw [ne_eq, List.map_eq_nil_iff, Value.effectiveElements_eq_nil_iff, filled]
    exact Bool.false_ne_true
  unfold Key.listClauses
  dsimp only
  generalize value.effectiveElements.map (Value.literal mode.dialect) = literals at *
  have partition := partition_of_chunks mode some_literal
  generalize chunks (mode.listSize literals.length) literals = parts at *
  have tests : (parts.map fun part => Clause.bound column key ("(" ++ Text.join ", " part ++ ")")
      none) = (parts.map (ListTest.mk key)).map (ListTest.clause column) := by
    rw [List.map_map]
    rfl
  rw [tests]
  split_ifs with terms included
  · rw [List.length_map, List.length_map] at terms
    rcases terms with single | ⟨included, scope, outside⟩
    · obtain ⟨part, rfl⟩ := List.length_eq_one_iff.mp single
      exact ⟨_, _, partition, .whole rfl, rfl⟩
    · refine ⟨_, _, partition, .terms included ⟨scope, by simpa using outside⟩, ?_⟩
      rw [List.map_map, List.map_map]
      rfl
  · rw [not_or] at terms
    refine ⟨_, _, partition, .any included fun ⟨scope, outside⟩ => ?_, rfl⟩
    exact terms.2 ⟨included, scope, by simp [outside]⟩
  · have excluded : key = .notInScope := by
      cases key with
      | inScope => exact absurd rfl included
      | notInScope => rfl
      | _ => cases listed
    exact ⟨_, _, partition, .all excluded, rfl⟩

end SqlComposer.Condition
