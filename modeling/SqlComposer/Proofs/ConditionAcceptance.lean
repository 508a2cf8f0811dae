import SqlComposer.Proofs.Comparison
import SqlComposer.Proofs.ListComparison

/-!
Which comparisons are accepted. A comparison is refused for a like option that it does not take, for
a value that is missing where values are checked, and for an embedded value of the wrong kind; there
are no other reasons. Only the value held for the comparison itself counts.
-/
namespace SqlComposer

/-- Values that stand for nothing: null, the empty text and lists of nothing else. -/
inductive Value.Hollow : Value → Prop where
  | null : Hollow .null
  | text : Hollow (.text "")
  | list {elements : List Value} (each : ∀ element ∈ elements, Hollow element) :
      Hollow (.list elements)

namespace Value

mutual

theorem hollow_of_is_empty : (value : Value) → value.isEmpty = true → value.Hollow
  | .null, _ => .null
  | .text content, empty => by
      have nothing : content = "" := by simpa [isEmpty] using empty
      rw [nothing]
      exact .text
  | .list elements, empty => .list (each_hollow_of_all_empty elements empty)
  | .bool _, empty | .int _, empty | .decimal _, empty | .date _, empty | .timestamp _, empty => by
      cases empty

theorem each_hollow_of_all_empty :
    (elements : List Value) → allEmpty elements = true → ∀ element ∈ elements, element.Hollow
  | [], _, _, member => by cases member
  | first :: rest, empty, element, member => by
      rw [allEmpty, Bool.and_eq_true] at empty
      rcases List.mem_cons.mp member with here | later
      · rw [here]
        exact hollow_of_is_empty first empty.1
      · exact each_hollow_of_all_empty rest empty.2 element later

end

theorem hollow_iff (value : Value) : value.Hollow ↔ value.isEmpty = true := by
  constructor
  · intro hollow
    induction hollow with
    | null | text => rfl
    | list _ ih =>
        rw [isEmpty, allEmpty_eq_all, List.all_eq_true]
        exact ih
  · exact hollow_of_is_empty value

end Value

namespace Condition

/-- The holder has no value for a comparison, or one that stands for nothing. -/
def Holder.Lacks (holder : Holder) (key : Key) : Prop :=
  ∀ value, holder.value? key = some value → value.Hollow

/-- The reasons to refuse a comparison, each with the error that names the comparison and its
column. -/
inductive Refuses (mode : Mode) (column : ColumnRef) (key : Key) (holder : Holder)
    (option? : Option LikeOption) : ClauseError → Prop where
  | optionWithoutLike (given : option?.isSome = true) (other : key.isLike = false) :
      Refuses mode column key holder option?
        (.illegalArgument (.optionWithoutLike key column.text))
  | missingValue (needed : key.needsValue = true) (lacks : holder.Lacks key)
      (checked : mode.refusesEmpty = true) :
      Refuses mode column key holder option? (.illegalArgument (.missingValue key column.text))
  | listValue (needed : key.needsValue = true) (embedded : holder.binding = .embedded)
      {elements : List Value} (held : holder.value? key = some (.list elements))
      (filled : ¬ (Value.list elements).Hollow) (single : key.isList = false)
      (other : key.isLike = false) :
      Refuses mode column key holder option? (.illegalArgument (.listValue key column.text))
  | patternNotText (embedded : holder.binding = .embedded) {value : Value}
      (held : holder.value? key = some value) (filled : ¬ value.Hollow)
      (pattern : key.isLike = true) (other : ∀ text, value ≠ .text text) :
      Refuses mode column key holder option? (.illegalArgument (.patternNotText key column.text))

section

variable {mode : Mode} {column : ColumnRef} {key : Key} {holder : Holder}
  {option? : Option LikeOption}

theorem lacks_iff :
    holder.Lacks key ↔ ∀ value, holder.value? key = some value → value.isEmpty = true := by
  simp only [Holder.Lacks, Value.hollow_iff]

theorem filled_iff {value : Value} : ¬ value.Hollow ↔ value.isEmpty = false := by
  rw [Value.hollow_iff, Bool.not_eq_true]

theorem needs_value_of_is_like (pattern : key.isLike = true) : key.needsValue = true := by
  cases key with
  | likeSearch | notLikeSearch => rfl
  | _ => cases pattern

theorem list_clauses_ne_nil {value : Value} (filled : ¬ value.Hollow) :
    key.listClauses mode column value ≠ [] := by
  have elements : value.effectiveElements ≠ [] := by
    rw [ne_eq, Value.effectiveElements_eq_nil_iff, ← Value.hollow_iff]
    exact filled
  unfold Key.listClauses
  intro none
  dsimp only at none
  split_ifs at none
  rw [List.map_eq_nil_iff] at none
  have whole := flatten_chunks
    (mode.listSize (value.effectiveElements.map (Value.literal mode.dialect)).length)
    (value.effectiveElements.map (Value.literal mode.dialect))
  rw [none, List.flatten_nil, eq_comm, List.map_eq_nil_iff] at whole
  exact elements whole

/-- An operand is refused exactly for a pattern that is no text and for a list that nothing takes.
-/
theorem embedded_operand_error_iff {dialect : Dialect} {value : Value} {refusal : ClauseError} :
    key.embeddedOperand dialect column value option? = .error refusal ↔
      (key.isLike = true ∧ (∀ text, value ≠ .text text) ∧
        refusal = .illegalArgument (.patternNotText key column.text)) ∨
      (key.isLike = false ∧ (∃ elements, value = .list elements) ∧
        refusal = .illegalArgument (.listValue key column.text)) := by
  cases pattern : key.isLike with
  | true =>
      cases value with
      | text content => cases option? <;> simp [Key.embeddedOperand, pattern]
      | _ => simp [Key.embeddedOperand, pattern, eq_comm]
  | false => cases value <;> simp [Key.embeddedOperand, pattern, eq_comm]

theorem not_refuses (fits : option?.isSome = true → key.isLike = true)
    (unchecked : key.needsValue = true → holder.Lacks key → mode.refusesEmpty = false)
    (operand : key.needsValue = true → key.isList = false → holder.binding = .embedded →
      ∀ value, holder.value? key = some value → ¬ value.Hollow →
        ∀ refusal, key.embeddedOperand mode.dialect column value option? ≠ .error refusal)
    (refusal : ClauseError) : ¬ Refuses mode column key holder option? refusal := by
  intro refuses
  cases refuses with
  | optionWithoutLike given other =>
      rw [fits given] at other
      cases other
  | missingValue needed lacks checked =>
      rw [unchecked needed lacks] at checked
      cases checked
  | listValue needed embedded held filled single other =>
      apply operand needed single embedded _ held filled _
      exact embedded_operand_error_iff.mpr (.inr ⟨other, ⟨_, rfl⟩, rfl⟩)
  | patternNotText embedded held filled pattern other =>
      apply operand (needs_value_of_is_like pattern) (not_is_list_of_is_like pattern) embedded _
        held filled _
      exact embedded_operand_error_iff.mpr (.inl ⟨pattern, other, rfl⟩)

/-- What can come of a comparison. -/
inductive Answer (mode : Mode) (column : ColumnRef) (key : Key) (holder : Holder)
    (option? : Option LikeOption) : Except ClauseError (List Clause) → Prop where
  | refused {refusal : ClauseError} (reason : Refuses mode column key holder option? refusal) :
      Answer mode column key holder option? (.error refusal)
  | ignored (accepted : ∀ refusal, ¬ Refuses mode column key holder option? refusal)
      (needed : key.needsValue = true) (lacks : holder.Lacks key) :
      Answer mode column key holder option? (.ok [])
  | made (accepted : ∀ refusal, ¬ Refuses mode column key holder option? refusal)
      (given : key.needsValue = true → ¬ holder.Lacks key) {clauses : List Clause}
      (some_clause : clauses ≠ []) :
      Answer mode column key holder option? (.ok clauses)

theorem answer_of_held (fits : option?.isSome = true → key.isLike = true)
    (needed : key.needsValue = true) {value : Value} (held : holder.value? key = some value)
    (filled : ¬ value.Hollow) :
    Answer mode column key holder option? (key.clauses mode column holder option?) := by
  have given : ¬ holder.Lacks key := fun lacks => filled (lacks value held)
  have checks : key.needsValue = true → holder.Lacks key → mode.refusesEmpty = false :=
    fun _ lacks => absurd lacks given
  have full : value.isEmpty = false := filled_iff.mp filled
  cases binding : holder.binding with
  | bound location =>
      rw [clauses_of_bound mode column fits needed held full binding]
      apply Answer.made _ (fun _ => given) (List.cons_ne_nil _ _)
      apply not_refuses fits checks
      intro _ _ embedded
      rw [binding] at embedded
      cases embedded
  | embedded =>
      cases listed : key.isList with
      | true =>
          rw [clauses_of_list mode column fits listed held full binding]
          apply Answer.made _ (fun _ => given) (list_clauses_ne_nil filled)
          apply not_refuses fits checks
          intro _ single
          rw [listed] at single
          cases single
      | false =>
          rw [Key.clauses_of_embedded needed listed fits mode column binding held full]
          cases operand : key.embeddedOperand mode.dialect column value option? with
          | error refusal =>
              apply Answer.refused
              rcases embedded_operand_error_iff.mp operand with
                ⟨pattern, other, rfl⟩ | ⟨other, ⟨_, rfl⟩, rfl⟩
              · exact .patternNotText binding held filled pattern other
              · exact .listValue needed binding held filled listed other
          | ok text =>
              apply Answer.made _ (fun _ => given) (List.cons_ne_nil _ _)
              apply not_refuses fits checks
              intro _ _ _ other same _ refusal refused
              rw [held] at same
              cases same
              rw [operand] at refused
              cases refused

theorem clauses_answer :
    Answer mode column key holder option? (key.clauses mode column holder option?) := by
  by_cases fits : option?.isSome = true → key.isLike = true
  · cases needed : key.needsValue with
    | false =>
        rw [clauses_of_needless fits needed]
        apply Answer.made _ (by simp [needed]) (List.cons_ne_nil _ _)
        apply not_refuses fits (by simp [needed])
        simp [needed]
    | true =>
        by_cases lacks : holder.Lacks key
        · rw [clauses_of_nothing fits needed (lacks_iff.mp lacks)]
          cases checked : mode.refusesEmpty with
          | true => exact .refused (.missingValue needed lacks checked)
          | false =>
              apply Answer.ignored _ needed lacks
              apply not_refuses fits fun _ _ => checked
              intro _ _ _ value held filled
              exact absurd (lacks value held) filled
        · have some_value : ∃ value, holder.value? key = some value ∧ ¬ value.Hollow := by
            simpa [Holder.Lacks] using lacks
          rcases some_value with ⟨value, held, filled⟩
          exact answer_of_held fits needed held filled
  · have unfit : option?.isSome = true ∧ key.isLike = false := by simpa using fits
    rw [clauses_of_unfit unfit.1 unfit.2]
    exact .refused (.optionWithoutLike unfit.1 unfit.2)

theorem clauses_depend_on_own_value {other : Holder} (binding : other.binding = holder.binding)
    (own : other.value? key = holder.value? key) :
    key.clauses mode column other option? = key.clauses mode column holder option? := by
  rw [Key.clauses, Key.clauses, own, binding]

end
end Condition

namespace Statement

open Condition

theorem compare_refused {statement : Statement} {target : Target} {column : ColumnRef} {key : Key}
    {holder : Holder} {option? : Option LikeOption}
    (allowed : statement.purpose.forbids .condition = false) {refusal : ClauseError}
    (refused : key.clauses statement.conditionMode column holder option? = .error refusal) :
    (compare target column key holder option?).outcome statement = (.error refusal, statement) := by
  rw [compare_outcome allowed, refused]

theorem compare_appends {statement : Statement} {target : Target} {column : ColumnRef} {key : Key}
    {holder : Holder} {option? : Option LikeOption}
    (allowed : statement.purpose.forbids .condition = false)
    (there : statement.HasTarget target) {clauses : List Clause}
    (made : key.clauses statement.conditionMode column holder option? = .ok clauses) :
    ∃ after, (compare target column key holder option?).outcome statement = (.ok (), after) ∧
      statement.Appends target clauses after := by
  have all_there : ∀ entry ∈ clauses.map fun clause => (target, clause),
      statement.HasTarget entry.1 := by
    intro entry member
    rcases List.mem_map.mp member with ⟨clause, _, rfl⟩
    exact there
  rcases register_clauses_completes _ statement all_there with ⟨_, after, ran, recorded⟩
  rw [compare_outcome allowed, made]
  exact ⟨after, ran, recorded.appends⟩

/-- Comparisons are refused for the reasons of `Refuses` and for nothing else, and then what is held
for a list stays. An accepted one puts its clauses behind what is held; there are none exactly when
it has no value to compare with. -/
theorem comparison_acceptance (column : ColumnRef) (key : Key) (holder : Holder)
    (option? : Option LikeOption) :
    (∀ mode : Mode,
      ((∃ refusal, key.clauses mode column holder option? = .error refusal) ↔
        ∃ refusal, Refuses mode column key holder option? refusal) ∧
      (∀ refusal, key.clauses mode column holder option? = .error refusal →
        Refuses mode column key holder option? refusal) ∧
      (∀ clauses, key.clauses mode column holder option? = .ok clauses →
        (clauses = [] ↔ key.needsValue = true ∧ holder.Lacks key)) ∧
      ∀ other : Holder, other.binding = holder.binding → other.value? key = holder.value? key →
        key.clauses mode column other option? = key.clauses mode column holder option?) ∧
    ∀ (statement : Statement) (target : Target),
      statement.purpose.forbids .condition = false → statement.HasTarget target →
        (∀ refusal, key.clauses statement.conditionMode column holder option? = .error refusal →
          (compare target column key holder option?).outcome statement =
            (.error refusal, statement)) ∧
        ∀ clauses, key.clauses statement.conditionMode column holder option? = .ok clauses →
          ∃ after, (compare target column key holder option?).outcome statement = (.ok (), after) ∧
            statement.Appends target clauses after := by
  constructor
  · intro mode
    have answer : Answer mode column key holder option?
        (key.clauses mode column holder option?) := clauses_answer
    constructor
    · constructor
      · intro refused
        rcases refused with ⟨refusal, refused⟩
        rw [refused] at answer
        cases answer with
        | refused reason => exact ⟨refusal, reason⟩
      · intro refuses
        rcases refuses with ⟨refusal, reason⟩
        cases result : key.clauses mode column holder option? with
        | error first => exact ⟨first, rfl⟩
        | ok clauses =>
            rw [result] at answer
            cases answer with
            | ignored accepted | made accepted => exact absurd reason (accepted refusal)
    constructor
    · intro refusal refused
      rw [refused] at answer
      cases answer with
      | refused reason => exact reason
    constructor
    · intro clauses made
      rw [made] at answer
      cases answer with
      | ignored _ needed lacks => exact ⟨fun _ => ⟨needed, lacks⟩, fun _ => rfl⟩
      | made _ given some_clause =>
          exact ⟨fun none => absurd none some_clause, fun both => absurd both.2 (given both.1)⟩
    · intro other binding own
      exact clauses_depend_on_own_value binding own
  · intro statement target allowed there
    exact ⟨fun refusal refused => compare_refused allowed refused,
      fun clauses made => compare_appends allowed there made⟩

/-- A list that is held for a search and for a test for null. -/
def heldList : Holder :=
  (({} : Holder).set .likeSearch (.list [.int 1])).set .isNull (.list [.int 1])

theorem list_no_pattern :
    (compare .main (.unqualified ⟨"NAME"⟩) .likeSearch heldList none).outcome newMember =
      (.error (.illegalArgument (.patternNotText .likeSearch "NAME")), newMember) :=
  ((comparison_acceptance (.unqualified ⟨"NAME"⟩) .likeSearch heldList none).2 newMember .main
    rfl trivial).1 _ rfl

/-- The tests for null take no value, so that a list held for one is not looked at. -/
theorem held_list_not_always_refused :
    ¬ ∀ (mode : Mode) (column : ColumnRef) (key : Key) (holder : Holder) (elements : List Value),
      holder.binding = .embedded → holder.value? key = some (.list elements) →
        ¬ (Value.list elements).Hollow → key.isList = false → key.isLike = false →
          ∃ refusal, key.clauses mode column holder none = .error refusal := by
  intro always
  have filled : ¬ (Value.list [.int 1]).Hollow := by
    rw [Value.hollow_iff]
    decide
  have refused := always newMember.conditionMode (.unqualified ⟨"NAME"⟩) .isNull heldList [.int 1]
    rfl rfl filled rfl rfl
  rcases refused with ⟨refusal, refused⟩
  cases refused

end Statement
end SqlComposer
