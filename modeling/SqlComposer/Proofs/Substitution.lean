import SqlComposer.Join.FixedCondition
import SqlComposer.Proofs.Replacement

/-!
The text of a fixed condition with the tables named and its parameters put in, one step after
another: a text without a slash is kept, and a reference gives the literal of its parameter.
-/
namespace SqlComposer.FixedCondition

variable {condition : String} {scope : Scope}

theorem replace_of_absent {text mark : String} (absent : ¬ mark.toList <:+: text.toList)
    (replacement : String) : Text.replace text mark replacement = text := by
  rw [Text.replace, Text.replace_chars_of_absent absent, String.ofList_toList]

/-- Without two dollar signs in a row no table is named. -/
theorem name_tables_of_plain (plain : Text.hasMark ['$', '$'] condition.toList = false)
    (scope : Scope) : nameTables scope condition = condition := by
  have absent : ∀ mark : String, ['$', '$'] <+: mark.toList →
      ¬ mark.toList <:+: condition.toList := by
    intro mark starts present
    have found := Text.has_mark_iff.mpr (starts.isInfix.trans present)
    rw [plain] at found
    cases found
  rw [nameTables, replace_of_absent (absent _ ⟨"foreignAlias$$".toList, by decide⟩),
    replace_of_absent (absent _ ⟨"alias$$".toList, by decide⟩),
    replace_of_absent (absent _ ⟨"localAlias$$".toList, by decide⟩)]

theorem reference_of_other {c : Char} (other : c ≠ '/') (chars : List Char) :
    reference? (c :: chars) = none := by
  have unmarked : Text.afterMark? ['/', '*', '$'] (c :: chars) = none := by
    simp [Text.afterMark?, other.symm]
  rw [reference?, unmarked]

theorem substitute_other {c : Char} (other : c ≠ '/') (chars : List Char) :
    substitute condition scope (c :: chars) =
      (substitute condition scope chars).map (c :: ·) := by
  rw [substitute]
  split
  · next name after found =>
      rw [reference_of_other other] at found
      cases found
  · rfl

theorem substitute_behind {before : List Char} (free : '/' ∉ before) (chars : List Char) :
    substitute condition scope (before ++ chars) =
      (substitute condition scope chars).map (before ++ ·) := by
  induction before with
  | nil =>
      rw [List.nil_append]
      cases substitute condition scope chars <;> rfl
  | cons c before ih =>
      rw [List.mem_cons, not_or] at free
      rw [List.cons_append, substitute_other (Ne.symm free.1), ih free.2]
      cases substitute condition scope chars <;> rfl

/-- What becomes of a reference depends on the parameter that it names. -/
theorem substitute_of_reference {chars name after : List Char}
    (found : reference? chars = some (name, after)) :
    substitute condition scope chars =
      match scope.parameters.find? (String.ofList name) with
      | some value =>
          (substitute condition scope after).map ((value.literal scope.dialect).toList ++ ·)
      | none => .error (.illegalArgument (.unknownParameter (String.ofList name) condition)) := by
  cases chars with
  | nil => cases found
  | cons c chars =>
      rw [substitute]
      split
      · next other rest again =>
          obtain ⟨rfl, rfl⟩ := Prod.mk.inj (Option.some.inj (again.symm.trans found))
          cases scope.parameters.find? (String.ofList _) <;> rfl
      · next none =>
          rw [found] at none
          cases none

theorem substitute_reference {chars name after : List Char} {value : Value}
    (found : reference? chars = some (name, after))
    (known : scope.parameters.find? (String.ofList name) = some value) :
    substitute condition scope chars =
      (substitute condition scope after).map ((value.literal scope.dialect).toList ++ ·) := by
  rw [substitute_of_reference found, known]

end SqlComposer.FixedCondition
