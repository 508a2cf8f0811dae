import SqlComposer.Proofs.Marks
import SqlComposer.Template
import Mathlib.Data.List.Infix
import Mathlib.Tactic.SplitIfs

/-!
Replacing a mark piece by piece. Where a text can be cut at a character that no mark goes over, the
mark is replaced on either side on its own, and a text in which the mark does not occur stays as it
is.
-/
namespace SqlComposer.Text

variable {mark replacement : List Char}

theorem replace_chars_nil : replaceChars mark replacement [] = [] := rfl

theorem replace_skipped (before after : List Char) :
    replaceFrom mark replacement before.length (before ++ after) =
      replaceChars mark replacement after := by
  induction before with
  | nil => rfl
  | cons c rest ih => exact ih

/-- An occurrence at the start gives way to the replacement. -/
theorem replace_chars_mark (filled : mark ≠ []) (rest : List Char) :
    replaceChars mark replacement (mark ++ rest) =
      replacement ++ replaceChars mark replacement rest := by
  obtain ⟨first, later, rfl⟩ := List.exists_cons_of_ne_nil filled
  have here : afterMark? (first :: later) (first :: (later ++ rest)) = some rest :=
    afterMark?_eq_some_iff.mpr rfl
  rw [replaceChars, List.cons_append, replaceFrom, here]
  exact congrArg (replacement ++ ·) (replace_skipped later rest)

theorem replace_chars_cons {c : Char} {chars : List Char}
    (absent : afterMark? mark (c :: chars) = none) :
    replaceChars mark replacement (c :: chars) = c :: replaceChars mark replacement chars := by
  rw [replaceChars, replaceFrom, absent]
  rfl

theorem after_mark_ne_none_iff {chars : List Char} :
    afterMark? mark chars ≠ none ↔ mark <+: chars := by
  rw [Option.ne_none_iff_exists']
  simp only [afterMark?_eq_some_iff]
  exact ⟨fun ⟨rest, shape⟩ => ⟨rest, shape.symm⟩, fun ⟨rest, shape⟩ => ⟨rest, shape.symm⟩⟩

theorem has_mark_iff {chars : List Char} : hasMark mark chars = true ↔ mark <:+: chars := by
  rw [hasMark]
  induction chars with
  | nil =>
      rw [cutAt?, Option.isSome_map, Option.isSome_iff_ne_none, after_mark_ne_none_iff]
      simp
  | cons c chars ih =>
      rw [List.infix_cons_iff, cutAt?]
      cases here : afterMark? mark (c :: chars) with
      | some rest => simp [after_mark_ne_none_iff.mp (by rw [here]; simp)]
      | none =>
          have missing : ¬ mark <+: c :: chars := fun present =>
            after_mark_ne_none_iff.mpr present here
          simp [missing, ih]

/-- A text without the mark stays as it is. -/
theorem replace_chars_of_absent {chars : List Char} (absent : ¬ mark <:+: chars) :
    replaceChars mark replacement chars = chars := by
  induction chars with
  | nil => rfl
  | cons c chars ih =>
      rw [List.infix_cons_iff, not_or] at absent
      have here : afterMark? mark (c :: chars) = none := by
        by_contra present
        exact absent.1 (after_mark_ne_none_iff.mp present)
      rw [replace_chars_cons here, ih absent.2]

/-- An occurrence that starts before a character which only ever begins the mark ends before it. -/
theorem prefix_before {c : Char} {before after : List Char} (apart : c ∉ mark.tail)
    (some : before ≠ []) (present : mark <+: before ++ c :: after) : mark <+: before := by
  obtain ⟨rest, shape⟩ := present
  rcases List.append_eq_append_iff.mp shape with ⟨excess, whole, _⟩ | ⟨excess, whole, behind⟩
  · exact ⟨excess, whole.symm⟩
  · cases excess with
    | nil => exact ⟨[], by rw [List.append_nil, whole, List.append_nil]⟩
    | cons other excess =>
        obtain ⟨rfl, _⟩ := List.cons.inj behind
        obtain ⟨first, later, rfl⟩ := List.exists_cons_of_ne_nil some
        rw [whole] at apart
        simp at apart

theorem infix_apart {c : Char} {before after : List Char} (apart : c ∉ mark.tail)
    (present : mark <:+: before ++ c :: after) : mark <:+: before ∨ mark <:+: c :: after := by
  induction before with
  | nil => exact .inr present
  | cons first rest ih =>
      rcases List.infix_cons_iff.mp present with starts | later
      · exact .inl (prefix_before apart (List.cons_ne_nil _ _) starts).isInfix
      · exact (ih later).imp_left List.infix_cons

/-- Before a character that no occurrence goes over, the mark is replaced on its own. -/
theorem replace_chars_append (filled : mark ≠ []) {c : Char} (apart : c ∉ mark.tail)
    (before after : List Char) :
    replaceChars mark replacement (before ++ c :: after) =
      replaceChars mark replacement before ++ replaceChars mark replacement (c :: after) := by
  induction size : before.length using Nat.strong_induction_on generalizing before with
  | _ bound ih =>
      cases before with
      | nil => rfl
      | cons first rest =>
          by_cases present : mark <+: first :: rest
          · obtain ⟨later, shape⟩ := present
            have shorter : later.length < bound := by
              have some := List.length_pos_of_ne_nil filled
              rw [← size, ← shape, List.length_append]
              omega
            rw [← shape, List.append_assoc, replace_chars_mark filled, replace_chars_mark filled,
              ih _ shorter _ rfl, List.append_assoc]
          · have here : afterMark? mark (first :: rest) = none := by
              by_contra found
              exact present (after_mark_ne_none_iff.mp found)
            have across : afterMark? mark (first :: (rest ++ c :: after)) = none := by
              by_contra found
              exact present (prefix_before apart (List.cons_ne_nil _ _)
                (after_mark_ne_none_iff.mp found))
            have shorter : rest.length < bound := by
              rw [← size, List.length_cons]
              omega
            rw [List.cons_append, replace_chars_cons across, replace_chars_cons here,
              ih _ shorter _ rfl, List.cons_append]

end SqlComposer.Text
