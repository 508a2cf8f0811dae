import SqlComposer.Dialect.Literal
import SqlComposer.Proofs.Affixes
import SqlComposer.Proofs.Replacement

/-!
A text with one literal in place of another. No mark has a quote in it, so none goes over the quotes
of a literal; when neither literal holds a mark, marks are found, closed and replaced in the same
places on both sides.
-/
namespace SqlComposer

open SubQuery (Silent closeAt? prepend)
open Text (afterMark? afterMark?_eq_some_iff cutAt? hasMark replaceChars)

/-- Texts that are the same but for some literals, which are of one value on the left and of another
one on the right. -/
inductive Exchanged (old new : String) : List Char → List Char → Prop where
  | same (chars : List Char) : Exchanged old new chars chars
  | literal (before : List Char) (dialect : Dialect) {rest other : List Char}
      (later : Exchanged old new rest other) :
      Exchanged old new (before ++ (dialect.quotedChars old.toList ++ rest))
        (before ++ (dialect.quotedChars new.toList ++ other))

namespace Exchanged

variable {old new : String} {first second third fourth : List Char}

theorem symm (exchanged : Exchanged old new first second) : Exchanged new old second first := by
  induction exchanged with
  | same chars => exact .same chars
  | literal before dialect _ ih => exact .literal before dialect ih

theorem behind (before : List Char) (exchanged : Exchanged old new first second) :
    Exchanged old new (before ++ first) (before ++ second) := by
  cases exchanged with
  | same chars => exact .same _
  | literal inner dialect later =>
      have longer := Exchanged.literal (before ++ inner) dialect later
      rwa [List.append_assoc, List.append_assoc] at longer

theorem append (exchanged : Exchanged old new first second)
    (later : Exchanged old new third fourth) :
    Exchanged old new (first ++ third) (second ++ fourth) := by
  induction exchanged with
  | same chars => exact later.behind chars
  | literal before dialect _ ih =>
      have whole := Exchanged.literal before dialect ih
      simpa only [List.append_assoc] using whole

end Exchanged

/-- A mark without quotes and backslashes, the two characters that are doubled in a literal. -/
structure IsPlainMark (mark : List Char) : Prop where
  filled : mark ≠ []
  quoteless : '\'' ∉ mark
  slashless : '\\' ∉ mark

theorem prefix_of_quoted {dialect : Dialect} {mark chars : List Char} (quoteless : '\'' ∉ mark)
    (slashless : '\\' ∉ mark) (present : mark <+: chars.flatMap dialect.quotedChar) :
    mark <+: chars := by
  induction chars generalizing mark with
  | nil => exact present
  | cons c rest ih =>
      cases mark with
      | nil => exact List.nil_prefix
      | cons m mark =>
          rw [List.mem_cons, not_or] at quoteless slashless
          rw [List.flatMap_cons, Dialect.quotedChar] at present
          split_ifs at present
          · exact absurd (List.cons_prefix_cons.mp present).1.symm quoteless.1
          · exact absurd (List.cons_prefix_cons.mp present).1.symm slashless.1
          · obtain ⟨same, later⟩ := List.cons_prefix_cons.mp present
            exact List.cons_prefix_cons.mpr ⟨same, ih quoteless.2 slashless.2 later⟩

section

variable {mark : List Char} (plain : IsPlainMark mark)

include plain

theorem no_prefix_of_quote (chars : List Char) : ¬ mark <+: '\'' :: chars := by
  intro present
  obtain ⟨c, later, rfl⟩ := List.exists_cons_of_ne_nil plain.filled
  obtain ⟨rfl, _⟩ := List.cons_prefix_cons.mp present
  exact plain.quoteless List.mem_cons_self

theorem no_prefix_of_slash (chars : List Char) : ¬ mark <+: '\\' :: chars := by
  intro present
  obtain ⟨c, later, rfl⟩ := List.exists_cons_of_ne_nil plain.filled
  obtain ⟨rfl, _⟩ := List.cons_prefix_cons.mp present
  exact plain.slashless List.mem_cons_self

/-- Doubling quotes and backslashes makes no mark. -/
theorem absent_in_quoted (dialect : Dialect) {chars : List Char} (absent : ¬ mark <:+: chars) :
    ¬ mark <:+: chars.flatMap dialect.quotedChar := by
  intro present
  refine absent ?_
  clear absent
  induction chars with
  | nil => exact present
  | cons c rest ih =>
      have starts := @prefix_of_quoted dialect mark (c :: rest) plain.quoteless plain.slashless
      rw [List.flatMap_cons, Dialect.quotedChar] at present starts
      split_ifs at present starts
      · have later := (List.infix_cons_iff.mp present).resolve_left (no_prefix_of_quote plain _)
        have rest := (List.infix_cons_iff.mp later).resolve_left (no_prefix_of_quote plain _)
        exact (ih rest).trans (List.suffix_cons _ _).isInfix
      · have later := (List.infix_cons_iff.mp present).resolve_left (no_prefix_of_slash plain _)
        have rest := (List.infix_cons_iff.mp later).resolve_left (no_prefix_of_slash plain _)
        exact (ih rest).trans (List.suffix_cons _ _).isInfix
      · rcases List.infix_cons_iff.mp present with here | later
        · exact (starts here).isInfix
        · exact (ih later).trans (List.suffix_cons _ _).isInfix

theorem after_mark_of_quote (chars : List Char) : afterMark? mark ('\'' :: chars) = none := by
  by_contra found
  exact no_prefix_of_quote plain chars (Text.after_mark_ne_none_iff.mp found)

/-- Before a quote no mark starts that is not there as a whole. -/
theorem silent_before_quote {chars : List Char} (absent : ¬ mark <:+: chars) (tail : List Char) :
    Silent mark ('\'' :: tail) chars := by
  have apart : '\'' ∉ mark.tail := fun member => plain.quoteless (List.mem_of_mem_tail member)
  induction chars with
  | nil => trivial
  | cons c rest ih =>
      rw [List.infix_cons_iff, not_or] at absent
      refine ⟨?_, ih absent.2⟩
      by_contra found
      exact absent.1 (Text.prefix_before apart (List.cons_ne_nil _ _)
        (Text.after_mark_ne_none_iff.mp found))

/-- In a literal and over its ends no mark starts that is not in the value. -/
theorem silent_literal (dialect : Dialect) {chars : List Char} (absent : ¬ mark <:+: chars)
    (tail : List Char) : Silent mark tail (dialect.quotedChars chars) := by
  have inside := silent_before_quote plain (absent_in_quoted plain dialect absent) tail
  refine ⟨after_mark_of_quote plain _, SubQuery.silent_append inside ?_⟩
  exact ⟨after_mark_of_quote plain _, trivial⟩

theorem replace_around_literal (before replacement : List Char) (dialect : Dialect)
    {chars : List Char} (absent : ¬ mark <:+: chars) (rest : List Char) :
    replaceChars mark replacement (before ++ (dialect.quotedChars chars ++ rest)) =
      replaceChars mark replacement before ++
        (dialect.quotedChars chars ++ replaceChars mark replacement rest) := by
  have apart : '\'' ∉ mark.tail := fun member => plain.quoteless (List.mem_of_mem_tail member)
  have value := absent_in_quoted plain dialect absent
  have around := @Text.replace_chars_append mark replacement plain.filled _ apart
  have quote := fun later =>
    @Text.replace_chars_cons mark replacement _ _ (after_mark_of_quote plain later)
  have inner : replaceChars mark replacement (dialect.quotedChars chars ++ rest) =
      dialect.quotedChars chars ++ replaceChars mark replacement rest := by
    rw [Dialect.quotedChars, List.cons_append, List.append_assoc, List.singleton_append, quote,
      around, Text.replace_chars_of_absent value, quote]
    simp
  rw [← inner]
  exact around before _

/-- The first occurrence of a mark is before a literal or behind it. -/
theorem cut_behind_literal {before : List Char} (none : cutAt? mark before = none)
    (dialect : Dialect) {chars : List Char} (absent : ¬ mark <:+: chars) (rest : List Char) :
    cutAt? mark (before ++ (dialect.quotedChars chars ++ rest)) =
      prepend before (prepend (dialect.quotedChars chars) (cutAt? mark rest)) := by
  have unmarked : ¬ mark <:+: before := by
    rw [← Text.has_mark_iff, hasMark, none]
    exact Bool.false_ne_true
  have passed := SubQuery.cut_at_behind (silent_literal plain dialect absent rest)
  exact (SubQuery.cut_at_behind (silent_before_quote plain unmarked _)).trans
    (congrArg (prepend before) passed)

end

/-- A mark without quotes that is in neither of two values. -/
structure IsUnread (old new : String) (mark : List Char) : Prop extends IsPlainMark mark where
  old : ¬ mark <:+: old.toList
  new : ¬ mark <:+: new.toList

/-- Two texts cut at the same place, or not cut at all. -/
abbrev CutsExchanged (old new : String) :
    Option (List Char × List Char) → Option (List Char × List Char) → Prop :=
  Option.Rel fun cut other => Exchanged old new cut.1 other.1 ∧ Exchanged old new cut.2 other.2

section

variable {old new : String} {first second : List Char}

theorem cuts_exchanged_refl (cut? : Option (List Char × List Char)) :
    CutsExchanged old new cut? cut? := by
  cases cut? with
  | none => exact .none
  | some cut => exact .some ⟨.same _, .same _⟩

theorem cuts_exchanged_prepend {before other : List Char}
    {cut? cutOther? : Option (List Char × List Char)} (starts : Exchanged old new before other)
    (cuts : CutsExchanged old new cut? cutOther?) :
    CutsExchanged old new (prepend before cut?) (prepend other cutOther?) := by
  cases cuts with
  | none => exact .none
  | some pieces => exact .some ⟨starts.append pieces.1, pieces.2⟩

namespace Exchanged

theorem literals (dialect : Dialect) :
    Exchanged old new (dialect.quotedChars old.toList) (dialect.quotedChars new.toList) := by
  have nothing : Exchanged old new [] [] := .same []
  simpa using Exchanged.literal [] dialect nothing

section

variable {mark : List Char} (unread : IsUnread old new mark)

include unread

theorem replaced (replacement : List Char) (exchanged : Exchanged old new first second) :
    Exchanged old new (replaceChars mark replacement first)
      (replaceChars mark replacement second) := by
  induction exchanged with
  | same chars => exact .same _
  | literal before dialect _ ih =>
      rw [replace_around_literal unread.toIsPlainMark before _ dialect unread.old,
        replace_around_literal unread.toIsPlainMark before _ dialect unread.new]
      exact .literal _ dialect ih

theorem cut (exchanged : Exchanged old new first second) :
    CutsExchanged old new (cutAt? mark first) (cutAt? mark second) := by
  induction exchanged with
  | same chars => exact cuts_exchanged_refl _
  | literal before dialect later ih =>
      cases found : cutAt? mark before with
      | some cut =>
          obtain ⟨start, inside⟩ := cut
          rw [SubQuery.cut_at_append _ found, SubQuery.cut_at_append _ found]
          exact .some ⟨.same start, .literal inside dialect later⟩
      | none =>
          rw [cut_behind_literal unread.toIsPlainMark found dialect unread.old,
            cut_behind_literal unread.toIsPlainMark found dialect unread.new]
          exact cuts_exchanged_prepend (.same before) (cuts_exchanged_prepend (literals dialect) ih)

theorem has_mark (exchanged : Exchanged old new first second) :
    hasMark mark second = hasMark mark first := by
  have cuts := exchanged.cut unread
  unfold hasMark
  generalize cutAt? mark first = cut at cuts ⊢
  generalize cutAt? mark second = other at cuts ⊢
  cases cuts <;> rfl

end

end Exchanged

end

end SqlComposer
