import SqlComposer.Condition.Register
import SqlComposer.Proofs.Carrying
import SqlComposer.Proofs.Comparison
import SqlComposer.Proofs.Figures
import SqlComposer.Proofs.Gaps

/-!
Texts without number signs, and the literals and clauses made of them. A dialect may put dates
between number signs, so a literal is not such a text itself; but no mark of a gap starts in it, and
the first word of a clause stays free.
-/
namespace SqlComposer

open Condition (Clause Holder Key LikeOption Mode)
open Template (Unmarked WordFree)

def HashFree (text : String) : Prop := '#' ∉ text.toList

instance (text : String) : Decidable (HashFree text) :=
  inferInstanceAs (Decidable ('#' ∉ text.toList))

theorem HashFree.append {first second : String} (before : HashFree first)
    (after : HashFree second) : HashFree (first ++ second) := by
  rw [HashFree, String.toList_append, List.mem_append, not_or]
  exact ⟨before, after⟩

theorem HashFree.of_figures {text : String} (figures : Figures text) : HashFree text :=
  figures.not_mem (by decide)

/-- The characters of a fixed text are read off the text as it is given. -/
theorem hash_free_of_chars {chars : List Char} (absent : '#' ∉ chars) :
    HashFree (String.ofList chars) := by
  rw [HashFree, String.toList_ofList]
  exact absent

theorem HashFree.unmarked {text : String} (free : HashFree text) : Unmarked text.toList :=
  Template.unmarked_of_hashless free

/-- One text on both sides that has a property. -/
def Kept (property : String → Prop) (first second : String) : Prop :=
  second = first ∧ property first

/-- No mark of a gap starts in the text, and none that starts before it ends in its first word. -/
structure Clean (text : String) : Prop where
  unmarked : Unmarked text.toList
  free : WordFree text.toList

theorem HashFree.clean {text : String} (free : HashFree text) : Clean text :=
  ⟨free.unmarked, Template.word_free_of_hashless free⟩

theorem unmarked_behind {before after : String} (free : HashFree before)
    (unmarked : Unmarked after.toList) : Unmarked (before ++ after).toList := by
  rw [String.toList_append]
  exact unmarked.behind free

theorem unmarked_across {before between after : String} (first : Unmarked before.toList)
    (free : HashFree between) (breaks : Breaks between) (later : Unmarked after.toList) :
    Unmarked (before ++ between ++ after).toList := by
  have behind := unmarked_behind free later
  obtain ⟨c, closing, head⟩ := breaks
  obtain ⟨rest, shape⟩ := List.head?_eq_some_iff.mp head
  have apart : ∀ c ∈ [' ', ',', ')'], c ∉ Template.stem.tail := by
    simp only [List.forall_mem_cons, List.not_mem_nil, false_imp_iff, implies_true, and_true]
    decide
  rw [String.toList_append, shape, List.cons_append] at behind
  rw [String.append_assoc, String.toList_append, String.toList_append, shape, List.cons_append]
  exact first.append (apart c closing) behind

theorem unmarked_carries : Carries (Kept fun text => Unmarked text.toList) HashFree where
  fixed _ free := free
  append before after := before.append after
  same free := ⟨rfl, free.unmarked⟩
  behind := by
    rintro before first _ free ⟨rfl, unmarked⟩
    exact ⟨rfl, unmarked_behind free unmarked⟩
  across := by
    rintro first _ between third _ ⟨rfl, before⟩ free breaks ⟨rfl, after⟩
    exact ⟨rfl, unmarked_across before free breaks after⟩

theorem clean_carries : Carries (Kept Clean) HashFree where
  fixed _ free := free
  append before after := before.append after
  same free := ⟨rfl, free.clean⟩
  behind := by
    rintro before first _ free ⟨rfl, clean⟩
    refine ⟨rfl, unmarked_behind free clean.unmarked, ?_⟩
    rw [String.toList_append]
    exact free.clean.free.append clean.free
  across := by
    rintro first _ between third _ ⟨rfl, before⟩ free breaks ⟨rfl, after⟩
    refine ⟨rfl, unmarked_across before.unmarked free breaks after.unmarked, ?_⟩
    rw [String.toList_append, String.toList_append]
    exact (before.free.append free.clean.free).append after.free

/-- Behind a word without number signs and a space the rest need only hold no mark. -/
theorem clean_behind_word {word rest : String} (free : HashFree word)
    (unmarked : Unmarked rest.toList) : Clean (word ++ " " ++ rest) := by
  have spaced : HashFree (word ++ " ") := free.append (by decide)
  refine ⟨unmarked_behind spaced unmarked, ?_⟩
  rw [String.append_assoc, String.toList_append, String.toList_append]
  exact free.clean.free.append (Template.word_free_of_space rest.toList)

theorem hash_free_quoted {chars : List Char} (free : '#' ∉ chars) (dialect : Dialect) :
    '#' ∉ dialect.quotedChars chars := by
  have each : ∀ c ∈ chars, '#' ∉ dialect.quotedChar c := by
    intro c member
    have other : '#' ≠ c := fun same => free (same ▸ member)
    unfold Dialect.quotedChar
    split_ifs
    · decide
    · decide
    · simpa using other
  simpa [Dialect.quotedChars] using each

theorem hash_free_literal {text : String} (free : HashFree text) (dialect : Dialect) :
    HashFree (dialect.textLiteral text) := by
  rw [HashFree, Dialect.textLiteral, String.toList_ofList]
  exact hash_free_quoted free dialect

/-- No mark starts between the number signs of a date: there is no letter of one. -/
theorem unmarked_of_enclosed_figures {text : String} (figures : Figures text) :
    Unmarked ("#" ++ text ++ "#").toList := by
  intro present
  have letter : 'f' ∈ ("#" ++ text ++ "#").toList := present.mem (by decide)
  rw [String.toList_append, String.toList_append, List.mem_append, List.mem_append] at letter
  rcases letter with (opening | inside) | closing
  · exact absurd opening (by decide)
  · exact figures.not_mem (by decide) inside
  · exact absurd closing (by decide)

theorem hash_free_of_quoted_figures (word : String) (free : HashFree word) {text : String}
    (figures : Figures text) : HashFree (word ++ text ++ "'") :=
  (free.append (.of_figures figures)).append (by decide)

theorem unmarked_of_date (dialect : Dialect) (date : Date) :
    Unmarked (dialect.dateLiteral date).toList := by
  have figures := figures_of_date date
  cases dialect with
  | oracle => exact (hash_free_of_quoted_figures "date '" (by decide) figures).unmarked
  | msAccess => exact unmarked_of_enclosed_figures figures
  | _ => exact (hash_free_of_quoted_figures "'" (by decide) figures).unmarked

theorem unmarked_of_timestamp (dialect : Dialect) (moment : Timestamp) :
    Unmarked (dialect.timestampLiteral moment).toList := by
  have figures := figures_of_milliseconds moment
  cases dialect with
  | oracle => exact (hash_free_of_quoted_figures "timestamp '" (by decide) figures).unmarked
  | msAccess => exact unmarked_of_enclosed_figures (figures_of_seconds moment)
  | _ => exact (hash_free_of_quoted_figures "'" (by decide) figures).unmarked

mutual

/-- No text and no digits of a value hold a number sign. -/
def Value.HashFree : Value → Prop
  | .text value => SqlComposer.HashFree value
  | .decimal digits => SqlComposer.HashFree digits
  | .list elements => Value.AllHashFree elements
  | _ => True

def Value.AllHashFree : List Value → Prop
  | [] => True
  | value :: rest => Value.HashFree value ∧ Value.AllHashFree rest

end

theorem Value.all_hash_free_iff (values : List Value) :
    Value.AllHashFree values ↔ ∀ value ∈ values, value.HashFree := by
  induction values with
  | nil => simp [Value.AllHashFree]
  | cons value rest ih => simp [Value.AllHashFree, ih]

theorem Value.HashFree.elements {value : Value} (free : value.HashFree) :
    ∀ element ∈ value.effectiveElements, element.HashFree := by
  intro element member
  unfold Value.effectiveElements at member
  split at member
  · next elements =>
      have each := (Value.all_hash_free_iff elements).mp free
      exact each element (List.mem_filter.mp member).1
  · split_ifs at member
    · cases member
    · rw [List.mem_singleton.mp member]
      exact free

theorem unmarked_of_join {texts : List String}
    (each : ∀ text ∈ texts, Unmarked text.toList) : Unmarked (Text.join ", " texts).toList := by
  have related : List.Forall₂ (Kept fun text => Unmarked text.toList) texts texts :=
    List.forall₂_same.mpr fun text member => ⟨rfl, each text member⟩
  exact (unmarked_carries.join (by decide) (by decide) related).2

theorem unmarked_of_enclosed {text : String} (unmarked : Unmarked text.toList) :
    Unmarked ("(" ++ text ++ ")").toList :=
  (unmarked_carries.enclosed ⟨rfl, unmarked⟩).2

mutual

theorem unmarked_of_value (dialect : Dialect) (value : Value) (free : value.HashFree) :
    Unmarked (value.literal dialect).toList := by
  cases value with
  | null => exact (show SqlComposer.HashFree "null" by decide).unmarked
  | bool value =>
      have free : ∀ value, SqlComposer.HashFree (dialect.boolLiteral value) := by
        cases dialect <;> decide
      exact (free value).unmarked
  | int value => exact (HashFree.of_figures (figures_of_int value)).unmarked
  | decimal digits => exact HashFree.unmarked free
  | text value => exact (hash_free_literal free dialect).unmarked
  | date value => exact unmarked_of_date dialect value
  | timestamp value => exact unmarked_of_timestamp dialect value
  | list elements =>
      exact unmarked_of_enclosed (unmarked_of_join (unmarked_of_values dialect elements free))

theorem unmarked_of_values (dialect : Dialect) (values : List Value)
    (free : Value.AllHashFree values) :
    ∀ text ∈ Value.literals dialect values, Unmarked text.toList := by
  cases values with
  | nil => intro text member; cases member
  | cons value rest =>
      intro text member
      rcases List.mem_cons.mp member with rfl | later
      · exact unmarked_of_value dialect value free.1
      · exact unmarked_of_values dialect rest free.2 text later

end

/-- A like search with its options, folded to lower case or not. -/
theorem clean_pattern {operator column operand : String} (compares : HashFree operator)
    (named : HashFree column) (unmarked : Unmarked operand.toList) {option : LikeOption}
    (escape : HashFree option.escapeClause) :
    Clean (if option.ignoresCase then
        "lower(" ++ column ++ ") " ++ operator ++ " lower(" ++ operand ++ ")" ++ option.escapeClause
      else column ++ " " ++ operator ++ " " ++ operand ++ option.escapeClause) := by
  have nothing : Unmarked "".toList := (show HashFree "" by decide).unmarked
  split_ifs
  · have word : HashFree ("lower(" ++ column ++ ")") :=
      ((show HashFree "lower(" by decide).append named).append (by decide)
    have folded := unmarked_behind (compares.append (show HashFree " lower(" by decide)) unmarked
    have closed := unmarked_across folded (show HashFree ")" by decide) (by decide) escape.unmarked
    have behind := clean_behind_word word closed
    have split : (") " : String) = ")" ++ " " := by decide
    simpa only [split, String.append_assoc] using behind
  · have compared := unmarked_behind (compares.append (show HashFree " " by decide)) unmarked
    have breaks : Breaks option.escapeClause := by
      unfold LikeOption.escapeClause
      split_ifs
      · decide
      · refine ⟨' ', by decide, ?_⟩
        rw [String.toList_append, String.toList_append]
        rfl
    have closed := unmarked_across compared escape breaks nothing
    simpa only [String.append_assoc, String.append_empty] using clean_behind_word named closed

theorem clean_predicate (key : Key) {column operand : String} (named : HashFree column)
    (unmarked : Unmarked operand.toList) {option? : Option LikeOption}
    (escapes : ∀ option, option? = some option → option.escape ≠ '#') :
    Clean (key.predicate column operand option?) := by
  have operator : ∀ key : Key, HashFree key.operator := by
    intro key
    cases key <;> decide
  have plain : Clean (column ++ " " ++ key.operator ++ " " ++ operand) := by
    have behind := unmarked_behind ((operator key).append (show HashFree " " by decide)) unmarked
    simpa only [String.append_assoc] using clean_behind_word named behind
  cases key with
  | isNull | isNotNull =>
      exact ((named.append (by decide)).append (by decide)).clean
  | isNullOrEmpty =>
      have first := (show HashFree "(" by decide).append named
      have second := (first.append (show HashFree " is null or " by decide)).append named
      exact (second.append (show HashFree " = '')" by decide)).clean
  | likeSearch | notLikeSearch =>
      cases option? with
      | none => exact plain
      | some option =>
          have escape : HashFree option.escapeClause := by
            have other := escapes option rfl
            unfold LikeOption.escapeClause
            split_ifs
            · decide
            · refine (HashFree.append (by decide) ?_).append (by decide)
              simpa [HashFree] using Ne.symm other
          exact clean_pattern (operator _) named unmarked escape
  | equal | notEqual | greaterThan | greaterEqual | lessThan | lessEqual | inScope | notInScope =>
      exact plain

theorem hash_free_pattern {option : LikeOption} (escapes : option.escape ≠ '#') {text : String}
    (free : HashFree text) : HashFree (option.pattern text) := by
  have each : ∀ c ∈ text.toList, '#' ∉ option.escapedChar c := by
    intro c member
    have other : '#' ≠ c := fun same => free (same ▸ member)
    unfold LikeOption.escapedChar
    split_ifs
    · simpa using ⟨Ne.symm escapes, other⟩
    · simpa using other
  have ends : '#' ∉ option.mode.leading ∧ '#' ∉ option.mode.trailing := by
    cases option.mode <;> decide
  rw [HashFree, LikeOption.pattern, String.toList_ofList, LikeOption.patternChars]
  simpa [ends.1, ends.2] using each

/-- The values of one comparison, and the place that the holder binds them at. -/
structure Condition.Holder.HashFree (holder : Holder) (key : Key) : Prop where
  value : ∀ value, holder.value? key = some value → value.HashFree
  location : ∀ location, holder.binding = .bound location → SqlComposer.HashFree location

section

variable {column : ColumnRef} (named : HashFree column.text) {option? : Option LikeOption}
  (escapes : ∀ option, option? = some option → option.escape ≠ '#')

include named

theorem clean_list_clauses (key : Key) (mode : Mode) {value : Value} (free : value.HashFree) :
    ∀ clause ∈ key.listClauses mode column value, Clean clause.sql := by
  have parts : ∀ clause ∈ key.listParts mode column value, Clean clause.sql := by
    intro clause member
    obtain ⟨part, rfl, each⟩ := Condition.mem_list_parts member
    refine clean_predicate key named (unmarked_of_enclosed (unmarked_of_join ?_)) nofun
    intro text inside
    obtain ⟨element, known, rfl⟩ := each text inside
    exact unmarked_of_value mode.dialect element (free.elements element known)
  rcases Condition.list_clauses_cases key mode column value with
    same | ⟨connector, connects, same⟩
  · rw [same]
    exact parts
  · have fits : HashFree connector ∧ Breaks connector := by
      rcases connects with rfl | rfl <;> decide
    have each : List.Forall₂ (Alike (Kept Clean)) (key.listParts mode column value)
        (key.listParts mode column value) :=
      List.forall₂_same.mpr fun clause member => ⟨rfl, rfl, parts clause member⟩
    rw [same]
    intro clause member
    rw [List.mem_singleton.mp member]
    exact (clean_carries.enclosed (clean_carries.joined fits.1 fits.2 each)).2

include escapes

omit named in
theorem unmarked_of_operand (key : Key) (dialect : Dialect) {value : Value} {operand : String}
    (free : value.HashFree)
    (made : key.embeddedOperand dialect column value option? = .ok operand) :
    Unmarked operand.toList := by
  cases Condition.operand_of_accepted made with
  | literal _ => exact unmarked_of_value dialect value free
  | pattern given searched =>
      have pattern := hash_free_pattern (escapes _ given) free
      exact (hash_free_literal pattern dialect).unmarked

/-- Every clause of a comparison is clean, whatever the mode. -/
theorem clean_clauses (key : Key) (mode : Mode) {holder : Holder} (free : holder.HashFree key)
    {clauses : List Clause} (made : key.clauses mode column holder option? = .ok clauses) :
    ∀ clause ∈ clauses, Clean clause.sql := by
  have single : ∀ operand option?, Unmarked operand.toList →
      (∀ option, option? = some option → option.escape ≠ '#') →
      ∀ clause ∈ [Clause.bound column key operand option?], Clean clause.sql := by
    intro operand option? unmarked escapes clause member
    rw [List.mem_singleton.mp member]
    exact clean_predicate key named unmarked escapes
  cases Condition.compared_of_accepted made with
  | valueless _ =>
      exact single "" none (show HashFree "" by decide).unmarked fun _ absent => by cases absent
  | ignored _ _ _ => exact List.forall_mem_nil _
  | comment _ _ _ bound =>
      have location := free.location _ (Condition.location_eq_some_iff.mp bound)
      have place := (show HashFree "/*pmb." by decide).append location
      have name : HashFree key.name := by cases key <;> decide
      have stands : HashFree key.placeholder := by cases key <;> decide
      have whole := ((place.append (show HashFree "." by decide)).append name).append
        (show HashFree "*/" by decide)
      exact single _ option? (whole.append stands).unmarked escapes
  | list _ held _ _ => exact clean_list_clauses named key mode (free.value _ held)
  | operand _ _ held _ _ written =>
      have unmarked := unmarked_of_operand escapes key mode.dialect (free.value _ held) written
      exact single _ option? unmarked escapes

end

end SqlComposer
