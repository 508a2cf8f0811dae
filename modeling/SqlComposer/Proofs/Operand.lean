import SqlComposer.Condition.Register
import SqlComposer.Proofs.Figures
import SqlComposer.Proofs.Stripping

/-!
Operands of conditions in the removal of a qualifier. Every literal, whatever text it quotes, and
every bind comment comes out as it went in.
-/
namespace SqlComposer.Statement

open Condition (Key LikeOption)

/-- Characters that neither quote nor start an alias of a base table. -/
def isInert (c : Char) : Bool := c != 'd' && c != 's' && c != '\''

def Inert (chars : List Char) : Prop := ∀ c ∈ chars, isInert c = true

instance (chars : List Char) : Decidable (Inert chars) := List.decidableBAll _ chars

theorem quiet_of_inert {chars : List Char} (inert : Inert chars) :
    isQuiet chars = true := by
  fun_induction isQuiet chars with
  | case1 => rfl
  | case2 c => exact inert c (by simp)
  | case3 c d rest ih =>
      have first := inert c (by simp)
      have later := ih fun e member => inert e (List.mem_cons_of_mem _ member)
      simp only [isInert, Bool.and_eq_true, bne_iff_ne] at first
      simp [first, later]

theorem inert_of_figures {text : String} (figures : Figures text) : Inert text.toList := by
  intro c member
  have others : ∀ letter : Char, isFigure letter = false → (c != letter) = true := by
    intro letter other
    rw [bne_iff_ne]
    rintro rfl
    exact figures.not_mem other member
  simp [isInert, others 'd' (by decide), others 's' (by decide), others '\'' (by decide)]

/-- A decimal is written with digits, a point and a sign. -/
theorem mem_of_unsigned {chars : List Char} (read : Value.isUnsignedDecimal chars = true) :
    ∀ c ∈ chars, Text.isDecimalDigit c = true ∨ c ∈ ['.', '+', '-'] := by
  intro c member
  rw [← List.takeWhile_append_dropWhile (p := Text.isDecimalDigit) (l := chars)] at member
  rcases List.mem_append.mp member with whole | rest
  · exact .inl (List.all_eq_true.mp List.all_takeWhile c whole)
  · simp only [Value.isUnsignedDecimal, Bool.and_eq_true] at read
    cases shape : chars.dropWhile Text.isDecimalDigit with
    | nil => rw [shape] at rest; cases rest
    | cons point fraction =>
        rw [shape] at rest read
        simp only [Bool.and_eq_true, beq_iff_eq, List.all_eq_true] at read
        rcases List.mem_cons.mp rest with rfl | digit
        · rw [read.2.1.1]
          exact .inr (by decide)
        · exact .inl (read.2.2 c digit)

theorem mem_of_decimal {chars : List Char} (read : Value.isDecimal chars = true) :
    ∀ c ∈ chars, Text.isDecimalDigit c = true ∨ c ∈ ['.', '+', '-'] := by
  have signed : ∀ sign digits, sign ∈ ['.', '+', '-'] → Value.isUnsignedDecimal digits = true →
      ∀ c ∈ sign :: digits, Text.isDecimalDigit c = true ∨ c ∈ ['.', '+', '-'] := by
    intro sign digits known read c member
    rcases List.mem_cons.mp member with rfl | digit
    · exact .inr known
    · exact mem_of_unsigned read c digit
  unfold Value.isDecimal at read
  split at read
  · exact signed _ _ (by decide) read
  · exact signed _ _ (by decide) read
  · exact mem_of_unsigned read

/-- A character of no decimal. -/
theorem not_mem_of_decimal {chars : List Char} (read : Value.isDecimal chars = true) {c : Char}
    (other : Text.isDecimalDigit c = false ∧ c ∉ ['.', '+', '-']) : c ∉ chars := by
  intro member
  rcases mem_of_decimal read c member with digit | sign
  · rw [digit] at other
    cases other.1
  · exact other.2 sign

theorem inert_of_decimal {chars : List Char} (read : Value.isDecimal chars = true) :
    Inert chars := by
  intro c member
  have others : ∀ letter : Char, Text.isDecimalDigit letter = false ∧ letter ∉ ['.', '+', '-'] →
      (c != letter) = true := by
    intro letter other
    rw [bne_iff_ne]
    rintro rfl
    exact not_mem_of_decimal read other member
  simp [isInert, others 'd' (by decide), others 's' (by decide), others '\'' (by decide)]

theorem inert_append {first : String} (left : Inert first.toList)
    (second : String) (right : Inert second.toList) : Inert (first ++ second).toList := by
  intro c member
  rw [String.toList_append, List.mem_append] at member
  exact member.elim (left c) (right c)

theorem quoteless_of_inert {chars : List Char} (inert : Inert chars) :
    '\'' ∉ chars := by
  intro member
  have contradiction := inert _ member
  revert contradiction
  decide

/-- What stands between quotes is not looked at, whatever it is. -/
theorem verbatim_of_quoted (name inner : List Char)
    (quoteless : '\'' ∉ inner) : Verbatim name ('\'' :: (inner ++ ['\''])) := by
  intro last? tail _
  have last : lastAfter last? ('\'' :: (inner ++ ['\''])) = some '\'' :=
    last_after_append (some '\'') inner ['\'']
  rw [last, List.cons_append, strip_quote, List.append_assoc, Bool.not_false,
    strip_inside_quotes quoteless, List.cons_append, List.nil_append, strip_quote]
  simp

/-- A doubled quote closes the quoted part and opens it again, with nothing in between. -/
theorem strip_quoted_chars (dialect : Dialect) (chars qualifier tail : List Char)
    (last? : Option Char) :
    stripFrom qualifier last? true 0 (chars.flatMap dialect.quotedChar ++ '\'' :: tail) =
      chars.flatMap dialect.quotedChar ++ '\'' :: stripFrom qualifier (some '\'') false 0 tail := by
  induction chars generalizing last? with
  | nil => exact strip_quote qualifier tail last? true
  | cons c chars ih =>
      rw [List.flatMap_cons, List.append_assoc, List.append_assoc]
      by_cases quote : c = '\''
      · have doubled : dialect.quotedChar c = ['\'', '\''] := if_pos quote
        rw [doubled, List.cons_append, List.cons_append, List.nil_append, strip_quote, strip_quote,
          Bool.not_true, Bool.not_false, ih]
        rfl
      · have plain : '\'' ∉ dialect.quotedChar c := by
          rw [Dialect.quotedChar, if_neg quote]
          split_ifs
          · decide
          · simpa using Ne.symm quote
        rw [strip_inside_quotes plain, ih]

theorem verbatim_of_literal (name : List Char) (dialect : Dialect) (chars : List Char) :
    Verbatim name (dialect.quotedChars chars) := by
  intro last? tail _
  have last : lastAfter last? (dialect.quotedChars chars) = some '\'' :=
    last_after_append (some '\'') (chars.flatMap dialect.quotedChar) ['\'']
  rw [last, Dialect.quotedChars, List.cons_append, strip_quote, List.append_assoc, Bool.not_false,
    List.cons_append, List.nil_append, strip_quoted_chars]
  simp

section

variable {name : List Char} (base : BaseName name) (dialect : Dialect)

include base

theorem verbatim_of_inert {text : List Char} (inert : Inert text) :
    Verbatim name text := verbatim_of_quiet base (quiet_of_inert inert)

theorem verbatim_of_inert_quoted (fixed : String) (quiet : isQuiet fixed.toList = true)
    {text : String} (inert : Inert text.toList) :
    Verbatim name (fixed ++ "'" ++ text ++ "'").toList := by
  have quoted := verbatim_of_quoted name text.toList (quoteless_of_inert inert)
  simpa using Rewrites.after_quiet base _ quiet quoted

theorem verbatim_of_date (date : Date) : Verbatim name (dialect.dateLiteral date).toList := by
  have inert := inert_of_figures (figures_of_date date)
  have plain := verbatim_of_inert_quoted base "" rfl inert
  rw [String.empty_append] at plain
  cases dialect with
  | oracle => exact verbatim_of_inert_quoted base "date " (by decide) inert
  | msAccess =>
      exact verbatim_of_inert base
        (inert_append (inert_append (by decide) _ inert) _ (by decide))
  | _ => exact plain

theorem verbatim_of_timestamp (moment : Timestamp) :
    Verbatim name (dialect.timestampLiteral moment).toList := by
  have inert := inert_of_figures (figures_of_milliseconds moment)
  have plain := verbatim_of_inert_quoted base "" rfl inert
  rw [String.empty_append] at plain
  cases dialect with
  | oracle => exact verbatim_of_inert_quoted base "timestamp " (by decide) inert
  | msAccess =>
      have seconds := inert_of_figures (figures_of_seconds moment)
      exact verbatim_of_inert base
        (inert_append (inert_append (by decide) _ seconds) _ (by decide))
  | _ => exact plain

theorem verbatim_of_bool (value : Bool) : Verbatim name (dialect.boolLiteral value).toList := by
  refine verbatim_of_quiet base ?_
  cases dialect <;> cases value <;> decide

/-- Separators that nothing in a name can run into keep verbatim texts verbatim. -/
theorem verbatim_of_join (separator : String) (quiet : isQuiet separator.toList = true)
    (apart : EndsName separator.toList) (filled : separator.toList ≠ []) {texts : List String}
    (each : ∀ text ∈ texts, Verbatim name text.toList) :
    Verbatim name (Text.join separator texts).toList := by
  fun_induction Text.join separator texts with
  | case1 => exact verbatim_of_quiet base rfl
  | case2 text => exact each text (by simp)
  | case3 text rest more ih =>
      have first := each text (by simp)
      have later := ih fun other member => each other (List.mem_cons_of_mem _ member)
      have behind := Rewrites.after_quiet base _ quiet later
      rw [String.append_assoc, String.toList_append, String.toList_append]
      exact first.append behind (ends_name_of_filled filled apart)

end

mutual

/-- Whether every decimal in a value is the digits of one, which its making has checked. -/
def HasDecimals : Value → Prop
  | .decimal digits => Value.isDecimal digits.toList = true
  | .list elements => AllHaveDecimals elements
  | _ => True

def AllHaveDecimals : List Value → Prop
  | [] => True
  | value :: rest => HasDecimals value ∧ AllHaveDecimals rest

end

theorem all_have_decimals_iff (values : List Value) :
    AllHaveDecimals values ↔ ∀ value ∈ values, HasDecimals value := by
  induction values with
  | nil => simp [AllHaveDecimals]
  | cons value rest ih => simp [AllHaveDecimals, ih]

theorem elements_have_decimals {value : Value} (sound : HasDecimals value) :
    ∀ element ∈ value.effectiveElements, HasDecimals element := by
  intro element member
  unfold Value.effectiveElements at member
  split at member
  · next elements =>
      have each := (all_have_decimals_iff elements).mp sound
      exact each element (List.mem_filter.mp member).1
  · split_ifs at member
    · cases member
    · rw [List.mem_singleton.mp member]
      exact sound

mutual

theorem verbatim_of_value {name : List Char} (base : BaseName name) (dialect : Dialect)
    (value : Value) (sound : HasDecimals value) :
    Verbatim name (value.literal dialect).toList := by
  cases value with
  | null => exact verbatim_of_quiet base (show isQuiet "null".toList = true by decide)
  | bool value => exact verbatim_of_bool base dialect value
  | int value => exact verbatim_of_inert base (inert_of_figures (figures_of_int value))
  | decimal digits => exact verbatim_of_inert base (inert_of_decimal sound)
  | text value =>
      rw [Value.literal, Dialect.textLiteral, String.toList_ofList]
      exact verbatim_of_literal name dialect value.toList
  | date value => exact verbatim_of_date base dialect value
  | timestamp value => exact verbatim_of_timestamp base dialect value
  | list elements =>
      have each := verbatim_of_values base dialect elements sound
      have inner := verbatim_of_join base ", " (by decide) (by decide) (by decide)
        each
      have closing : Verbatim name [')'] := verbatim_of_quiet base (by decide)
      have closed := inner.append closing (by decide)
      rw [Value.literal, String.append_assoc, String.toList_append, String.toList_append]
      exact Rewrites.after_quiet base _ (by decide) closed

theorem verbatim_of_values {name : List Char} (base : BaseName name) (dialect : Dialect)
    (values : List Value) (sound : AllHaveDecimals values) :
    ∀ text ∈ Value.literals dialect values, Verbatim name text.toList := by
  cases values with
  | nil => intro text member; cases member
  | cons value rest =>
      intro text member
      rcases List.mem_cons.mp member with rfl | later
      · exact verbatim_of_value base dialect value sound.1
      · exact verbatim_of_values base dialect rest sound.2 text later

end

/-- The comment of a bound value, whose location does not name the alias. -/
theorem verbatim_of_bind_comment {name : List Char} (base : BaseName name) (key : Key)
    {location : String}
    (absent : Text.hasMark name location.toList = false) (quoteless : '\'' ∉ location.toList)
    {dummy : String} (verbatim : Verbatim name dummy.toList) :
    Verbatim name (key.bindComment location ++ dummy).toList := by
  have quiet : isQuiet ("." ++ key.name ++ "*/").toList = true := by cases key <;> decide
  have ends : EndsName ("." ++ key.name ++ "*/").toList := by simp [EndsName]; decide
  have closing := Rewrites.after_quiet base _ quiet verbatim
  have place := (verbatim_of_name base absent quoteless).append closing
    (ends_name_of_filled (by simp) ends)
  have whole := Rewrites.after_quiet base "/*pmb.".toList (by decide) place
  simpa [Key.bindComment] using whole

end SqlComposer.Statement
