import SqlComposer.Dialect.Literal
import SqlComposer.Toml.Scalar
import Mathlib.Data.List.Forall2
import Mathlib.Data.String.Basic

/-!
The order of days and moments in their literals. A literal writes numbers of fixed widths from the
largest unit to the smallest, so texts compare like the numbers in them. Of a moment, what is
smaller than the last unit written is cut off, and a leap second is written as the sixtieth.
-/
namespace SqlComposer

/-- Behind beginnings of one length, what follows counts only when the beginnings are the same. -/
theorem append_lt_append_iff {first second rest other : List Char}
    (same : first.length = second.length) :
    first ++ rest < second ++ other ↔ first < second ∨ first = second ∧ rest < other := by
  induction first generalizing second with
  | nil =>
      obtain rfl := List.eq_nil_of_length_eq_zero same.symm
      simp
  | cons c first ih =>
      cases second with
      | nil => cases same
      | cons d second =>
          have shorter : first.length = second.length := Nat.succ.inj same
          rw [List.cons_append, List.cons_append, List.cons_lt_cons_iff, List.cons_lt_cons_iff,
            ih shorter, List.cons.injEq]
          tauto

/-- What compares alike both ways is also equal alike. -/
theorem eq_iff_of_lt_iff {α β : Type} [LinearOrder α] [LinearOrder β] {first second : α}
    {left right : β} (before : first < second ↔ left < right)
    (behind : second < first ↔ right < left) : first = second ↔ left = right := by
  rw [le_antisymm_iff, le_antisymm_iff, ← not_lt, ← not_lt, ← not_lt, ← not_lt, before, behind]

theorem digit_lt_iff : ∀ first < 10, ∀ second < 10,
    ([Char.ofNat (48 + first)] < [Char.ofNat (48 + second)] ↔ first < second) := by
  decide

/-- Digits of one width compare like the numbers that they stand for. -/
theorem last_digits_lt_iff {width first second : Nat} (fits : first < 10 ^ width)
    (otherFits : second < 10 ^ width) :
    lastDigits width first < lastDigits width second ↔ first < second := by
  -- The digits before the last one are those of the tenth, which has one digit less.
  induction width generalizing first second with
  | zero =>
      simp only [lastDigits, List.lt_irrefl, false_iff]
      omega
  | succ width ih =>
      have upper : first / 10 < 10 ^ width := by omega
      have otherUpper : second / 10 < 10 ^ width := by omega
      have lengths : (lastDigits width (first / 10)).length =
          (lastDigits width (second / 10)).length := by
        rw [length_lastDigits, length_lastDigits]
      have same := eq_iff_of_lt_iff (ih upper otherUpper) (ih otherUpper upper)
      have last := digit_lt_iff (first % 10) (Nat.mod_lt _ (by decide)) (second % 10)
        (Nat.mod_lt _ (by decide))
      rw [lastDigits, lastDigits, append_lt_append_iff lengths, ih upper otherUpper, same, last]
      omega

/-- A number as it is written in a text: what stands before it, and its width. -/
structure NumberField where
  before : String
  width : Nat

/-- Numbers written one after another in fields, and a text behind the last one. -/
def writeFields (closing : String) : List NumberField → List Nat → String
  | field :: fields, number :: numbers =>
    field.before ++ zeroPadded field.width number ++ writeFields closing fields numbers
  | _, _ => closing

def FitFields : List NumberField → List Nat → Prop :=
  List.Forall₂ fun field number => number < 10 ^ field.width

theorem padded_chars {width number : Nat} (fits : number < 10 ^ width) :
    (zeroPadded width number).toList = lastDigits width number := by
  have narrow : number < Nat.pow 10 width := fits
  rw [zeroPadded, if_pos narrow, String.toList_ofList]

section

variable {closing : String} {fields : List NumberField} {numbers others : List Nat}

theorem write_fields_chars {field : NumberField} {number : Nat}
    (fits : number < 10 ^ field.width) :
    (writeFields closing (field :: fields) (number :: numbers)).toList =
      (field.before.toList ++ lastDigits field.width number) ++
        (writeFields closing fields numbers).toList := by
  rw [writeFields, String.toList_append, String.toList_append, padded_chars fits]

theorem field_lengths {field : NumberField} (number other : Nat) :
    (field.before.toList ++ lastDigits field.width number).length =
      (field.before.toList ++ lastDigits field.width other).length := by
  simp only [List.length_append, length_lastDigits]

/-- Texts with the same fields compare like their numbers, from the first one on. -/
theorem write_fields_lt_iff (fits : FitFields fields numbers)
    (otherFits : FitFields fields others) :
    writeFields closing fields numbers < writeFields closing fields others ↔ numbers < others := by
  induction fits generalizing others with
  | nil =>
      cases otherFits
      simp [writeFields]
  | cons fit _ ih =>
      cases otherFits with
      | cons otherFit otherFits =>
          have same := eq_iff_of_lt_iff (last_digits_lt_iff fit otherFit)
            (last_digits_lt_iff otherFit fit)
          have later := ih otherFits
          rw [String.lt_iff_toList_lt] at later ⊢
          rw [write_fields_chars fit, write_fields_chars otherFit,
            append_lt_append_iff (field_lengths _ _), append_lt_append_iff rfl,
            List.append_cancel_left_eq, same, last_digits_lt_iff fit otherFit, later,
            List.cons_lt_cons_iff]
          simp only [lt_irrefl, false_or, true_and]

theorem write_fields_inj (fits : FitFields fields numbers) (otherFits : FitFields fields others) :
    writeFields closing fields numbers = writeFields closing fields others ↔ numbers = others :=
  eq_iff_of_lt_iff (write_fields_lt_iff fits otherFits) (write_fields_lt_iff otherFits fits)

end

namespace Date

def Before (first second : Date) : Prop :=
  first.year < second.year ∨ first.year = second.year ∧
    (first.month < second.month ∨ first.month = second.month ∧ first.day < second.day)

/-- A day of the calendar in one of the years from 0 to 9999. -/
structure IsCivil (date : Date) : Prop where
  year : 0 ≤ date.year ∧ date.year ≤ 9999
  month : 1 ≤ date.month ∧ date.month ≤ 12
  day : 1 ≤ date.day ∧ date.day ≤ Toml.daysIn date.year.toNat date.month

/-- The numbers of a day, the largest unit first. -/
def numbers (date : Date) : List Nat := [date.year.toNat, date.month, date.day]

/-- The fields of a day, with the text in front of the year. -/
def fields (opening : String) : List NumberField := [⟨opening, 4⟩, ⟨"-", 2⟩, ⟨"-", 2⟩]

theorem IsCivil.day_le {date : Date} (civil : date.IsCivil) : date.day ≤ 31 := by
  have last := civil.day.2
  unfold Toml.daysIn at last
  split_ifs at last <;> omega

theorem IsCivil.fit {date : Date} (civil : date.IsCivil) (opening : String) :
    FitFields (fields opening) date.numbers := by
  have day := civil.day_le
  obtain ⟨⟨_, year⟩, ⟨_, month⟩, _⟩ := civil
  exact .cons (show _ < 10000 by omega) (.cons (show _ < 100 by omega)
    (.cons (show _ < 100 by omega) .nil))

theorem IsCivil.text_eq {date : Date} (civil : date.IsCivil) :
    date.text =
      zeroPadded 4 date.year.toNat ++ "-" ++ zeroPadded 2 date.month ++ "-" ++
        zeroPadded 2 date.day := by
  rw [text, yearText, if_pos civil.year]

theorem numbers_lt_iff {first second : Date} (civil : first.IsCivil) (otherCivil : second.IsCivil) :
    first.numbers < second.numbers ↔ first.Before second := by
  have year := civil.year.1
  have otherYear := otherCivil.year.1
  simp only [numbers, Before, List.cons_lt_cons_iff, List.not_lt_nil, and_false, or_false]
  omega

theorem numbers_inj {first second : Date} (civil : first.IsCivil) (otherCivil : second.IsCivil) :
    first.numbers = second.numbers ↔ first = second := by
  have year := civil.year.1
  have otherYear := otherCivil.year.1
  rcases first with ⟨_, _, _⟩
  rcases second with ⟨_, _, _⟩
  simp only [numbers, List.cons.injEq, mk.injEq, and_true] at year otherYear ⊢
  omega

end Date

namespace Timestamp

/-- A moment of an earlier day, or an earlier one of the same day. -/
def Before (first second : Timestamp) : Prop :=
  first.date.Before second.date ∨ first.date = second.date ∧
    (first.hour < second.hour ∨ first.hour = second.hour ∧
      (first.minute < second.minute ∨ first.minute = second.minute ∧
        (first.second < second.second ∨ first.second = second.second ∧
          first.nanosecond < second.nanosecond)))

/-- A moment of such a day. Only behind the second 59 there may be a leap second. -/
structure IsCivil (moment : Timestamp) : Prop where
  date : moment.date.IsCivil
  hour : moment.hour < 24
  minute : moment.minute < 60
  second : moment.second < 60
  nanosecond : moment.nanosecond < 1000000000 ∨
    moment.second = 59 ∧ moment.nanosecond < 2000000000

/-- A moment without what is smaller than a unit, which is given in nanoseconds. -/
def cutTo (unit : Nat) (moment : Timestamp) : Timestamp :=
  { moment with nanosecond := moment.nanosecond / unit * unit }

/-- The numbers of a moment down to the second as it is shown. -/
def numbers (moment : Timestamp) : List Nat :=
  moment.date.numbers ++ [moment.hour, moment.minute, moment.shownSecond]

/-- The fields of a moment down to the second, with the text in front of the year. -/
def fields (opening : String) : List NumberField :=
  Date.fields opening ++ [⟨" ", 2⟩, ⟨":", 2⟩, ⟨":", 2⟩]

variable {first second : Timestamp}

theorem IsCivil.shown_second_le {moment : Timestamp} (civil : moment.IsCivil) :
    moment.shownSecond ≤ 60 := by
  have second := civil.second
  have nanosecond := civil.nanosecond
  unfold shownSecond
  omega

theorem IsCivil.fit {moment : Timestamp} (civil : moment.IsCivil) (opening : String) :
    FitFields (fields opening) moment.numbers := by
  have shown := civil.shown_second_le
  have hour := civil.hour
  have minute := civil.minute
  refine List.rel_append (civil.date.fit opening) (.cons ?_ (.cons ?_ (.cons ?_ .nil)))
  · exact show _ < 100 by omega
  · exact show _ < 100 by omega
  · exact show _ < 100 by omega

theorem IsCivil.fit_milliseconds {moment : Timestamp} (civil : moment.IsCivil) (opening : String) :
    FitFields (fields opening ++ [⟨".", 3⟩]) (moment.numbers ++ [moment.millisecond]) := by
  refine List.rel_append (civil.fit opening) (.cons ?_ .nil)
  change moment.nanosecond % 1000000000 / 1000000 < 1000
  omega

/-- An earlier moment shows no later second, and no later millisecond of the same second. -/
theorem not_shown_later (civil : first.IsCivil) (otherCivil : second.IsCivil)
    (early : first.Before second ∨ first = second) :
    ¬ second.numbers < first.numbers ∧
      ¬ second.numbers ++ [second.millisecond] < first.numbers ++ [first.millisecond] := by
  have year := civil.date.year.1
  have otherYear := otherCivil.date.year.1
  have leap := civil.nanosecond
  have otherLeap := otherCivil.nanosecond
  -- A leap second is shown as the sixtieth, which no second after it in the same minute can be.
  have last := otherCivil.second
  rcases first with ⟨⟨_, _, _⟩, _, _, _, _⟩
  rcases second with ⟨⟨_, _, _⟩, _, _, _, _⟩
  simp only [Before, Date.Before, Date.mk.injEq, mk.injEq] at *
  simp only [numbers, Date.numbers, shownSecond, millisecond, List.cons_append, List.nil_append,
    List.cons_lt_cons_iff, List.not_lt_nil, and_false, or_false]
  constructor
  · omega
  · omega

/-- What is shown of two moments is the same when they are the same up to the last unit shown. -/
theorem shown_alike_iff (civil : first.IsCivil) (otherCivil : second.IsCivil) :
    (first.numbers = second.numbers ↔ first.cutTo 1000000000 = second.cutTo 1000000000) ∧
      (first.numbers ++ [first.millisecond] = second.numbers ++ [second.millisecond] ↔
        first.cutTo 1000000 = second.cutTo 1000000) := by
  have year := civil.date.year.1
  have otherYear := otherCivil.date.year.1
  have leap := civil.nanosecond
  have otherLeap := otherCivil.nanosecond
  have last := civil.second
  have otherLast := otherCivil.second
  rcases first with ⟨⟨_, _, _⟩, _, _, _, _⟩
  rcases second with ⟨⟨_, _, _⟩, _, _, _, _⟩
  simp only [numbers, Date.numbers, shownSecond, millisecond, cutTo, List.cons_append,
    List.nil_append, List.cons.injEq, Date.mk.injEq, mk.injEq, and_true] at *
  constructor
  · omega
  · omega

end Timestamp

namespace Dialect

/-- The unit, in nanoseconds, down to which the literal of a moment is written. -/
def tick : Dialect → Nat
  | msAccess => 1000000000
  | _ => 1000000

theorem date_literal_written (dialect : Dialect) :
    ∃ opening closing, ∀ {date : Date}, date.IsCivil →
      dialect.dateLiteral date = writeFields closing (Date.fields opening) date.numbers := by
  have written : ∀ (opening closing : String) {date : Date}, date.IsCivil →
      opening ++ date.text ++ closing =
        writeFields closing (Date.fields opening) date.numbers := by
    intro opening closing date civil
    rw [civil.text_eq]
    simp only [Date.fields, Date.numbers, writeFields, String.append_assoc]
  cases dialect with
  | oracle => exact ⟨"date '", "'", written "date '" "'"⟩
  | msAccess => exact ⟨"#", "#", written "#" "#"⟩
  | _ => exact ⟨"'", "'", written "'" "'"⟩

theorem seconds_written (opening closing : String) {moment : Timestamp} (civil : moment.IsCivil) :
    opening ++ moment.secondsText ++ closing =
      writeFields closing (Timestamp.fields opening) moment.numbers := by
  rw [Timestamp.secondsText, civil.date.text_eq]
  simp only [Timestamp.fields, Timestamp.numbers, Date.fields, Date.numbers, List.cons_append,
    List.nil_append, writeFields, String.append_assoc]

theorem milliseconds_written (opening closing : String) {moment : Timestamp}
    (civil : moment.IsCivil) :
    opening ++ moment.millisecondsText ++ closing =
      writeFields closing (Timestamp.fields opening ++ [⟨".", 3⟩])
        (moment.numbers ++ [moment.millisecond]) := by
  rw [Timestamp.millisecondsText, Timestamp.secondsText, civil.date.text_eq]
  simp only [Timestamp.fields, Timestamp.numbers, Date.fields, Date.numbers, List.cons_append,
    List.nil_append, writeFields, String.append_assoc]

/-- The literal of a moment writes its numbers down to the unit of the dialect. -/
theorem timestamp_literal_written (dialect : Dialect) :
    ∃ opening closing, ∀ {moment : Timestamp}, moment.IsCivil →
      dialect.timestampLiteral moment =
        if dialect = msAccess then
          writeFields closing (Timestamp.fields opening) moment.numbers
        else
          writeFields closing (Timestamp.fields opening ++ [⟨".", 3⟩])
            (moment.numbers ++ [moment.millisecond]) := by
  cases dialect with
  | oracle => exact ⟨"timestamp '", "'", milliseconds_written "timestamp '" "'"⟩
  | msAccess => exact ⟨"#", "#", seconds_written "#" "#"⟩
  | _ => exact ⟨"'", "'", milliseconds_written "'" "'"⟩

variable {first second : Timestamp}

theorem timestamp_literal_le (dialect : Dialect) (civil : first.IsCivil)
    (otherCivil : second.IsCivil) (early : first.Before second ∨ first = second) :
    dialect.timestampLiteral first ≤ dialect.timestampLiteral second := by
  obtain ⟨opening, closing, written⟩ := dialect.timestamp_literal_written
  obtain ⟨seconds, milliseconds⟩ := Timestamp.not_shown_later civil otherCivil early
  rw [← not_lt, written civil, written otherCivil]
  split_ifs
  · rw [write_fields_lt_iff (otherCivil.fit opening) (civil.fit opening)]
    exact seconds
  · rw [write_fields_lt_iff (otherCivil.fit_milliseconds opening)
      (civil.fit_milliseconds opening)]
    exact milliseconds

theorem timestamp_literal_inj (dialect : Dialect) (civil : first.IsCivil)
    (otherCivil : second.IsCivil) :
    dialect.timestampLiteral first = dialect.timestampLiteral second ↔
      first.cutTo dialect.tick = second.cutTo dialect.tick := by
  obtain ⟨opening, closing, written⟩ := dialect.timestamp_literal_written
  obtain ⟨seconds, milliseconds⟩ := Timestamp.shown_alike_iff civil otherCivil
  rw [written civil, written otherCivil]
  split_ifs with access
  · rw [write_fields_inj (civil.fit opening) (otherCivil.fit opening), seconds, access, tick]
  · have unit : dialect.tick = 1000000 := by
      cases dialect with
      | msAccess => exact absurd rfl access
      | _ => rfl
    rw [write_fields_inj (civil.fit_milliseconds opening) (otherCivil.fit_milliseconds opening),
      milliseconds, unit]

/-- Literals of days compare like the days. Literals of moments never go against the order of the
moments, and are equal exactly when the moments are the same down to the unit that is written. -/
theorem temporal_literals_keep_order (dialect : Dialect) :
    (∀ first second : Date, first.IsCivil → second.IsCivil →
      (dialect.dateLiteral first = dialect.dateLiteral second ↔ first = second) ∧
      (dialect.dateLiteral first < dialect.dateLiteral second ↔ first.Before second)) ∧
    ∀ first second : Timestamp, first.IsCivil → second.IsCivil →
      (first.Before second ∨ first = second →
        dialect.timestampLiteral first ≤ dialect.timestampLiteral second) ∧
      (dialect.timestampLiteral first = dialect.timestampLiteral second ↔
        first.cutTo dialect.tick = second.cutTo dialect.tick) := by
  constructor
  · intro first second civil otherCivil
    obtain ⟨opening, closing, written⟩ := dialect.date_literal_written
    have fit := civil.fit opening
    have otherFit := otherCivil.fit opening
    rw [written civil, written otherCivil, write_fields_inj fit otherFit,
      write_fields_lt_iff fit otherFit]
    exact ⟨Date.numbers_inj civil otherCivil, Date.numbers_lt_iff civil otherCivil⟩
  · intro first second civil otherCivil
    exact ⟨dialect.timestamp_literal_le civil otherCivil,
      dialect.timestamp_literal_inj civil otherCivil⟩

/-- The last day of a February, and a leap second and the end of the second before it. -/
theorem leap_second_after_second :
    let day : Date := ⟨2024, 2, 29⟩
    let leap : Timestamp := ⟨day, 23, 59, 59, 1000999999⟩
    let last : Timestamp := ⟨day, 23, 59, 59, 999999999⟩
    day.IsCivil ∧ leap.IsCivil ∧ last.IsCivil ∧
      dateLiteral oracle day ≠ dateLiteral oracle ⟨2024, 3, 1⟩ ∧
      dateLiteral oracle day < dateLiteral oracle ⟨2024, 3, 1⟩ ∧
      timestampLiteral sqlite last ≤ timestampLiteral sqlite leap ∧
      timestampLiteral msAccess last ≠ timestampLiteral msAccess leap := by
  intro day leap last
  have civil : day.IsCivil := ⟨by decide, by decide, by decide⟩
  have march : Date.IsCivil ⟨2024, 3, 1⟩ := ⟨by decide, by decide, by decide⟩
  have leapCivil : leap.IsCivil := ⟨civil, by decide, by decide, by decide, by decide⟩
  have lastCivil : last.IsCivil := ⟨civil, by decide, by decide, by decide, by decide⟩
  have earlier : last.Before leap := .inr ⟨rfl, .inr ⟨rfl, .inr ⟨rfl, .inr ⟨rfl, by decide⟩⟩⟩⟩
  obtain ⟨same, before⟩ := (temporal_literals_keep_order oracle).1 day ⟨2024, 3, 1⟩ civil march
  have ordered := ((temporal_literals_keep_order sqlite).2 last leap lastCivil leapCivil).1
  have alike := ((temporal_literals_keep_order msAccess).2 last leap lastCivil leapCivil).2
  refine ⟨civil, leapCivil, lastCivil, mt same.mp (by decide), ?_, ordered (.inl earlier),
    mt alike.mp (by decide)⟩
  exact before.mpr (.inr ⟨rfl, .inl (by decide)⟩)

example : timestampLiteral sqlite ⟨⟨987, 2, 28⟩, 23, 59, 59, 1000999999⟩ =
    "'0987-02-28 23:59:60.000'" := by decide +kernel

end Dialect
end SqlComposer
