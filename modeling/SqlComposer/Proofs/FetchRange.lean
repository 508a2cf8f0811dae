import SqlComposer.Proofs.Reachability

/-!
The numbers of a window. A page is accepted only while the position after its last row can be
counted, so the positions of a reachable window are the ones that exact arithmetic gives.
-/
namespace SqlComposer.FetchScope

/-- A number that can be counted is not wrapped round. -/
theorem wrapped_eq {number : Int} (low : 0 ≤ number) (high : number ≤ Int64.maxValue.toInt) :
    number.bmod Int64.size = number := by
  have last : Int64.maxValue.toInt * 2 < Int64.size := by decide
  apply Int.bmod_eq_of_le_mul_two
  · omega
  · omega

theorem check_range_ok_iff (start size page : Int64) :
    checkRange start size page = .ok () ↔
      fits (size.toInt * page.toInt) = true ∧
        fits (size.toInt * page.toInt + start.toInt) = true := by
  unfold checkRange
  dsimp only
  split_ifs with both
  · simpa using both
  · simpa using both

/-- What is said about the rows can be counted. -/
structure Counted (fetch : FetchScope) : Prop where
  start : 0 ≤ fetch.start.toInt
  size : 0 ≤ fetch.size.toInt
  filled : fetch.isSet = true → 0 < fetch.size.toInt
  page : 1 ≤ fetch.page.toInt
  fits : fetch.start.toInt + fetch.size.toInt * fetch.page.toInt ≤ Int64.maxValue.toInt

theorem counted_new : Counted {} := by
  constructor <;> decide

theorem pos_of_not_le {number : Int64} (positive : ¬ number ≤ 0) : 0 < number.toInt := by
  rw [Int64.le_iff_toInt_le] at positive
  exact Int.not_le.mp positive

theorem nonneg_of_not_lt {number : Int64} (started : ¬ number < 0) : 0 ≤ number.toInt := by
  rw [Int64.lt_iff_toInt_lt] at started
  exact Int.not_lt.mp started

theorem not_le_of_pos {number : Int64} (positive : 0 < number.toInt) : ¬ number ≤ 0 := by
  rw [Int64.le_iff_toInt_le]
  exact Int.not_le.mpr positive

theorem not_lt_of_nonneg {number : Int64} (started : 0 ≤ number.toInt) : ¬ number < 0 := by
  rw [Int64.lt_iff_toInt_lt]
  exact Int.not_lt.mpr started

theorem fits_iff (number : Int) : FetchScope.fits number = true ↔
    Int64.minValue.toInt ≤ number ∧ number ≤ Int64.maxValue.toInt := by
  rw [FetchScope.fits, Bool.and_eq_true, decide_eq_true_eq, decide_eq_true_eq]

theorem Counted.fetch_first {fetch : FetchScope} {size : Int64} (positive : ¬ size ≤ 0) :
    Counted { fetch with start := 0, size, page := 1, isSet := true } := by
  have filled := pos_of_not_le positive
  refine ⟨Int.le_refl 0, Int.le_of_lt filled, fun _ => filled, Int.le_refl 1, ?_⟩
  change 0 + size.toInt * 1 ≤ Int64.maxValue.toInt
  rw [Int.mul_one, Int.zero_add]
  exact Int64.toInt_le size

theorem Counted.fetch_page {fetch : FetchScope} (counted : fetch.Counted) {page : Int64}
    (positive : ¬ fetch.size ≤ 0) (first : 1 ≤ page.toInt)
    (fits : checkRange fetch.start fetch.size page = .ok ()) :
    Counted { fetch with page, isSet := true } := by
  have filled := pos_of_not_le positive
  refine ⟨counted.start, Int.le_of_lt filled, fun _ => filled, first, ?_⟩
  rw [check_range_ok_iff, fits_iff, fits_iff, Int.add_comm] at fits
  exact fits.2.2

theorem Counted.fetch_scope {fetch : FetchScope} {start size : Int64} (started : ¬ start < 0)
    (positive : ¬ size ≤ 0) (fits : checkRange start size 1 = .ok ()) :
    Counted { fetch with start, size, page := 1, isSet := true } := by
  have filled := pos_of_not_le positive
  refine ⟨nonneg_of_not_lt started, Int.le_of_lt filled, fun _ => filled, Int.le_refl 1, ?_⟩
  rw [check_range_ok_iff, fits_iff, fits_iff, Int.add_comm] at fits
  exact fits.2.2

theorem not_before_first {page : Int64} (first : 0 < page.toInt) : ¬ page < 1 := by
  rw [Int64.lt_iff_toInt_lt]
  exact Int.not_lt.mpr first

theorem one_le_page {asked page : Int64} (counted : page = if asked < 1 then 1 else asked) :
    1 ≤ page.toInt := by
  split_ifs at counted with before
  · rw [counted]
    decide
  · rw [counted]
    rw [Int64.lt_iff_toInt_lt] at before
    exact Int.not_lt.mp before

theorem Counted.pages_before {fetch : FetchScope} (counted : fetch.Counted) :
    (fetch.page - 1).toInt = fetch.page.toInt - 1 := by
  have first := counted.page
  have one : (1 : Int64).toInt = 1 := rfl
  have bounded := Int64.toInt_le fetch.page
  rw [Int64.toInt_sub, one]
  exact wrapped_eq (by omega) (by omega)

/-- The pages before the current one leave room for it. -/
theorem Counted.pages_scaled {fetch : FetchScope} (counted : fetch.Counted) :
    0 ≤ fetch.size.toInt * (fetch.page.toInt - 1) ∧
      fetch.size.toInt * (fetch.page.toInt - 1) =
        fetch.size.toInt * fetch.page.toInt - fetch.size.toInt := by
  have first := counted.page
  refine ⟨Int.mul_nonneg counted.size (by omega), ?_⟩
  rw [Int.mul_sub, Int.mul_one]

theorem Counted.rows_before {fetch : FetchScope} (counted : fetch.Counted) :
    (fetch.size * (fetch.page - 1)).toInt = fetch.size.toInt * (fetch.page.toInt - 1) := by
  have before := counted.pages_before
  obtain ⟨earlier, scaled⟩ := counted.pages_scaled
  obtain ⟨start, size, _, page, fits⟩ := counted
  rw [Int64.toInt_mul, before]
  exact wrapped_eq earlier (by omega)

theorem Counted.page_start {fetch : FetchScope} (counted : fetch.Counted) :
    fetch.pageStart.toInt =
      fetch.start.toInt + fetch.size.toInt * (fetch.page.toInt - 1) := by
  have rows := counted.rows_before
  obtain ⟨earlier, scaled⟩ := counted.pages_scaled
  obtain ⟨start, size, _, page, fits⟩ := counted
  rw [pageStart, Int64.toInt_add, rows]
  exact wrapped_eq (by omega) (by omega)

theorem Counted.page_stop {fetch : FetchScope} (counted : fetch.Counted) :
    fetch.pageStop.toInt = fetch.start.toInt + fetch.size.toInt * fetch.page.toInt := by
  have begins := counted.page_start
  obtain ⟨start, size, _, page, fits⟩ := counted
  have rows : 0 ≤ fetch.size.toInt * fetch.page.toInt := Int.mul_nonneg size (by omega)
  have ends : fetch.pageStart.toInt + fetch.size.toInt =
      fetch.start.toInt + fetch.size.toInt * fetch.page.toInt := by
    rw [begins, Int.mul_sub, Int.mul_one, Int.add_assoc, Int.sub_add_cancel]
  rw [pageStop, Int64.toInt_add, ends]
  exact wrapped_eq (by omega) fits

/-- A page is accepted when the position after its last row can be counted. -/
theorem Counted.check_range_iff {fetch : FetchScope} (counted : fetch.Counted) {page : Int64}
    (first : 1 ≤ page.toInt) :
    checkRange fetch.start fetch.size page = .ok () ↔
      fetch.start.toInt + fetch.size.toInt * page.toInt ≤ Int64.maxValue.toInt := by
  have started := counted.start
  have least : Int64.minValue.toInt ≤ 0 := by decide
  have rows : 0 ≤ fetch.size.toInt * page.toInt :=
    Int.mul_nonneg counted.size (Int.le_trans (by decide) first)
  rw [check_range_ok_iff, fits_iff, fits_iff]
  omega

end SqlComposer.FetchScope

namespace SqlComposer.Statement

/-- The window of a statement that may have one, in numbers that can be counted. -/
structure Windowed (statement : Statement) : Prop where
  counted : statement.fetch.Counted
  allowed : statement.fetch.isSet = true → statement.purpose.forbids .paging = false

theorem Windowed.of_same {statement after : Statement} (windowed : statement.Windowed)
    (fetch : after.fetch = statement.fetch) (purpose : after.purpose = statement.purpose) :
    after.Windowed := by
  constructor
  · rw [fetch]
    exact windowed.counted
  · rw [fetch, purpose]
    exact windowed.allowed

theorem Effect.windowed {statement after : Statement} {operation : Operation}
    (effect : Effect statement operation after) (windowed : statement.Windowed) :
    after.Windowed := by
  cases effect with
  | fetchFirst allowed positive => exact ⟨.fetch_first positive, fun _ => allowed⟩
  | fetchPage allowed positive asked fits =>
      have first := FetchScope.one_le_page asked
      exact ⟨windowed.counted.fetch_page positive first fits, fun _ => allowed⟩
  | fetchScope allowed started positive fits =>
      exact ⟨.fetch_scope started positive fits, fun _ => allowed⟩
  | suppressFetch =>
      obtain ⟨⟨start, size, filled, page, fits⟩, allowed⟩ := windowed
      exact ⟨⟨start, size, filled, page, fits⟩, allowed⟩
  | recorded _ _ _ record | closeOrScope _ record =>
      obtain ⟨_, _, _, _, rfl, _⟩ := record.frame
      exact windowed.of_same rfl rfl
  | _ => exact windowed.of_same rfl rfl

/-- No run of registrations makes a window that cannot be counted. -/
theorem Reachable.windowed {schema : Schema} {statement : Statement}
    (reached : Reachable schema statement) : statement.Windowed := by
  have holds := @reachable_invariant schema Windowed ?_ ?_ ?_ statement reached
  · exact holds.2.2
  · intro settings resolver tableName purpose level statement created
    obtain ⟨table, _, rfl⟩ := create_eq_ok created
    exact ⟨FetchScope.counted_new, fun set => by cases set⟩
  · intro statement resolver windowed
    exact windowed.of_same rfl rfl
  · intro statement operation after _ windowed effect
    exact effect.windowed windowed

end SqlComposer.Statement
