import SqlComposer.Proofs.FetchRange
import SqlComposer.Proofs.History

/-!
The window of a whole run. The last accepted registration of rows and the last page turned to after
it tell the window, whatever has been refused in between; its positions are the exact ones, and a
registration is refused for want of a countable window and for nothing else.
-/
namespace SqlComposer

/-- A page of rows in exact numbers. -/
structure RowPage where
  start : Int
  size : Int
  page : Int

/-- The position of the first row of the page. -/
def RowPage.first (rows : RowPage) : Int := rows.start + rows.size * (rows.page - 1)

/-- The position right after the last row of the page. -/
def RowPage.stop (rows : RowPage) : Int := rows.start + rows.size * rows.page

namespace Operation

/-- Where the rows start and how many make a page, if an operation says so. -/
def rows? : Operation → Option (Int × Int)
  | .fetchFirst size => some (0, size.toInt)
  | .fetchScope start size => some (start.toInt, size.toInt)
  | _ => none

/-- The page that an operation turns to. -/
def page? : Operation → Option Int
  | .fetchPage page => some (max page.toInt 1)
  | _ => none

/-- Whether an operation sets a window when it is accepted. -/
def setsWindow (operation : Operation) : Bool :=
  operation.rows?.isSome || operation.page?.isSome

def suppression? : Operation → Option Bool
  | .suppressFetch suppressed => some suppressed
  | _ => none

end Operation

namespace Statement

/-- The window that a history tells: the last rows, and the last page turned to after them. -/
def toldPage (operations : List Operation) : RowPage :=
  let rows := (operations.reverse.findSome? Operation.rows?).getD (0, 0)
  let later := operations.reverse.takeWhile fun operation => operation.rows?.isNone
  ⟨rows.1, rows.2, (later.findSome? Operation.page?).getD 1⟩

def toldSuppression (operations : List Operation) : Bool :=
  (operations.reverse.findSome? Operation.suppression?).getD false

theorem told_page_of_rows (operations : List Operation) {operation : Operation} {start size : Int}
    (rows : operation.rows? = some (start, size)) :
    toldPage (operations ++ [operation]) = ⟨start, size, 1⟩ := by
  simp [toldPage, rows]

theorem told_page_of_page (operations : List Operation) {operation : Operation} {page : Int}
    (rowless : operation.rows? = none) (turned : operation.page? = some page) :
    toldPage (operations ++ [operation]) = { toldPage operations with page } := by
  simp [toldPage, rowless, turned]

theorem told_page_of_other (operations : List Operation) {operation : Operation}
    (rowless : operation.rows? = none) (pageless : operation.page? = none) :
    toldPage (operations ++ [operation]) = toldPage operations := by
  simp [toldPage, rowless, pageless]

theorem told_suppression_concat (operations : List Operation) (operation : Operation) :
    toldSuppression (operations ++ [operation]) =
      operation.suppression?.getD (toldSuppression operations) := by
  cases told : operation.suppression? <;> simp [toldSuppression, told]

theorem max_of_page (asked : Int64) :
    (if asked < 1 then (1 : Int64) else asked).toInt = max asked.toInt 1 := by
  have one : (1 : Int64).toInt = 1 := rfl
  split_ifs with before
  · rw [Int64.lt_iff_toInt_lt] at before
    omega
  · rw [Int64.lt_iff_toInt_lt] at before
    omega

/-- A statement shows the page that its history tells. -/
structure ShowsTold (statement : Statement) (operations : List Operation) : Prop where
  start : statement.fetch.start.toInt = (toldPage operations).start
  size : statement.fetch.size.toInt = (toldPage operations).size
  page : statement.fetch.page.toInt = (toldPage operations).page
  isSet : statement.fetch.isSet = operations.any Operation.setsWindow
  suppressed : statement.fetch.isSuppressed = toldSuppression operations

theorem ShowsTold.of_same {before after : Statement} {operations : List Operation}
    (shows : before.ShowsTold operations) (fetch : after.fetch = before.fetch)
    {operation : Operation} (silent : operation.rows? = none ∧ operation.page? = none ∧
      operation.suppression? = none) : after.ShowsTold (operations ++ [operation]) := by
  obtain ⟨rowless, pageless, unsaid⟩ := silent
  have told := told_page_of_other operations rowless pageless
  refine ⟨?_, ?_, ?_, ?_, ?_⟩
  · rw [fetch, told, shows.start]
  · rw [fetch, told, shows.size]
  · rw [fetch, told, shows.page]
  · rw [fetch, shows.isSet, List.any_append]
    simp [Operation.setsWindow, rowless, pageless]
  · rw [fetch, shows.suppressed, told_suppression_concat, unsaid]
    rfl

theorem ShowsTold.rows {before after : Statement} {operations : List Operation}
    (shows : before.ShowsTold operations) {operation : Operation} {start size : Int64}
    (rows : operation.rows? = some (start.toInt, size.toInt))
    (silent : operation.suppression? = none)
    (fetch : after.fetch = { before.fetch with start, size, page := 1, isSet := true }) :
    after.ShowsTold (operations ++ [operation]) := by
  have told := told_page_of_rows operations rows
  refine ⟨?_, ?_, ?_, ?_, ?_⟩
  · rw [fetch, told]
  · rw [fetch, told]
  · rw [fetch, told]
    rfl
  · rw [fetch, List.any_append]
    simp [Operation.setsWindow, rows]
  · rw [fetch, told_suppression_concat, silent]
    exact shows.suppressed

theorem ShowsTold.page_turned {statement : Statement} {operations : List Operation}
    (shows : statement.ShowsTold operations) (asked : Int64) :
    ShowsTold
      { statement with
        fetch := { statement.fetch with page := if asked < 1 then 1 else asked, isSet := true } }
      (operations ++ [.fetchPage asked]) := by
  have told : toldPage (operations ++ [.fetchPage asked]) =
      { toldPage operations with page := max asked.toInt 1 } :=
    told_page_of_page operations rfl rfl
  refine ⟨?_, ?_, ?_, ?_, ?_⟩
  · rw [told]
    exact shows.start
  · rw [told]
    exact shows.size
  · rw [told]
    exact max_of_page asked
  · rw [List.any_append]
    exact (Bool.or_true _).symm
  · rw [told_suppression_concat]
    exact shows.suppressed

theorem ShowsTold.suppress {statement : Statement} {operations : List Operation}
    (shows : statement.ShowsTold operations) (suppressed : Bool) :
    ShowsTold
      { statement with fetch := { statement.fetch with isSuppressed := suppressed } }
      (operations ++ [.suppressFetch suppressed]) := by
  have told : toldPage (operations ++ [.suppressFetch suppressed]) = toldPage operations :=
    told_page_of_other operations rfl rfl
  refine ⟨?_, ?_, ?_, ?_, ?_⟩
  · rw [told]
    exact shows.start
  · rw [told]
    exact shows.size
  · rw [told]
    exact shows.page
  · rw [List.any_append]
    exact shows.isSet.trans (Bool.or_false _).symm
  · rw [told_suppression_concat]
    rfl

theorem Effect.shows_told {statement after : Statement} {operation : Operation}
    (effect : Effect statement operation after) {operations : List Operation}
    (shows : statement.ShowsTold operations) : after.ShowsTold (operations ++ [operation]) := by
  cases effect with
  | fetchFirst _ _ => exact shows.rows rfl rfl rfl
  | fetchPage _ _ counted _ =>
      subst counted
      exact shows.page_turned _
  | fetchScope _ _ _ _ => exact shows.rows rfl rfl rfl
  | suppressFetch => exact shows.suppress _
  | recorded recording _ _ record =>
      obtain ⟨_, _, _, _, rfl, _⟩ := record.frame
      refine shows.of_same ?_ ?_
      · rfl
      · cases recording <;> exact ⟨rfl, rfl, rfl⟩
  | closeOrScope _ record =>
      obtain ⟨_, _, _, _, rfl, _⟩ := record.frame
      refine shows.of_same ?_ ?_
      · rfl
      · exact ⟨rfl, rfl, rfl⟩
  | _ =>
      refine shows.of_same ?_ ?_
      · rfl
      · exact ⟨rfl, rfl, rfl⟩

theorem new_shows_told {schema : Schema} {settings : Settings}
    {resolver : FixedCondition.Resolver} {tableName : String} {purpose : Purpose} {level : Nat}
    {statement : Statement}
    (created : create schema settings resolver tableName purpose level = .ok statement) :
    statement.ShowsTold [] := by
  obtain ⟨table, _, rfl⟩ := create_eq_ok created
  exact ⟨rfl, rfl, rfl, rfl, rfl⟩

/-- Refused operations leave no trace in the window, accepted ones are in the history. -/
theorem Traced.shows_told {schema : Schema} {statement : Statement} {operations : List Operation}
    (traced : Traced schema statement operations) : statement.ShowsTold operations := by
  induction traced with
  | new created => exact new_shows_told created
  | withResolver _ _ ih => exact ⟨ih.start, ih.size, ih.page, ih.isSet, ih.suppressed⟩
  | nested _ created _ => exact new_shows_told (create_of_nested created)
  | accepted before accepts ih =>
      have effect := effect_of_accepted before.reachable.scopes_joined accepts
      exact effect.shows_told ih
  | refused before refuses ih =>
      rw [after_of_refused before.reachable.scopes_joined refuses]
      exact ih

theorem refused_iff_not_accepted (result : Except ClauseError Unit) :
    (∃ refusal, result = .error refusal) ↔ ¬ result = .ok () := by
  cases result <;> simp

theorem fetch_scope_completes {statement : Statement} {start size : Int64}
    (allowed : statement.purpose.forbids .paging = false) (started : ¬ start < 0)
    (positive : ¬ size ≤ 0) (fits : FetchScope.checkRange start size 1 = .ok ()) :
    Registration.Completes (fetchScope start size) statement fun _ after =>
      after = { statement with
        fetch := { statement.fetch with start, size, page := 1, isSet := true } } := by
  refine Registration.completes_bind_allow allowed (Registration.completes_refusing started ?_)
  refine Registration.completes_refusing positive (Registration.completes_bind_lift fits ?_)
  refine Registration.completes_bind (Registration.completes_modify _ statement) ?_
  rintro _ _ rfl
  exact fetch_page_completes allowed positive rfl fits

variable {schema : Schema} {statement : Statement}

/-- An operation is refused unless the guards hold that its effect shows. -/
theorem refused_iff_unguarded (reached : Reachable schema statement) {operation : Operation}
    {refused guarded : Prop} (apart : ¬ refused ↔ guarded)
    (passed : ∀ after, Effect statement operation after → guarded)
    (accepted : guarded → (operation.perform statement).1 = .ok ()) :
    (∃ refusal, (operation.perform statement).1 = .error refusal) ↔ refused := by
  rw [refused_iff_not_accepted, ← not_iff_not, apart, not_not]
  exact ⟨fun accepts => passed _ (effect_of_accepted reached.scopes_joined accepts), accepted⟩

theorem fetch_first_refused_iff (reached : Reachable schema statement) (size : Int64) :
    (∃ refusal, ((Operation.fetchFirst size).perform statement).1 = .error refusal) ↔
      statement.purpose.forbids .paging = true ∨ size.toInt ≤ 0 := by
  have apart : ¬ (statement.purpose.forbids .paging = true ∨ size.toInt ≤ 0) ↔
      statement.purpose.forbids .paging = false ∧ 0 < size.toInt := by
    simp only [not_or, Bool.not_eq_true, Int.not_le]
  refine refused_iff_unguarded reached apart ?_ ?_
  · intro after effect
    cases effect with
    | fetchFirst allowed positive => exact ⟨allowed, FetchScope.pos_of_not_le positive⟩
    | recorded recording => cases recording
  · rintro ⟨allowed, filled⟩
    have positive := FetchScope.not_le_of_pos filled
    exact (after_of_completes (.fetchFirst size) (fetch_first_completes allowed positive)).1

theorem check_first_page_iff {start size : Int64} (started : 0 ≤ start.toInt)
    (filled : 0 < size.toInt) :
    FetchScope.checkRange start size 1 = .ok () ↔
      start.toInt + size.toInt ≤ Int64.maxValue.toInt := by
  have one : (1 : Int64).toInt = 1 := rfl
  have least : Int64.minValue.toInt ≤ 0 := by decide
  rw [FetchScope.check_range_ok_iff, FetchScope.fits_iff, FetchScope.fits_iff, one, Int.mul_one]
  omega

theorem fetch_scope_refused_iff (reached : Reachable schema statement) (start size : Int64) :
    (∃ refusal, ((Operation.fetchScope start size).perform statement).1 = .error refusal) ↔
      statement.purpose.forbids .paging = true ∨ start.toInt < 0 ∨ size.toInt ≤ 0 ∨
        Int64.maxValue.toInt < start.toInt + size.toInt := by
  have apart : ¬ (statement.purpose.forbids .paging = true ∨ start.toInt < 0 ∨ size.toInt ≤ 0 ∨
      Int64.maxValue.toInt < start.toInt + size.toInt) ↔
        statement.purpose.forbids .paging = false ∧ 0 ≤ start.toInt ∧ 0 < size.toInt ∧
          start.toInt + size.toInt ≤ Int64.maxValue.toInt := by
    simp only [not_or, Bool.not_eq_true, Int.not_lt, Int.not_le]
  refine refused_iff_unguarded reached apart ?_ ?_
  · intro after effect
    cases effect with
    | fetchScope allowed started positive fits =>
        have begins := FetchScope.nonneg_of_not_lt started
        have filled := FetchScope.pos_of_not_le positive
        exact ⟨allowed, begins, filled, (check_first_page_iff begins filled).mp fits⟩
    | recorded recording => cases recording
  · rintro ⟨allowed, begins, filled, fits⟩
    have started := FetchScope.not_lt_of_nonneg begins
    have positive := FetchScope.not_le_of_pos filled
    have counted := (check_first_page_iff begins filled).mpr fits
    have completes := fetch_scope_completes allowed started positive counted
    exact (after_of_completes (.fetchScope start size) completes).1

theorem fetch_page_refused_iff (reached : Reachable schema statement) (asked : Int64) :
    (∃ refusal, ((Operation.fetchPage asked).perform statement).1 = .error refusal) ↔
      statement.purpose.forbids .paging = true ∨ statement.fetch.size.toInt ≤ 0 ∨
        Int64.maxValue.toInt <
          statement.fetch.start.toInt + statement.fetch.size.toInt * max asked.toInt 1 := by
  have counted := reached.windowed.counted
  have turned := max_of_page asked
  have range := counted.check_range_iff (FetchScope.one_le_page rfl : 1 ≤
    (if asked < 1 then (1 : Int64) else asked).toInt)
  rw [turned] at range
  have apart : ¬ (statement.purpose.forbids .paging = true ∨ statement.fetch.size.toInt ≤ 0 ∨
      Int64.maxValue.toInt <
        statement.fetch.start.toInt + statement.fetch.size.toInt * max asked.toInt 1) ↔
        statement.purpose.forbids .paging = false ∧ 0 < statement.fetch.size.toInt ∧
          statement.fetch.start.toInt + statement.fetch.size.toInt * max asked.toInt 1 ≤
            Int64.maxValue.toInt := by
    simp only [not_or, Bool.not_eq_true, Int.not_lt, Int.not_le]
  refine refused_iff_unguarded reached apart ?_ ?_
  · intro after effect
    cases effect with
    | fetchPage allowed positive taken fits =>
        subst taken
        exact ⟨allowed, FetchScope.pos_of_not_le positive, range.mp fits⟩
    | recorded recording => cases recording
  · rintro ⟨allowed, filled, fits⟩
    have positive := FetchScope.not_le_of_pos filled
    have completes := fetch_page_completes allowed positive rfl (range.mpr fits)
    exact (after_of_completes (.fetchPage asked) completes).1

theorem told_size_of_rowless {operations : List Operation}
    (rowless : ∀ operation ∈ operations, operation.rows? = none) :
    (toldPage operations).size = 0 := by
  have none : operations.reverse.findSome? Operation.rows? = Option.none := by
    rw [List.findSome?_eq_none_iff]
    intro operation member
    exact rowless operation (List.mem_reverse.mp member)
  rw [toldPage, none]
  rfl

variable {operations : List Operation}

theorem ShowsTold.filled_of_sets (shows : statement.ShowsTold operations)
    (counted : statement.fetch.Counted) {operation : Operation} (member : operation ∈ operations)
    (sets : operation.setsWindow = true) : 0 < (toldPage operations).size := by
  have isSet : statement.fetch.isSet = true := by
    rw [shows.isSet, List.any_eq_true]
    exact ⟨operation, member, sets⟩
  rw [← shows.size]
  exact counted.filled isSet

/-- Rows have no size as long as no operation has given them one. -/
theorem ShowsTold.unfilled_iff (shows : statement.ShowsTold operations)
    (counted : statement.fetch.Counted) :
    (toldPage operations).size ≤ 0 ↔ ∀ operation ∈ operations, operation.rows? = none := by
  constructor
  · intro unfilled operation member
    by_contra rows
    have sets : operation.setsWindow = true := by
      rw [Operation.setsWindow, Option.isSome_iff_ne_none.mpr rows]
      rfl
    have filled := shows.filled_of_sets counted member sets
    exact absurd unfilled (Int.not_le.mpr filled)
  · intro rowless
    exact Int.le_of_eq (told_size_of_rowless rowless)

theorem ShowsTold.filled_iff (shows : statement.ShowsTold operations)
    (counted : statement.fetch.Counted) :
    0 < (toldPage operations).size ↔ ∃ operation ∈ operations, operation.setsWindow = true := by
  constructor
  · intro filled
    by_contra nothing
    have rowless : ∀ operation ∈ operations, operation.rows? = none := by
      intro operation member
      have unset : ¬ operation.setsWindow = true := fun sets => nothing ⟨operation, member, sets⟩
      rw [Operation.setsWindow, Bool.or_eq_true, not_or] at unset
      simpa using unset.1
    rw [told_size_of_rowless rowless] at filled
    exact absurd filled (Int.lt_irrefl 0)
  · rintro ⟨operation, member, sets⟩
    exact shows.filled_of_sets counted member sets

/-- The window of any run is the one that its last accepted registrations tell, in exact numbers,
and a registration of a window is refused when the purpose, its argument or the count of the rows
rules it out, and only then. -/
theorem window_of_history (traced : Traced schema statement operations) :
    let rows := toldPage operations
    let fetch := statement.fetch
    (fetch.start.toInt = rows.start ∧ fetch.size.toInt = rows.size ∧
      fetch.page.toInt = rows.page ∧ fetch.isSet = operations.any Operation.setsWindow ∧
      fetch.isSuppressed = toldSuppression operations) ∧
    (0 ≤ rows.start ∧ 1 ≤ rows.page ∧
      (0 < rows.size ↔ ∃ operation ∈ operations, operation.setsWindow = true)) ∧
    ((fetch.page - 1).toInt = rows.page - 1 ∧
      (fetch.size * (fetch.page - 1)).toInt = rows.size * (rows.page - 1) ∧
      fetch.pageStart.toInt = rows.first ∧ fetch.pageStop.toInt = rows.stop ∧
      ∀ window, statement.window? = some window → window.stop.toInt = rows.stop) ∧
    (∀ size : Int64,
      (∃ refusal, ((Operation.fetchFirst size).perform statement).1 = .error refusal) ↔
        statement.purpose.forbids .paging = true ∨ size.toInt ≤ 0) ∧
    (∀ start size : Int64,
      (∃ refusal, ((Operation.fetchScope start size).perform statement).1 = .error refusal) ↔
        statement.purpose.forbids .paging = true ∨ start.toInt < 0 ∨ size.toInt ≤ 0 ∨
          Int64.maxValue.toInt < start.toInt + size.toInt) ∧
    (∀ page : Int64,
      (∃ refusal, ((Operation.fetchPage page).perform statement).1 = .error refusal) ↔
        statement.purpose.forbids .paging = true ∨
          (∀ operation ∈ operations, operation.rows? = none) ∨
          Int64.maxValue.toInt < rows.start + rows.size * max page.toInt 1) ∧
    ∀ suppressed, ((Operation.suppressFetch suppressed).perform statement).1 = .ok () := by
  have reached := traced.reachable
  have counted := reached.windowed.counted
  have shows := traced.shows_told
  have starts := counted.page_start
  have stops := counted.page_stop
  rw [shows.start, shows.size, shows.page] at starts stops
  refine ⟨⟨shows.start, shows.size, shows.page, shows.isSet, shows.suppressed⟩,
    ⟨?_, ?_, shows.filled_iff counted⟩, ⟨?_, ?_, starts, stops, fun window shown => ?_⟩,
    fetch_first_refused_iff reached, fetch_scope_refused_iff reached, fun page => ?_, fun _ => rfl⟩
  · rw [← shows.start]
    exact counted.start
  · rw [← shows.page]
    exact counted.page
  · rw [← shows.page]
    exact counted.pages_before
  · rw [← shows.size, ← shows.page]
    exact counted.rows_before
  · unfold window? at shown
    split_ifs at shown
    obtain rfl := Option.some.inj shown
    exact stops
  · rw [fetch_page_refused_iff reached, shows.start, shows.size, shows.unfilled_iff counted]

/-- Pages of ten members, of which an empty one, one that cannot be counted and one before the first
member are refused. -/
def pagedRun : List Operation :=
  [.fetchScope 5 10, .fetchFirst 0, .fetchPage 3, .fetchPage 922337203685477581,
    .suppressFetch true, .fetchScope (-1) 10]

theorem paged_run_traced : Traced memberSchema (newMember.afterAll pagedRun)
    [.fetchScope 5 10, .fetchPage 3, .suppressFetch true] := by
  have created : Traced memberSchema newMember [] :=
    .new (show ofTable memberSchema {} "MEMBER" .normalUse = .ok newMember from rfl)
  have sized : Traced memberSchema _ [.fetchScope 5 10] := .accepted created rfl
  have empty : ((Operation.fetchFirst 0).perform (newMember.after (.fetchScope 5 10))).1 =
      .error (.illegalArgument (.fetchSize 0)) := rfl
  have turned : Traced memberSchema _ [.fetchScope 5 10, .fetchPage 3] :=
    .accepted (.refused sized empty) rfl
  have beyond : ((Operation.fetchPage 922337203685477581).perform
      (newMember.afterAll [.fetchScope 5 10, .fetchFirst 0, .fetchPage 3])).1 =
      .error (.illegalArgument (.pageRange 922337203685477581 10 5)) := rfl
  have suppressed : Traced memberSchema _ [.fetchScope 5 10, .fetchPage 3, .suppressFetch true] :=
    .accepted (.refused turned beyond) rfl
  have early : ((Operation.fetchScope (-1) 10).perform
      (newMember.afterAll (pagedRun.take 5))).1 =
      .error (.illegalArgument (.fetchStart (-1))) := rfl
  exact .refused suppressed early

theorem third_page_told :
    let member := newMember.afterAll pagedRun
    (member.fetch.pageStart.toInt = 25 ∧ member.fetch.pageStop.toInt = 35 ∧
      member.fetch.isSuppressed = true) ∧
    ((Operation.fetchPage 922337203685477580).perform member).1 = .ok () ∧
      ∃ refusal, ((Operation.fetchPage 922337203685477581).perform member).1 = .error refusal := by
  have told := window_of_history paged_run_traced
  dsimp only at told
  obtain ⟨⟨_, _, _, _, suppressed⟩, _, ⟨_, _, starts, stops, _⟩, _, _, pages, _⟩ := told
  refine ⟨⟨starts, stops, suppressed⟩, ?_, (pages _).mpr (.inr (.inr (by decide)))⟩
  by_contra fails
  rcases (pages _).mp ((refused_iff_not_accepted _).mpr fails) with forbidden | rowless | beyond
  · cases forbidden
  · cases rowless _ List.mem_cons_self
  · exact absurd beyond (by decide)

end Statement
end SqlComposer
