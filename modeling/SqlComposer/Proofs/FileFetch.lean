import SqlComposer.Proofs.FileStatement
import SqlComposer.Proofs.PageHistory
import SqlComposer.Proofs.Window

/-!
The rows that a query file fetches. A file asks for them through the first rows or through a range,
as its start says, and a start before the first row is taken as the first one, where a statement
that is asked for the range refuses it. Apart from that both answer alike, refusals included: what
comes after the rows in a file neither reads the window nor changes it.
-/
namespace SqlComposer

namespace FetchScope

/-- The page that a number means: every number before the first page means the first one. -/
def pageOf (asked : Int64) : Int64 := if asked < 1 then 1 else asked

end FetchScope

namespace QueryFile

variable {α β : Type}

def withRows (file : QueryFile) (rows? : Option FetchEntry) : QueryFile :=
  { file with query := { file.query with fetch? := rows? } }

/-- Why a range is refused, if it is: first for its start, then for its size. -/
def rangeVerdict (start size : Int64) : Except ClauseError Unit := do
  if start < 0 then
    throw (.illegalArgument (.fetchStart start.toInt))
  if size ≤ 0 then
    throw (.illegalArgument (.fetchSize size.toInt))
  FetchScope.checkRange start size 1

namespace FetchEntry

/-- The registrations that an entry stands for: its range, then its page. -/
def asked (entry : FetchEntry) : Registration Unit := do
  Statement.fetchScope entry.start entry.size
  if let some page := entry.page? then
    Statement.fetchPage page

/-- What a statement becomes when it is asked for the rows of an entry. -/
def answer (entry : FetchEntry) (statement : Statement) : Except Problem Statement :=
  (register entry.asked statement).map Prod.snd

/-- The entry as a file reads it: a start that is not positive is the first row. -/
def started (entry : FetchEntry) : FetchEntry :=
  { entry with start := if entry.start > 0 then entry.start else 0 }

/-- There are rows on a page, and the position after the last one can be counted. -/
def Countable (entry : FetchEntry) : Prop :=
  0 < entry.size.toInt ∧
    max entry.start.toInt 0 + entry.size.toInt * max (entry.page?.getD 1).toInt 1 ≤
      Int64.maxValue.toInt

/-- The window of an entry, suppressed if the one before was. -/
def window (entry : FetchEntry) (before : FetchScope) : FetchScope :=
  { before with
    start := entry.start
    size := entry.size
    page := FetchScope.pageOf (entry.page?.getD 1)
    isSet := true }

/-- Why the rows of an entry are refused, if they are. -/
def verdict (entry : FetchEntry) : Except ClauseError Unit := do
  rangeVerdict entry.start entry.size
  if let some page := entry.page? then
    FetchScope.checkRange entry.start entry.size (FetchScope.pageOf page)

end FetchEntry

/-- A registration in a file goes as far as its first refusal, like its steps one after another. -/
theorem register_bind (first : Registration α) (next : α → Registration β)
    (statement : Statement) :
    register (first >>= next) statement =
      register first statement >>= fun ran => register (next ran.1) ran.2 := by
  have steps := Registration.outcome_bind first next statement
  unfold register Registration.outcome at *
  rw [steps]
  rcases Id.run (first.run statement) with ⟨refusal | value, changed⟩
  · rfl
  · rfl

theorem register_of_completes {registration : Registration Unit} {before after : Statement}
    (completes : registration.Completes before fun _ reached => reached = after) :
    register registration before = .ok ((), after) := by
  obtain ⟨_, _, ran, rfl⟩ := completes
  exact register_built.mpr ran

variable {statement : Statement}

theorem register_allowed {restricted : Restricted} {next : Unit → Registration α}
    (allowed : statement.purpose.forbids restricted = false) :
    register (Registration.allow restricted >>= next) statement =
      register (next ()) statement := by
  have passes := Registration.outcome_allow restricted statement
  rw [allowed] at passes
  have goes : register (Registration.allow restricted) statement = .ok ((), statement) :=
    register_built.mpr passes
  rw [register_bind, goes]
  rfl

theorem register_get {next : Statement → Registration α} :
    register (get >>= next) statement = register (next statement) statement := rfl

theorem register_refusing {refused : Prop} [Decidable refused] {cause : ClauseError}
    {next : Unit → Registration α} :
    register (if refused then throw cause >>= next else next ()) statement =
      if refused then .error (.clause cause) else register (next ()) statement := by
  split_ifs
  · rfl
  · rfl

theorem register_lift {given : Except ClauseError β} {next : β → Registration α} :
    register (liftM given >>= next) statement =
      given.mapError Problem.clause >>= fun value => register (next value) statement := by
  cases given with
  | error cause => rfl
  | ok value => rfl

/-- A range is refused for its start, its size or its count, in this order. -/
theorem scope_registered (allowed : statement.purpose.forbids .paging = false)
    (start size : Int64) :
    register (Statement.fetchScope start size) statement =
      ((rangeVerdict start size).mapError Problem.clause).map fun _ => ((), statement.withFetch
        { statement.fetch with start, size, page := 1, isSet := true }) := by
  by_cases early : start < 0
  · rw [Statement.fetchScope, register_allowed allowed, register_refusing, rangeVerdict,
      if_pos early, if_pos early]
    rfl
  by_cases empty : size ≤ 0
  · rw [Statement.fetchScope, register_allowed allowed, register_refusing, register_refusing,
      rangeVerdict, if_neg early, if_neg early, if_pos empty, if_pos empty]
    rfl
  by_cases range : FetchScope.checkRange start size 1 = .ok ()
  · have accepted := Statement.fetch_scope_completes allowed early empty range
    rw [register_of_completes accepted, rangeVerdict, if_neg early, if_neg empty, range]
    rfl
  · obtain ⟨cause, refused⟩ := (Statement.refused_iff_not_accepted _).mpr range
    rw [Statement.fetchScope, register_allowed allowed, register_refusing, register_refusing,
      register_lift, rangeVerdict, if_neg early, if_neg early, if_neg empty, if_neg empty, refused]
    rfl

theorem page_registered (allowed : statement.purpose.forbids .paging = false)
    (filled : ¬ statement.fetch.size ≤ 0) (page : Int64) :
    register (Statement.fetchPage page) statement =
      ((FetchScope.checkRange statement.fetch.start statement.fetch.size
        (FetchScope.pageOf page)).mapError Problem.clause).map fun _ => ((), statement.withFetch
          { statement.fetch with page := FetchScope.pageOf page, isSet := true }) := by
  have turned : FetchScope.pageOf page = if page < 1 then 1 else page := rfl
  by_cases range : FetchScope.checkRange statement.fetch.start statement.fetch.size
      (FetchScope.pageOf page) = .ok ()
  · rw [register_of_completes (Statement.fetch_page_completes allowed filled turned range), range]
    rfl
  · obtain ⟨cause, refused⟩ := (Statement.refused_iff_not_accepted _).mpr range
    rw [Statement.fetchPage, register_allowed allowed, register_get, register_refusing,
      if_neg filled]
    dsimp only
    rw [← turned, register_lift, refused]
    rfl

/-- The first rows are the range that starts with the first row. -/
theorem first_registered (allowed : statement.purpose.forbids .paging = false) (size : Int64) :
    register (Statement.fetchFirst size) statement =
      register (Statement.fetchScope 0 size) statement := by
  have early : ¬ (0 : Int64) < 0 := by decide
  rw [scope_registered allowed, rangeVerdict, if_neg early]
  by_cases empty : size ≤ 0
  · rw [Statement.fetchFirst, register_allowed allowed, if_pos empty, if_pos empty]
    rfl
  · have counted : FetchScope.checkRange 0 size 1 = .ok () := by
      have begins : 0 ≤ (0 : Int64).toInt := by decide
      have none : (0 : Int64).toInt = 0 := by decide
      rw [Statement.check_first_page_iff begins (FetchScope.pos_of_not_le empty), none,
        Int.zero_add]
      exact Int64.toInt_le size
    rw [register_of_completes (Statement.fetch_first_completes allowed empty), if_neg empty,
      counted]
    rfl

namespace FetchEntry

theorem verdict_of_page {entry : FetchEntry} {page : Int64} (paged : entry.page? = some page) :
    entry.verdict = rangeVerdict entry.start entry.size >>= fun _ =>
      FetchScope.checkRange entry.start entry.size (FetchScope.pageOf page) := by
  rw [verdict, paged]

theorem verdict_of_no_page {entry : FetchEntry} (unpaged : entry.page? = none) :
    entry.verdict = rangeVerdict entry.start entry.size >>= fun _ => .ok () := by
  rw [verdict, unpaged]
  rfl

theorem range_verdict_ok_iff (start size : Int64) :
    rangeVerdict start size = .ok () ↔ 0 ≤ start.toInt ∧ 0 < size.toInt ∧
      start.toInt + size.toInt ≤ Int64.maxValue.toInt := by
  by_cases early : start < 0
  · rw [rangeVerdict, if_pos early]
    constructor
    · intro accepted
      cases accepted
    · rintro ⟨begins, _⟩
      exact absurd early (FetchScope.not_lt_of_nonneg begins)
  by_cases empty : size ≤ 0
  · rw [rangeVerdict, if_neg early, if_pos empty]
    constructor
    · intro accepted
      cases accepted
    · rintro ⟨_, filled, _⟩
      exact absurd empty (FetchScope.not_le_of_pos filled)
  have begins := FetchScope.nonneg_of_not_lt early
  have filled := FetchScope.pos_of_not_le empty
  rw [rangeVerdict, if_neg early, if_neg empty]
  change FetchScope.checkRange start size 1 = .ok () ↔ _
  rw [Statement.check_first_page_iff begins filled]
  exact ⟨fun fits => ⟨begins, filled, fits⟩, fun given => given.2.2⟩

/-- Where a page can be counted, so can the first one. -/
theorem page_counted_iff {start size page : Int64} :
    (rangeVerdict start size = .ok () ∧
        FetchScope.checkRange start size (FetchScope.pageOf page) = .ok ()) ↔
      0 ≤ start.toInt ∧ 0 < size.toInt ∧
        start.toInt + size.toInt * max page.toInt 1 ≤ Int64.maxValue.toInt := by
  have turned : (FetchScope.pageOf page).toInt = max page.toInt 1 := Statement.max_of_page page
  have least : Int64.minValue.toInt ≤ 0 := by decide
  rw [range_verdict_ok_iff, FetchScope.check_range_ok_iff, FetchScope.fits_iff,
    FetchScope.fits_iff, turned]
  constructor
  · rintro ⟨⟨begins, filled, _⟩, _, _, fits⟩
    exact ⟨begins, filled, by omega⟩
  · rintro ⟨begins, filled, fits⟩
    have first : 1 ≤ max page.toInt 1 := Int.le_max_right _ _
    have rows := Int.mul_le_mul_of_nonneg_left first (Int.le_of_lt filled)
    rw [Int.mul_one] at rows
    refine ⟨⟨begins, filled, ?_⟩, ⟨?_, ?_⟩, ?_, ?_⟩
    all_goals omega

/-- An entry is accepted when it starts with a row and its page can be counted. -/
theorem verdict_ok_iff (entry : FetchEntry) :
    entry.verdict = .ok () ↔ 0 ≤ entry.start.toInt ∧ entry.Countable := by
  unfold Countable
  have started : 0 ≤ entry.start.toInt → max entry.start.toInt 0 = entry.start.toInt :=
    Int.max_eq_left
  cases paged : entry.page? with
  | none =>
      have one : max (1 : Int64).toInt 1 = 1 := rfl
      rw [verdict_of_no_page paged, bind_eq_ok_iff, Option.getD_none, one, Int.mul_one]
      have answered := range_verdict_ok_iff entry.start entry.size
      constructor
      · rintro ⟨_, range, _⟩
        rcases answered.mp range with ⟨begins, filled, fits⟩
        rw [started begins]
        exact ⟨begins, filled, fits⟩
      · rintro ⟨begins, filled, fits⟩
        rw [started begins] at fits
        exact ⟨(), answered.mpr ⟨begins, filled, fits⟩, rfl⟩
  | some page =>
      rw [verdict_of_page paged, bind_eq_ok_iff, Option.getD_some]
      constructor
      · rintro ⟨_, range, fits⟩
        rcases page_counted_iff.mp ⟨range, fits⟩ with ⟨begins, counted⟩
        rw [started begins]
        exact ⟨begins, counted⟩
      · rintro ⟨begins, counted⟩
        rw [started begins] at counted
        rcases page_counted_iff.mpr ⟨begins, counted⟩ with ⟨range, fits⟩
        exact ⟨(), range, fits⟩

/-- A statement that may be paged gives the same answer to an entry whatever it is. -/
theorem asked_registered {statement : Statement}
    (allowed : statement.purpose.forbids .paging = false) (entry : FetchEntry) :
    register entry.asked statement = (entry.verdict.mapError Problem.clause).map fun _ =>
      ((), statement.withFetch (entry.window statement.fetch)) := by
  unfold asked window
  rw [register_bind, scope_registered allowed]
  by_cases range : rangeVerdict entry.start entry.size = .ok ()
  · cases paged : entry.page? with
    | none =>
        rw [verdict_of_no_page paged, range]
        rfl
    | some page =>
        have filled := ((range_verdict_ok_iff _ _).mp range).2.1
        let sized := statement.withFetch { statement.fetch with
          start := entry.start, size := entry.size, page := 1, isSet := true }
        have turned := @page_registered sized allowed (FetchScope.not_le_of_pos filled) page
        rw [verdict_of_page paged, range]
        exact turned
  · obtain ⟨cause, refused⟩ := (Statement.refused_iff_not_accepted _).mpr range
    rw [verdict, refused]
    rfl

/-- A file asks for the rows of an entry with the start as it reads it. -/
theorem add_fetch_registered {statement : Statement}
    (allowed : statement.purpose.forbids .paging = false) (entry : FetchEntry) :
    addFetch entry statement = register entry.started.asked statement := by
  unfold addFetch asked started
  dsimp only
  rw [register_bind]
  split_ifs with positive
  · cases entry.page? with
    | none => rfl
    | some page => rfl
  · rw [← first_registered allowed]
    cases entry.page? with
    | none => rfl
    | some page => rfl

theorem started_start (entry : FetchEntry) :
    entry.started.start.toInt = max entry.start.toInt 0 := by
  have none : (0 : Int64).toInt = 0 := by decide
  unfold started
  dsimp only
  split_ifs with positive
  · have begins := Int64.lt_iff_toInt_lt.mp positive
    omega
  · have before := positive
    rw [gt_iff_lt, Int64.lt_iff_toInt_lt] at before
    omega

theorem started_countable (entry : FetchEntry) : entry.started.Countable ↔ entry.Countable := by
  have begins : max (max entry.start.toInt 0) 0 = max entry.start.toInt 0 := by omega
  unfold Countable
  rw [started_start, begins]
  exact Iff.rfl

theorem started_of_nonneg {entry : FetchEntry} (begins : 0 ≤ entry.start.toInt) :
    entry.started = entry := by
  have same : entry.started.start = entry.start := by
    rw [← Int64.toInt_inj, started_start]
    omega
  rcases entry with ⟨size, start, page?⟩
  simp only [started] at same
  rw [started, same]

end FetchEntry

def beforeRows (schema : Schema) (settings : Settings) (query : Query) : Building Unit := do
  query.parameters.forM addParameter
  let joins ← addJoins OrderedMap.empty 0 query.joins
  query.columns.forM (addColumn joins)
  query.conditions.forM (addCondition joins)
  query.orScopes.forM (addOrScope joins)
  query.unions.forM (addUnion schema settings query.table)
  query.orders.forM (addOrder joins)

theorem add_query_eq (schema : Schema) (settings : Settings) (query : Query) :
    addQuery schema settings query = beforeRows schema settings query >>= fun _ =>
      query.fetch?.forM addFetch >>= fun _ => afterRows query := by
  unfold beforeRows
  simp only [bind_assoc]
  rfl

/-- A step neither reads the window nor changes it. -/
def Windowless (step : Building Unit) : Prop :=
  ∀ statement fetch, step (statement.withFetch fetch) =
    (step statement).map fun ran => (ran.1, ran.2.withFetch fetch)

theorem Windowless.bind {first : Building Unit} {next : Unit → Building Unit}
    (here : Windowless first) (later : ∀ value, Windowless (next value)) :
    Windowless (first >>= next) := by
  intro statement fetch
  change first (statement.withFetch fetch) >>= (fun ran => next ran.1 ran.2) =
    (first statement >>= fun ran => next ran.1 ran.2).map _
  rw [here]
  cases first statement with
  | error problem => rfl
  | ok ran => exact later ran.1 ran.2 fetch

theorem lock_windowless : Windowless (register Statement.lock) := by
  intro statement fetch
  rw [Statement.lock, register_get, register_get, register_lift, register_lift]
  change (statement.dialect.lock statement.baseAlias).mapError Problem.clause >>= _ = _
  cases statement.dialect.lock statement.baseAlias with
  | error cause => rfl
  | ok text => rfl

theorem kind_windowless (word? : Option String) : Windowless (asKind word?) := by
  intro statement fetch
  cases word? with
  | none => rfl
  | some word =>
      unfold asKind
      dsimp only
      cases selectType word with
      | error problem => rfl
      | ok type => rfl

theorem after_rows_windowless (query : Query) : Windowless (afterRows query) := by
  unfold afterRows
  split_ifs
  · exact lock_windowless.bind fun _ => kind_windowless query.select?
  · exact kind_windowless query.select?

def prepared (file : QueryFile) (settings : Settings) : Except Problem Statement := do
  if file.query.isDelete && file.query.update?.isSome then
    throw .updateAndDelete
  let start ← (Statement.ofTable file.schema settings file.query.table .normalUse).mapError
    Problem.clause
  let ((), ordered) ← (beforeRows file.schema settings file.query).run start
  return ordered

theorem statement_eq (file : QueryFile) (settings : Settings) :
    file.statement settings = do
      let ordered ← file.prepared settings
      let ran ← (file.query.fetch?.forM addFetch : Building Unit) ordered
      let last ← afterRows file.query ran.2
      return last.2 := by
  unfold QueryFile.statement prepared
  rw [add_query_eq]
  dsimp only
  split_ifs
  · rfl
  cases Statement.ofTable file.schema settings file.query.table .normalUse with
  | error cause => rfl
  | ok start =>
      change (beforeRows file.schema settings file.query start >>= fun ran => _) >>= _ =
        (beforeRows file.schema settings file.query start >>= _) >>= _
      cases beforeRows file.schema settings file.query start with
      | error problem => rfl
      | ok ran =>
          change ((file.query.fetch?.forM addFetch : Building Unit) ran.2 >>= fun fetched =>
            afterRows file.query fetched.2) >>= _ = _
          rw [bind_assoc]
          rfl

theorem statement_of_rows (file : QueryFile) (settings : Settings) (rows? : Option FetchEntry) :
    (file.withRows rows?).statement settings = do
      let ordered ← file.prepared settings
      let ran ← (rows?.forM addFetch : Building Unit) ordered
      let last ← afterRows file.query ran.2
      return last.2 := by
  rw [statement_eq]
  rfl

theorem purpose_after_lock {before after : Statement}
    (ran : register Statement.lock before = .ok ((), after)) : after.purpose = before.purpose := by
  rw [Statement.lock, register_get, register_lift] at ran
  rcases bind_eq_ok ran with ⟨_, _, set⟩
  cases set
  rfl

theorem purpose_after_kind {word? : Option String} {before after : Statement}
    (ran : asKind word? before = .ok ((), after)) : after.purpose = before.purpose := by
  cases word? with
  | none =>
      cases ran
      rfl
  | some word =>
      rcases bind_lift_built.mp ran with ⟨type, _, set⟩
      cases set
      rfl

theorem purpose_after_rows {query : Query} {before after : Statement}
    (ran : afterRows query before = .ok ((), after)) : after.purpose = before.purpose := by
  unfold afterRows at ran
  split_ifs at ran
  · rcases bind_built.mp ran with ⟨_, locked, first, later⟩
    exact (purpose_after_kind later).trans (purpose_after_lock first)
  · exact purpose_after_kind ran

theorem purpose_of_file {file : QueryFile} {settings : Settings} {built : Statement}
    (ran : file.statement settings = .ok built) : built.purpose = .normalUse := by
  rcases file_described ran with ⟨start, _, _, created, described⟩
  rcases Statement.create_eq_ok created with ⟨table, _, rfl⟩
  exact described.continues.origin.purpose

/-- Answers that are accepted together, with one window. -/
structure SamePaging (first second : Except Problem Statement) : Prop where
  accepted : (∃ statement, first = .ok statement) ↔ ∃ statement, second = .ok statement
  fetch : ∀ statement other, first = .ok statement → second = .ok other →
    statement.fetch = other.fetch

theorem same_paging_self (result : Except Problem Statement) : SamePaging result result := by
  apply SamePaging.mk Iff.rfl
  intro statement other here there
  rw [here] at there
  rw [Except.ok.inj there]

variable {file : QueryFile} {settings : Settings} {plain : Statement}

theorem prepared_of_plain (valid : (file.withRows none).statement settings = .ok plain) :
    ∃ ordered, file.prepared settings = .ok ordered ∧
      afterRows file.query ordered = .ok ((), plain) := by
  rw [statement_of_rows] at valid
  rcases bind_eq_ok valid with ⟨ordered, prepared, after⟩
  rcases bind_eq_ok after with ⟨⟨_, same⟩, unasked, rest⟩
  obtain rfl : same = ordered := (pure_built.mp unasked).2
  rcases bind_eq_ok rest with ⟨⟨_, last⟩, later, built⟩
  obtain rfl : plain = last := pure_ok_iff.mp built
  exact ⟨same, prepared, later⟩

/-- A file answers to an entry as its statement without rows does to what the file reads in it. -/
theorem statement_with_rows (valid : (file.withRows none).statement settings = .ok plain)
    (entry : FetchEntry) :
    (file.withRows (some entry)).statement settings = entry.started.answer plain := by
  rcases prepared_of_plain valid with ⟨ordered, prepared, later⟩
  have windowless := after_rows_windowless file.query ordered
  -- What comes after the rows leaves a window alone that is put in its own place.
  have kept : plain.fetch = ordered.fetch := by
    have again := windowless ordered.fetch
    rw [later] at again
    exact congrArg (fun ran => ran.2.fetch) (Except.ok.inj (later.symm.trans again))
  have allowed : plain.purpose.forbids .paging = false := by
    rw [purpose_of_file valid]
    rfl
  have before : ordered.purpose.forbids .paging = false := by
    rw [← purpose_after_rows later]
    exact allowed
  rw [statement_of_rows, prepared]
  change (addFetch entry ordered >>= fun ran => afterRows file.query ran.2 >>= _) = _
  rw [FetchEntry.add_fetch_registered before, FetchEntry.answer,
    FetchEntry.asked_registered before, FetchEntry.asked_registered allowed, kept]
  cases entry.started.verdict with
  | error cause => rfl
  | ok done =>
      change (afterRows file.query (ordered.withFetch (entry.started.window ordered.fetch)) >>=
        fun last => Except.ok last.2) = _
      rw [windowless, later]
      rfl

/-- What a statement answers to an entry: its rows, when they start with a row and can be counted.
-/
theorem answer_ok_iff (allowed : plain.purpose.forbids .paging = false) (entry : FetchEntry)
    (after : Statement) :
    entry.answer plain = .ok after ↔ 0 ≤ entry.start.toInt ∧ entry.Countable ∧
      after = plain.withFetch (entry.window plain.fetch) := by
  rw [← and_assoc, ← FetchEntry.verdict_ok_iff, FetchEntry.answer,
    FetchEntry.asked_registered allowed]
  cases entry.verdict with
  | error cause => simp [Except.mapError, Except.map]
  | ok done => simp [Except.mapError, Except.map, eq_comm]

theorem answer_of_early (allowed : plain.purpose.forbids .paging = false) {entry : FetchEntry}
    (early : entry.start.toInt < 0) :
    entry.answer plain = .error (.clause (.illegalArgument (.fetchStart entry.start.toInt))) := by
  have before : entry.start < 0 := Int64.lt_iff_toInt_lt.mpr early
  rw [FetchEntry.answer, FetchEntry.asked_registered allowed, FetchEntry.verdict, rangeVerdict,
    if_pos before]
  rfl

/-- A file and the registrations that its rows stand for give one answer, refusals included, when
the rows start with a row; a start before that is read as the first row, where a statement refuses
it. So they part for the starts before the first row whose rows can be counted otherwise. -/
theorem fetch_section_agrees_iff (file : QueryFile) (settings : Settings) {plain : Statement}
    (valid : (file.withRows none).statement settings = .ok plain) (entry : FetchEntry) :
    (0 ≤ entry.start.toInt →
      (file.withRows (some entry)).statement settings = entry.answer plain) ∧
    (entry.start.toInt < 0 →
      (file.withRows (some entry)).statement settings = { entry with start := 0 }.answer plain ∧
      entry.answer plain =
        .error (.clause (.illegalArgument (.fetchStart entry.start.toInt)))) ∧
    (∀ after, entry.answer plain = .ok after ↔ 0 ≤ entry.start.toInt ∧ entry.Countable ∧
      after = plain.withFetch (entry.window plain.fetch)) ∧
    (SamePaging ((file.withRows (some entry)).statement settings) (entry.answer plain) ↔
      0 ≤ entry.start.toInt ∨ ¬ entry.Countable) := by
  have allowed : plain.purpose.forbids .paging = false := by
    rw [purpose_of_file valid]
    rfl
  have built := statement_with_rows valid entry
  have answers := answer_ok_iff allowed entry
  refine ⟨fun begins => ?_, fun early => ⟨?_, answer_of_early allowed early⟩, answers, ?_⟩
  · rw [built, FetchEntry.started_of_nonneg begins]
  · have unstarted : ¬ entry.start > 0 := by
      rw [gt_iff_lt, Int64.lt_iff_toInt_lt]
      exact Int.not_lt.mpr (Int.le_of_lt early)
    rw [built, FetchEntry.started, if_neg unstarted]
  rw [built]
  have begins : 0 ≤ entry.started.start.toInt := by
    rw [FetchEntry.started_start]
    exact Int.le_max_right _ _
  have accepts := answer_ok_iff allowed entry.started
  rw [FetchEntry.started_countable] at accepts
  constructor
  · intro same
    by_contra apart
    rw [not_or, not_not] at apart
    rcases same.accepted.mp ⟨_, (accepts _).mpr ⟨begins, apart.2, rfl⟩⟩ with ⟨after, accepted⟩
    exact apart.1 ((answers after).mp accepted).1
  · rintro (started | uncounted)
    · rw [FetchEntry.started_of_nonneg started]
      exact same_paging_self _
    · constructor
      · constructor
        · rintro ⟨after, accepted⟩
          exact absurd ((accepts after).mp accepted).2.1 uncounted
        · rintro ⟨after, accepted⟩
          exact absurd ((answers after).mp accepted).2.1 uncounted
      · intro statement other accepted _
        exact absurd ((accepts statement).mp accepted).2.1 uncounted

theorem invited_without_rows :
    ∃ plain, (invitedFile.withRows none).statement {} = .ok plain := by
  have accepted : ((invitedFile.withRows none).statement {}).toBool = true := by decide +kernel
  exact ok_of_to_bool accepted

/-- The third page of ten members after the first five. -/
theorem third_invited_page :
    ∃ plain, (invitedFile.withRows none).statement {} = .ok plain ∧
      (invitedFile.withRows (some ⟨10, 5, some 3⟩)).statement {} =
        .ok (plain.withFetch ⟨5, 10, 3, true, plain.fetch.isSuppressed⟩) := by
  rcases invited_without_rows with ⟨plain, valid⟩
  rcases fetch_section_agrees_iff invitedFile {} valid ⟨10, 5, some 3⟩ with ⟨alike, _, answers, _⟩
  refine ⟨plain, valid, ?_⟩
  rw [alike (by decide)]
  exact (answers _).mpr ⟨by decide, ⟨by decide, by decide⟩, rfl⟩

/-- A file whose rows start one before the first is accepted, and the range that they stand for is
not. -/
theorem early_start_parts :
    ∃ plain, (invitedFile.withRows none).statement {} = .ok plain ∧
      (∃ built, (invitedFile.withRows (some ⟨10, -1, none⟩)).statement {} = .ok built ∧
        built.fetch.start = 0) ∧
      ¬ SamePaging ((invitedFile.withRows (some ⟨10, -1, none⟩)).statement {})
        (FetchEntry.answer ⟨10, -1, none⟩ plain) := by
  rcases invited_without_rows with ⟨plain, valid⟩
  have allowed : plain.purpose.forbids .paging = false := by
    rw [purpose_of_file valid]
    rfl
  have refused := @answer_of_early plain allowed ⟨10, -1, none⟩ (by decide)
  have built := statement_with_rows valid ⟨10, -1, none⟩
  have accepted := (answer_ok_iff allowed (FetchEntry.started ⟨10, -1, none⟩) _).mpr
    ⟨by decide, ⟨by decide, by decide⟩, rfl⟩
  rw [accepted] at built
  refine ⟨plain, valid, ⟨_, built, rfl⟩, ?_⟩
  intro same
  rcases same.accepted.mp ⟨_, built⟩ with ⟨after, answered⟩
  rw [refused] at answered
  cases answered

end QueryFile
end SqlComposer
