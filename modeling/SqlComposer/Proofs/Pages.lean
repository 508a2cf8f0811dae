import SqlComposer.Proofs.FetchRange
import SqlComposer.Proofs.RowFilter
import SqlComposer.Proofs.Window

/-!
The pages of a select. The texts of a window tell which rows a statement keeps, and its reader skips
and counts rows only where they cannot. Both together leave the rows of the page in every dialect,
so that pages that are turned one after another miss no row and repeat none.
-/
namespace SqlComposer

theorem extract_append_extract {α : Type} {first middle last : Nat} (rows : List α)
    (before : first ≤ middle) (behind : middle ≤ last) :
    rows.extract first middle ++ rows.extract middle last = rows.extract first last := by
  obtain ⟨few, rfl⟩ := Nat.exists_eq_add_of_le before
  obtain ⟨more, rfl⟩ := Nat.exists_eq_add_of_le behind
  have whole : first + few + more - first = few + more := by omega
  simp only [List.extract_eq_take_drop]
  rw [whole, List.take_add, List.drop_drop, Nat.add_sub_cancel_left, Nat.add_sub_cancel_left]

namespace Statement

variable {α : Type}

/-- The rows that a reader takes of those that the statement keeps. -/
def readRows (statement : Statement) (rows : List α) : List α :=
  let rest := rows.drop statement.rowsToSkip.toInt.toNat
  match statement.rowsToTake? with
  | some count => rest.take count.toInt.toNat
  | none => rest

/-- What is fetched of the rows that the statement has without its window, if the texts of the
window can be read. -/
def fetched? (statement : Statement) (rows : List α) : Option (List α) :=
  (RowFilter.of? statement.paging).map fun filter => statement.readRows (filter.apply rows)

/-- What is fetched of the rows when as many pages as asked for are turned, from one page on. -/
def turned? (rows : List α) (statement : Statement) (page : Nat) : Nat → Option (List α)
  | 0 => some []
  | count + 1 =>
    match (Operation.fetchPage (Int64.ofNat page)).perform statement with
    | (.error _, _) => none
    | (.ok (), turned) => do
      let shown ← turned.fetched? rows
      let rest ← turned? rows turned (page + 1) count
      return shown ++ rest

/-- A select of columns that shows a page of its rows. -/
structure Paged (statement : Statement) (start size page : Nat) : Prop where
  listed : statement.selectType = .columns
  windowed : statement.fetch.isEffective = true
  allowed : statement.purpose.forbids .paging = false
  counted : statement.fetch.Counted
  starts : statement.fetch.start.toInt = start
  sizes : statement.fetch.size.toInt = size
  pages : statement.fetch.page.toInt = page
  filled : 0 < size
  first : 0 < page

theorem paged_of_reachable {schema : Schema} {statement : Statement}
    (reached : Reachable schema statement) (listed : statement.selectType = .columns)
    (windowed : statement.fetch.isEffective = true) :
    ∃ start size page, statement.Paged start size page := by
  have isSet := ((Bool.and_eq_true _ _).mp windowed).1
  obtain ⟨counted, allowed⟩ := reached.windowed
  obtain ⟨start, starts⟩ := Int.eq_ofNat_of_zero_le counted.start
  obtain ⟨size, sizes⟩ := Int.eq_ofNat_of_zero_le counted.size
  obtain ⟨page, pages⟩ := Int.eq_ofNat_of_zero_le (Int.le_trans (by decide) counted.page)
  have filled := counted.filled isSet
  have first := counted.page
  exact ⟨start, size, page, listed, windowed, allowed isSet, counted, starts, sizes, pages,
    by omega, by omega⟩

variable {statement : Statement} {start size page : Nat}

theorem Paged.first_row (paged : statement.Paged start size page) :
    statement.fetch.pageStart.toInt = (start + size * (page - 1) : Nat) := by
  have before : ((page - 1 : Nat) : Int) = page - 1 := Int.ofNat_sub paged.first
  rw [paged.counted.page_start, paged.starts, paged.sizes, paged.pages, Int.natCast_add,
    Int.natCast_mul, before]

/-- The reader skips and counts rows where the statement does not keep those of the page alone. -/
theorem Paged.read_rows (paged : statement.Paged start size page) (rows : List α) :
    let first := start + size * (page - 1)
    statement.readRows
        (if statement.dialect.limitsRows then rows.extract first (first + size) else rows) =
      rows.extract first (first + size) := by
  intro first
  have same : statement.dialect.skipsRows = statement.dialect.limitsRows := by
    cases statement.dialect <;> rfl
  cases native : statement.dialect.limitsRows with
  | true =>
      have none : statement.rowsToSkip = 0 ∧ statement.rowsToTake? = .none := by
        simp [rowsToSkip, rowsToTake?, same, native]
      rw [if_pos rfl, readRows, none.1, none.2]
      rfl
  | false =>
      have skips : statement.rowsToSkip = statement.fetch.pageStart := by
        simp [rowsToSkip, paged.windowed, same, native]
      have takes : statement.rowsToTake? = some statement.fetch.size := by
        simp [rowsToTake?, paged.windowed, native]
      rw [if_neg Bool.false_ne_true, readRows, skips, takes, paged.first_row,
        List.extract_eq_take_drop, Nat.add_sub_cancel_left]
      dsimp only
      rw [paged.sizes, Int.toNat_natCast, Int.toNat_natCast]

/-- A select fetches the rows of its page, whatever the dialect is. -/
theorem Paged.fetched (paged : statement.Paged start size page) (rows : List α) :
    statement.fetched? rows =
      some (rows.extract (start + size * (page - 1)) (start + size * page)) := by
  let window : RowWindow :=
    ⟨statement.fetch.pageStart, statement.fetch.size, statement.isOrdered⟩
  have ends : start + size * page = start + size * (page - 1) + size := by
    have rows : size * page = size * (page - 1) + size := by
      rw [← Nat.mul_succ, Nat.succ_eq_add_one, Nat.sub_add_cancel paged.first]
    omega
  have stops : window.stop.toInt = (start + size * (page - 1) + size : Nat) := by
    rw [← ends, Int.natCast_add, Int.natCast_mul, ← paged.starts, ← paged.sizes, ← paged.pages]
    exact paged.counted.page_stop
  have begins : window.start.toInt = (start + size * (page - 1) : Nat) := paged.first_row
  obtain ⟨filter, reads, keeps⟩ :=
    RowFilter.filter_of_window statement.dialect begins paged.sizes stops
  rw [fetched?, paging_of_window paged.listed paged.windowed, reads, Option.map_some, keeps,
    paged.read_rows, ends]

theorem Paged.turn (paged : statement.Paged start size page) {next : Int64}
    (first : 0 < next.toInt) (fits : start + size * next.toInt ≤ Int64.maxValue.toInt) :
    (Operation.fetchPage next).perform statement =
      (.ok (), statement.withFetch { statement.fetch with page := next, isSet := true }) := by
  rw [← paged.starts, ← paged.sizes, ← paged.counted.check_range_iff first] at fits
  have positive : ¬ statement.fetch.size ≤ 0 := by
    rw [Int64.le_iff_toInt_le, paged.sizes]
    exact Int.not_le.mpr (Int.natCast_pos.mpr paged.filled)
  have asked : next = if next < 1 then 1 else next :=
    (if_neg (FetchScope.not_before_first first)).symm
  obtain ⟨_, _, ran, rfl⟩ := fetch_page_completes paged.allowed positive asked fits
  exact ran

/-- A page is turned to if the position after its last row can be counted, and refused if not. -/
theorem Paged.turns_iff (paged : statement.Paged start size page) (scopes : statement.ScopesJoined)
    {next : Int64} (first : 0 < next.toInt) :
    ((Operation.fetchPage next).perform statement).1 = .ok () ↔
      start + size * next.toInt ≤ Int64.maxValue.toInt := by
  constructor
  · intro accepted
    have effect := effect_of_accepted scopes accepted
    generalize statement.after (.fetchPage next) = after at effect
    cases effect with
    | fetchPage _ _ counted fits =>
        rw [counted, if_neg (FetchScope.not_before_first first),
          paged.counted.check_range_iff first, paged.starts, paged.sizes] at fits
        exact fits
    | recorded recording => cases recording
  · intro fits
    rw [paged.turn first fits]

theorem Paged.next (paged : statement.Paged start size page) {next : Nat} (first : 0 < next)
    (fits : (start + size * next : Nat) ≤ Int64.maxValue.toInt) :
    ∃ turned, (Operation.fetchPage (Int64.ofNat next)).perform statement = (.ok (), turned) ∧
      turned.Paged start size next := by
  have rows := Nat.le_mul_of_pos_left next paged.filled
  have last : Int64.maxValue.toInt = 9223372036854775807 := rfl
  have pages : (Int64.ofNat next).toInt = next := Int64.toInt_ofNat_of_lt (by omega)
  have later : 0 < (Int64.ofNat next).toInt := by omega
  have room : start + size * (Int64.ofNat next).toInt ≤ Int64.maxValue.toInt := by
    rw [pages]
    exact_mod_cast fits
  refine ⟨_, paged.turn later room, ?_⟩
  have effective := paged.windowed
  have counted := paged.counted
  rw [FetchScope.isEffective, Bool.and_eq_true] at effective
  have filled : 0 < statement.fetch.size.toInt := by
    rw [paged.sizes]
    exact Int.natCast_pos.mpr paged.filled
  refine ⟨paged.listed, effective.2, paged.allowed, ?_, paged.starts, paged.sizes, pages,
    paged.filled, first⟩
  refine ⟨counted.start, counted.size, fun _ => filled, later, ?_⟩
  rw [← paged.starts, ← paged.sizes] at room
  exact room

/-- Pages that are turned one after another fetch the rows from the first one of the first page to
the last one of the last page. -/
theorem Paged.turned (paged : statement.Paged start size page) (rows : List α)
    {before count : Nat} (fits : (start + size * (before + count) : Nat) ≤ Int64.maxValue.toInt) :
    turned? rows statement (before + 1) count =
      some (rows.extract (start + size * before) (start + size * (before + count))) := by
  induction count generalizing statement page before with
  | zero =>
      rw [turned?, List.extract_eq_take_drop, Nat.add_zero, Nat.sub_self, List.take_zero]
  | succ count ih =>
      have shift : before + (count + 1) = before + 1 + count := by omega
      rw [shift] at fits ⊢
      have here : size * before ≤ size * (before + 1) := Nat.mul_le_mul_left size (Nat.le_succ _)
      have later : size * (before + 1) ≤ size * (before + 1 + count) :=
        Nat.mul_le_mul_left size (Nat.le_add_right _ _)
      have first : 0 < before + 1 := Nat.succ_pos before
      obtain ⟨turned, ran, next⟩ := paged.next first (by omega)
      have shown := next.fetched rows
      rw [Nat.add_sub_cancel] at shown
      rw [turned?, ran]
      dsimp only
      rw [shown, ih next fits]
      have joined := extract_append_extract rows (Nat.add_le_add_left here start)
        (Nat.add_le_add_left later start)
      exact congrArg some joined

def pagedSelect (statement : Statement) (columns : List SelectColumn) (order : String)
    (lock : LockText) (paging : PagingText) : String :=
  statement.listSelect columns paging.hint ++ statement.fromClause lock.hint ++
    statement.whereClause ++ (order ++ paging.suffix) ++ lock.suffix

theorem assembled_of_single (single : statement.hasUnion = false) (columns : List SelectColumn)
    (order : String) (lock : LockText) (paging : PagingText) :
    statement.assembled columns order lock paging =
      statement.pagedSelect columns order lock paging := by
  have none : statement.unions = [] := by
    rw [hasUnion, Bool.not_eq_false', List.isEmpty_iff] at single
    exact single
  have bare : ∀ select, statement.unionClause select = "" := by
    intro select
    rw [unionClause, none]
    rfl
  simp only [assembled, pagedSelect, single, Bool.false_and, Bool.false_eq_true, if_false, bare,
    String.append_empty, String.append_assoc]

theorem render_with_window (listed : statement.selectType = .columns)
    (single : statement.hasUnion = false) {sql : String} (rendered : statement.render = .ok sql) :
    ∃ columns order lock,
      statement.selectColumns = .ok columns ∧ statement.orderClause = .ok order ∧
        statement.lockText = .ok lock ∧
        SubQuery.layout (statement.pagedSelect columns order lock statement.paging) = .ok sql ∧
        (statement.after (.suppressFetch true)).render =
          SubQuery.layout (statement.pagedSelect columns order lock PagingText.none) := by
  obtain ⟨text, written, laid⟩ := bind_eq_ok rendered
  obtain ⟨columns, order, lock, selected, ordered, locked, marked⟩ :=
    marked_with_window listed written
  simp only [assembled_of_single single] at marked
  have here := marked statement.fetch
  change statement.marked = .ok (statement.pagedSelect columns order lock statement.paging) at here
  obtain rfl := Except.ok.inj (here.symm.trans written)
  refine ⟨columns, order, lock, selected, ordered, locked, laid, ?_⟩
  let whole : FetchScope := { statement.fetch with isSuppressed := true }
  have unbounded : whole.isEffective = false := Bool.and_false _
  have there := marked whole
  rw [paging_of_no_window statement unbounded] at there
  change (statement.withFetch whole).render = _
  rw [render_eq, there]
  rfl

/-- SQL Server has an offset right behind an order, which is made up if none is asked for. -/
theorem Paged.offset_ordered (paged : statement.Paged start size page)
    (known : statement.dialect = .sqlServer) (later : start + size * (page - 1) ≠ 0)
    {order : String} (written : statement.orderClause = .ok order) :
    ∃ keys, (statement.isOrdered = true → order = " order by " ++ keys) ∧
      (statement.isOrdered = false → order = "" ∧ keys = "(select null)") ∧
      order ++ statement.paging.suffix = " order by " ++ keys ++ " offset " ++
        toString (start + size * (page - 1)) ++ " rows fetch next " ++ toString size ++
          " rows only" := by
  have started : ¬ statement.fetch.pageStart = 0 := by
    intro zero
    have first := paged.first_row
    rw [zero] at first
    exact later (Int.natCast_eq_zero.mp first.symm)
  have offset : RowWindow.offsetFetch
      ⟨statement.fetch.pageStart, statement.fetch.size, statement.isOrdered⟩ =
        " offset " ++ toString (start + size * (page - 1)) ++ " rows fetch next " ++
          toString size ++ " rows only" := by
    rw [RowWindow.offsetFetch, paged.first_row, paged.sizes]
    rfl
  rw [paging_of_window paged.listed paged.windowed, known, Dialect.paging, if_neg started]
  dsimp only
  rw [offset]
  cases ordered : statement.isOrdered with
  | true =>
      obtain ⟨_, texts, _, _, rfl⟩ := order_clause_of_ordered ordered written
      refine ⟨Text.join ", " texts, fun _ => rfl, (fun unordered => by cases unordered), ?_⟩
      rw [if_pos rfl, String.empty_append]
      simp only [String.append_assoc]
  | false =>
      have none : order = "" := by
        rw [orderClause, ordered] at written
        exact (Except.ok.inj written).symm
      subst none
      refine ⟨"(select null)", (fun ordered => by cases ordered), fun _ => ⟨rfl, rfl⟩, ?_⟩
      have made : " order by (select null)" = " order by " ++ "(select null)" := by decide
      rw [if_neg Bool.false_ne_true, String.empty_append, made]
      simp only [String.append_assoc]

/-- Every dialect fetches the same page of a select of columns, and pages that are turned one after
another fetch every row once. The window is written into nothing but the texts that keep the rows,
and SQL Server has an offset only behind the one order of the select. -/
theorem same_page_in_every_dialect {schema : Schema} (reached : Reachable schema statement)
    (listed : statement.selectType = .columns) (single : statement.hasUnion = false)
    (windowed : statement.fetch.isEffective = true) :
    ∃ start size page : Nat,
      (statement.fetch.start.toInt = start ∧ statement.fetch.size.toInt = size ∧
        statement.fetch.page.toInt = page ∧ 0 < size ∧ 0 < page) ∧
      (∀ {α : Type} (rows : List α),
        statement.fetched? rows =
            some (rows.extract (start + size * (page - 1)) (start + size * page)) ∧
          ∀ count, (start + size * count : Nat) ≤ Int64.maxValue.toInt →
            turned? rows statement 1 count = some (rows.extract start (start + size * count))) ∧
      (∀ next : Int64, 0 < next.toInt →
        (((Operation.fetchPage next).perform statement).1 = .ok () ↔
          start + size * next.toInt ≤ Int64.maxValue.toInt)) ∧
      ∀ sql, statement.render = .ok sql → ∃ columns order lock,
        (statement.selectColumns = .ok columns ∧ statement.orderClause = .ok order ∧
          statement.lockText = .ok lock) ∧
        SubQuery.layout (statement.pagedSelect columns order lock statement.paging) = .ok sql ∧
        (statement.after (.suppressFetch true)).render =
          SubQuery.layout (statement.pagedSelect columns order lock PagingText.none) ∧
        (statement.dialect = .sqlServer → start + size * (page - 1) ≠ 0 → ∃ keys,
          (statement.isOrdered = true → order = " order by " ++ keys) ∧
          (statement.isOrdered = false → order = "" ∧ keys = "(select null)") ∧
          order ++ statement.paging.suffix = " order by " ++ keys ++ " offset " ++
            toString (start + size * (page - 1)) ++ " rows fetch next " ++ toString size ++
              " rows only") := by
  obtain ⟨start, size, page, paged⟩ := paged_of_reachable reached listed windowed
  refine ⟨start, size, page, ⟨paged.starts, paged.sizes, paged.pages, paged.filled, paged.first⟩,
    fun rows => ⟨paged.fetched rows, fun count fits => ?_⟩,
    fun next first => paged.turns_iff reached.scopes_joined first, fun sql rendered => ?_⟩
  · have all : (start + size * (0 + count) : Nat) ≤ Int64.maxValue.toInt := by
      rw [Nat.zero_add]
      exact fits
    have turned := paged.turned rows all
    rw [Nat.mul_zero, Nat.add_zero, Nat.zero_add] at turned
    exact turned
  · obtain ⟨columns, order, lock, selected, ordered, locked, laid, whole⟩ :=
      render_with_window listed single rendered
    exact ⟨columns, order, lock, ⟨selected, ordered, locked⟩, laid, whole,
      fun known later => paged.offset_ordered known later ordered⟩

/-- Members without the first five, ten on a page, on the second page. -/
def secondPage (dialect : Dialect) : Statement :=
  (memberIn dialect).afterAll [.fetchScope 5 10, .fetchPage 2]

def secondPageText : String :=
  "select dflocal.MEMBER_ID as c1, dflocal.INVITER_ID as c2 from MEMBER dflocal " ++
    "order by (select null) offset 15 rows fetch next 10 rows only"

theorem second_page_fetched :
    (secondPage .msAccess).fetched? (List.range 30) = some (List.range' 15 10) ∧
      (secondPage .sqlServer).fetched? (List.range 30) = some (List.range' 15 10) ∧
      turned? (List.range 30) (secondPage .sqlServer) 1 2 = some (List.range' 5 20) ∧
      (secondPage .sqlServer).render = .ok secondPageText := by
  have pages (dialect : Dialect) :
      (secondPage dialect).fetched? (List.range 30) = some (List.range' 15 10) ∧
        turned? (List.range 30) (secondPage dialect) 1 2 = some (List.range' 5 20) := by
    have fetch : (secondPage dialect).fetch = ⟨5, 10, 2, true, false⟩ := by cases dialect <;> rfl
    have windowed : (secondPage dialect).fetch.isEffective = true := by
      rw [fetch]
      rfl
    have reached : Reachable memberSchema (secondPage dialect) :=
      (member_in_reachable dialect).afterAll _
    have listed : (secondPage dialect).selectType = .columns := by cases dialect <;> rfl
    have single : (secondPage dialect).hasUnion = false := by cases dialect <;> rfl
    obtain ⟨start, size, page, ⟨starts, sizes, pages, _⟩, fetches, _⟩ :=
      same_page_in_every_dialect reached listed single windowed
    rw [fetch] at starts sizes pages
    obtain rfl : 5 = start := Int.ofNat.inj starts
    obtain rfl : 10 = size := Int.ofNat.inj sizes
    obtain rfl : 2 = page := Int.ofNat.inj pages
    obtain ⟨shown, turned⟩ := fetches (List.range 30)
    exact ⟨shown, turned 2 (by decide)⟩
  have written : (secondPage .sqlServer).marked = .ok secondPageText := by decide +kernel
  have rendered := render_of_hashless written (by decide +kernel)
  exact ⟨(pages .msAccess).1, (pages .sqlServer).1, (pages .sqlServer).2, rendered⟩

end Statement
end SqlComposer
