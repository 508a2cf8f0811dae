import SqlComposer.Dialect.Paging
import SqlComposer.Proofs.Figures

/-!
What the texts of a window mean. A text is read as a form with holes and the numbers in them, and a
pair of forms tells which rows are kept: so many after so many others, or those with certain numbers
when all are numbered from one. Every dialect then keeps the rows of the window that it was given.
-/
namespace SqlComposer

/-- Which rows of a result are kept. -/
inductive RowFilter where
  | all
  | window (skip keep : Nat)
  /-- The rows whose number, counted from one, is in a range. -/
  | numbered (above upTo : Nat)
  deriving DecidableEq

def RowFilter.apply {α : Type} : RowFilter → List α → List α
  | all, rows => rows
  | window skip keep, rows => (rows.drop skip).take keep
  | numbered above upTo, rows =>
    ((rows.zipIdx 1).filter fun row => above < row.2 && row.2 ≤ upTo).map Prod.fst

/-- A text with a hole for every number in it, and the numbers. -/
structure Form where
  template : List Char
  numbers : List Nat
  deriving DecidableEq

namespace Form

/-- Puts the number that has been read before a form, if there is one. -/
def behind (held? : Option Nat) (form : Form) : Form :=
  match held? with
  | none => form
  | some number => ⟨'?' :: form.template, number :: form.numbers⟩

/-- Reads a text after the digits of a number. -/
def read : Option Nat → List Char → Form
  | held?, [] => behind held? ⟨[], []⟩
  | held?, c :: chars =>
    if c.isDigit then read (some (10 * held?.getD 0 + (c.toNat - '0'.toNat))) chars
    else
      let rest := read none chars
      behind held? ⟨c :: rest.template, rest.numbers⟩

def of (text : String) : Form := read none text.toList

theorem read_digits {digits : List Char} (figures : ∀ c ∈ digits, c.isDigit = true) (held : Nat)
    (chars : List Char) :
    read (some held) (digits ++ chars) = read (some (Nat.ofDigitChars 10 digits held)) chars := by
  induction digits generalizing held with
  | nil => rfl
  | cons c digits ih =>
      rw [List.forall_mem_cons] at figures
      rw [List.cons_append, read, if_pos figures.1, ih figures.2, Nat.ofDigitChars_cons]
      rfl

/-- A number that no digit follows is read to its end. -/
theorem read_number (number : Nat) {chars : List Char}
    (ends : ∀ c ∈ chars.head?, c.isDigit = false) :
    read none (Nat.toDigits 10 number ++ chars) = behind (some number) (read none chars) := by
  have figures : ∀ c ∈ Nat.toDigits 10 number, c.isDigit = true := fun c member =>
    Nat.isDigit_of_mem_toDigits (by decide) (by decide) member
  have value := @Nat.ofDigitChars_ten_toDigits number
  obtain ⟨c, digits, shape⟩ := List.exists_cons_of_ne_nil (@Nat.toDigits_ne_nil number 10)
  rw [shape] at figures value ⊢
  rw [List.forall_mem_cons] at figures
  rw [Nat.ofDigitChars_cons] at value
  rw [List.cons_append, read, if_pos figures.1, read_digits figures.2]
  change read (some (Nat.ofDigitChars 10 digits (10 * 0 + (c.toNat - '0'.toNat)))) chars = _
  rw [value]
  cases chars with
  | nil => rfl
  | cons next chars =>
      have other : ¬ next.isDigit = true := by simp [ends next rfl]
      rw [read, read, if_neg other, if_neg other]
      rfl

theorem read_words {words : List Char} (plain : ∀ c ∈ words, c.isDigit = false)
    (chars : List Char) :
    read none (words ++ chars) =
      ⟨words ++ (read none chars).template, (read none chars).numbers⟩ := by
  induction words with
  | nil => rfl
  | cons c words ih =>
      rw [List.forall_mem_cons] at plain
      have other : ¬ c.isDigit = true := by simp [plain.1]
      rw [List.cons_append, read, if_neg other, ih plain.2]
      rfl

/-- Texts without digits. -/
def Wordy (text : String) : Prop := ∀ c ∈ text.toList, c.isDigit = false

instance (text : String) : Decidable (Wordy text) := List.decidableBAll _ text.toList

theorem of_words {words : String} (plain : Wordy words) : of words = ⟨words.toList, []⟩ := by
  have whole := read_words plain []
  rw [List.append_nil] at whole
  rw [of, whole]
  simp [read, behind]

theorem of_number {before after : String} (plain : Wordy before) (number : Nat)
    (ends : ∀ c ∈ after.toList.head?, c.isDigit = false) :
    of (before ++ toString number ++ after) =
      ⟨before.toList ++ '?' :: (of after).template, number :: (of after).numbers⟩ := by
  have digits : (toString number).toList = Nat.toDigits 10 number := by simp
  rw [of, String.toList_append, String.toList_append, List.append_assoc, read_words plain, digits,
    read_number number ends]
  rfl

theorem of_one {first last : String} (starts : Wordy first) (ends : Wordy last) (number : Nat) :
    of (first ++ toString number ++ last) = ⟨first.toList ++ '?' :: last.toList, [number]⟩ := by
  rw [of_number starts number fun c member => ends c (List.mem_of_mem_head? member), of_words ends]

theorem of_two {first middle last : String} (starts : Wordy first) (parts : Wordy middle)
    (ends : Wordy last) (apart : middle ≠ "") (number other : Nat) :
    of (first ++ toString number ++ middle ++ toString other ++ last) =
      ⟨first.toList ++ '?' :: (middle.toList ++ '?' :: last.toList), [number, other]⟩ := by
  have behind : of (middle ++ toString other ++ last) =
      ⟨middle.toList ++ '?' :: last.toList, [other]⟩ := of_one parts ends other
  have filled : middle.toList ≠ [] := by
    intro empty
    apply apart
    rw [← String.toList_inj, empty]
    rfl
  have word : ∀ c ∈ (middle ++ toString other ++ last).toList.head?, c.isDigit = false := by
    obtain ⟨c, rest, shape⟩ := List.exists_cons_of_ne_nil filled
    intro next member
    rw [String.toList_append, String.toList_append, shape] at member
    obtain rfl := Option.some.inj member
    exact parts _ (shape ▸ List.mem_cons_self)
  have whole := of_number starts number word
  rw [behind] at whole
  rw [← whole]
  simp only [String.append_assoc]

theorem of_last {first : String} (starts : Wordy first) (number : Nat) :
    of (first ++ toString number) = ⟨first.toList ++ ['?'], [number]⟩ := by
  have whole := of_one starts (show Wordy "" by decide) number
  rw [String.append_empty] at whole
  exact whole

theorem of_last_two {first middle : String} (starts : Wordy first) (parts : Wordy middle)
    (apart : middle ≠ "") (number other : Nat) :
    of (first ++ toString number ++ middle ++ toString other) =
      ⟨first.toList ++ '?' :: (middle.toList ++ ['?']), [number, other]⟩ := by
  have whole := of_two starts parts (show Wordy "" by decide) apart number other
  rw [String.append_empty] at whole
  exact whole

end Form

namespace RowFilter

/-- The rows that are kept by the numbers in two forms: the one of the text behind `select` and the
one of the text at the end of the statement. -/
def meaning? : String → String → List Nat → Option RowFilter
  | "", "", [] => some .all
  | " top ?", "", [keep] => some (.window 0 keep)
  | "", " fetch first ? rows only", [keep] => some (.window 0 keep)
  | "", " limit ?, ?", [skip, keep] => some (.window skip keep)
  | "", " offset ? limit ?", [skip, keep] => some (.window skip keep)
  | "", " limit ? offset ?", [keep, skip] => some (.window skip keep)
  | "", " offset ? rows fetch next ? rows only", [skip, keep] => some (.window skip keep)
  | "", " order by (select null) offset ? rows fetch next ? rows only", [skip, keep] =>
    some (.window skip keep)
  | " * from (select plain.*, rownum rn from (select",
      ") plain) ext where ext.rn > ? and ext.rn <= ?", [above, upTo] =>
    some (.numbered above upTo)
  | _, _, _ => none

def of? (paging : PagingText) : Option RowFilter :=
  let hint := Form.of paging.hint
  let suffix := Form.of paging.suffix
  meaning? (String.ofList hint.template) (String.ofList suffix.template)
    (hint.numbers ++ suffix.numbers)

theorem apply_window {α : Type} (skip keep : Nat) (rows : List α) :
    (window skip keep).apply rows = rows.extract skip (skip + keep) := by
  rw [List.extract_eq_take_drop, Nat.add_sub_cancel_left]
  rfl

theorem filter_numbered {α : Type} (above upTo first : Nat) (rows : List α) :
    ((rows.zipIdx first).filter fun row => above < row.2 && row.2 ≤ upTo).map Prod.fst =
      (rows.take (upTo + 1 - first)).drop (above + 1 - first) := by
  induction rows generalizing first with
  | nil => simp
  | cons row rest ih =>
      rw [List.zipIdx_cons, List.filter_cons]
      by_cases last : upTo < first
      · have none : upTo + 1 - first = 0 := by omega
        have later : upTo + 1 - (first + 1) = 0 := by omega
        have outside : ¬ first ≤ upTo := by omega
        simp [outside, ih, none, later]
      · have next : upTo + 1 - first = (upTo + 1 - (first + 1)) + 1 := by omega
        rw [next, List.take_succ_cons]
        by_cases before : first ≤ above
        · have skipped : above + 1 - first = (above + 1 - (first + 1)) + 1 := by omega
          have outside : ¬ above < first := by omega
          rw [skipped, List.drop_succ_cons, ← ih]
          simp [outside]
        · have reached : above + 1 - first = 0 := by omega
          have reachedToo : above + 1 - (first + 1) = 0 := by omega
          have inside : above < first ∧ first ≤ upTo := by omega
          rw [reached, List.drop_zero]
          simp [inside, ih, reachedToo]

theorem apply_numbered {α : Type} (above upTo : Nat) (rows : List α) :
    (numbered above upTo).apply rows = rows.extract above upTo := by
  rw [apply, filter_numbered, List.extract_eq_take_drop, Nat.add_sub_cancel, Nat.add_sub_cancel,
    List.drop_take]

theorem of_forms {hint suffix : String} {first second : Form} (hints : Form.of hint = first)
    (suffixes : Form.of suffix = second) :
    of? ⟨hint, suffix⟩ = meaning? (String.ofList first.template) (String.ofList second.template)
      (first.numbers ++ second.numbers) := by
  rw [of?, hints, suffixes]

/-- Every dialect keeps the rows of the window, but one that cannot limit rows keeps all of them. -/
theorem filter_of_window (dialect : Dialect) {window : RowWindow} {start size : Nat}
    (starts : window.start.toInt = start) (sizes : window.size.toInt = size)
    (stops : window.stop.toInt = (start + size : Nat)) :
    ∃ filter, of? (dialect.paging window) = some filter ∧
      ∀ {α : Type} (rows : List α), filter.apply rows =
        if dialect.limitsRows then rows.extract start (start + size) else rows := by
  have bare : Form.of "" = ⟨[], []⟩ := rfl
  have offset : window.offsetFetch = " offset " ++ toString start ++ " rows fetch next " ++
      toString size ++ " rows only" := by
    rw [RowWindow.offsetFetch, starts, sizes]
    rfl
  have shifted : of? ⟨"", window.offsetFetch⟩ = some (.window start size) := by
    rw [offset]
    exact of_forms bare (Form.of_two (by decide) (by decide) (by decide) (by decide) start size)
  have zero : window.start = 0 → start = 0 := by
    intro first
    rw [first] at starts
    exact Int.ofNat_eq_zero.mp starts.symm
  have kept {α : Type} (rows : List α) := apply_window start size rows
  cases dialect with
  | mysql | sqlite | postgresql =>
      refine ⟨.window start size, ?_, kept⟩
      rw [Dialect.paging, starts, sizes]
      exact of_forms bare (Form.of_last_two (by decide) (by decide) (by decide) start size)
  | h2 =>
      refine ⟨.window start size, ?_, kept⟩
      rw [Dialect.paging, starts, sizes]
      exact of_forms bare (Form.of_last_two (by decide) (by decide) (by decide) size start)
  | derby => exact ⟨.window start size, shifted, kept⟩
  | msAccess => exact ⟨.all, rfl, fun rows => rfl⟩
  | oracle =>
      refine ⟨.numbered start (start + size), ?_, fun rows => apply_numbered _ _ rows⟩
      rw [Dialect.paging, starts, stops]
      exact of_forms (Form.of_words (by decide))
        (Form.of_last_two (by decide) (by decide) (by decide) start (start + size))
  | sqlServer =>
      by_cases first : window.start = 0
      · obtain rfl := zero first
        refine ⟨.window 0 size, ?_, kept⟩
        rw [Dialect.paging, if_pos first, sizes]
        exact of_forms (Form.of_last (by decide) size) bare
      · refine ⟨.window start size, ?_, kept⟩
        rw [Dialect.paging, if_neg first]
        split_ifs
        · rw [String.empty_append]
          exact shifted
        · have head : " order by (select null)" ++ " offset " =
              " order by (select null) offset " := by decide
          rw [offset]
          simp only [← String.append_assoc, head]
          exact of_forms bare
            (Form.of_two (by decide) (by decide) (by decide) (by decide) start size)
  | db2 =>
      by_cases first : window.start = 0
      · obtain rfl := zero first
        refine ⟨.window 0 size, ?_, kept⟩
        rw [Dialect.paging, if_pos first, sizes]
        exact of_forms bare (Form.of_one (by decide) (by decide) size)
      · refine ⟨.window start size, ?_, kept⟩
        rw [Dialect.paging, if_neg first]
        exact shifted

end RowFilter
end SqlComposer
