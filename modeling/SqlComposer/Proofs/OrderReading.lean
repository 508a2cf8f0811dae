import SqlComposer.Proofs.OperandReading

/-!
The text of an order as a database reads it: keys with a direction, each by the column, by a ranking
of its values or by whether there is a value. The reader is given the text of the column, which may
be anything; what else could be read in its place would hold some character too often, so that every
element is read as it was meant.
-/
namespace SqlComposer.Order

open SubQuery (after_mark_append)
open Text (afterMark? afterMark?_eq_some_iff)

/-- What rows are ordered by: the column, or a ranking that compares it with one literal after the
other. -/
inductive Expression where
  | column
  | ranking (branches : List (String × Nat)) (otherwise : Nat)
  deriving DecidableEq

/-- What a key of an order looks at: an expression, or whether it has a value. -/
inductive Subject where
  | plain (expression : Expression)
  | presence (expression : Expression) (present absent : Nat)
  deriving DecidableEq

/-- A key of an order. -/
structure SortKey where
  subject : Subject
  direction : Direction
  nulls? : Option NullPlace := none
  deriving DecidableEq

/-- How a test for a value is written around its expression and its two results. The question is at
least as long as the words around the column of a ranking, which are 13 characters, so that no
comparison is read in its place; and no digit stands behind a result. -/
structure TestForm where
  opening : List Char
  question : List Char
  otherwise : List Char
  closing : List Char
  no_comparison : 13 ≤ question.length ∧ '=' ∉ question
  otherwise_ends : EndsNumber otherwise
  closing_ends : EndsNumber closing

def TestForm.caseForm : TestForm :=
  ⟨"case when ".toList, " is not null then ".toList, " else ".toList, " end".toList, by decide, rfl,
    rfl⟩

def TestForm.iifForm : TestForm :=
  ⟨"iif(".toList, " is not null, ".toList, ", ".toList, ")".toList, by decide, rfl, rfl⟩

/-- A test whether an expression has a value, with what stands behind it. -/
def TestForm.write (form : TestForm) (expression : List Char) (present absent : Nat)
    (tail : List Char) : List Char :=
  form.opening ++ (expression ++ (form.question ++ ((toString present).toList ++
    (form.otherwise ++ ((toString absent).toList ++ (form.closing ++ tail))))))

/-- How a branch of a ranking begins. -/
def branchMark (column : List Char) : List Char := " when ".toList ++ column ++ " = ".toList

def rankingMark (column : List Char) : List Char := "case".toList ++ branchMark column

section

variable (dialect : Dialect) (column : List Char)

/-- The branches of a ranking, at most as many as the first argument. -/
def readBranches? : Nat → List Char → Option (List (String × Nat) × List Char)
  | 0, chars => some ([], chars)
  | fuel + 1, chars =>
    match afterMark? (branchMark column) chars with
    | none => some ([], chars)
    | some operand => do
      let (literal, afterOperand) ← readOperand? dialect .outside operand
      let (index, afterIndex) ← readNumber? afterOperand
      let (branches, rest) ← readBranches? fuel afterIndex
      some ((String.ofList literal, index) :: branches, rest)

def readExpression? (chars : List Char) : Option (Expression × List Char) :=
  match afterMark? (rankingMark column) chars with
  | none => (afterMark? column chars).map fun rest => (.column, rest)
  | some _ => do
    let afterCase ← afterMark? "case".toList chars
    let (branches, afterBranches) ← readBranches? dialect column chars.length afterCase
    let afterElse ← afterMark? " else ".toList afterBranches
    let (otherwise, afterIndex) ← readNumber? afterElse
    let rest ← afterMark? " end".toList afterIndex
    some (.ranking branches otherwise, rest)

def readTest? (form : TestForm) (chars : List Char) : Option (Subject × List Char) := do
  let opened ← afterMark? form.opening chars
  let (expression, afterExpression) ← readExpression? dialect column opened
  let asked ← afterMark? form.question afterExpression
  let (present, afterPresent) ← readNumber? asked
  let afterElse ← afterMark? form.otherwise afterPresent
  let (absent, afterAbsent) ← readNumber? afterElse
  let rest ← afterMark? form.closing afterAbsent
  some (.presence expression present absent, rest)

def readSubject? (chars : List Char) : Option (Subject × List Char) :=
  readTest? dialect column .caseForm chars <|> readTest? dialect column .iifForm chars <|>
    (readExpression? dialect column chars).map fun (expression, rest) => (.plain expression, rest)

def readDirection? (chars : List Char) : Option (Direction × List Char) :=
  match afterMark? " asc".toList chars with
  | some rest => some (.ascending, rest)
  | none => (afterMark? " desc".toList chars).map fun rest => (.descending, rest)

def readNulls (chars : List Char) : Option NullPlace × List Char :=
  match afterMark? " nulls first".toList chars with
  | some rest => (some .first, rest)
  | none =>
    match afterMark? " nulls last".toList chars with
    | some rest => (some .last, rest)
    | none => (none, chars)

def readKey? (chars : List Char) : Option (SortKey × List Char) := do
  let (subject, afterSubject) ← readSubject? dialect column chars
  let (direction, afterDirection) ← readDirection? afterSubject
  let (nulls?, rest) := readNulls afterDirection
  some (⟨subject, direction, nulls?⟩, rest)

/-- The keys of an order, at most as many as the first argument. -/
def readKeys? : Nat → List Char → Option (List SortKey)
  | 0, _ => none
  | fuel + 1, chars => do
    let (key, rest) ← readKey? dialect column chars
    if rest = [] then some [key]
    else do
      let later ← afterMark? ", ".toList rest
      let keys ← readKeys? fuel later
      some (key :: keys)

/-- The keys of an order whose column is written as `column`. -/
def keysOf? (dialect : Dialect) (column text : String) : Option (List SortKey) :=
  readKeys? dialect column.toList text.toList.length text.toList

end

/-! Where a ranking cannot begin, whatever the column is. -/

section

variable {mark chars column tail : List Char}

theorem after_mark_split (front back chars : List Char) :
    afterMark? (front ++ back) chars = (afterMark? front chars).bind (afterMark? back) := by
  cases found : afterMark? front chars with
  | none => exact SubQuery.after_mark_none_of_extension found
  | some rest =>
      rw [afterMark?_eq_some_iff.mp found, Option.bind_some]
      cases later : afterMark? back rest with
      | none =>
          cases whole : afterMark? (front ++ back) (front ++ rest) with
          | none => rfl
          | some behind =>
              have shape := afterMark?_eq_some_iff.mp whole
              rw [List.append_assoc] at shape
              rw [List.append_cancel_left shape, after_mark_append] at later
              cases later
      | some behind =>
          rw [afterMark?_eq_some_iff.mp later, ← List.append_assoc]
          exact after_mark_append _ _

theorem no_mark_of_take (c : Char) (size : Nat) (fits : size ≤ mark.length)
    (other : (chars.take size).count c ≠ (mark.take size).count c) :
    afterMark? mark chars = none := by
  cases found : afterMark? mark chars with
  | none => rfl
  | some rest =>
      rw [afterMark?_eq_some_iff.mp found, List.take_append_of_le_length fits] at other
      exact absurd rfl other

theorem no_mark_of_count (c : Char) (more : chars.count c < mark.count c) :
    afterMark? mark chars = none := by
  cases found : afterMark? mark chars with
  | none => rfl
  | some rest =>
      rw [afterMark?_eq_some_iff.mp found, List.count_append] at more
      omega

/-- A text behind words does not stand before them as well: up to where the two end, the shifted
text would hold a character of `back` once more. -/
theorem no_shifted_text {front back text tail : List Char} {c : Char} (held : c ∈ back)
    (apart : c ∉ tail.take (front.length + back.length)) :
    afterMark? (front ++ (text ++ back)) (text ++ tail) = none := by
  have size : (front ++ (text ++ back)).length = text.length + (front.length + back.length) := by
    simp only [List.length_append]
    omega
  have some_held := List.count_pos_iff.mpr held
  apply no_mark_of_take c _ (Nat.le_of_eq size.symm)
  rw [List.take_of_length_le (Nat.le_of_eq size), List.take_length_add_append, List.count_append,
    List.count_eq_zero_of_not_mem apart, List.count_append, List.count_append]
  omega

theorem no_shifted_text_before_back {front back text more : List Char} {c : Char} (held : c ∈ back)
    (apart : c ∉ front) (short : back.length ≤ front.length) :
    afterMark? (front ++ (text ++ back)) (text ++ (back ++ more)) = none := by
  have size : (front ++ text).length = text.length + front.length := by
    rw [List.length_append, Nat.add_comm]
  have early : c ∈ (back ++ more).take front.length := by
    rw [List.take_append, List.take_of_length_le short]
    exact List.mem_append_left _ held
  have some_held := List.count_pos_iff.mpr early
  rw [← List.append_assoc]
  apply no_mark_of_take c (text.length + front.length)
  · rw [List.length_append, size]
    omega
  · rw [List.take_length_add_append, List.take_left' size, List.count_append, List.count_append,
      List.count_eq_zero_of_not_mem apart]
    omega

theorem ranking_mark_eq (column : List Char) :
    rankingMark column = "case when ".toList ++ (column ++ " = ".toList) := by
  have word : "case when ".toList = "case".toList ++ " when ".toList := by decide
  change "case".toList ++ (" when ".toList ++ column ++ " = ".toList) = _
  rw [word]
  simp only [List.append_assoc]

theorem no_ranking_before (wordless : 'h' ∉ tail) :
    afterMark? (rankingMark column) (column ++ tail) = none := by
  apply no_mark_of_count 'h'
  have once : "case when ".toList.count 'h' = 1 := by decide
  rw [ranking_mark_eq, List.count_append, List.count_append, List.count_append, once,
    List.count_eq_zero_of_not_mem wordless]
  omega

theorem no_ranking_before_question (apart : '=' ∉ tail.take 13) :
    afterMark? (rankingMark column) (column ++ tail) = none := by
  have sizes : "case when ".toList.length + " = ".toList.length = 13 := by decide
  rw [ranking_mark_eq]
  apply no_shifted_text (c := '=') (by decide)
  rw [sizes]
  exact apart

theorem no_ranking_before_equals (more : List Char) :
    afterMark? (rankingMark column) (column ++ (" = ".toList ++ more)) = none := by
  rw [ranking_mark_eq]
  exact no_shifted_text_before_back (c := '=') (by decide) (by decide) (by decide)

end

/-! Rankings and expressions. -/

theorem rank_branches_cons (column value : String) (index : Nat) (rest : List String)
    (tail : List Char) :
    (Element.rankBranches column index (value :: rest)).toList ++ tail =
      branchMark column.toList ++ (value.toList ++ (" then ".toList ++
        ((toString index).toList ++
          ((Element.rankBranches column (index + 1) rest).toList ++ tail)))) := by
  change (" when " ++ column ++ " = " ++ value ++ " then " ++ toString index ++
    Element.rankBranches column (index + 1) rest).toList ++ tail =
      (" when ".toList ++ column.toList ++ " = ".toList) ++ _
  simp only [String.toList_append, List.append_assoc]

theorem rank_branches_end_number (column : String) (index : Nat) (values : List String)
    {tail : List Char} (ends : EndsNumber tail) :
    EndsNumber ((Element.rankBranches column index values).toList ++ tail) := by
  cases values with
  | nil => exact ends
  | cons value rest =>
      rw [rank_branches_cons]
      rfl

theorem read_branches {dialect : Dialect} (column : String) {values : List String}
    (passed : ∀ value ∈ values, Passes dialect .outside value.toList .outside) (index : Nat)
    {fuel : Nat} (room : values.length ≤ fuel) (tail : List Char) :
    readBranches? dialect column.toList fuel
        ((Element.rankBranches column index values).toList ++ (" else ".toList ++ tail)) =
      some (values.zipIdx index, " else ".toList ++ tail) := by
  induction values generalizing index fuel with
  | nil => cases fuel <;> rfl
  | cons value rest ih =>
      cases fuel with
      | zero => cases room
      | succ fuel =>
          rw [List.forall_mem_cons] at passed
          have later := ih passed.2 (index + 1) (Nat.le_of_succ_le_succ room)
          have blank : EndsNumber (" else ".toList ++ tail) := rfl
          have ends := rank_branches_end_number column (index + 1) rest blank
          rw [rank_branches_cons, readBranches?, after_mark_append]
          dsimp only
          rw [read_operand passed.1]
          dsimp only [Option.bind_some, Bind.bind, Option.bind]
          rw [read_number index ends]
          dsimp only
          rw [later, String.ofList_toList]
          rfl

/-- The expression that an element orders by, as it is read. -/
def Element.reading (element : Element) : Expression :=
  match element.manual? with
  | none => .column
  | some values => .ranking values.zipIdx values.length

/-- The reader passes over the literals of a requested sequence, of which there is at least one. -/
def Element.Legible (element : Element) (dialect : Dialect) : Prop :=
  ∀ values, element.manual? = some values →
    values ≠ [] ∧ ∀ value ∈ values, Passes dialect .outside value.toList .outside

section

variable {dialect : Dialect} {element : Element} (column : String)

theorem read_column {tail : List Char}
    (apart : afterMark? (rankingMark column.toList) (column.toList ++ tail) = none) :
    readExpression? dialect column.toList (column.toList ++ tail) = some (.column, tail) := by
  rw [readExpression?, apart, after_mark_append]
  rfl

/-- A ranking begins with a comparison of its column. -/
theorem ranking_begins {values : List String} (filled : values ≠ []) (tail : List Char) :
    ∃ more, ("case" ++ Element.rankBranches column 0 values).toList ++ tail =
      rankingMark column.toList ++ more := by
  cases values with
  | nil => exact absurd rfl filled
  | cons value rest =>
      rw [String.toList_append, List.append_assoc, rank_branches_cons, ← List.append_assoc]
      exact ⟨_, rfl⟩

theorem ranking_text (values : List String) (tail : List Char) :
    ("case" ++ Element.rankBranches column 0 values ++ " else " ++ toString values.length ++
        " end").toList ++ tail =
      "case".toList ++ ((Element.rankBranches column 0 values).toList ++ (" else ".toList ++
        ((toString values.length).toList ++ (" end".toList ++ tail)))) := by
  simp only [String.toList_append, List.append_assoc]

theorem length_le_of_rank_branches (index : Nat) (values : List String) :
    values.length ≤ (Element.rankBranches column index values).toList.length := by
  induction values generalizing index with
  | nil => exact Nat.zero_le _
  | cons value rest ih =>
      have shape := congrArg List.length (rank_branches_cons column value index rest [])
      have word : 0 < " then ".toList.length := by decide
      have later := ih (index + 1)
      simp only [List.length_append, List.length_nil, Nat.add_zero] at shape
      rw [List.length_cons]
      omega

theorem read_ranking {values : List String} (filled : values ≠ [])
    (passed : ∀ value ∈ values, Passes dialect .outside value.toList .outside)
    (tail : List Char) :
    readExpression? dialect column.toList
        (("case" ++ Element.rankBranches column 0 values ++ " else " ++ toString values.length ++
          " end").toList ++ tail) =
      some (.ranking values.zipIdx values.length, tail) := by
  rcases ranking_begins column filled (" else ".toList ++
    ((toString values.length).toList ++ (" end".toList ++ tail))) with ⟨more, begins⟩
  rw [String.toList_append, List.append_assoc] at begins
  have fuel : values.length ≤ ("case".toList ++
      ((Element.rankBranches column 0 values).toList ++ (" else ".toList ++
        ((toString values.length).toList ++ (" end".toList ++ tail))))).length := by
    have enough := length_le_of_rank_branches column 0 values
    rw [List.length_append, List.length_append]
    omega
  have branches := read_branches column passed 0 fuel
    ((toString values.length).toList ++ (" end".toList ++ tail))
  have ends : EndsNumber (" end".toList ++ tail) := rfl
  have total := read_number values.length ends
  have asked := after_mark_append (rankingMark column.toList) more
  rw [← begins] at asked
  rw [ranking_text, readExpression?, asked]
  dsimp only
  rw [after_mark_append]
  dsimp only [Bind.bind, Option.bind]
  rw [branches]
  dsimp only
  rw [after_mark_append]
  dsimp only
  rw [total]
  dsimp only
  rw [after_mark_append]

theorem read_expression (legible : element.Legible dialect) {tail : List Char}
    (apart : afterMark? (rankingMark column.toList) (column.toList ++ tail) = none) :
    readExpression? dialect column.toList ((element.expression column).toList ++ tail) =
      some (element.reading, tail) := by
  unfold Element.expression Element.reading
  cases manual : element.manual? with
  | none => exact read_column column apart
  | some values =>
      exact read_ranking column (legible values manual).1 (legible values manual).2 tail

end

/-! Tests for a value. -/

section

variable {dialect : Dialect} {form : TestForm} {chars tail : List Char}

theorem read_test_none {column : List Char}
    (plain : afterMark? (form.opening ++ (column ++ form.question)) chars = none)
    (ranked : afterMark? (form.opening ++ rankingMark column) chars = none) :
    readTest? dialect column form chars = none := by
  rw [after_mark_split] at plain ranked
  unfold readTest?
  cases opened : afterMark? form.opening chars with
  | none => rfl
  | some inner =>
      rw [opened, Option.bind_some] at plain ranked
      rw [after_mark_split] at plain
      dsimp only [Bind.bind, Option.bind]
      rw [readExpression?, ranked]
      cases named : afterMark? column inner with
      | none => rfl
      | some rest =>
          rw [named, Option.bind_some] at plain
          dsimp only [Option.map]
          rw [plain]

/-- A test does not begin where a column does: its opening would be there besides the column. -/
theorem no_test_before_column {column : List Char} {c : Char} (opens : c ∈ form.opening)
    (apart : c ∉ tail) : readTest? dialect column form (column ++ tail) = none := by
  have some_opening := List.count_pos_iff.mpr opens
  apply read_test_none
  · apply no_mark_of_count c
    rw [List.count_append, List.count_append, List.count_append,
      List.count_eq_zero_of_not_mem apart]
    omega
  · apply no_mark_of_count c
    rw [ranking_mark_eq, List.count_append, List.count_append, List.count_append,
      List.count_append, List.count_eq_zero_of_not_mem apart]
    omega

/-- Behind the words that a ranking begins with stands its column, and then no question. -/
theorem no_test_before_ranking (column more : List Char) :
    readTest? dialect column .caseForm (rankingMark column ++ more) = none ∧
      readTest? dialect column .iifForm (rankingMark column ++ more) = none := by
  have shape : rankingMark column ++ more =
      TestForm.caseForm.opening ++ (column ++ (" = ".toList ++ more)) := by
    rw [ranking_mark_eq]
    simp only [List.append_assoc]
    rfl
  constructor
  · rw [shape]
    apply read_test_none
    · rw [after_mark_split, after_mark_append, Option.bind_some, after_mark_split,
        after_mark_append]
      rfl
    · rw [after_mark_split, after_mark_append]
      exact no_ranking_before_equals more
  · rfl

theorem read_test {element : Element} (legible : element.Legible dialect) (column : String)
    (present absent : Nat) (tail : List Char) :
    readTest? dialect column.toList form
        (form.write (element.expression column).toList present absent tail) =
      some (.presence element.reading present absent, tail) := by
  have apart : ∀ rest, '=' ∉ (form.question ++ rest).take 13 := by
    intro rest member
    rw [List.take_append_of_le_length form.no_comparison.1] at member
    exact form.no_comparison.2 (List.mem_of_mem_take member)
  unfold readTest? TestForm.write
  rw [after_mark_append]
  dsimp only [Bind.bind, Option.bind]
  rw [read_expression column legible (no_ranking_before_question (apart _))]
  dsimp only
  rw [after_mark_append]
  dsimp only
  rw [read_number present (form.otherwise_ends.append _)]
  dsimp only
  rw [after_mark_append]
  dsimp only
  rw [read_number absent (form.closing_ends.append _)]
  dsimp only
  rw [after_mark_append]

/-- An expression before words without an `h` and without a parenthesis is what a key looks at. -/
theorem read_plain_subject {element : Element} (legible : element.Legible dialect)
    (column : String) (wordless : 'h' ∉ tail) (bare : '(' ∉ tail) :
    readSubject? dialect column.toList ((element.expression column).toList ++ tail) =
      some (.plain element.reading, tail) := by
  have read := read_expression column legible (no_ranking_before wordless)
  have no_test : readTest? dialect column.toList .caseForm
        ((element.expression column).toList ++ tail) = none ∧
      readTest? dialect column.toList .iifForm
        ((element.expression column).toList ++ tail) = none := by
    unfold Element.expression
    cases manual : element.manual? with
    | none =>
        exact ⟨no_test_before_column (c := 'h') (by decide) wordless,
          no_test_before_column (c := '(') (by decide) bare⟩
    | some values =>
        dsimp only
        rcases ranking_begins column (legible values manual).1 (" else ".toList ++
          ((toString values.length).toList ++ (" end".toList ++ tail))) with ⟨more, begins⟩
        rw [String.toList_append, List.append_assoc] at begins
        rw [ranking_text, begins]
        exact no_test_before_ranking column.toList more
  unfold readSubject?
  rw [no_test.1, no_test.2, read]
  rfl

end

/-! Keys. -/

/-- How a dialect without words for the place of nulls tests for a value. -/
def testForm? : Dialect → Option TestForm
  | .postgresql | .oracle | .h2 | .db2 | .derby => none
  | .mysql | .sqlServer | .sqlite => some .caseForm
  | .msAccess => some .iifForm

namespace NullPlace

def presentIndex : NullPlace → Nat
  | first => 1
  | last => 0

def absentIndex : NullPlace → Nat
  | first => 0
  | last => 1

theorem present_rank_eq (place : NullPlace) : place.presentRank = toString place.presentIndex := by
  cases place <;> decide

theorem absent_rank_eq (place : NullPlace) : place.absentRank = toString place.absentIndex := by
  cases place <;> decide

end NullPlace

/-- The keys that an element is written as. -/
def Element.keys (element : Element) (dialect : Dialect) : List SortKey :=
  match element.nulls? with
  | none => [⟨.plain element.reading, element.direction, none⟩]
  | some place =>
    match testForm? dialect with
    | none => [⟨.plain element.reading, element.direction, some place⟩]
    | some _ =>
      [⟨.presence element.reading place.presentIndex place.absentIndex, .ascending, none⟩,
        ⟨.plain element.reading, element.direction, none⟩]

/-- The words for the place of nulls behind a direction. -/
def nullsWords : Option NullPlace → String
  | none => ""
  | some place => " nulls " ++ place.word

section

variable {dialect : Dialect} {element : Element}

theorem nulls_text_native (known : testForm? dialect = none) (expression : String)
    (direction : Direction) (place : NullPlace) :
    (nullsText dialect expression direction place).toList =
      expression.toList ++
        ((" " ++ direction.word).toList ++ (nullsWords (some place)).toList) := by
  have text : nullsText dialect expression direction place =
      expression ++ " " ++ direction.word ++ " nulls " ++ place.word := by
    cases dialect <;> first | rfl | cases known
  have words : (nullsWords (some place)).toList = (" nulls " ++ place.word).toList := rfl
  rw [text, words]
  simp only [String.toList_append, List.append_assoc]

theorem nulls_text_emulated {form : TestForm} (known : testForm? dialect = some form)
    (expression : String) (direction : Direction) (place : NullPlace) :
    (nullsText dialect expression direction place).toList =
      form.write expression.toList place.presentIndex place.absentIndex
        (" asc".toList ++ (", ".toList ++
          (expression.toList ++ (" " ++ direction.word).toList))) := by
  have ends : " end asc, " = " end" ++ (" asc" ++ ", ") ∧ ") asc, " = ")" ++ (" asc" ++ ", ") := by
    decide
  have by_case : ("case when " ++ expression ++ " is not null then " ++ place.presentRank ++
      " else " ++ place.absentRank ++ " end asc, " ++ expression ++ " " ++ direction.word).toList =
        TestForm.caseForm.write expression.toList place.presentIndex place.absentIndex
          (" asc".toList ++ (", ".toList ++
            (expression.toList ++ (" " ++ direction.word).toList))) := by
    rw [ends.1, place.present_rank_eq, place.absent_rank_eq]
    simp only [String.toList_append, List.append_assoc]
    rfl
  have by_iif : ("iif(" ++ expression ++ " is not null, " ++ place.presentRank ++ ", " ++
      place.absentRank ++ ") asc, " ++ expression ++ " " ++ direction.word).toList =
        TestForm.iifForm.write expression.toList place.presentIndex place.absentIndex
          (" asc".toList ++ (", ".toList ++
            (expression.toList ++ (" " ++ direction.word).toList))) := by
    rw [ends.2, place.present_rank_eq, place.absent_rank_eq]
    simp only [String.toList_append, List.append_assoc]
    rfl
  cases dialect with
  | postgresql | oracle | h2 | db2 | derby => cases known
  | mysql | sqlServer | sqlite =>
      cases known
      exact by_case
  | msAccess =>
      cases known
      exact by_iif

theorem direction_words (direction : Direction) :
    (" " ++ direction.word).toList =
      match direction with
      | .ascending => " asc".toList
      | .descending => " desc".toList := by
  cases direction <;> decide +kernel

theorem read_direction (direction : Direction) (rest : List Char) :
    readDirection? ((" " ++ direction.word).toList ++ rest) = some (direction, rest) := by
  rw [direction_words]
  cases direction with
  | ascending => rfl
  | descending => rfl

theorem read_nulls (nulls? : Option NullPlace) :
    readNulls (nullsWords nulls?).toList = (nulls?, []) := by
  cases nulls? with
  | none => rfl
  | some place => cases place <;> decide +kernel

theorem read_plain_key (legible : element.Legible dialect) (column : String)
    (direction : Direction) (nulls? : Option NullPlace) :
    readKey? dialect column.toList ((element.expression column).toList ++
        ((" " ++ direction.word).toList ++ (nullsWords nulls?).toList)) =
      some (⟨.plain element.reading, direction, nulls?⟩, []) := by
  have plain : ∀ c, c = 'h' ∨ c = '(' →
      c ∉ (" " ++ direction.word).toList ++ (nullsWords nulls?).toList := by
    intro c mark
    rcases mark with rfl | rfl <;> rcases nulls? with _ | place
    · cases direction <;> decide +kernel
    · cases direction <;> cases place <;> decide +kernel
    · cases direction <;> decide +kernel
    · cases direction <;> cases place <;> decide +kernel
  rw [readKey?, read_plain_subject legible column (plain _ (.inl rfl)) (plain _ (.inr rfl))]
  dsimp only [Bind.bind, Option.bind]
  rw [read_direction]
  dsimp only
  rw [read_nulls]

theorem read_test_subject {form : TestForm} (legible : element.Legible dialect) (column : String)
    (known : testForm? dialect = some form) (present absent : Nat) (tail : List Char) :
    readSubject? dialect column.toList
        (form.write (element.expression column).toList present absent tail) =
      some (.presence element.reading present absent, tail) := by
  have read := @read_test dialect form element legible column present absent tail
  have forms : form = .caseForm ∨ form = .iifForm := by
    cases dialect <;> cases known <;> simp
  rw [readSubject?]
  rcases forms with rfl | rfl
  · rw [read]
    rfl
  · have other : ∀ rest, readTest? dialect column.toList .caseForm
        (TestForm.iifForm.opening ++ rest) = none := fun _ => rfl
    rw [read, TestForm.write, other]
    rfl

theorem read_test_key {form : TestForm} (legible : element.Legible dialect) (column : String)
    (known : testForm? dialect = some form) (place : NullPlace) (later : List Char) :
    readKey? dialect column.toList
        (form.write (element.expression column).toList place.presentIndex place.absentIndex
          (" asc".toList ++ (", ".toList ++ later))) =
      some (⟨.presence element.reading place.presentIndex place.absentIndex, .ascending, none⟩,
        ", ".toList ++ later) := by
  rw [readKey?, read_test_subject legible column known]
  rfl

theorem read_last_key (legible : element.Legible dialect) (column : String) {fuel : Nat}
    (some_fuel : 0 < fuel) (direction : Direction) (nulls? : Option NullPlace) :
    readKeys? dialect column.toList fuel ((element.expression column).toList ++
        ((" " ++ direction.word).toList ++ (nullsWords nulls?).toList)) =
      some [⟨.plain element.reading, direction, nulls?⟩] := by
  cases fuel with
  | zero => cases some_fuel
  | succ fuel =>
      rw [readKeys?, read_plain_key legible column]
      rfl

theorem direction_words_filled (direction : Direction) :
    1 < (" " ++ direction.word).toList.length := by
  cases direction <;> decide +kernel

/-- The text of an element is read as its keys, whatever its column is. -/
theorem keys_of_element (legible : element.Legible dialect) (column : String) :
    keysOf? dialect column (element.sql dialect column) = some (element.keys dialect) := by
  have filled := direction_words_filled element.direction
  unfold keysOf? Element.sql Element.keys
  cases element.nulls? with
  | none =>
      have text : (element.expression column ++ " " ++ element.direction.word).toList =
          (element.expression column).toList ++
            ((" " ++ element.direction.word).toList ++ (nullsWords none).toList) := by
        rw [String.append_assoc, String.toList_append]
        exact congrArg _ (List.append_nil _).symm
      dsimp only
      rw [text]
      apply read_last_key legible column
      simp only [List.length_append]
      omega
  | some place =>
      dsimp only
      cases known : testForm? dialect with
      | none =>
          rw [nulls_text_native known]
          apply read_last_key legible column
          simp only [List.length_append]
          omega
      | some form =>
          have text := nulls_text_emulated known (element.expression column) element.direction place
          rw [text]
          generalize size : List.length _ = fuel
          have room : 1 < fuel := by
            simp only [← size, TestForm.write, List.length_append]
            omega
          rcases Nat.exists_eq_add_of_lt room with ⟨more, rfl⟩
          have words : (" " ++ element.direction.word).toList =
              (" " ++ element.direction.word).toList ++ (nullsWords none).toList :=
            (List.append_nil _).symm
          have last := read_last_key legible column (Nat.succ_pos more) element.direction none
          rw [← words] at last
          rw [readKeys?, read_test_key legible column known]
          dsimp only [Bind.bind, Option.bind]
          rw [if_neg (by simp), after_mark_append]
          dsimp only
          rw [Nat.add_comm 1 more, last]

end

end SqlComposer.Order
