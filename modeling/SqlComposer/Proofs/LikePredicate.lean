import SqlComposer.Condition.Register
import SqlComposer.Proofs.LiteralReading
import SqlComposer.Proofs.Marks
import SqlComposer.Proofs.PatternMatching

/-!
Like comparisons as a database reads them: a column, the operator, the literal of the pattern and
the literal of the escape character. Both literals are read by the rules of the dialect. On MySQL
the clause that names a backslash as the escape character is not read as it is meant, since the
backslash escapes the closing quote; everything else is.
-/
namespace SqlComposer.Condition

open SubQuery (after_mark_append)
open Text (afterMark?)

structure LikeReading where
  key : Key
  /-- Whether the column and the pattern are put in lower case. -/
  lowers : Bool
  pattern : List Char
  /-- What the literal behind `escape` stands for. -/
  escape : List Char
  deriving DecidableEq

/-- Whether a column stands in `lower(...)` at the front of a text, and the text behind it. -/
def readColumn? (column chars : List Char) : Option (Bool × List Char) :=
  match afterMark? ("lower(".toList ++ column ++ [')']) chars with
  | some rest => some (true, rest)
  | none => (afterMark? column chars).map fun rest => (false, rest)

def readOperator? (chars : List Char) : Option (Key × List Char) :=
  match afterMark? " like ".toList chars with
  | some rest => some (.likeSearch, rest)
  | none => (afterMark? " not like ".toList chars).map fun rest => (.notLikeSearch, rest)

/-- The pattern at the front of a text, in `lower(...)` if the column is. -/
def readPatternLiteral? (dialect : Dialect) (lowers : Bool) (chars : List Char) :
    Option (List Char × List Char) :=
  if lowers then do
    let inner ← afterMark? "lower(".toList chars
    let (pattern, rest) ← dialect.readLiteral? inner
    let tail ← afterMark? [')'] rest
    some (pattern, tail)
  else dialect.readLiteral? chars

/-- The like comparison of a column at the front of a text, and the text behind it. -/
def readLike? (dialect : Dialect) (column : String) (chars : List Char) :
    Option (LikeReading × List Char) := do
  let (lowers, afterColumn) ← readColumn? column.toList chars
  let (key, afterOperator) ← readOperator? afterColumn
  let (pattern, afterPattern) ← readPatternLiteral? dialect lowers afterOperator
  let escapeLiteral ← afterMark? " escape ".toList afterPattern
  let (escape, tail) ← dialect.readLiteral? escapeLiteral
  some (⟨key, lowers, pattern, escape⟩, tail)

/-- A column before a blank is not the column in `lower(...)`: the first blank of the text would
stand further behind. -/
theorem not_lowered_before_blank (column rest : List Char) :
    afterMark? ("lower(".toList ++ column ++ [')']) (column ++ ' ' :: rest) = none := by
  cases found : afterMark? ("lower(".toList ++ column ++ [')']) (column ++ ' ' :: rest) with
  | none => rfl
  | some behind =>
      have written := Text.afterMark?_eq_some_iff.mp found
      rw [List.append_assoc, List.append_assoc] at written
      have words := congrArg (fun chars => (chars.takeWhile (· != ' ')).length) written
      have word : ∀ c ∈ "lower(".toList, (c != ' ') = true := List.all_eq_true.mp (by decide)
      simp only [List.takeWhile_append_of_pos word, List.takeWhile_append,
        List.length_append] at words
      split_ifs at words <;> simp at words <;> omega

def loweredIf (lowers : Bool) (text : String) : String :=
  if lowers then "lower(" ++ text ++ ")" else text

theorem read_column (column : String) (lowers : Bool) (rest : List Char) :
    readColumn? column.toList ((loweredIf lowers column).toList ++ ' ' :: rest) =
      some (lowers, ' ' :: rest) := by
  cases lowers with
  | true =>
      have lowered : (loweredIf true column).toList =
          "lower(".toList ++ column.toList ++ [')'] := by
        simp [loweredIf]
      rw [readColumn?, lowered, after_mark_append]
  | false =>
      have bare : (loweredIf false column).toList = column.toList := rfl
      rw [readColumn?, bare, not_lowered_before_blank, after_mark_append]
      rfl

theorem read_operator {key : Key} (like : key.isLike = true) (rest : List Char) :
    readOperator? (' ' :: (key.operator.toList ++ ' ' :: rest)) = some (key, rest) := by
  cases key with
  | likeSearch =>
      have written : ' ' :: (Key.likeSearch.operator.toList ++ ' ' :: rest) =
          " like ".toList ++ rest := rfl
      rw [readOperator?, written, after_mark_append]
  | notLikeSearch => rfl
  | _ => cases like

theorem read_pattern_literal (dialect : Dialect) (lowers : Bool) (pattern : String)
    {rest : List Char} (apart : rest.head? ≠ some '\'') :
    readPatternLiteral? dialect lowers
        ((loweredIf lowers (dialect.textLiteral pattern)).toList ++ rest) =
      some (pattern.toList, rest) := by
  cases lowers with
  | true =>
      have lowered : (loweredIf true (dialect.textLiteral pattern)).toList ++ rest =
          "lower(".toList ++ ((dialect.textLiteral pattern).toList ++ ')' :: rest) := by
        simp [loweredIf]
      have read := dialect.read_text_literal pattern (')' :: rest) (by simp)
      have closed : afterMark? [')'] (')' :: rest) = some rest := rfl
      simp only [readPatternLiteral?, if_true, lowered, after_mark_append, read, closed,
        Option.bind_eq_bind, Option.bind_some]
  | false =>
      simp only [readPatternLiteral?, loweredIf, Bool.false_eq_true, if_false,
        dialect.read_text_literal pattern rest apart]

def LikeOption.escapeLiteral (option : LikeOption) : List Char :=
  if option.escape = '\'' then ['\'', '\'', '\'', '\''] else ['\'', option.escape, '\'']

theorem escape_clause_text (option : LikeOption) :
    option.escapeClause.toList = " escape ".toList ++ option.escapeLiteral := by
  unfold LikeOption.escapeClause LikeOption.escapeLiteral
  split_ifs
  · rfl
  · simp

theorem like_predicate_text {key : Key} (like : key.isLike = true) (column operand : String)
    (option : LikeOption) :
    (key.predicate column operand (some option)).toList =
      (loweredIf option.ignoresCase column).toList ++ ' ' :: (key.operator.toList ++ ' ' ::
        ((loweredIf option.ignoresCase operand).toList ++
          (" escape ".toList ++ option.escapeLiteral))) := by
  rw [← escape_clause_text]
  cases key with
  | likeSearch | notLikeSearch =>
      cases ignores : option.ignoresCase <;> simp [Key.predicate, loweredIf, ignores]
  | _ => cases like

/-- A like comparison is read up to its last literal whatever the dialect is. -/
theorem read_like_predicate (dialect : Dialect) (key : Key) (like : key.isLike = true)
    (column pattern : String) (option : LikeOption) (tail : List Char) :
    readLike? dialect column
        ((key.predicate column (dialect.textLiteral pattern) (some option)).toList ++ tail) =
      (dialect.readLiteral? (option.escapeLiteral ++ tail)).map fun (escape, rest) =>
        (⟨key, option.ignoresCase, pattern.toList, escape⟩, rest) := by
  have apart : (" escape ".toList ++ (option.escapeLiteral ++ tail)).head? ≠ some '\'' := by simp
  rw [like_predicate_text like]
  simp only [readLike?, List.append_assoc, List.cons_append, read_column, read_operator like,
    read_pattern_literal dialect _ _ apart, after_mark_append, Option.bind_eq_bind,
    Option.bind_some]
  rw [Option.map_eq_bind]
  rfl

/-- On MySQL a backslash that should be named as the escape character takes the closing quote with
it. -/
theorem read_escaped_quote {option : LikeOption} (backslash : option.escape = '\\')
    (tail : List Char) :
    Dialect.mysql.readLiteral? (option.escapeLiteral ++ tail) =
      (Dialect.mysql.readQuoted? tail).map (Dialect.readBehind ['\'']) := by
  have written : option.escapeLiteral = ['\'', '\\', '\''] := by
    simp [LikeOption.escapeLiteral, backslash]
  rw [written]
  rfl

/-- The escape character is read back, but for a backslash on MySQL. -/
theorem read_escape_literal_iff (dialect : Dialect) (option : LikeOption) (tail : List Char)
    (apart : tail.head? ≠ some '\'') :
    dialect.readLiteral? (option.escapeLiteral ++ tail) = some ([option.escape], tail) ↔
      ¬ (dialect = .mysql ∧ option.escape = '\\') := by
  by_cases unclosed : dialect = .mysql ∧ option.escape = '\\'
  · obtain ⟨rfl, backslash⟩ := unclosed
    have other : (Dialect.mysql.readQuoted? tail).map (Dialect.readBehind ['\'']) ≠
        some (['\\'], tail) := by
      intro same
      obtain ⟨behind, _, held⟩ := Option.map_eq_some_iff.mp same
      have first := congrArg (fun read => read.1.head?) held
      simp [Dialect.readBehind] at first
    simp [read_escaped_quote backslash, backslash, other]
  · have written : option.escapeLiteral = dialect.quotedChars [option.escape] := by
      have escaping : dialect.escapesNext option.escape = false := by
        rwa [Bool.eq_false_iff, ne_eq, dialect.escapes_next_iff]
      rw [LikeOption.escapeLiteral, Dialect.quotedChars, List.flatMap_singleton,
        dialect.quoted_char_eq, escaping]
      by_cases quote : option.escape = '\'' <;> simp [quote]
    rw [written]
    exact iff_of_true (dialect.read_literal_chars [option.escape] tail apart) unclosed

/-- The one clause of a like search for a text that is embedded. -/
theorem like_clauses_eq (key : Key) (like : key.isLike = true) (mode : Mode) (column : ColumnRef)
    {holder : Holder} (embedded : holder.binding = .embedded) {text : String}
    (held : holder.value? key = some (.text text)) (filled : text ≠ "") (option : LikeOption) :
    key.clauses mode column holder (some option) =
      .ok [.bound column key (mode.dialect.textLiteral (option.pattern text)) (some option)] := by
  have nonempty : (Value.text text).isEmpty = false := by simp [Value.isEmpty, filled]
  cases key with
  | likeSearch | notLikeSearch =>
      exact Key.clauses_of_embedded rfl rfl (fun _ => rfl) mode column embedded held nonempty
  | _ => cases like

/-- A like search for an embedded text is one clause. Wherever it stands, it is read as the column,
the operator, the pattern of the text and the escape character, for all dialects and options but the
one escape character that MySQL reads otherwise. -/
theorem like_predicate_read_iff (key : Key) (like : key.isLike = true) (mode : Mode)
    (column : ColumnRef) {holder : Holder} (embedded : holder.binding = .embedded) {text : String}
    (held : holder.value? key = some (.text text)) (filled : text ≠ "") (option : LikeOption) :
    ∃ clause, key.clauses mode column holder (some option) = .ok [clause] ∧
      ∀ tail : List Char, tail.head? ≠ some '\'' →
        (readLike? mode.dialect column.text (clause.sql.toList ++ tail) =
            some (⟨key, option.ignoresCase, (option.pattern text).toList, [option.escape]⟩, tail) ↔
          ¬ (mode.dialect = .mysql ∧ option.escape = '\\')) := by
  refine ⟨_, like_clauses_eq key like mode column embedded held filled option, fun tail apart => ?_⟩
  rw [Clause.sql, read_like_predicate mode.dialect key like,
    ← read_escape_literal_iff mode.dialect option tail apart]
  constructor
  · intro read
    obtain ⟨⟨escape, rest⟩, found, same⟩ := Option.map_eq_some_iff.mp read
    simp only [Prod.mk.injEq, LikeReading.mk.injEq, true_and] at same
    rw [found, same.1, same.2]
  · intro read
    rw [read]
    rfl

example : readLike? .mysql "NAME" "lower(NAME) like lower('5!%''%') escape '!' and A = 1".toList =
    some (⟨.likeSearch, true, "5!%'%".toList, ['!']⟩, " and A = 1".toList) := by cbv

/-- A text of a wildcard, a quote and a backslash, not to be searched for. -/
def unwantedName : Holder := ({} : Holder).set .notLikeSearch (.text "5%'\\")

/-- On MySQL the name is read as it is, also where a quote escapes. -/
theorem unwanted_name_read :
    Key.notLikeSearch.isLike = true ∧ unwantedName.binding = .embedded ∧
      unwantedName.value? .notLikeSearch = some (.text "5%'\\") ∧ "5%'\\" ≠ "" ∧
      ∃ clause, Key.notLikeSearch.clauses { dialect := .mysql, listLimit? := none }
          ⟨none, ⟨"NAME"⟩⟩ unwantedName (some ⟨.start, '\'', true⟩) = .ok [clause] ∧
        " and A = 1".toList.head? ≠ some '\'' ∧
        readLike? .mysql "NAME" (clause.sql.toList ++ " and A = 1".toList) =
          some (⟨.notLikeSearch, true, "5'%''\\%".toList, ['\'']⟩, " and A = 1".toList) := by
  have embedded : unwantedName.binding = .embedded := rfl
  have held := Holder.value_of_set {} .notLikeSearch (.text "5%'\\")
  have filled : "5%'\\" ≠ "" := by decide
  have apart : " and A = 1".toList.head? ≠ some '\'' := by decide
  obtain ⟨clause, clauses, read⟩ := like_predicate_read_iff .notLikeSearch rfl
    { dialect := .mysql, listLimit? := none } ⟨none, ⟨"NAME"⟩⟩ embedded held filled
    ⟨.start, '\'', true⟩
  exact ⟨rfl, embedded, held, filled, clause, clauses, apart,
    (read " and A = 1".toList apart).mpr (by decide)⟩

/-- On MySQL the literal of a backslash that escapes is not closed, and there is no comparison to
read. -/
theorem escaping_backslash_unclosed :
    Key.likeSearch.clauses { dialect := .mysql, listLimit? := none } ⟨none, ⟨"NAME"⟩⟩
        (({} : Holder).set .likeSearch (.text "a")) (some ⟨.start, '\\', false⟩) =
      .ok [.bound ⟨none, ⟨"NAME"⟩⟩ .likeSearch "'a%'" (some ⟨.start, '\\', false⟩)] ∧
    (Clause.bound ⟨none, ⟨"NAME"⟩⟩ .likeSearch "'a%'" (some ⟨.start, '\\', false⟩)).sql =
      "NAME like 'a%' escape '\\'" ∧
    readLike? .mysql "NAME" "NAME like 'a%' escape '\\'".toList = none := by
  have held := Holder.value_of_set {} .likeSearch (.text "a")
  have operand : Dialect.mysql.textLiteral (LikeOption.pattern ⟨.start, '\\', false⟩ "a") =
      "'a%'" := by decide
  have clauses := like_clauses_eq .likeSearch rfl
    { dialect := .mysql, listLimit? := none } ⟨none, ⟨"NAME"⟩⟩ rfl held (by decide)
    ⟨.start, '\\', false⟩
  rw [operand] at clauses
  have written : Key.likeSearch.predicate "NAME" "'a%'" (some ⟨.start, '\\', false⟩) =
      "NAME like 'a%' escape '\\'" := by decide
  have read := read_like_predicate .mysql .likeSearch rfl "NAME"
    (LikeOption.pattern ⟨.start, '\\', false⟩ "a") ⟨.start, '\\', false⟩ []
  rw [operand, written, read_escaped_quote rfl, List.append_nil] at read
  exact ⟨clauses, written, read⟩

end SqlComposer.Condition
