import SqlComposer.Condition.Clause
import SqlComposer.Condition.Holder
import SqlComposer.Dialect.Literal

/-!
From a comparison and its value to clauses. A value that is missing or empty gives no clause, unless
such values are refused; a list that is too long for one `in (...)` is split.
-/
namespace SqlComposer.Condition

structure Mode where
  dialect : Dialect
  inOrScope : Bool := false
  /-- The clauses become one term of an or-scope, joined by `and`. -/
  inAndPart : Bool := false
  /-- Missing and empty values are refused instead of ignored. -/
  refusesEmpty : Bool := false
  /-- The largest number of elements in one list; zero means no limit. -/
  listLimit? : Option Nat

def Key.bindComment (key : Key) (location : String) : String :=
  "/*pmb." ++ location ++ "." ++ key.name ++ "*/"

/-- Consecutive parts of `size` elements, the last one perhaps shorter. -/
def chunks {α : Type} (size : Nat) : List α → List (List α)
  | [] => []
  | value :: rest => (value :: rest.take (size - 1)) :: chunks size (rest.drop (size - 1))
termination_by values => values.length

theorem flatten_chunks {α : Type} (size : Nat) (values : List α) :
    (chunks size values).flatten = values := by
  fun_induction chunks size values with
  | case1 => rfl
  | case2 value rest ih => simp [ih]

/-- The operand of a comparison whose value is embedded. A pattern has to be a text, and only a list
comparison takes a list. -/
def Key.embeddedOperand (key : Key) (dialect : Dialect) (column : ColumnRef) (value : Value)
    (option? : Option LikeOption) : Except ClauseError String :=
  if key.isLike then
    match value with
    | .text searched =>
      match option? with
      | some option => .ok (dialect.textLiteral (option.pattern searched))
      | none => .ok (dialect.textLiteral searched)
    | _ => .error (.illegalArgument (.patternNotText key column.text))
  else
    match value with
    | .list _ => .error (.illegalArgument (.listValue key column.text))
    | _ => .ok (value.literal dialect)

def Mode.listSize (mode : Mode) (count : Nat) : Nat :=
  match mode.listLimit? with
  | some (limit + 1) => limit + 1
  | _ => max count 1

/-- The clauses of a list comparison whose value is embedded. Parts of a split list are terms of the
open or-scope when membership in any of them is enough; otherwise they form one clause. -/
def Key.listClauses (key : Key) (mode : Mode) (column : ColumnRef) (value : Value) : List Clause :=
  let elements := value.effectiveElements.map (Value.literal mode.dialect)
  let parts := (chunks (mode.listSize elements.length) elements).map fun part =>
    Clause.bound column key ("(" ++ Text.join ", " part ++ ")") none
  if parts.length = 1 ∨ (key = .inScope ∧ mode.inOrScope ∧ ¬ mode.inAndPart) then parts
  else
    let connector := if key = .inScope then " or " else " and "
    [Clause.text ("(" ++ Clause.joined connector parts ++ ")")]

/-- The clauses of a comparison with the values of a holder. A like option without a like search is
refused before anything else; a value that is empty gives no clause, or an error where the mode
refuses it. -/
def Key.clauses (key : Key) (mode : Mode) (column : ColumnRef) (holder : Holder)
    (option? : Option LikeOption) : Except ClauseError (List Clause) :=
  if option?.isSome ∧ ¬ key.isLike then
    .error (.illegalArgument (.optionWithoutLike key column.text))
  else if ¬ key.needsValue then
    .ok [.bound column key "" none]
  else
    match (holder.value? key).filter fun value => !value.isEmpty with
    | none =>
      if mode.refusesEmpty then .error (.illegalArgument (.missingValue key column.text))
      else .ok []
    | some value =>
      match holder.binding with
      | .bound location =>
        if key.isList then
          .ok [.bound column key (key.bindComment location ++ "(null)") none]
        else
          let dummy := if key.isLike then "'dummy'" else "null"
          .ok [.bound column key (key.bindComment location ++ dummy) option?]
      | .embedded =>
        if key.isList then .ok (key.listClauses mode column value)
        else
          (key.embeddedOperand mode.dialect column value option?).map fun operand =>
            [.bound column key operand option?]

theorem Key.clauses_of_embedded {key : Key} (needed : key.needsValue = true)
    (single : key.isList = false) {option? : Option LikeOption}
    (fitting : option?.isSome = true → key.isLike = true) (mode : Mode) (column : ColumnRef)
    {holder : Holder} (embedded : holder.binding = .embedded) {value : Value}
    (held : holder.value? key = some value) (filled : value.isEmpty = false) :
    key.clauses mode column holder option? =
      (key.embeddedOperand mode.dialect column value option?).map fun operand =>
        [.bound column key operand option?] := by
  have fits : ¬ (option?.isSome = true ∧ ¬ key.isLike = true) :=
    fun ⟨given, other⟩ => other (fitting given)
  have given : (holder.value? key).filter (fun value => !value.isEmpty) = some value := by
    rw [held, Option.filter_some, filled]
    rfl
  rw [Key.clauses, if_neg fits, if_neg (by simp [needed]), given]
  simp [embedded, single]

end SqlComposer.Condition
