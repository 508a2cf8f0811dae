import SqlComposer.Condition.Register
import SqlComposer.Proofs.Refusals
import Mathlib.Tactic.SplitIfs

/-!
What an accepted comparison comes to: its clauses by the value that it is given and by how that
value is bound, an operand by the value that is embedded, and a split list by its parts.
-/
namespace SqlComposer.Condition

variable {key : Key} {mode : Mode} {column : ColumnRef}

/-- A value is embedded as its literal, and a text that is searched with an option as the literal of
its pattern. -/
inductive OperandOf (dialect : Dialect) (option? : Option LikeOption) : Value → String → Prop where
  | literal (value : Value) : OperandOf dialect option? value (value.literal dialect)
  | pattern {option : LikeOption} (given : option? = some option) (searched : String) :
      OperandOf dialect option? (.text searched) (dialect.textLiteral (option.pattern searched))

theorem operand_of_accepted {dialect : Dialect} {value : Value} {option? : Option LikeOption}
    {operand : String} (made : key.embeddedOperand dialect column value option? = .ok operand) :
    OperandOf dialect option? value operand := by
  unfold Key.embeddedOperand at made
  split_ifs at made
  · cases value with
    | text searched =>
        cases option? with
        | none =>
            obtain rfl := Except.ok.inj made
            exact .literal (.text searched)
        | some option =>
            obtain rfl := Except.ok.inj made
            exact .pattern rfl searched
    | _ => cases made
  · cases value with
    | list elements => cases made
    | _ =>
        obtain rfl := Except.ok.inj made
        exact .literal _

/-- The parts of a list, each as a comparison of its own. -/
def Key.listParts (key : Key) (mode : Mode) (column : ColumnRef) (value : Value) : List Clause :=
  let elements := value.effectiveElements.map (Value.literal mode.dialect)
  (chunks (mode.listSize elements.length) elements).map fun part =>
    Clause.bound column key ("(" ++ Text.join ", " part ++ ")") none

theorem mem_list_parts {value : Value} {clause : Clause}
    (member : clause ∈ key.listParts mode column value) :
    ∃ part, clause = .bound column key ("(" ++ Text.join ", " part ++ ")") none ∧
      ∀ text ∈ part, ∃ element ∈ value.effectiveElements,
        element.literal mode.dialect = text := by
  obtain ⟨part, inside, rfl⟩ := List.mem_map.mp member
  refine ⟨part, rfl, fun text literal => ?_⟩
  have found := List.mem_flatten.mpr ⟨part, inside, literal⟩
  rw [flatten_chunks] at found
  exact List.mem_map.mp found

/-- The parts are clauses of their own, or joined into one. -/
theorem list_clauses_cases (key : Key) (mode : Mode) (column : ColumnRef) (value : Value) :
    key.listClauses mode column value = key.listParts mode column value ∨
      ∃ connector, (connector = " or " ∨ connector = " and ") ∧
        key.listClauses mode column value =
          [.text ("(" ++ Clause.joined connector (key.listParts mode column value) ++ ")")] := by
  unfold Key.listClauses
  dsimp only
  split_ifs
  · exact .inl rfl
  · exact .inr ⟨_, .inl rfl, rfl⟩
  · exact .inr ⟨_, .inr rfl, rfl⟩

/-- What stands behind the comment of a bound value. -/
def Key.placeholder (key : Key) : String :=
  if key.isList then "(null)" else if key.isLike then "'dummy'" else "null"

def Binding.location? : Binding → Option String
  | .embedded => none
  | .bound location => some location

/-- The clauses of an accepted comparison, told from the value that it is given and from the
location at which that value is bound. -/
inductive Compared (key : Key) (mode : Mode) (column : ColumnRef) (given? : Option Value)
    (location? : Option String) (option? : Option LikeOption) : List Clause → Prop where
  | valueless (needless : key.needsValue = false) :
      Compared key mode column given? location? option? [.bound column key "" none]
  | ignored (needed : key.needsValue = true) (unchecked : mode.refusesEmpty = false)
      (nothing : ∀ value, given? = some value → value.isEmpty = true) :
      Compared key mode column given? location? option? []
  | comment (needed : key.needsValue = true) {value : Value} (given : given? = some value)
      (filled : value.isEmpty = false) {location : String} (bound : location? = some location) :
      Compared key mode column given? location? option?
        [.bound column key (key.bindComment location ++ key.placeholder) option?]
  | list (listed : key.isList = true) {value : Value} (given : given? = some value)
      (filled : value.isEmpty = false) (embedded : location? = none) :
      Compared key mode column given? location? option? (key.listClauses mode column value)
  | operand (needed : key.needsValue = true) (single : key.isList = false) {value : Value}
      (given : given? = some value) (filled : value.isEmpty = false) (embedded : location? = none)
      {operand : String}
      (made : key.embeddedOperand mode.dialect column value option? = .ok operand) :
      Compared key mode column given? location? option? [.bound column key operand option?]

theorem needs_value_of_is_list (listed : key.isList = true) : key.needsValue = true := by
  cases key with
  | inScope | notInScope => rfl
  | _ => cases listed

theorem not_is_list_of_is_like (pattern : key.isLike = true) : key.isList = false := by
  cases key with
  | likeSearch | notLikeSearch => rfl
  | _ => cases pattern

section

variable {holder : Holder} {option? : Option LikeOption}

theorem option_of_list (fits : option?.isSome = true → key.isLike = true)
    (listed : key.isList = true) : option? = none := by
  cases option? with
  | none => rfl
  | some option =>
      rw [not_is_list_of_is_like (fits rfl)] at listed
      cases listed

theorem location_eq_some_iff {binding : Binding} {location : String} :
    binding.location? = some location ↔ binding = .bound location := by
  cases binding <;> simp [Binding.location?]

theorem location_eq_none_iff {binding : Binding} :
    binding.location? = none ↔ binding = .embedded := by
  cases binding <;> simp [Binding.location?]

theorem clauses_of_unfit (given : option?.isSome = true) (other : key.isLike = false) :
    key.clauses mode column holder option? =
      .error (.illegalArgument (.optionWithoutLike key column.text)) := by
  rw [Key.clauses, if_pos ⟨given, by simp [other]⟩]

theorem clauses_of_needless (fits : option?.isSome = true → key.isLike = true)
    (needless : key.needsValue = false) :
    key.clauses mode column holder option? = .ok [.bound column key "" none] := by
  rw [Key.clauses, if_neg fun unfit => unfit.2 (fits unfit.1), if_pos (by simp [needless])]

theorem clauses_of_nothing (fits : option?.isSome = true → key.isLike = true)
    (needed : key.needsValue = true)
    (nothing : ∀ value, holder.value? key = some value → value.isEmpty = true) :
    key.clauses mode column holder option? =
      if mode.refusesEmpty then .error (.illegalArgument (.missingValue key column.text))
      else .ok [] := by
  have none : (holder.value? key).filter (fun value => !value.isEmpty) = none := by
    simpa [Option.filter_eq_none_iff] using nothing
  rw [Key.clauses, if_neg fun unfit => unfit.2 (fits unfit.1), if_neg (by simp [needed]), none]

section

variable {value : Value}

theorem filled_value (held : holder.value? key = some value) (filled : value.isEmpty = false) :
    (holder.value? key).filter (fun value => !value.isEmpty) = some value := by
  rw [held, Option.filter_some, filled]
  rfl

theorem clauses_of_bound (mode : Mode) (column : ColumnRef)
    (fits : option?.isSome = true → key.isLike = true) (needed : key.needsValue = true)
    (held : holder.value? key = some value) (filled : value.isEmpty = false) {location : String}
    (bound : holder.binding = .bound location) :
    key.clauses mode column holder option? =
      .ok [.bound column key (key.bindComment location ++ key.placeholder) option?] := by
  rw [Key.clauses, if_neg fun unfit => unfit.2 (fits unfit.1), if_neg (by simp [needed]),
    filled_value held filled, bound, Key.placeholder]
  dsimp only
  split_ifs with listed
  · rw [option_of_list fits listed]
  · rfl
  · rfl

theorem clauses_of_list (mode : Mode) (column : ColumnRef)
    (fits : option?.isSome = true → key.isLike = true) (listed : key.isList = true)
    (held : holder.value? key = some value) (filled : value.isEmpty = false)
    (embedded : holder.binding = .embedded) :
    key.clauses mode column holder option? = .ok (key.listClauses mode column value) := by
  have needed : key.needsValue = true := needs_value_of_is_list listed
  rw [Key.clauses, if_neg fun unfit => unfit.2 (fits unfit.1), if_neg (by simp [needed]),
    filled_value held filled, embedded]
  exact if_pos listed

end

theorem fits_of_accepted {clauses : List Clause}
    (made : key.clauses mode column holder option? = .ok clauses) (given : option?.isSome = true) :
    key.isLike = true := by
  cases like : key.isLike with
  | true => rfl
  | false =>
      rw [clauses_of_unfit given like] at made
      cases made

theorem compared_of_accepted {clauses : List Clause}
    (made : key.clauses mode column holder option? = .ok clauses) :
    Compared key mode column (holder.value? key) holder.binding.location? option? clauses := by
  have fits := fits_of_accepted made
  cases needed : key.needsValue with
  | false =>
      rw [clauses_of_needless fits needed] at made
      obtain rfl := Except.ok.inj made
      exact .valueless needed
  | true =>
      by_cases nothing : ∀ value, holder.value? key = some value → value.isEmpty = true
      · rw [clauses_of_nothing fits needed nothing] at made
        split_ifs at made with checked
        obtain rfl := Except.ok.inj made
        exact .ignored needed (Bool.not_eq_true _ ▸ checked) nothing
      · have given : ∃ value, holder.value? key = some value ∧ value.isEmpty = false := by
          simpa using nothing
        obtain ⟨value, held, filled⟩ := given
        cases binding : holder.binding with
        | bound location =>
            rw [clauses_of_bound mode column fits needed held filled binding] at made
            obtain rfl := Except.ok.inj made
            exact .comment needed held filled rfl
        | embedded =>
            cases listed : key.isList with
            | true =>
                rw [clauses_of_list mode column fits listed held filled binding] at made
                obtain rfl := Except.ok.inj made
                exact .list listed held filled rfl
            | false =>
                rw [Key.clauses_of_embedded needed listed fits mode column binding held filled]
                  at made
                obtain ⟨operand, written, rfl⟩ := map_eq_ok made
                exact .operand needed listed held filled rfl written

theorem accepted_of_compared {clauses : List Clause}
    (fits : option?.isSome = true → key.isLike = true)
    (compared : Compared key mode column (holder.value? key) holder.binding.location? option?
      clauses) : key.clauses mode column holder option? = .ok clauses := by
  cases compared with
  | valueless needless => exact clauses_of_needless fits needless
  | ignored needed unchecked nothing =>
      rw [clauses_of_nothing fits needed nothing]
      exact if_neg (Bool.not_eq_true _ ▸ unchecked)
  | comment needed held filled bound =>
      exact clauses_of_bound mode column fits needed held filled (location_eq_some_iff.mp bound)
  | list listed held filled embedded =>
      exact clauses_of_list mode column fits listed held filled (location_eq_none_iff.mp embedded)
  | operand needed single held filled embedded made =>
      rw [Key.clauses_of_embedded needed single fits mode column
        (location_eq_none_iff.mp embedded) held filled, made]
      rfl

end

end SqlComposer.Condition
