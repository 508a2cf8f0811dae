import SqlComposer.Order.Basic
import SqlComposer.Proofs.OrderedMap
import SqlComposer.Proofs.Refusals
import Mathlib.Tactic.SplitIfs

/-!
Changes of an order and its text. No change brings in a derived column or a ranking of its own but
the one that is meant to, and writing an order fails only for a column that a union does not select.
-/
namespace SqlComposer.Order

/-- The derived columns of an order have all been in another one before. -/
def KeepsDerived (before after : Order) : Prop :=
  ∀ element ∈ after.elements, element.isDerived = true →
    ∃ old ∈ before.elements, old.isDerived = true ∧ old.fullName = element.fullName

def KeepsUnranked (before after : Order) : Prop :=
  after.hasManual = true → before.hasManual = true

theorem has_manual_iff (order : Order) :
    order.hasManual = true ↔ ∃ element ∈ order.elements, element.manual?.isSome = true := by
  simp [hasManual]

def Element.Plain (element : Element) : Prop :=
  element.isDerived = false ∧ element.manual? = none

theorem token_plain {direction : Direction} {token : String} {element : Element}
    (read : Element.ofToken? direction token = some element) : element.Plain := by
  unfold Element.ofToken? at read
  dsimp only at read
  split at read
  all_goals
    split_ifs at read
    obtain rfl := Option.some.inj read
    exact ⟨rfl, rfl⟩

theorem tokens_plain {direction : Direction} {tokens : List String} {elements : List Element}
    (read : tokens.mapM (Element.ofToken? direction) = some elements) :
    ∀ element ∈ elements, element.Plain := by
  induction tokens generalizing elements with
  | nil =>
      obtain rfl := Option.some.inj read
      intro element member
      cases member
  | cons token rest ih =>
      rw [List.mapM_cons] at read
      obtain ⟨first, here, read⟩ := Option.bind_eq_some_iff.mp read
      obtain ⟨others, later, read⟩ := Option.bind_eq_some_iff.mp read
      obtain rfl := Option.some.inj read
      intro element member
      rcases List.mem_cons.mp member with rfl | further
      · exact token_plain here
      · exact ih later element further

/-- The elements of a path are plain columns. -/
theorem path_plain {path : String} {direction : Direction} {elements : List Element}
    (read : Element.ofPath path direction = .ok elements) :
    ∀ element ∈ elements, element.Plain := by
  unfold Element.ofPath at read
  split at read
  · next found =>
      obtain rfl := Except.ok.inj read
      exact tokens_plain found
  · cases read

theorem add_path_keeps {before after : Order} {path : String} {direction : Direction}
    (added : before.addPath path direction = .ok after) :
    KeepsDerived before after ∧ KeepsUnranked before after := by
  obtain ⟨elements, read, rfl⟩ := map_eq_ok added
  have plain := path_plain read
  constructor
  · intro element member derived
    rcases List.mem_append.mp member with old | new
    · exact ⟨element, old, derived, rfl⟩
    · rw [(plain element new).1] at derived
      cases derived
  · intro ranked
    obtain ⟨element, member, manual⟩ := (has_manual_iff _).mp ranked
    rcases List.mem_append.mp member with old | new
    · exact (has_manual_iff _).mpr ⟨element, old, manual⟩
    · rw [(plain element new).2] at manual
      cases manual

theorem reverse_or_replace_keeps {before after : Order} {path : String} {direction : Direction}
    (changed : before.reverseOrReplace path direction = .ok after) :
    KeepsDerived before after ∧ KeepsUnranked before after := by
  obtain ⟨elements, read, rfl⟩ := map_eq_ok changed
  have plain := path_plain read
  split_ifs
  · constructor
    · intro element member derived
      obtain ⟨old, present, rfl⟩ := List.mem_map.mp member
      exact ⟨old, present, derived, rfl⟩
    · intro ranked
      obtain ⟨element, member, manual⟩ := (has_manual_iff _).mp ranked
      obtain ⟨old, present, rfl⟩ := List.mem_map.mp member
      exact (has_manual_iff _).mpr ⟨old, present, manual⟩
  · constructor
    · intro element member derived
      rw [(plain element member).1] at derived
      cases derived
    · intro ranked
      obtain ⟨element, member, manual⟩ := (has_manual_iff _).mp ranked
      rw [(plain element member).2] at manual
      cases manual

theorem change_last_spec {before after : Order} {change : Element → Element}
    (changed : before.changeLast change = .ok after) :
    ∃ last ∈ before.elements, ∀ element ∈ after.elements,
      element ∈ before.elements ∨ element = change last := by
  unfold changeLast at changed
  split at changed
  · cases changed
  · next last found =>
      obtain rfl := Except.ok.inj changed
      refine ⟨last, List.mem_of_getLast? found, fun element member => ?_⟩
      rcases List.mem_append.mp member with old | new
      · exact .inl (List.dropLast_subset _ old)
      · exact .inr (List.mem_singleton.mp new)

theorem change_last_keeps_derived {before after : Order} {change : Element → Element}
    (changed : before.changeLast change = .ok after)
    (same : ∀ element, (change element).isDerived = element.isDerived ∧
      (change element).fullName = element.fullName) : KeepsDerived before after := by
  obtain ⟨last, present, elements⟩ := change_last_spec changed
  intro element member derived
  rcases elements element member with old | rfl
  · exact ⟨element, old, derived, rfl⟩
  · rw [(same last).1] at derived
    exact ⟨last, present, derived, (same last).2.symm⟩

theorem place_nulls_keeps {before after : Order} {place : NullPlace}
    (placed : before.placeNulls place = .ok after) :
    KeepsDerived before after ∧ KeepsUnranked before after := by
  refine ⟨change_last_keeps_derived placed fun element => ⟨rfl, rfl⟩, fun ranked => ?_⟩
  obtain ⟨last, present, elements⟩ := change_last_spec placed
  obtain ⟨element, member, manual⟩ := (has_manual_iff _).mp ranked
  rcases elements element member with old | rfl
  · exact (has_manual_iff _).mpr ⟨element, old, manual⟩
  · exact (has_manual_iff _).mpr ⟨last, present, manual⟩

theorem rank_manually_keeps_derived {before after : Order} {literals : List String}
    (ranked : before.rankManually literals = .ok after) : KeepsDerived before after := by
  unfold rankManually at ranked
  split_ifs at ranked
  exact change_last_keeps_derived ranked fun element => ⟨rfl, rfl⟩

theorem add_derived_keeps_unranked (before : Order) (name : String) (direction : Direction) :
    KeepsUnranked before (before.addDerived name direction) := by
  intro ranked
  obtain ⟨element, member, manual⟩ := (has_manual_iff _).mp ranked
  rcases List.mem_append.mp member with old | new
  · exact (has_manual_iff _).mpr ⟨element, old, manual⟩
  · rw [List.mem_singleton.mp new] at manual
    cases manual

/-- Some element is under a name that is not among the select aliases. -/
def Unselected (aliases : OrderedMap String String) (order : Order) : Prop :=
  ∃ element ∈ order.elements, element.fullName ∉ aliases.keys

theorem element_column_ok_iff (aliases : OrderedMap String String) (isUnion : Bool)
    (element : Element) :
    (∃ column, elementColumn aliases isUnion element = .ok column) ↔
      (isUnion = true ∨ element.isDerived = true → element.fullName ∈ aliases.keys) := by
  unfold elementColumn
  rw [← Bool.or_eq_true]
  split_ifs with asked
  · rw [OrderedMap.mem_keys_iff_find?]
    cases aliases.find? element.fullName <;> simp [asked]
  · simp [asked]

theorem element_column_refusal {aliases : OrderedMap String String} {isUnion : Bool}
    {element : Element} {refusal : ClauseError}
    (refused : elementColumn aliases isUnion element = .error refusal) :
    refusal = .illegalState (.orderNotSelected element.fullName) := by
  unfold elementColumn at refused
  split_ifs at refused
  split at refused
  · cases refused
  · exact (Except.error.inj refused).symm

/-- What an order can be refused for when it is written. -/
inductive SqlRefusal : ClauseError → Prop where
  | noAliases : SqlRefusal (.illegalState .noSelectAliases)
  | notSelected (column : String) : SqlRefusal (.illegalState (.orderNotSelected column))

theorem sql_refusal {order : Order} {dialect : Dialect} {aliases : OrderedMap String String}
    {isUnion : Bool} {refusal : ClauseError}
    (unranked : isUnion = true → order.hasManual = false)
    (refused : order.sql dialect aliases isUnion = .error refusal) : SqlRefusal refusal := by
  unfold sql at refused
  split_ifs at refused with _ _ ranked
  · obtain rfl := Except.error.inj refused
    exact .noAliases
  · obtain ⟨union, manual⟩ := (Bool.and_eq_true _ _).mp ranked
    rw [unranked union] at manual
    cases manual
  · obtain ⟨element, _, fails⟩ := refused_by_step (map_error_iff.mp refused)
    rw [element_column_refusal (map_error_iff.mp fails)]
    exact .notSelected element.fullName

/-- An order is written unless a union does not select one of its columns. -/
theorem sql_ok_iff (order : Order) (dialect : Dialect) (aliases : OrderedMap String String)
    (isUnion : Bool) (unranked : isUnion = true → order.hasManual = false)
    (derived : ∀ element ∈ order.elements, element.isDerived = true →
      element.fullName ∈ aliases.keys) :
    (∃ text, order.sql dialect aliases isUnion = .ok text) ↔
      ¬ (isUnion = true ∧ Unselected aliases order) := by
  have columns : (∀ element ∈ order.elements,
      ∃ column, elementColumn aliases isUnion element = .ok column) ↔
      ¬ (isUnion = true ∧ Unselected aliases order) := by
    simp only [element_column_ok_iff]
    constructor
    · rintro known ⟨union, element, member, absent⟩
      exact absent (known element member (.inl union))
    · intro all element member asked
      rcases asked with union | given
      · by_contra absent
        exact all ⟨union, element, member, absent⟩
      · exact derived element member given
  unfold sql
  split_ifs with empty bare ranked
  · refine ⟨fun _ => ?_, fun _ => ⟨_, rfl⟩⟩
    rintro ⟨_, element, member, _⟩
    rw [List.isEmpty_iff.mp empty] at member
    cases member
  · refine ⟨fun accepted => ?_, fun all => absurd ?_ all⟩
    · obtain ⟨_, accepted⟩ := accepted
      cases accepted
    · obtain ⟨union, none⟩ := (Bool.and_eq_true _ _).mp bare
      obtain ⟨element, rest, shape⟩ := List.exists_cons_of_ne_nil (by simpa using empty)
      refine ⟨union, element, by simp [shape], ?_⟩
      have keys : aliases.keys = [] := by simpa [OrderedMap.isEmpty, OrderedMap.keys] using none
      simp [keys]
  · obtain ⟨union, manual⟩ := (Bool.and_eq_true _ _).mp ranked
    rw [unranked union] at manual
    cases manual
  · rw [← columns, map_ok_iff, map_m_ok_iff]
    simp only [map_ok_iff]

end SqlComposer.Order
