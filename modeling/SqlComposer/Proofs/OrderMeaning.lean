import Mathlib.Data.Nat.Basic
import Mathlib.Order.Compare
import SqlComposer.Proofs.OrderReading

/-!
What the order of an element does with rows. Its text is read as keys, and the keys compare rows by
their value, which may be missing; a comparison with a missing value is unknown. Databases with
words for the place of nulls and databases without them, whatever they do with nulls by themselves,
put the rows in the same order.
-/
namespace SqlComposer.Order

/-- A database as far as an order of values goes: how it writes, the values of its literals, and
where rows without a value stand unless an order says so. -/
structure Database (V : Type) where
  dialect : Dialect
  meaning? : String → Option V
  nullPlace : Direction → NullPlace

/-- How a row without a value compares with one that has a value. -/
def NullPlace.beforeValues : NullPlace → Ordering
  | first => .lt
  | last => .gt

/-- Whether an expression has a value for a row; a ranking always has one. -/
def Expression.hasValue {V : Type} (row : Option V) : Expression → Bool
  | column => row.isSome
  | ranking _ _ => true

/-- An element with the literals of requested values, or without a requested sequence. -/
def Element.requesting (element : Element) (dialect : Dialect) (values? : Option (List Value)) :
    Element :=
  { element with manual? := values?.map fun values => values.map (Value.literal dialect) }

structure Database.Means {V : Type} (db : Database V) (values : List Value) (listed : List V) :
    Prop where
  decimals : ∀ value ∈ values, Statement.HasDecimals value
  literals : values.map (fun value => db.meaning? (value.literal db.dialect)) = listed.map some

theorem legible_of_means {V : Type} {db : Database V} {values : List Value} {listed : List V}
    (means : db.Means values listed) (filled : values ≠ []) (element : Element) :
    (element.requesting db.dialect (some values)).Legible db.dialect := by
  intro literals asked
  have written : values.map (Value.literal db.dialect) = literals := Option.some.inj asked
  rw [← written]
  constructor
  · rw [ne_eq, List.map_eq_nil_iff]
    exact filled
  · rw [List.forall_mem_map]
    intro value member
    exact passes_of_literal db.dialect value (means.decimals value member)

section

variable {V : Type} [LinearOrder V]

def Direction.compare (direction : Direction) (left right : V) : Ordering :=
  match direction with
  | .ascending => Ord.compare left right
  | .descending => Ord.compare right left

/-- Rows by direction, those without a value at their place. -/
def placed (place : NullPlace) (direction : Direction) : Option V → Option V → Ordering
  | none, none => .eq
  | none, some _ => place.beforeValues
  | some _, none => place.beforeValues.swap
  | some left, some right => direction.compare left right

namespace Database

variable (db : Database V)

/-- Whether a row has the value of a literal, unless one of them has no value. -/
def equals (row : Option V) (literal : String) : Option Bool := do
  let value ← row
  let other ← db.meaning? literal
  some (decide (value = other))

/-- The first branch whose comparison is true decides. -/
def rank (otherwise : Nat) (row : Option V) : List (String × Nat) → Nat
  | [] => otherwise
  | (literal, index) :: rest =>
    if db.equals row literal = some true then index else rank otherwise row rest

def compareBy (place : NullPlace) (direction : Direction) (left right : Option V) :
    Expression → Ordering
  | .column => placed place direction left right
  | .ranking branches otherwise =>
    placed place direction (some (db.rank otherwise left branches))
      (some (db.rank otherwise right branches))

def compareKey (left right : Option V) (key : SortKey) : Ordering :=
  let place := key.nulls?.getD (db.nullPlace key.direction)
  match key.subject with
  | .plain expression => db.compareBy place key.direction left right expression
  | .presence expression present absent =>
    placed place key.direction (some (if expression.hasValue left then present else absent))
      (some (if expression.hasValue right then present else absent))

/-- A later key decides between rows that are equal for the earlier ones. -/
def compareKeys (keys : List SortKey) (left right : Option V) : Ordering :=
  keys.foldr (fun key later => (db.compareKey left right key).then later) .eq

/-- The order that a text asks for, whose column is written as `column`. -/
def order? (column text : String) : Option (Option V → Option V → Ordering) :=
  (keysOf? db.dialect column text).map db.compareKeys

end Database

/-- The position of a row's value in a list, counted from its first occurrence; behind the list when
the value is not in it or missing. -/
def position (listed : List V) : Option V → Nat
  | none => listed.length
  | some value => listed.idxOf value

def ranked (direction : Direction) (listed : List V) (left right : Option V) : Ordering :=
  direction.compare (position listed left) (position listed right)

namespace Database

variable (db : Database V) (element : Element) (column : String)

/-- The order that an element with requested values asks a database for. -/
def orderOf? (values? : Option (List Value)) : Option (Option V → Option V → Ordering) :=
  db.order? column ((element.requesting db.dialect values?).sql db.dialect column)

variable {db element} {values : List Value} {listed : List V}

theorem equals_iff {row : Option V} {literal : String} {value : V}
    (means : db.meaning? literal = some value) :
    db.equals row literal = some true ↔ row = some value := by
  cases row with
  | none => simp [equals]
  | some own => simp [equals, means]

theorem rank_eq_position {literals : List String}
    (means : literals.map db.meaning? = listed.map some) (index : Nat) (row : Option V) :
    db.rank (index + literals.length) row (literals.zipIdx index) =
      index + position listed row := by
  induction literals generalizing listed index with
  | nil =>
      cases listed with
      | nil => cases row <;> rfl
      | cons value rest => cases means
  | cons literal literals ih =>
      cases listed with
      | nil => cases means
      | cons value rest =>
          rw [List.map_cons, List.map_cons, List.cons.injEq] at means
          have later := ih means.2 (index + 1)
          rw [Nat.add_right_comm, Nat.add_assoc] at later
          rw [List.zipIdx_cons, rank, List.length_cons]
          by_cases here : row = some value
          · rw [if_pos ((equals_iff means.1).mpr here), here, position, List.idxOf_cons_self,
              Nat.add_zero]
          · rw [if_neg fun equal => here ((equals_iff means.1).mp equal), later, Nat.add_assoc]
            cases row with
            | none => rw [position, position, List.length_cons, Nat.add_comm 1]
            | some own =>
                have other : value ≠ own := fun same => here (congrArg some same.symm)
                rw [position, position, List.idxOf_cons_ne _ other, Nat.succ_eq_add_one,
                  Nat.add_comm 1]

/-- A test for a value puts rows at their place, and the place that comes after it has no say. -/
theorem presence_then (place other : NullPlace) (expression : Expression) (direction : Direction)
    (left right : Option V) :
    (db.compareKey left right
        ⟨.presence expression place.presentIndex place.absentIndex, .ascending, none⟩).then
      (db.compareBy other direction left right expression) =
        db.compareBy place direction left right expression := by
  have same : ∀ index : Nat, Ord.compare index index = .eq := fun index => compare_eq_iff_eq.mpr rfl
  cases expression with
  | ranking branches otherwise =>
      have first : db.compareKey left right ⟨.presence (.ranking branches otherwise)
          place.presentIndex place.absentIndex, .ascending, none⟩ = .eq := same _
      rw [first]
      rfl
  | column =>
      cases left with
      | none =>
          cases right with
          | none =>
              have first : db.compareKey none none ⟨.presence .column place.presentIndex
                  place.absentIndex, .ascending, none⟩ = .eq := same _
              rw [first]
              rfl
          | some value => cases place <;> rfl
      | some value =>
          cases right with
          | none => cases place <;> rfl
          | some third =>
              have first : db.compareKey (some value) (some third) ⟨.presence .column
                  place.presentIndex place.absentIndex, .ascending, none⟩ = .eq := same _
              rw [first]
              rfl

theorem order_of_legible (values? : Option (List Value))
    (legible : (element.requesting db.dialect values?).Legible db.dialect) :
    db.orderOf? element column values? =
      some (db.compareKeys ((element.requesting db.dialect values?).keys db.dialect)) := by
  rw [orderOf?, order?, keys_of_element legible column]
  rfl

/-- With a wish for nulls the keys compare by the expression with nulls at their place, be it that
the dialect has words for it or that a test comes first. -/
theorem compare_keys_of_nulls {asked : Element} {place : NullPlace}
    (nulls : asked.nulls? = some place) (left right : Option V) :
    db.compareKeys (asked.keys db.dialect) left right =
      db.compareBy place asked.direction left right asked.reading := by
  unfold Element.keys
  rw [nulls]
  dsimp only
  cases testForm? db.dialect with
  | none => exact Ordering.then_eq
  | some form =>
      rw [← presence_then place (db.nullPlace asked.direction) asked.reading]
      exact congrArg _ (Ordering.then_eq)

theorem compare_keys_of_no_nulls {asked : Element} (nulls : asked.nulls? = none)
    (left right : Option V) :
    db.compareKeys (asked.keys db.dialect) left right =
      db.compareBy (db.nullPlace asked.direction) asked.direction left right asked.reading := by
  unfold Element.keys
  rw [nulls]
  exact Ordering.then_eq

theorem order_of_column {place : NullPlace} (asked : element.nulls? = some place) :
    db.orderOf? element column none = some (placed place element.direction) := by
  rw [order_of_legible column none nofun]
  congr 1
  funext left right
  have column_asked : (element.requesting db.dialect none).nulls? = some place := asked
  exact compare_keys_of_nulls column_asked left right

theorem compare_by_ranking (means : db.Means values listed) (place : NullPlace)
    (direction : Direction) (left right : Option V) :
    db.compareBy place direction left right
        (element.requesting db.dialect (some values)).reading =
      ranked direction listed left right := by
  have literals : (values.map (Value.literal db.dialect)).map db.meaning? = listed.map some := by
    rw [List.map_map]
    exact means.literals
  have position_of : ∀ row, db.rank (values.map (Value.literal db.dialect)).length row
      (values.map (Value.literal db.dialect)).zipIdx = position listed row := by
    intro row
    have counted := rank_eq_position literals 0 row
    rw [Nat.zero_add, Nat.zero_add] at counted
    exact counted
  rw [ranked, ← position_of left, ← position_of right]
  rfl

/-- A ranking always has a value, so that a wish for nulls has no effect on it. -/
theorem order_of_ranking (means : db.Means values listed) (filled : values ≠ []) :
    db.orderOf? element column (some values) = some (ranked element.direction listed) := by
  rw [order_of_legible column _ (legible_of_means means filled element)]
  congr 1
  funext left right
  cases nulls : (element.requesting db.dialect (some values)).nulls? with
  | none =>
      rw [compare_keys_of_no_nulls nulls]
      exact compare_by_ranking means _ _ left right
  | some place =>
      rw [compare_keys_of_nulls nulls]
      exact compare_by_ranking means _ _ left right

end Database

/-- How a row that stands before another one compares with it. -/
def Direction.listedFirst : Direction → Ordering
  | ascending => .lt
  | descending => .gt

theorem position_lt_iff {listed : List V} {row : Option V} :
    position listed row < listed.length ↔ ∃ value ∈ listed, row = some value := by
  cases row with
  | none => simp [position]
  | some own => simp [position, List.idxOf_lt_length_iff]

theorem position_of_unlisted {listed : List V} {row : Option V}
    (unlisted : ∀ value ∈ listed, row ≠ some value) : position listed row = listed.length := by
  cases row with
  | none => rfl
  | some own => exact List.idxOf_of_notMem fun member => unlisted own member rfl

theorem ranked_swap (direction : Direction) (listed : List V) (left right : Option V) :
    ranked direction listed right left = (ranked direction listed left right).swap := by
  cases direction with
  | ascending => exact (Nat.compare_swap _ _).symm
  | descending => exact (Nat.compare_swap _ _).symm

theorem ranked_listed_first (direction : Direction) {listed : List V} {inside outside : Option V}
    (present : ∃ value ∈ listed, inside = some value)
    (absent : ∀ value ∈ listed, outside ≠ some value) :
    ranked direction listed inside outside = direction.listedFirst := by
  have earlier := position_lt_iff.mpr present
  rw [← position_of_unlisted absent] at earlier
  cases direction with
  | ascending => exact compare_lt_iff_lt.mpr earlier
  | descending => exact compare_gt_iff_gt.mpr earlier

/-- Any two databases, whatever their dialects are and wherever they put nulls by themselves, order
the rows of a column alike. With a wish for nulls, rows without a value come before or behind all
others, and these by direction. With a requested sequence, rows come by the first position of their
value in it, and rows whose value is not in it behind all others or, in the other direction, before
them. -/
theorem order_keeps_meaning (first second : Database V) (element : Element) (column : String) :
    (∀ place, element.nulls? = some place → ∃ order,
      first.orderOf? element column none = some order ∧
      second.orderOf? element column none = some order ∧
      order none none = .eq ∧
      (∀ value, order none (some value) = place.beforeValues ∧
        order (some value) none = place.beforeValues.swap) ∧
      ∀ left right, order (some left) (some right) = element.direction.compare left right) ∧
    ∀ values listed, values ≠ [] → first.Means values listed → second.Means values listed →
      ∃ order,
        first.orderOf? element column (some values) = some order ∧
        second.orderOf? element column (some values) = some order ∧
        (∀ left right, order left right =
          element.direction.compare (position listed left) (position listed right)) ∧
        ∀ inside outside, (∃ value ∈ listed, inside = some value) →
          (∀ value ∈ listed, outside ≠ some value) →
            order inside outside = element.direction.listedFirst ∧
              order outside inside = element.direction.listedFirst.swap := by
  constructor
  · intro place asked
    exact ⟨placed place element.direction, Database.order_of_column column asked,
      Database.order_of_column column asked, rfl, fun _ => ⟨rfl, rfl⟩, fun _ _ => rfl⟩
  · intro values listed filled means same
    apply Exists.intro (ranked element.direction listed)
    constructor
    · exact Database.order_of_ranking column means filled
    constructor
    · exact Database.order_of_ranking column same filled
    constructor
    · intro left right
      rfl
    · intro inside outside present absent
      have before := ranked_listed_first element.direction present absent
      constructor
      · exact before
      · rw [← before]
        exact ranked_swap _ _ _ _

end

/-- Points 1 and 2 in a database of some dialect. -/
def points (dialect : Dialect) (place : NullPlace) : Database Nat :=
  ⟨dialect, fun literal => if literal = "1" then some 1 else if literal = "2" then some 2 else none,
    fun _ => place⟩

def byPoint : Element :=
  { alias? := none, column := "POINT", direction := .ascending, nulls? := some .first }

theorem points_mean_themselves (dialect : Dialect) (place : NullPlace) :
    (points dialect place).Means [.int 2, .int 1] [2, 1] :=
  ⟨by simp [Statement.HasDecimals], rfl⟩

theorem points_ordered_alike : ∃ order,
    (points .postgresql .last).orderOf? byPoint "POINT" (some [.int 2, .int 1]) = some order ∧
    (points .msAccess .first).orderOf? byPoint "POINT" (some [.int 2, .int 1]) = some order ∧
    order (some 2) (some 1) = .lt ∧ order (some 1) none = .lt := by
  have means := points_mean_themselves
  have alike := (order_keeps_meaning (points .postgresql .last) (points .msAccess .first) byPoint
    "POINT").2 _ _ (List.cons_ne_nil _ _) (means _ _) (means _ _)
  rcases alike with ⟨order, native, emulated, by_position, _⟩
  apply Exists.intro order
  rw [by_position, by_position]
  exact ⟨native, emulated, by decide, by decide⟩

/-- A row without a value is ranked with those whose value is not in the sequence. -/
theorem ranked_null_iff {V : Type} [LinearOrder V] (direction : Direction) (listed : List V)
    (place : NullPlace) (value : V) :
    ranked direction listed none (some value) = place.beforeValues ↔
      value ∈ listed ∧ (direction = .ascending ↔ place = .last) := by
  have within : ¬ listed.length < listed.idxOf value := Nat.not_lt.mpr List.idxOf_le_length
  have present : listed.idxOf value < listed.length ↔ value ∈ listed := List.idxOf_lt_length_iff
  cases direction with
  | ascending =>
      cases place with
      | first =>
          apply (compare_lt_iff_lt (a := listed.length) (b := listed.idxOf value)).trans
          simp [within]
      | last =>
          apply (compare_gt_iff_gt (a := listed.length) (b := listed.idxOf value)).trans
          simp [present]
  | descending =>
      cases place with
      | first =>
          apply (compare_lt_iff_lt (a := listed.idxOf value) (b := listed.length)).trans
          simp [present]
      | last =>
          apply (compare_gt_iff_gt (a := listed.idxOf value) (b := listed.length)).trans
          simp [within]

/-- With a requested sequence a wish for nulls is fulfilled exactly where it makes no difference:
all values are in the sequence, and the direction puts rows that are not in it where the wish does.
-/
theorem nulls_fulfilled_iff {V : Type} [LinearOrder V] (db : Database V) (element : Element)
    (column : String) {values : List Value} {listed : List V} (filled : values ≠ [])
    (means : db.Means values listed) :
    ∀ place, element.nulls? = some place → ∃ order,
      db.orderOf? element column (some values) = some order ∧
      ((∀ value, order none (some value) = place.beforeValues) ↔
        (∀ value, value ∈ listed) ∧ (element.direction = .ascending ↔ place = .last)) := by
  intro place _
  apply Exists.intro (ranked element.direction listed)
  constructor
  · exact Database.order_of_ranking column means filled
  · have some_value : listed ≠ [] := by
      intro none
      have literals := means.literals
      rw [none, List.map_nil, List.map_eq_nil_iff] at literals
      exact filled literals
    rcases List.exists_mem_of_ne_nil listed some_value with ⟨example_value, member⟩
    constructor
    · intro fulfilled
      exact ⟨fun value => ((ranked_null_iff _ _ _ value).mp (fulfilled value)).1,
        ((ranked_null_iff _ _ _ example_value).mp (fulfilled example_value)).2⟩
    · intro both value
      exact (ranked_null_iff _ _ _ value).mpr ⟨both.1 value, both.2⟩

theorem points_nulls_unfulfilled : ∃ order,
    (points .postgresql .last).orderOf? byPoint "POINT" (some [.int 2, .int 1]) = some order ∧
    ¬ ∀ value, order none (some value) = NullPlace.first.beforeValues := by
  rcases nulls_fulfilled_iff (points .postgresql .last) byPoint "POINT" (List.cons_ne_nil _ _)
    (points_mean_themselves _ _) .first rfl with ⟨order, read, fulfilled⟩
  apply Exists.intro order
  constructor
  · exact read
  · intro all
    have directions := (fulfilled.mp all).2
    cases directions.mp rfl

/-- Nulls are asked for first, and the row without points comes behind the one with 2. -/
theorem nulls_first_behind_listed :
    ((points .mysql .first).orderOf? byPoint "POINT" (some [.int 2, .int 1])).map
      (fun order => order none (some 2)) = some .gt := by
  decide +kernel

end SqlComposer.Order
