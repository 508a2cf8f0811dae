import SqlComposer.Proofs.Rendering

/-!
Statements that select one aggregated value. They are written without an order, a window and a lock,
whatever has been registered; but a reader that skips and counts the rows itself is told the window
all the same, and passes over the row of the aggregate.
-/
namespace SqlComposer.Statement

/-- Two statements that differ at most in which of their rows come, in which order, and locked. -/
inductive SameButRows (statement : Statement) : Statement → Prop where
  | of (order : Order) (orderEffective : Bool) (fetch : FetchScope) (isLocked : Bool) :
      SameButRows statement { statement with order, orderEffective, fetch, isLocked }

theorem SameButRows.same_selection {first second : Statement} (same : SameButRows first second) :
    SameSelection first second := by
  cases same
  exact ⟨rfl, rfl, rfl, rfl, rfl, fun _ => rfl, rfl, rfl, rfl, rfl⟩

theorem SameButRows.trans {first second third : Statement} (near : SameButRows first second)
    (far : SameButRows second third) : SameButRows first third := by
  cases near
  cases far
  exact .of _ _ _ _

theorem order_clause_of_scalar {statement : Statement}
    (scalar : statement.selectType.isScalar = true) : statement.orderClause = .ok "" := by
  have unordered : statement.isOrdered = false := by
    rw [isOrdered, scalar, Bool.not_true, Bool.and_false]
  rw [orderClause, unordered]
  rfl

theorem lock_text_of_scalar {statement : Statement}
    (scalar : statement.selectType.isScalar = true) : statement.lockText = .ok LockText.none := by
  rw [lockText, scalar, Bool.not_true, Bool.and_false]
  rfl

theorem suffix_of_scalar {statement : Statement}
    (scalar : statement.selectType.isScalar = true) : statement.suffix = .ok "" := by
  have unpaged : statement.paging = PagingText.none := if_pos scalar
  rw [suffix, lock_text_of_scalar scalar, unpaged]
  rfl

theorem SameSelection.aggregate_of_union {first second : Statement}
    (same : SameSelection first second) (function union : String) :
    second.aggregateOfUnion function union = first.aggregateOfUnion function union := by
  simp only [aggregateOfUnion, same.type, same.only_specified, same.select_aliases]

/-- An aggregate is written without regard to rows. -/
theorem SameButRows.render {first second : Statement} (same : SameButRows first second)
    (scalar : first.selectType.isScalar = true) : second.render = first.render := by
  have selection := same.same_selection
  have scalarToo : second.selectType.isScalar = true := selection.type ▸ scalar
  obtain ⟨function, calls⟩ := Option.isSome_iff_exists.mp scalar
  have marked : second.marked = first.marked := by
    unfold marked tableHint
    rw [selection.select_columns, order_clause_of_scalar scalar, order_clause_of_scalar scalarToo,
      suffix_of_scalar scalar, suffix_of_scalar scalarToo, lock_text_of_scalar scalar,
      lock_text_of_scalar scalarToo, selection.type, calls, selection.union]
    simp only [selection.select_clause_of, selection.aggregate_of_union]
    cases same
    rfl
  rw [render_eq, render_eq, marked]

/-- The registrations of an order, a window and a lock. -/
def choosesRows : Operation → Bool
  | .orderBy _ _ | .reverseOrReplaceOrder _ _ | .placeNulls _ | .rankManually _
  | .orderByDerived _ _ | .useOrder _ | .clearOrder | .fetchFirst _ | .fetchPage _
  | .fetchScope _ _ | .suppressFetch _ | .lock => true
  | _ => false

theorem Effect.same_but_rows {statement after : Statement} {operation : Operation}
    (effect : Effect statement operation after) (chooses : choosesRows operation = true) :
    SameButRows statement after := by
  cases effect with
  | orderBy _ _ | reverseOrReplaceOrder _ _ | placeNulls _ _ | rankManually _ _ _
  | orderByDerived _ _ | useOrder | clearOrder | fetchFirst _ _ | fetchPage _ _ _ _
  | fetchScope _ _ _ _ | suppressFetch | lock _ => exact .of _ _ _ _
  | recorded recording _ _ _ => cases recording <;> cases chooses
  | _ => cases chooses

theorem after_choice {statement : Statement} (scopes : statement.ScopesJoined)
    {operation : Operation} (chooses : choosesRows operation = true) :
    SameButRows statement (statement.after operation) := by
  rcases after_cases scopes operation with ⟨_, unchanged⟩ | ⟨_, effect⟩
  · rw [unchanged]
    exact .of _ _ _ _
  · exact effect.same_but_rows chooses

theorem after_choices {schema : Schema} {statement : Statement}
    (reached : Reachable schema statement) {operations : List Operation}
    (choose : ∀ operation ∈ operations, choosesRows operation = true) :
    SameButRows statement (statement.afterAll operations) := by
  induction operations generalizing statement with
  | nil => exact .of _ _ _ _
  | cons operation rest ih =>
      rw [List.forall_mem_cons] at choose
      have here := after_choice reached.scopes_joined choose.1
      exact here.trans (ih (reached.after operation) choose.2)

/-- The reader of an aggregate is to take its row unless the dialect leaves the window to it. -/
theorem aggregate_read_whole_iff (statement : Statement) :
    (statement.rowsToSkip = 0 ∧ statement.rowsToTake? = none) ↔
      ¬ (statement.dialect = .msAccess ∧ statement.fetch.isEffective = true) := by
  unfold rowsToSkip rowsToTake?
  cases windowed : statement.fetch.isEffective with
  | false => simp
  | true => cases statement.dialect <;> simp [Dialect.skipsRows, Dialect.limitsRows]

/-- An aggregate is written as if it had neither an order nor a window nor a lock, and no
registration of them changes it. Only in MS Access is its reader told of the window. -/
theorem aggregate_ignores_rows {schema : Schema} {statement : Statement}
    (reached : Reachable schema statement) (scalar : statement.selectType.isScalar = true) :
    statement.render =
        ({ statement with order := {}, fetch := {}, isLocked := false } : Statement).render ∧
      (∀ operations, (∀ operation ∈ operations, choosesRows operation = true) →
        (statement.afterAll operations).render = statement.render) ∧
      ((statement.rowsToSkip = 0 ∧ statement.rowsToTake? = none) ↔
        ¬ (statement.dialect = .msAccess ∧ statement.fetch.isEffective = true)) := by
  have bare : SameButRows statement
      { statement with order := {}, fetch := {}, isLocked := false } := .of _ _ _ _
  refine ⟨(bare.render scalar).symm, fun operations choose => ?_,
    aggregate_read_whole_iff statement⟩
  exact (after_choices reached choose).render scalar

/-- The number of members, with a window of ten rows behind the first five. -/
def pagedCount (dialect : Dialect) : Statement :=
  (memberIn dialect).afterAll [.fetchScope 5 10, .classify .count]

theorem paged_count_reachable (dialect : Dialect) :
    Reachable memberSchema (pagedCount dialect) := (member_in_reachable dialect).afterAll _

theorem locked_count_ignores_rows :
    ((pagedCount .mysql).after .lock).render = (pagedCount .mysql).render ∧
      (pagedCount .mysql).rowsToSkip = 0 ∧ (pagedCount .mysql).rowsToTake? = none := by
  have counts : (pagedCount .mysql).selectType.isScalar = true := rfl
  obtain ⟨_, unchanged, whole⟩ := aggregate_ignores_rows (paged_count_reachable .mysql) counts
  have elsewhere : ¬ ((pagedCount .mysql).dialect = .msAccess ∧
      (pagedCount .mysql).fetch.isEffective = true) := by
    rintro ⟨dialect, _⟩
    cases dialect
  have locks : ∀ operation ∈ [Operation.lock], choosesRows operation = true := by
    intro operation member
    rw [List.mem_singleton.mp member]
    rfl
  exact ⟨unchanged [.lock] locks, whole.mpr elsewhere⟩

/-- A reader of the count in MS Access passes over five rows, and so over the count. -/
theorem count_is_skipped :
    Reachable memberSchema (pagedCount .msAccess) ∧
      (pagedCount .msAccess).selectType.isScalar = true ∧
      (pagedCount .msAccess).rowsToSkip = 5 ∧ (pagedCount .msAccess).rowsToTake? = some 10 ∧
      ¬ ((pagedCount .msAccess).rowsToSkip = 0 ∧ (pagedCount .msAccess).rowsToTake? = none) := by
  have skipped : (pagedCount .msAccess).rowsToSkip = 5 := by decide +kernel
  have taken : (pagedCount .msAccess).rowsToTake? = some 10 := by decide +kernel
  refine ⟨paged_count_reachable .msAccess, rfl, skipped, taken, ?_⟩
  rw [skipped]
  rintro ⟨none, _⟩
  revert none
  decide

end SqlComposer.Statement
