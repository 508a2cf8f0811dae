import SqlComposer.Proofs.Refusals
import SqlComposer.Statement.Operation
import Mathlib.Tactic.SplitIfs

/-!
Running a registration on a statement. `Commits` is the contract that every registration keeps: a
refusal leaves the statement as it was, and an acceptance leaves a statement with the stated
property. `Completes` is for the steps after a write, which must not be refused any more.
-/
namespace SqlComposer.Registration

variable {α β : Type}

def outcome (registration : Registration α) (statement : Statement) :
    Except ClauseError α × Statement :=
  Id.run (registration.run statement)

theorem perform_eq_outcome (operation : Operation) (statement : Statement) :
    operation.perform statement = operation.registration.outcome statement := rfl

theorem outcome_bind (first : Registration α) (next : α → Registration β)
    (statement : Statement) :
    outcome (first >>= next) statement =
      match outcome first statement with
      | (.ok value, after) => outcome (next value) after
      | (.error refusal, after) => (.error refusal, after) := by
  unfold outcome ExceptT.run Id.run
  simp only [bind, ExceptT.bind, ExceptT.mk, StateT.bind, ExceptT.bindCont]
  cases first statement with
  | mk result after => cases result <;> rfl

theorem outcome_bind_get (next : Statement → Registration α) (statement : Statement) :
    outcome (get >>= next) statement = outcome (next statement) statement := by
  rw [outcome_bind]
  rfl

theorem outcome_bind_lift (result : Except ClauseError α) (next : α → Registration β)
    (statement : Statement) :
    outcome (liftM result >>= next) statement =
      match result with
      | .ok value => outcome (next value) statement
      | .error refusal => (.error refusal, statement) := by
  rw [outcome_bind]
  cases result <;> rfl

theorem outcome_map (change : α → β) (registration : Registration α) (statement : Statement) :
    outcome (change <$> registration) statement =
      ((registration.outcome statement).1.map change, (registration.outcome statement).2) := by
  unfold outcome ExceptT.run Id.run
  simp only [Functor.map, ExceptT.map, ExceptT.mk, bind, StateT.bind]
  rcases registration statement with ⟨refusal | value, after⟩ <;> rfl

def Commits (registration : Registration α) (statement : Statement)
    (accepted : α → Statement → Prop) : Prop :=
  match registration.outcome statement with
  | (.ok value, after) => accepted value after
  | (.error _, after) => after = statement

def Completes (registration : Registration α) (statement : Statement)
    (accepted : α → Statement → Prop) : Prop :=
  ∃ value after, registration.outcome statement = (.ok value, after) ∧ accepted value after

theorem Commits.map {registration : Registration α} {statement : Statement}
    {accepted : β → Statement → Prop} {change : α → β}
    (commits : Commits registration statement fun value after => accepted (change value) after) :
    Commits (change <$> registration) statement accepted := by
  unfold Commits at *
  rw [outcome_map]
  rcases ran : registration.outcome statement with ⟨refusal | value, after⟩ <;> rw [ran] at commits
  · exact commits
  · exact commits

theorem Completes.commits {registration : Registration α} {statement : Statement}
    {accepted : α → Statement → Prop} (completes : Completes registration statement accepted) :
    Commits registration statement accepted := by
  obtain ⟨value, after, ran, holds⟩ := completes
  rw [Commits, ran]
  exact holds

theorem Commits.mono {registration : Registration α} {statement : Statement}
    {weaker stronger : α → Statement → Prop} (commits : Commits registration statement stronger)
    (implies : ∀ value after, stronger value after → weaker value after) :
    Commits registration statement weaker := by
  unfold Commits at *
  rcases ran : registration.outcome statement with ⟨refusal | value, after⟩ <;> rw [ran] at commits
  · exact commits
  · exact implies value after commits

/-- After a write the rest has to complete, since the write is not taken back. -/
theorem commits_bind_of_completes {first : Registration α} {next : α → Registration β}
    {statement : Statement} {written : α → Statement → Prop} {accepted : β → Statement → Prop}
    (writes : Commits first statement written)
    (completes : ∀ value after, written value after → Completes (next value) after accepted) :
    Commits (first >>= next) statement accepted := by
  unfold Commits at writes
  rw [Commits, outcome_bind]
  rcases ran : first.outcome statement with ⟨refusal | value, after⟩ <;> rw [ran] at writes
  · exact writes
  · obtain ⟨result, final, finished, holds⟩ := completes value after writes
    simp only [finished]
    exact holds

theorem completes_bind {first : Registration α} {next : α → Registration β}
    {statement : Statement} {reached : α → Statement → Prop} {accepted : β → Statement → Prop}
    (starts : Completes first statement reached)
    (continues : ∀ value after, reached value after → Completes (next value) after accepted) :
    Completes (first >>= next) statement accepted := by
  obtain ⟨value, after, ran, holds⟩ := starts
  obtain ⟨result, final, finished, accepts⟩ := continues value after holds
  exact ⟨result, final, by rw [outcome_bind, ran]; exact finished, accepts⟩

theorem completes_set (old new : Statement) :
    Completes (set new) old fun _ after => after = new :=
  ⟨(), new, rfl, rfl⟩

theorem completes_modify (change : Statement → Statement) (statement : Statement) :
    Completes (modify change) statement fun _ after => after = change statement :=
  ⟨(), change statement, rfl, rfl⟩

theorem completes_bind_get {next : Statement → Registration α} {statement : Statement}
    {accepted : α → Statement → Prop}
    (continues : Completes (next statement) statement accepted) :
    Completes (get >>= next) statement accepted := by
  obtain ⟨value, after, ran, holds⟩ := continues
  exact ⟨value, after, by rw [outcome_bind]; exact ran, holds⟩

theorem completes_bind_lift {result : Except ClauseError α} {value : α}
    {next : α → Registration β} {statement : Statement} {accepted : β → Statement → Prop}
    (answers : result = .ok value) (continues : Completes (next value) statement accepted) :
    Completes (liftM result >>= next) statement accepted := by
  subst answers
  obtain ⟨result, after, ran, holds⟩ := continues
  exact ⟨result, after, by rw [outcome_bind]; exact ran, holds⟩

theorem commits_throw (refusal : ClauseError) (statement : Statement)
    (accepted : α → Statement → Prop) : Commits (throw refusal) statement accepted := rfl

theorem commits_bind_get {next : Statement → Registration α} {statement : Statement}
    {accepted : α → Statement → Prop} (continues : Commits (next statement) statement accepted) :
    Commits (get >>= next) statement accepted := by
  rw [Commits, outcome_bind]
  exact continues

theorem commits_bind_lift {result : Except ClauseError α} {next : α → Registration β}
    {statement : Statement} {accepted : β → Statement → Prop}
    (continues : ∀ value, result = .ok value → Commits (next value) statement accepted) :
    Commits (liftM result >>= next) statement accepted := by
  rw [Commits, outcome_bind]
  cases result with
  | error refusal => exact commits_throw refusal statement accepted
  | ok value => exact continues value rfl

theorem outcome_allow (registration : Restricted) (statement : Statement) :
    outcome (allow registration) statement =
      (if statement.purpose.forbids registration then
        .error (.unsupported (.purpose registration statement.purpose)) else .ok (),
        statement) := by
  rw [allow, outcome_bind]
  change outcome (if statement.purpose.forbids registration = true then _ else _) statement = _
  cases statement.purpose.forbids registration <;> rfl

theorem completes_bind_allow {registration : Restricted} {next : Unit → Registration α}
    {statement : Statement} {accepted : α → Statement → Prop}
    (allowed : statement.purpose.forbids registration = false)
    (continues : Completes (next ()) statement accepted) :
    Completes (allow registration >>= next) statement accepted := by
  obtain ⟨value, after, ran, holds⟩ := continues
  exact ⟨value, after, by rw [outcome_bind, outcome_allow, allowed]; exact ran, holds⟩

theorem commits_bind_allow {registration : Restricted} {next : Unit → Registration α}
    {statement : Statement} {accepted : α → Statement → Prop}
    (continues : statement.purpose.forbids registration = false →
      Commits (next ()) statement accepted) :
    Commits (allow registration >>= next) statement accepted := by
  rw [Commits, outcome_bind, outcome_allow]
  cases allowed : statement.purpose.forbids registration with
  | true => rfl
  | false => exact continues allowed

theorem commits_refusing {refused : Prop} [Decidable refused] {refusal : ClauseError}
    {next : Unit → Registration α} {statement : Statement} {accepted : α → Statement → Prop}
    (continues : ¬ refused → Commits (next ()) statement accepted) :
    Commits (if refused then throw refusal >>= next else next ()) statement accepted := by
  split_ifs with holds
  · rfl
  · exact continues holds

theorem completes_refusing {refused : Prop} [Decidable refused] {refusal : ClauseError}
    {next : Unit → Registration α} {statement : Statement} {accepted : α → Statement → Prop}
    (passes : ¬ refused) (continues : Completes (next ()) statement accepted) :
    Completes (if refused then throw refusal >>= next else next ()) statement accepted := by
  rw [if_neg passes]
  exact continues

theorem commits_requiring {required : Prop} [Decidable required] {refusal : ClauseError}
    {next : Unit → Registration α} {statement : Statement} {accepted : α → Statement → Prop}
    (continues : required → Commits (next ()) statement accepted) :
    Commits (if required then next () else throw refusal >>= next) statement accepted := by
  split_ifs with holds
  · exact continues holds
  · rfl

end SqlComposer.Registration
