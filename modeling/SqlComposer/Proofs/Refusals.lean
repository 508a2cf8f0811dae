import SqlComposer.Error
import Mathlib.Data.List.Forall2

/-!
Answers that may be refused: an accepted sequence of steps has every step accepted.
-/
namespace SqlComposer

variable {α β : Type}

theorem bind_eq_ok_iff {ε : Type} {first : Except ε α} {next : α → Except ε β} {result : β} :
    first >>= next = .ok result ↔ ∃ value, first = .ok value ∧ next value = .ok result := by
  cases first with
  | error refusal => simp [bind, Except.bind]
  | ok value => simp [bind, Except.bind]

theorem bind_eq_ok {ε : Type} {first : Except ε α} {next : α → Except ε β} {result : β}
    (ran : first >>= next = .ok result) :
    ∃ value, first = .ok value ∧ next value = .ok result :=
  bind_eq_ok_iff.mp ran

theorem bind_ok_iff {first : Except ClauseError α} {next : α → Except ClauseError β} :
    (∃ result, first >>= next = .ok result) ↔
      ∃ value, first = .ok value ∧ ∃ result, next value = .ok result := by
  constructor
  · rintro ⟨result, ran⟩
    obtain ⟨value, found, ran⟩ := bind_eq_ok ran
    exact ⟨value, found, result, ran⟩
  · rintro ⟨value, rfl, result, ran⟩
    exact ⟨result, ran⟩

theorem bind_eq_error {first : Except ClauseError α} {next : α → Except ClauseError β}
    {refusal : ClauseError} (refused : first >>= next = .error refusal) :
    first = .error refusal ∨ ∃ value, first = .ok value ∧ next value = .error refusal := by
  cases first with
  | error cause => exact .inl (congrArg Except.error (Except.error.inj refused))
  | ok value => exact .inr ⟨value, rfl, refused⟩

theorem map_eq_ok {change : α → β} {result : Except ClauseError α} {value : β}
    (mapped : result.map change = .ok value) :
    ∃ source, result = .ok source ∧ change source = value := by
  cases result with
  | error refusal => cases mapped
  | ok source => exact ⟨source, rfl, Except.ok.inj mapped⟩

theorem noting_eq_ok_iff {activity : Activity} {result : Except ClauseError α} {value : α} :
    ClauseError.noting activity result = .ok value ↔ result = .ok value := by
  cases result <;> simp [ClauseError.noting]

theorem map_ok_iff {result : Except ClauseError α} {change : α → β} :
    (∃ value, result.map change = .ok value) ↔ ∃ source, result = .ok source := by
  cases result <;> simp [Except.map]

theorem map_error_iff {result : Except ClauseError α} {change : α → β} {refusal : ClauseError} :
    result.map change = .error refusal ↔ result = .error refusal := by
  cases result <;> simp [Except.map]

theorem refused_of_not_ok {result : Except ClauseError α} (fails : ¬ ∃ value, result = .ok value) :
    ∃ refusal, result = .error refusal := by
  cases result with
  | error refusal => exact ⟨refusal, rfl⟩
  | ok value => exact absurd ⟨value, rfl⟩ fails

theorem ok_of_to_option {ε : Type} {result : Except ε α} {value : α}
    (answered : result.toOption = some value) : result = .ok value := by
  cases result with
  | error refusal => cases answered
  | ok given => rw [Option.some.inj answered]

theorem ok_of_to_bool {ε : Type} {result : Except ε α} (accepted : result.toBool = true) :
    ∃ value, result = .ok value := by
  cases result with
  | error refusal => cases accepted
  | ok value => exact ⟨value, rfl⟩

/-- A list of steps is accepted when every step is. -/
theorem map_m_ok_iff (step : α → Except ClauseError β) (inputs : List α) :
    (∃ outputs, inputs.mapM step = .ok outputs) ↔
      ∀ input ∈ inputs, ∃ output, step input = .ok output := by
  induction inputs with
  | nil => simp [pure, Except.pure]
  | cons input rest ih =>
      rw [List.forall_mem_cons, ← ih, List.mapM_cons]
      constructor
      · rintro ⟨outputs, accepted⟩
        obtain ⟨first, here, accepted⟩ := bind_eq_ok accepted
        obtain ⟨others, later, _⟩ := bind_eq_ok accepted
        exact ⟨⟨first, here⟩, others, later⟩
      · rintro ⟨⟨first, here⟩, others, later⟩
        exact ⟨first :: others, by rw [here, later]; rfl⟩

/-- What an `Except` traversal gives, item by item. -/
theorem forall_of_map_m {ε : Type} {step : α → Except ε β} {inputs : List α}
    {outputs : List β} (ran : inputs.mapM step = .ok outputs) :
    List.Forall₂ (fun input output => step input = .ok output) inputs outputs := by
  induction inputs generalizing outputs with
  | nil =>
      obtain rfl := Except.ok.inj ran
      exact .nil
  | cons input rest ih =>
      rw [List.mapM_cons] at ran
      obtain ⟨output, here, ran⟩ := bind_eq_ok ran
      obtain ⟨others, later, ran⟩ := bind_eq_ok ran
      obtain rfl := Except.ok.inj ran
      exact .cons here (ih later)

theorem refused_by_step {step : α → Except ClauseError β} {inputs : List α}
    {refusal : ClauseError} (refused : inputs.mapM step = .error refusal) :
    ∃ input ∈ inputs, step input = .error refusal := by
  induction inputs with
  | nil => cases refused
  | cons input rest ih =>
      rw [List.mapM_cons] at refused
      cases here : step input with
      | error cause =>
          rw [here] at refused
          obtain rfl := Except.error.inj refused
          exact ⟨input, List.mem_cons_self, here⟩
      | ok first =>
          rw [here] at refused
          cases later : rest.mapM step with
          | error cause =>
              rw [later] at refused
              obtain rfl := Except.error.inj refused
              obtain ⟨other, member, fails⟩ := ih later
              exact ⟨other, List.mem_cons_of_mem _ member, fails⟩
          | ok others =>
              rw [later] at refused
              cases refused

/-- Outcomes that are refusals both or related values both. -/
inductive Together {α : Type} (related : α → α → Prop) :
    Except ClauseError α → Except ClauseError α → Prop where
  | accepted {value other : α} (holds : related value other) :
      Together related (.ok value) (.ok other)
  | refused {refusal other : ClauseError} : Together related (.error refusal) (.error other)

theorem together_self (result : Except ClauseError α) : Together Eq result result := by
  cases result with
  | error refusal => exact .refused
  | ok value => exact .accepted rfl

theorem Together.bind {related : α → α → Prop} {alike : β → β → Prop}
    {first second : Except ClauseError α} (together : Together related first second)
    {next other : α → Except ClauseError β}
    (continues : ∀ value another, related value another → Together alike (next value)
      (other another)) : Together alike (first >>= next) (second >>= other) := by
  cases together with
  | accepted holds => exact continues _ _ holds
  | refused => exact .refused

theorem Together.map {related : α → α → Prop} {alike : β → β → Prop}
    {first second : Except ClauseError α} (together : Together related first second)
    {change other : α → β}
    (holds : ∀ value another, related value another → alike (change value) (other another)) :
    Together alike (first.map change) (second.map other) := by
  cases together with
  | accepted related => exact .accepted (holds _ _ related)
  | refused => exact .refused

theorem Together.mono {weaker stronger : α → α → Prop} {first second : Except ClauseError α}
    (together : Together stronger first second)
    (implies : ∀ value other, stronger value other → weaker value other) :
    Together weaker first second := by
  cases together with
  | accepted holds => exact .accepted (implies _ _ holds)
  | refused => exact .refused

end SqlComposer
