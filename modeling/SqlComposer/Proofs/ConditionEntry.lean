import SqlComposer.Proofs.Comparison
import SqlComposer.Proofs.ConditionAcceptance
import SqlComposer.QueryFile.Building

/-!
The fields of a condition in a query file: the comparison that its key names, the value that it is
given, the option that it asks for and the location at which its value is bound. Each is told from
the entry alone, and every condition that is accepted has all of them.
-/
namespace SqlComposer

open Condition (Holder Key LikeMode LikeOption)

namespace Condition

theorem key_of_name_iff {text : String} {key : Key} :
    Key.ofName? text = some key ↔ text = key.name := by
  constructor
  · intro found
    have named := List.find?_some found
    exact (beq_iff_eq.mp named).symm
  · rintro rfl
    cases key <;> decide

theorem mode_of_name_iff {text : String} {mode : LikeMode} :
    LikeMode.ofName? text = some mode ↔ text = mode.name := by
  constructor
  · intro found
    have named := List.find?_some found
    exact (beq_iff_eq.mp named).symm
  · rintro rfl
    cases mode <;> decide

end Condition

namespace QueryFile.ConditionEntry

/-- The value of a condition as an operand. -/
inductive Gives (entry : ConditionEntry) : Option Value → Prop where
  | nothing (absent : entry.value? = none) : Gives entry none
  | value {item : Toml.Value} (present : entry.value? = some item) {value : Value}
      (read : operand item = .ok value) : Gives entry (some value)

/-- The option of a condition. Only a condition without a mode that minds the case has none. -/
inductive Likes (entry : ConditionEntry) : Option LikeOption → Prop where
  | nothing (absent : entry.like? = none) (minds : entry.ignoresCase = false) : Likes entry none
  | exactly (absent : entry.like? = none) (ignores : entry.ignoresCase = true) :
      Likes entry (some { mode := .exact, ignoresCase := true })
  | mode {mode : LikeMode} (named : entry.like? = some mode.name) :
      Likes entry (some { mode, ignoresCase := entry.ignoresCase })

variable {entry : ConditionEntry}

theorem comparison_ok_iff {key : Key} : entry.comparison = .ok key ↔ entry.key = key.name := by
  rw [← Condition.key_of_name_iff, comparison]
  cases Key.ofName? entry.key <;> simp

theorem option_ok_iff {option? : Option LikeOption} :
    entry.option? = .ok option? ↔ entry.Likes option? := by
  constructor
  · intro given
    rw [ConditionEntry.option?] at given
    cases like : entry.like? with
    | none =>
        rw [like] at given
        cases ignores : entry.ignoresCase with
        | false =>
            rw [ignores] at given
            obtain rfl := Except.ok.inj given
            exact .nothing like ignores
        | true =>
            rw [ignores] at given
            obtain rfl := Except.ok.inj given
            exact .exactly like ignores
    | some word =>
        rw [like] at given
        dsimp only at given
        cases found : LikeMode.ofName? word with
        | none =>
            rw [found] at given
            cases given
        | some mode =>
            rw [found] at given
            obtain rfl := Except.ok.inj given
            exact .mode (like.trans (congrArg some (Condition.mode_of_name_iff.mp found)))
  · intro likes
    rw [ConditionEntry.option?]
    cases likes with
    | nothing absent minds => rw [absent, minds]; rfl
    | exactly absent ignores => rw [absent, ignores]; rfl
    | mode named =>
        rw [named]
        dsimp only
        rw [Condition.mode_of_name_iff.mpr rfl]

theorem Gives.unique {first second : Option Value} (one : entry.Gives first)
    (other : entry.Gives second) : first = second := by
  cases one with
  | nothing absent =>
      cases other with
      | nothing _ => rfl
      | value present _ => cases absent.symm.trans present
  | value present read =>
      cases other with
      | nothing absent => cases absent.symm.trans present
      | value again readAgain =>
          obtain rfl := Option.some.inj (present.symm.trans again)
          exact congrArg some (Except.ok.inj (read.symm.trans readAgain))

/-- A condition that is given a value, or nothing, has a holder with that value and no other. -/
theorem holder_of_gives {given? : Option Value} (gives : entry.Gives given?) (key : Key) :
    ∃ holder, entry.holder key = .ok holder ∧ holder.value? key = given? ∧
      holder.binding.location? = entry.bind? := by
  have place : (Holder.ofLocation entry.bind?).binding.location? = entry.bind? := by
    cases entry.bind? <;> rfl
  cases gives with
  | nothing absent =>
      refine ⟨Holder.ofLocation entry.bind?, by rw [ConditionEntry.holder, absent], ?_, place⟩
      cases entry.bind? <;> rfl
  | @value item present value read =>
      refine ⟨(Holder.ofLocation entry.bind?).set key value, ?_, Holder.value_of_set _ key value,
        place⟩
      rw [ConditionEntry.holder, present]
      dsimp only
      rw [read]
      rfl

theorem gives_of_holder {key : Key} {holder : Holder} (held : entry.holder key = .ok holder) :
    entry.Gives (holder.value? key) ∧ holder.binding.location? = entry.bind? := by
  have given : ∃ given?, entry.Gives given? := by
    cases value : entry.value? with
    | none => exact ⟨none, .nothing value⟩
    | some item =>
        rw [ConditionEntry.holder, value] at held
        cases read : operand item with
        | error problem =>
            dsimp only at held
            rw [read] at held
            cases held
        | ok found => exact ⟨some found, .value value read⟩
  obtain ⟨given?, gives⟩ := given
  obtain ⟨same, again, holds, bound⟩ := holder_of_gives gives key
  obtain rfl := Except.ok.inj (again.symm.trans held)
  exact ⟨holds.symm ▸ gives, bound⟩

end QueryFile.ConditionEntry
end SqlComposer
