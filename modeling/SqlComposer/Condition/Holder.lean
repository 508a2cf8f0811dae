import SqlComposer.Condition.Key
import SqlComposer.OrderedMap
import SqlComposer.Value.Basic

/-!
The values registered for one column, by comparison. Two comparisons of a range can share a holder;
the one set last is the latest.
-/
namespace SqlComposer.Condition

inductive Binding where
  | embedded
  /-- As a comment that names the place of the value, followed by a dummy. -/
  | bound (location : String)
  deriving DecidableEq

structure Holder where
  values : OrderedMap Key Value := OrderedMap.empty
  latest? : Option Key := none
  binding : Binding := .embedded

namespace Holder

def ofLocation (location? : Option String) : Holder :=
  match location? with
  | some location => ⟨OrderedMap.empty, none, .bound location⟩
  | none => ⟨OrderedMap.empty, none, .embedded⟩

def set (holder : Holder) (key : Key) (value : Value) : Holder :=
  { holder with values := holder.values.insert key value, latest? := some key }

def value? (holder : Holder) (key : Key) : Option Value :=
  holder.values.find? key

theorem value_of_set (holder : Holder) (key : Key) (value : Value) :
    (holder.set key value).value? key = some value := by
  rw [value?, set, OrderedMap.find?_insert, if_pos rfl]

def latestValue? (holder : Holder) : Option Value :=
  holder.latest?.bind holder.value?

end Holder
end SqlComposer.Condition
