import SqlComposer.Settings
import SqlComposer.Toml.Record

/-!
Settings as a document gives them. What a document leaves out keeps its default.
-/
namespace SqlComposer

structure SettingsEntry where
  dialect? : Option String := none
  selectIndex? : Option Bool := none
  refusesEmpty? : Option Bool := none
  listLimit? : Option Nat := none

def SettingsEntry.ofToml? (value : Toml.Value) : Option SettingsEntry := do
  let fields ← value.fields? ["dialect", "select-index", "check-null-or-empty", "in-scope-limit"]
  return {
    dialect? := ← fields.optional? "dialect" Toml.Value.text?
    selectIndex? := ← fields.optional? "select-index" Toml.Value.boolean?
    refusesEmpty? := ← fields.optional? "check-null-or-empty" Toml.Value.boolean?
    listLimit? := ← fields.optional? "in-scope-limit" Toml.Value.count? }

/-- The settings that are meant. The dialect is looked up before the limit is checked. -/
def SettingsEntry.settings (entry : SettingsEntry) : Except SettingsError Settings := do
  let defaults : Settings := {}
  let dialect ← match entry.dialect? with
    | some name => Dialect.ofName name
    | none => .ok defaults.dialect
  if entry.listLimit? = some 0 then .error .zeroListLimit
  else
    return {
      dialect
      selectIndex := entry.selectIndex?.getD defaults.selectIndex
      refusesEmpty := entry.refusesEmpty?.getD defaults.refusesEmpty
      listLimit? := entry.listLimit? }

def Settings.ofDocument (text : String) : Except SettingsError Settings :=
  match (Toml.parse? text).bind SettingsEntry.ofToml? with
  | some entry => entry.settings
  | none => .error .malformed

end SqlComposer
