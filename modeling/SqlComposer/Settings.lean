import SqlComposer.Error
import SqlComposer.OrderedMap

/-!
The settings of statements, and the overrides that an environment makes to them.
-/
namespace SqlComposer

structure Settings where
  dialect : Dialect := .mysql
  /-- Select columns go by `c1`, `c2` and so on instead of their own names. -/
  selectIndex : Bool := true
  /-- Missing and empty values of conditions are refused instead of ignored. -/
  refusesEmpty : Bool := false
  /-- The largest number of elements in one list, in place of the dialect's own. -/
  listLimit? : Option Nat := none
  deriving DecidableEq

inductive SettingsError where
  | invalidBoolean (key value : String)
  | unknownDialect (name : String)
  | zeroListLimit
  | malformed
  | schema (cause : ClauseError)
  deriving DecidableEq

def SettingsError.message : SettingsError → String
  | invalidBoolean key value =>
    s!"Invalid value for {key}: {value}. Expected true, 1, yes, on, enabled, enable OR " ++
      "false, 0, no, off, disabled, disable"
  | unknownDialect name =>
    s!"Unknown dialect '{name}'. Run `cbean dialects` to list the supported ones"
  | zeroListLimit => "Invalid in-scope limit 0, it must be positive"
  | malformed => "Failed to parse configuration"
  | schema cause => s!"Invalid schema: {cause.message}"

def Dialect.ofName (name : String) : Except SettingsError Dialect :=
  match Dialect.ofName? name with
  | some dialect => .ok dialect
  | none => .error (.unknownDialect name)

structure Environment where
  bindings : OrderedMap String String

namespace Environment

def get? (environment : Environment) (key : String) : Option String :=
  environment.bindings.find? key

def getD (environment : Environment) (key default : String) : String :=
  (environment.get? key).getD default

def yesWords : List String := ["true", "1", "yes", "on", "enabled", "enable"]

def noWords : List String := ["false", "0", "no", "off", "disabled", "disable"]

/-- The truth value of a variable in any case, or a default when it is not set. Folding ASCII
letters is enough, since no other character has the lower case of a letter of these words. -/
def flag (environment : Environment) (key : String) (default : Bool) :
    Except SettingsError Bool :=
  match environment.get? key with
  | none => .ok default
  | some value =>
    if Text.asciiLower value ∈ yesWords then .ok true
    else if Text.asciiLower value ∈ noWords then .ok false
    else .error (.invalidBoolean key value)

def dialectVariable : String := "CBEAN_DIALECT"

def selectIndexVariable : String := "CBEAN_SELECT_INDEX"

def refusesEmptyVariable : String := "CBEAN_CHECK_NULL_OR_EMPTY"

end Environment

def Settings.override (settings : Settings) (environment : Environment) :
    Except SettingsError Settings := do
  let dialect ← match environment.get? Environment.dialectVariable with
    | some name => Dialect.ofName name
    | none => .ok settings.dialect
  let selectIndex ← environment.flag Environment.selectIndexVariable settings.selectIndex
  let refusesEmpty ← environment.flag Environment.refusesEmptyVariable settings.refusesEmpty
  return { settings with dialect, selectIndex, refusesEmpty }

end SqlComposer
