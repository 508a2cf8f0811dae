import SqlComposer.Error

/-!
Row locks in each dialect: a hint after the base table, a suffix of the statement, or neither where
rows cannot be locked.
-/
namespace SqlComposer

structure LockText where
  hint : String
  suffix : String
  deriving DecidableEq

def LockText.none : LockText := ⟨"", ""⟩

def Dialect.lock (dialect : Dialect) (aliasName : String) : Except ClauseError LockText :=
  match dialect with
  | mysql | postgresql | h2 | derby => .ok ⟨"", " for update"⟩
  | oracle => .ok ⟨"", " for update of " ++ aliasName⟩
  | db2 => .ok ⟨"", " for update with rs"⟩
  | sqlServer => .ok ⟨" with (updlock)", ""⟩
  | sqlite | msAccess => .error (.unsupported (.lock dialect))

/-- Whether a dialect can lock rows at all; the alias does not matter. -/
def Dialect.locksRows (dialect : Dialect) : Bool :=
  match dialect.lock "" with
  | .ok _ => true
  | .error _ => false

end SqlComposer
