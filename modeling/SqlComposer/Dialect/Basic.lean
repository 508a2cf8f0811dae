import SqlComposer.Text.Marks

/-!
The databases that statements are written for, and the names they go by.
-/
namespace SqlComposer

inductive Dialect where
  | mysql
  | postgresql
  | oracle
  | sqlServer
  | h2
  | db2
  | derby
  | sqlite
  | msAccess
  deriving DecidableEq

namespace Dialect

def all : List Dialect :=
  [mysql, postgresql, oracle, sqlServer, h2, db2, derby, sqlite, msAccess]

def name : Dialect → String
  | mysql => "mysql"
  | postgresql => "postgresql"
  | oracle => "oracle"
  | sqlServer => "sqlserver"
  | h2 => "h2"
  | db2 => "db2"
  | derby => "derby"
  | sqlite => "sqlite"
  | msAccess => "msaccess"

def alternative? : Dialect → Option String
  | postgresql => some "postgres"
  | sqlServer => some "mssql"
  | msAccess => some "access"
  | _ => none

/-- The dialect of a name in any case. Folding ASCII letters is enough: no other character has the
lower case of a letter that the names are made of. -/
def ofName? (text : String) : Option Dialect :=
  let folded := Text.asciiLower text
  all.find? fun dialect => dialect.name == folded || dialect.alternative? == some folded

/-- Whether every join closes a parenthesis that is opened before the base table. -/
def joinsInParentheses : Dialect → Bool
  | msAccess => true
  | _ => false

/-- Whether a union is wrapped into a derived table before ordering and paging apply. -/
def enclosesUnion : Dialect → Bool
  | db2 | derby => true
  | _ => false

/-- Whether an update may select the rows of its own table in a sub-query. -/
def updatesThroughSubQuery : Dialect → Bool
  | mysql => false
  | _ => true

def inListLimit? : Dialect → Option Nat
  | oracle => some 1000
  | _ => none

def skipsRows : Dialect → Bool
  | msAccess => false
  | _ => true

def limitsRows : Dialect → Bool
  | msAccess => false
  | _ => true

end Dialect
end SqlComposer
