/-!
Options of a like search: where the wildcards stand and how wildcards inside the searched text are
escaped.
-/
namespace SqlComposer.Condition

inductive LikeMode where
  | start
  | finish
  | contain
  | exact
  deriving DecidableEq

structure LikeOption where
  mode : LikeMode := .exact
  escape : Char := '|'
  ignoresCase : Bool := false
  deriving DecidableEq

namespace LikeMode

def all : List LikeMode := [start, finish, contain, exact]

def name : LikeMode → String
  | start => "prefix"
  | finish => "suffix"
  | contain => "contain"
  | exact => "exact"

def ofName? (text : String) : Option LikeMode :=
  all.find? fun mode => mode.name == text

def leading : LikeMode → List Char
  | finish | contain => ['%']
  | start | exact => []

def trailing : LikeMode → List Char
  | start | contain => ['%']
  | finish | exact => []

end LikeMode

namespace LikeOption

/-- A character of the searched text in a pattern: a wildcard and the escape character itself come
after the escape character. -/
def escapedChar (option : LikeOption) (c : Char) : List Char :=
  if c = option.escape ∨ c = '%' ∨ c = '_' then [option.escape, c] else [c]

def patternChars (option : LikeOption) (chars : List Char) : List Char :=
  option.mode.leading ++ chars.flatMap option.escapedChar ++ option.mode.trailing

def pattern (option : LikeOption) (text : String) : String :=
  String.ofList (option.patternChars text.toList)

/-- The clause that names the escape character; a quote is doubled. -/
def escapeClause (option : LikeOption) : String :=
  if option.escape = '\'' then " escape ''''"
  else " escape '" ++ String.ofList [option.escape] ++ "'"

end LikeOption
end SqlComposer.Condition
