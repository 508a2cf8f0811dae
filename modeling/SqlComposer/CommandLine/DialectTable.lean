import SqlComposer.Dialect.Lock
import SqlComposer.Text.Marks

/-!
The table of dialects: a row for each with what its statements can do. The columns have fixed
widths; the last one is not filled up.
-/
namespace SqlComposer.CommandLine

inductive Emphasis where
  | bold
  | cyan
  | green
  | red
  deriving DecidableEq

def Emphasis.code : Emphasis → String
  | bold => "1"
  | cyan => "36"
  | green => "32"
  | red => "31"

def emphasized (inColor : Bool) (emphasis : Emphasis) (text : String) : String :=
  if inColor then "\x1b[" ++ emphasis.code ++ "m" ++ text ++ "\x1b[0m" else text

def padded (width : Nat) (text : String) : String :=
  text ++ String.ofList (List.replicate (width - text.length) ' ')

structure AbilityColumn where
  title : String
  width : Nat
  holds : Dialect → Bool

def abilityColumns : List AbilityColumn :=
  [⟨"start-index", 12, Dialect.skipsRows⟩,
   ⟨"fetch-size", 11, Dialect.limitsRows⟩,
   ⟨"lock", 6, Dialect.locksRows⟩,
   ⟨"union-enclosing", 16, Dialect.enclosesUnion⟩,
   ⟨"join-parentheses", 17, Dialect.joinsInParentheses⟩]

def nameWidth : Nat := 10

def tableHead (inColor : Bool) : String :=
  let titles := abilityColumns.map fun column => padded column.width column.title
  emphasized inColor .bold (Text.join " " (padded nameWidth "dialect" :: titles ++ ["in-limit"]))

def AbilityColumn.answer (inColor : Bool) (dialect : Dialect) (column : AbilityColumn) : String :=
  if column.holds dialect then emphasized inColor .green (padded column.width "yes")
  else emphasized inColor .red (padded column.width "no")

def tableRow (inColor : Bool) (dialect : Dialect) : String :=
  let name := emphasized inColor .cyan (padded nameWidth dialect.name)
  let limit := match dialect.inListLimit? with
    | some limit => toString limit
    | none => "-"
  Text.join " " (name :: abilityColumns.map (AbilityColumn.answer inColor dialect) ++ [limit])

def dialectTable (inColor : Bool) : String :=
  Text.join "\n" (tableHead inColor :: Dialect.all.map (tableRow inColor))

end SqlComposer.CommandLine
