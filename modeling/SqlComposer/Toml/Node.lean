import SqlComposer.Toml.Value

/-!
Tables of TOML while a document is being read. How a table came about decides what may still be
added to it: an inline table is closed, a table with a header takes no dotted keys from outside,
and a table that only a longer header implied can still get a header of its own or dotted keys, but
not both.
-/
namespace SqlComposer.Toml

/-- How a table came about. -/
inductive Origin where
  /-- By a header of its own; the document itself counts as well. -/
  | header
  /-- By a header of a table inside it. -/
  | implied
  | dotted
  | braces
  deriving DecidableEq

/-- A value while the document is being read. -/
inductive Node where
  | leaf (value : Value)
  | array (items : List Node)
  /-- The tables that headers in double brackets have added, the last one first. -/
  | tables (items : List (List (String × Node)))
  | table (origin : Origin) (entries : List (String × Node))

abbrev Entries : Type := List (String × Node)

def Entries.put (key : String) (node : Node) : Entries → Entries
  | [] => [(key, node)]
  | entry :: rest =>
    if entry.1 = key then (key, node) :: rest else entry :: Entries.put key node rest

/-- Adds a value at the end of a path of dotted keys. The tables on the way are made by this or
other dotted keys, or have only been implied by a header so far, and then count as made by dotted
keys from here on. -/
def Entries.addAt (isDotted : Bool) (key : String) (node : Node) :
    List String → Origin → Entries → Option Entries
  | [], origin, entries =>
    if isDotted ∧ origin ≠ .dotted then none
    else if (entries.lookup key).isSome then none
    else some (entries ++ [(key, node)])
  | step :: path, _, entries =>
    match entries.lookup step with
    | none =>
      (addAt isDotted key node path .dotted []).map fun inner =>
        entries ++ [(step, .table .dotted inner)]
    | some (.table origin inner) =>
      if origin = .braces ∨ origin = .header then none
      else
        (addAt isDotted key node path .dotted inner).map fun inner =>
          Entries.put step (.table .dotted inner) entries
    | some (.tables (last :: before)) =>
      (addAt isDotted key node path .header last).map fun last =>
        Entries.put step (.tables (last :: before)) entries
    | some _ => none

def Entries.add (origin : Origin) (entries : Entries) (path : List String) (key : String)
    (node : Node) : Option Entries :=
  Entries.addAt (!path.isEmpty) key node path origin entries

/-- Changes the table that a header's path leads to. The tables on the way are made if need be, and
of tables in double brackets the last one is meant. -/
def Entries.changeAt (change : Entries → Option Entries) :
    List String → Entries → Option Entries
  | [], entries => change entries
  | step :: path, entries =>
    match entries.lookup step with
    | none =>
      (changeAt change path []).map fun inner => entries ++ [(step, .table .implied inner)]
    | some (.table origin inner) =>
      if origin = .braces then none
      else
        (changeAt change path inner).map fun inner =>
          Entries.put step (.table origin inner) entries
    | some (.tables (last :: before)) =>
      (changeAt change path last).map fun last =>
        Entries.put step (.tables (last :: before)) entries
    | some _ => none

def insertSorted {α : Type} (entry : String × α) : List (String × α) → List (String × α)
  | [] => [entry]
  | other :: rest =>
    if entry.1 < other.1 then entry :: other :: rest else other :: insertSorted entry rest

mutual

def Node.value : Node → Value
  | .leaf value => value
  | .array items => .array (Node.values items)
  | .tables items => .array (Node.tableValues items).reverse
  | .table _ entries => .table (Node.sorted entries)

def Node.values : List Node → List Value
  | [] => []
  | node :: rest => node.value :: Node.values rest

def Node.tableValues : List (List (String × Node)) → List Value
  | [] => []
  | entries :: rest => .table (Node.sorted entries) :: Node.tableValues rest

def Node.sorted : List (String × Node) → List (String × Value)
  | [] => []
  | (key, node) :: rest => insertSorted (key, node.value) (Node.sorted rest)

end

end SqlComposer.Toml
