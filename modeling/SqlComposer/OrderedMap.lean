/-!
Maps that remember the order in which their keys first came. Writing to a key that is present keeps
its place and replaces its value.
-/
namespace SqlComposer

/-- Entries in the order of their keys' first insertion. -/
structure OrderedMap (κ : Type) (ν : Type) where
  entries : List (κ × ν)
  deriving DecidableEq

namespace OrderedMap

variable {κ ν : Type} [DecidableEq κ]

def empty : OrderedMap κ ν := ⟨[]⟩

instance : Inhabited (OrderedMap κ ν) := ⟨empty⟩

def keys (map : OrderedMap κ ν) : List κ := map.entries.map Prod.fst

def values (map : OrderedMap κ ν) : List ν := map.entries.map Prod.snd

def size (map : OrderedMap κ ν) : Nat := map.entries.length

def isEmpty (map : OrderedMap κ ν) : Bool := map.entries.isEmpty

def find? (map : OrderedMap κ ν) (key : κ) : Option ν :=
  (map.entries.find? fun entry => entry.1 = key).map Prod.snd

def contains (map : OrderedMap κ ν) (key : κ) : Bool :=
  map.entries.any fun entry => entry.1 = key

def insertEntry (key : κ) (value : ν) : List (κ × ν) → List (κ × ν)
  | [] => [(key, value)]
  | entry :: rest =>
    if entry.1 = key then (key, value) :: rest else entry :: insertEntry key value rest

/-- Writes a value to a key; a new key comes last. -/
def insert (map : OrderedMap κ ν) (key : κ) (value : ν) : OrderedMap κ ν :=
  ⟨insertEntry key value map.entries⟩

def alterEntry (key : κ) (start : ν) (change : ν → ν) : List (κ × ν) → List (κ × ν)
  | [] => [(key, change start)]
  | entry :: rest =>
    if entry.1 = key then (key, change entry.2) :: rest
    else entry :: alterEntry key start change rest

/-- Applies a function to the value of a key, or to `start` when the key is new. -/
def alter (map : OrderedMap κ ν) (key : κ) (start : ν) (change : ν → ν) : OrderedMap κ ν :=
  ⟨alterEntry key start change map.entries⟩

def ofList (pairs : List (κ × ν)) : OrderedMap κ ν :=
  pairs.foldl (fun map pair => map.insert pair.1 pair.2) empty

theorem keys_insert (map : OrderedMap κ ν) (key : κ) (value : ν) :
    (map.insert key value).keys = if key ∈ map.keys then map.keys else map.keys ++ [key] := by
  obtain ⟨entries⟩ := map
  simp only [insert, keys]
  induction entries with
  | nil => simp [insertEntry]
  | cons entry rest ih =>
    by_cases same : entry.1 = key
    · simp [insertEntry, same]
    · by_cases later : key ∈ rest.map Prod.fst <;>
        simp_all [insertEntry, Ne.symm same]

theorem find?_insert (map : OrderedMap κ ν) (key other : κ) (value : ν) :
    (map.insert key value).find? other = if other = key then some value else map.find? other := by
  obtain ⟨entries⟩ := map
  simp only [insert, find?]
  induction entries with
  | nil => by_cases same : other = key <;> simp [insertEntry, same, Ne.symm]
  | cons entry rest ih =>
    by_cases same : entry.1 = key <;> by_cases asked : other = key <;>
      by_cases here : entry.1 = other <;> simp_all [insertEntry]

end OrderedMap
end SqlComposer
