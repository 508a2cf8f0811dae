import SqlComposer.Toml.Grammar

/-!
Documents of TOML. A header opens a table, the entries after it belong to that table, and the table
takes its place among the others when the next header comes.
-/
namespace SqlComposer.Toml

/-- The table of a header, with the entries that come after the header. -/
structure Section where
  inArray : Bool
  path : List String
  key : String
  members : List (List String × String × Node)

def sections : List Line → List (List String × String × Node) × List Section
  | [] => ([], [])
  | .entry path key node :: rest =>
    let (members, later) := sections rest
    ((path, key, node) :: members, later)
  | .header inArray path key :: rest =>
    let (members, later) := sections rest
    ([], ⟨inArray, path, key, members⟩ :: later)

def addMembers : Entries → List (List String × String × Node) → Option Entries
  | entries, [] => some entries
  | entries, (path, key, node) :: rest =>
    match Entries.add .header entries path key node with
    | some entries => addMembers entries rest
    | none => none

/-- The document with a section in its place. A table can get a header once, unless longer headers
have implied it before; an array takes tables only when nothing but such headers has made it. -/
def placeSection (document : Entries) (added : Section) : Option Entries :=
  let change (entries : Entries) : Option Entries :=
    match added.inArray, entries.lookup added.key with
    | false, none =>
      (addMembers [] added.members).map fun table =>
        entries ++ [(added.key, .table .header table)]
    | false, some (.table .implied inner) =>
      (addMembers inner added.members).map fun table =>
        Entries.put added.key (.table .header table) entries
    | true, none =>
      (addMembers [] added.members).map fun table => entries ++ [(added.key, .tables [table])]
    | true, some (.tables items) =>
      (addMembers [] added.members).map fun table =>
        Entries.put added.key (.tables (table :: items)) entries
    | _, _ => none
  Entries.changeAt change added.path document

def placeSections : Entries → List Section → Option Entries
  | document, [] => some document
  | document, added :: rest =>
    match placeSection document added with
    | some document => placeSections document rest
    | none => none

def dropByteOrderMark : List Char → List Char
  | '\ufeff' :: chars => chars
  | chars => chars

def parse? (text : String) : Option Value := do
  let chars := dropByteOrderMark text.toList
  let lines ← lines? (chars.length + 1) chars
  let (members, later) := sections lines
  let document ← addMembers [] members
  let document ← placeSections document later
  return .table (Node.sorted document)

end SqlComposer.Toml
