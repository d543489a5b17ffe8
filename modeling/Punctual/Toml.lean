import Punctual.Json
import Punctual.Named

/-!
Documents of tables in the TOML format. A document is a sequence of sections; a section names a table
by its header and gives it entries. Tables come about in three ways: opened by a header of their own,
implied by the header of a table inside them, or made by dotted keys. A table may be opened once, and
dotted keys only reach into tables that dotted keys have made, so that no entry is ever given twice.
-/
namespace Punctual.Toml

/-- How a table came to be, which decides whether more may be put into it. -/
inductive TableKind
  /-- opened by its own header -/
  | opened
  /-- implied by the header of a table inside it -/
  | implied
  /-- made by a dotted key -/
  | dotted
deriving DecidableEq, Repr

/-- What stands under a key. -/
inductive Entry
  | value (j : Json)
  | table (kind : TableKind) (entries : List (String × Entry))
  /-- an array of tables, the latest first -/
  | tables (elements : List (List (String × Entry)))

/-- The entries of a table, by name. -/
abbrev Entries := List (String × Entry)

/-- A key with its value; the path is what stands before the last dot. -/
structure Pair where
  path : List String
  name : String
  value : Json

/-- The line that opens a section. -/
inductive Header
  /-- no header: the document's own table -/
  | root
  | table (path : List String) (name : String)
  /-- one more element of an array of tables -/
  | element (path : List String) (name : String)

/-- A section: its header, and the pairs under it. -/
structure Section where
  header : Header
  pairs : List Pair

namespace Entries

/-- Puts an entry in place of any of its name. -/
def replace (name : String) (entry : Entry) (entries : Entries) : Entries :=
  Named.insert name entry entries

/-- Changes the table at the end of a path. Tables that are not there are made; an array of tables is
entered at its latest element. A dotted key enters no table that was opened by a header. -/
def enter? (made : TableKind) (change : TableKind → Entries → Option Entries) :
    List String → TableKind → Entries → Option Entries
  | [], kind, entries => change kind entries
  | name :: path, _, entries =>
    match entries.lookup name with
    | none => (enter? made change path made []).map fun inner => replace name (.table made inner) entries
    | some (.table kind inner) =>
      if made = .dotted ∧ kind = .opened then none
      else
        (enter? made change path kind inner).map fun inner => replace name (.table kind inner) entries
    | some (.tables (latest :: earlier)) =>
      (enter? made change path .opened latest).map fun latest =>
        replace name (.tables (latest :: earlier)) entries
    | some (.tables []) => none
    | some (.value _) => none

/-- Adds an entry. Its name must be new, and dotted keys add only to tables they have made. -/
def add? (entries : Entries) (pair : Pair) : Option Entries :=
  enter? .dotted (fun kind inner =>
    if !pair.path.isEmpty && kind != .dotted then none
    else if (inner.lookup pair.name).isSome then none
    else some (replace pair.name (.value pair.value) inner)) pair.path .opened entries

/-- Adds pairs one after another. -/
def addAll? (entries : Entries) (pairs : List Pair) : Option Entries := pairs.foldlM add? entries

/-- Opens the table of a header and gives it its entries. -/
def addSection? (entries : Entries) (s : Section) : Option Entries :=
  match s.header with
  | .root => entries.addAll? s.pairs
  | .table path name =>
    enter? .implied (fun _ inner =>
      match inner.lookup name with
      | none => (addAll? [] s.pairs).map fun own => replace name (.table .opened own) inner
      | some (.table .implied own) =>
        (addAll? own s.pairs).map fun own => replace name (.table .opened own) inner
      | some _ => none) path .opened entries
  | .element path name =>
    enter? .implied (fun _ inner =>
      match inner.lookup name with
      | none => (addAll? [] s.pairs).map fun own => replace name (.tables [own]) inner
      | some (.tables elements) =>
        (addAll? [] s.pairs).map fun own => replace name (.tables (own :: elements)) inner
      | some _ => none) path .opened entries

end Entries

mutual

/-- The entry as a plain value. -/
def Entry.toJson : Entry → Json
  | .value j => j
  | .table _ entries => .obj (fieldsOf entries)
  | .tables elements => .arr (elementsOf [] elements)

/-- The fields of the object that a table stands for. -/
def fieldsOf : Entries → List (String × Json)
  | [] => []
  | (name, entry) :: rest => (name, entry.toJson) :: fieldsOf rest

/-- Elements in the order they were added, before those already taken. -/
def elementsOf (taken : List Json) : List Entries → List Json
  | [] => taken
  | entries :: rest => elementsOf (.obj (fieldsOf entries) :: taken) rest

end

/-- A table written in one line, if no name is given twice. -/
def inlineTable? (pairs : List Pair) : Option Json :=
  (Entries.addAll? [] pairs).map fun entries => .obj (fieldsOf entries)

/-- The value of a document. -/
def ofSections? (sections : List Section) : Option Json :=
  (sections.foldlM Entries.addSection? ([] : Entries)).map fun entries => .obj (fieldsOf entries)

end Punctual.Toml
