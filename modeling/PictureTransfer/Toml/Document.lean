import PictureTransfer.Toml.Value

/-!
# From statements to a table

The statements of a document are carried out one after another on the table of the whole document.
A header chooses the table that the following entries go into. No key is given twice, a table with
a header or in braces is not extended by dotted keys, and values are not descended into.
-/

namespace PictureTransfer.Toml

namespace Entries

/-- Puts a value under a key that is new, below the tables that dotted keys lead to. Such tables
are made where they are missing. A table of another kind may be passed through on the way to one
that a dotted key made, but is not extended itself. -/
def insert? (key : String) (v : Value) : List String → Entries → Option Entries
  | [], entries => if (entries.get? key).isSome then none else some (entries.set key v)
  | step :: path, entries =>
    match entries.get? step with
    | none => (insert? key v path []).map fun inner => entries.set step (.table .dotted inner)
    | some (.table .dotted inner) =>
      (insert? key v path inner).map fun inner => entries.set step (.table .dotted inner)
    | some (.table .parent inner) =>
      -- Only the last table of the way would get an entry.
      if path.isEmpty then none
      else (insert? key v path inner).map fun inner => entries.set step (.table .parent inner)
    | some (.tables items) =>
      if path.isEmpty then none
      else (insert? key v path (items.getLastD [])).map fun inner =>
        entries.set step (.tables (items.dropLast ++ [inner]))
    | some _ => none

/-- Changes the table that keys of headers lead to: any table that does not stand in braces, and
of an array of tables the last item. Missing tables are made. -/
def within? (change : Entries → Option Entries) : List String → Entries → Option Entries
  | [], entries => change entries
  | step :: path, entries =>
    match entries.get? step with
    | none => (within? change path []).map fun inner => entries.set step (.table .parent inner)
    | some (.table .braces _) => none
    | some (.table origin inner) =>
      (within? change path inner).map fun inner => entries.set step (.table origin inner)
    | some (.tables items) =>
      (within? change path (items.getLastD [])).map fun inner =>
        entries.set step (.tables (items.dropLast ++ [inner]))
    | some _ => none

/-- A header makes a new table, or takes over the parent of tables that had their headers
before. -/
def openTable? (key : String) (entries : Entries) : Option Entries :=
  match entries.get? key with
  | none => some (entries.set key (.table .header []))
  | some (.table .parent inner) => some (entries.set key (.table .header inner))
  | some _ => none

/-- A header in double brackets makes another item of an array of tables. -/
def openItem? (key : String) (entries : Entries) : Option Entries :=
  match entries.get? key with
  | none => some (entries.set key (.tables [[]]))
  | some (.tables items) => some (entries.set key (.tables (items ++ [[]])))
  | some _ => none

/-- The table with the given values under their keys, dotted keys allowed. -/
def ofPairs? (pairs : List (KeyPath × Value)) : Option Entries :=
  pairs.foldlM (fun entries (key, v) => entries.insert? key.last v key.parents) []

end Entries

/-- The table of the whole document, and the keys of the table at hand. -/
structure Document where
  root : Entries := []
  current : List String := []

namespace Document

/-- Carries out one statement. -/
def step? (d : Document) : Statement → Option Document
  | .entry key v =>
    (d.root.within? (·.insert? key.last v key.parents) d.current).map fun root =>
      { d with root }
  | .table key =>
    (d.root.within? (·.openTable? key.last) key.parents).map fun root =>
      { root, current := key.parents ++ [key.last] }
  | .item key =>
    (d.root.within? (·.openItem? key.last) key.parents).map fun root =>
      { root, current := key.parents ++ [key.last] }

/-- The table of a whole document. -/
def ofStatements? (statements : List Statement) : Option Entries :=
  (statements.foldlM step? {}).map Document.root

end Document

end PictureTransfer.Toml
