/-!
# Values of a TOML document

A document is a table of named values. Of floats, booleans and moments in time only the kind is
kept, since no setting takes them. Each table remembers how it came into the document, because that
decides what may still be added to it.
-/

namespace PictureTransfer.Toml

/-- How a table came into a document: by its own header, as the parent of a table with a header, by
a dotted key, or between braces. -/
inductive Origin where
  | header
  | parent
  | dotted
  | braces
  deriving DecidableEq, Repr

/-- A value. The items of `tables` are those of an array of tables, which headers extend. -/
inductive Value where
  | text (s : String)
  | integer (n : Int)
  | float
  | boolean
  | moment
  | array (items : List Value)
  | table (origin : Origin) (entries : List (String × Value))
  | tables (items : List (List (String × Value)))
  deriving Inhabited, Repr

/-- What a table holds, each key once. -/
abbrev Entries := List (String × Value)

namespace Entries

/-- The value under a key. -/
def get? (key : String) : Entries → Option Value
  | [] => none
  | (k, v) :: rest => if k = key then some v else get? key rest

/-- Puts a value under a key, in the place of the one that is there or at the end. -/
def set (key : String) (v : Value) : Entries → Entries
  | [] => [(key, v)]
  | (k, old) :: rest => if k = key then (key, v) :: rest else (k, old) :: set key v rest

@[simp] theorem get?_set_self (key : String) (v : Value) (entries : Entries) :
    (set key v entries).get? key = some v := by
  induction entries with
  | nil => simp [set, get?]
  | cons entry rest ih =>
    by_cases same : entry.1 = key
    · simp [set, get?, same]
    · simp [set, get?, same, ih]

theorem get?_set_of_ne {key other : String} (h : other ≠ key) (v : Value) (entries : Entries) :
    (set key v entries).get? other = entries.get? other := by
  induction entries with
  | nil => simp [set, get?, h.symm]
  | cons entry rest ih =>
    by_cases same : entry.1 = key
    · simp [set, get?, same, h.symm]
    · simp [set, get?, same, ih]

end Entries

/-- Where a value stands: the keys that lead to it, the last one apart. -/
structure KeyPath where
  parents : List String
  last : String
  deriving DecidableEq, Repr

/-- What one line of a document says: a value under a key of the table at hand, a table that the
next lines fill, or another item of an array of tables that they fill. -/
inductive Statement where
  | entry (key : KeyPath) (v : Value)
  | table (key : KeyPath)
  | item (key : KeyPath)
  deriving Repr

end PictureTransfer.Toml
