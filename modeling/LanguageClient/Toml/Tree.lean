import LanguageClient.Toml.Basic

/-!
Tables while a document is read. A table comes to be under a header of its own, on the way to the
table of another header, or by a key with dots; where it came from decides what may be added to
it. Nothing can be added to a value.
-/

namespace LanguageClient.Toml

/-- How a table came to be. -/
inductive Origin where
  /-- On the way to the table of a header. -/
  | implied
  /-- Under a header of its own. -/
  | header
  /-- By a key with dots. -/
  | dotted
deriving DecidableEq, Repr

/-- What a key of a table stands for while a document is read. -/
inductive Node where
  | value (value : Value)
  | table (origin : Origin) (entries : List (String × Node))
  /-- Tables with one header, the last first. -/
  | tables (elements : List (List (String × Node)))
deriving Inhabited

/-- The keys of a table while a document is read. -/
abbrev Entries := List (String × Node)

namespace Entries

/-- The entries with one of them set. -/
def set (entries : Entries) (key : String) (node : Node) : Entries :=
  entries.filter (·.1 ≠ key) ++ [(key, node)]

/-- Change the table that a header's keys lead to. Tables on the way come to be, and of several
tables with one header the last counts. -/
def changeAt? (change : Entries → Option Entries) : List String → Entries → Option Entries
  | [], entries => change entries
  | key :: path, entries =>
      match entries.lookup key with
      | none => (changeAt? change path []).map fun inner =>
          entries.set key (.table .implied inner)
      | some (.table origin inner) => (changeAt? change path inner).map fun inner =>
          entries.set key (.table origin inner)
      | some (.tables (last :: earlier)) => (changeAt? change path last).map fun last =>
          entries.set key (.tables (last :: earlier))
      | some _ => none

/-- Start the table of a header. It must be new, or known only from headers below it. -/
def openTable? (key : String) (entries : Entries) : Option Entries :=
  match entries.lookup key with
  | none => some (entries.set key (.table .header []))
  | some (.table .implied inner) => some (entries.set key (.table .header inner))
  | some _ => none

/-- Start another table of a header that may occur several times. -/
def openElement? (key : String) (entries : Entries) : Option Entries :=
  match entries.lookup key with
  | none => some (entries.set key (.tables [[]]))
  | some (.tables elements) => some (entries.set key (.tables ([] :: elements)))
  | some _ => none

/-- Add a value under a key, which may have dots: the keys before the last one lead to a table that
has no header of its own, and then gets none. `addable` tells whether the value may be added to the
table that is reached. -/
def insert? (value : Value) (last : String) : List String → Bool → Entries → Option Entries
  | [], addable, entries =>
      if ! addable || (entries.lookup last).isSome then none
      else some (entries ++ [(last, .value value)])
  | key :: path, _, entries =>
      match entries.lookup key with
      | none => (insert? value last path true []).map fun inner =>
          entries.set key (.table .dotted inner)
      | some (.table .header _) => none
      | some (.table origin inner) => (insert? value last path true inner).map fun inner =>
          entries.set key (.table (if path.isEmpty then .dotted else origin) inner)
      | some (.tables (first :: earlier)) => (insert? value last path false first).map fun first =>
          entries.set key (.tables (first :: earlier))
      | some _ => none

end Entries

mutual

/-- The value that a key stands for when the document is read. -/
def Node.toValue : Node → Value
  | .value value => value
  | .table _ entries => .table (entryValues entries)
  | .tables elements => .array (tableValues elements).reverse

/-- The keys of a table and their values. -/
def entryValues : List (String × Node) → List (String × Value)
  | [] => []
  | (key, node) :: rest => (key, node.toValue) :: entryValues rest

/-- The values of tables. -/
def tableValues : List (List (String × Node)) → List Value
  | [] => []
  | entries :: rest => .table (entryValues entries) :: tableValues rest

end

/-- The value of a table. -/
def Entries.toValue (entries : Entries) : Value :=
  .table (entryValues entries)

end LanguageClient.Toml
