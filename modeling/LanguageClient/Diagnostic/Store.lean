import LanguageClient.Diagnostic.Basic
import LanguageClient.Table

/-!
The diagnostics of all documents, as last published for each. A document without diagnostics is
not kept. A snapshot lists documents with errors before those without, each group by URI.
-/

namespace LanguageClient

/-- The diagnostics of each document, by its URI. -/
structure DiagnosticStore where
  table : Table (List Diagnostic)

/-- The diagnostics of several documents, in the order in which they are shown. -/
structure DiagnosticSnapshot where
  files : List (String × List Diagnostic)
deriving DecidableEq

namespace DiagnosticSnapshot

/-- How many diagnostics a snapshot holds of each severity. -/
def counts (snapshot : DiagnosticSnapshot) : SeverityCounts :=
  .ofList (snapshot.files.flatMap (·.2))

/-- The counts of errors and warnings, or nothing if there are no diagnostics. -/
def status (snapshot : DiagnosticSnapshot) : String :=
  if snapshot.files.isEmpty then "" else snapshot.counts.status

end DiagnosticSnapshot

namespace DiagnosticStore

/-- The store without diagnostics. -/
def empty : DiagnosticStore :=
  ⟨.empty⟩

instance : Inhabited DiagnosticStore := ⟨empty⟩

/-- Replace the diagnostics of a document. An empty list forgets the document. -/
def update (store : DiagnosticStore) (uri : String) (items : List Diagnostic) : DiagnosticStore :=
  ⟨if items.isEmpty then store.table.erase uri else store.table.insert uri items⟩

/-- The diagnostics of a document, if it has any. -/
def get? (store : DiagnosticStore) (uri : String) : Option (List Diagnostic) :=
  store.table.get? uri

/-- Forget the diagnostics of a document. -/
def clear (store : DiagnosticStore) (uri : String) : DiagnosticStore :=
  ⟨store.table.erase uri⟩

/-- All diagnostics, by document. -/
def all (store : DiagnosticStore) : List Diagnostic :=
  store.table.entries.flatMap (·.2)

/-- How many diagnostics there are of each severity. -/
def counts (store : DiagnosticStore) : SeverityCounts :=
  .ofList store.all

/-- The first of the most severe diagnostics of a list. -/
def severest : List Diagnostic → Option Diagnostic
  | [] => none
  | first :: rest =>
      match severest rest with
      | some other => if other.severity.moreSevere first.severity then some other else some first
      | none => some first

/-- The most severe of the diagnostics of a document that start on a line, the first one if there
are several. -/
def severestOnLine (store : DiagnosticStore) (uri : String) (line : Nat) : Option Diagnostic :=
  (store.get? uri).bind fun items => severest (items.filter (·.line = line))

/-- A list of diagnostics holds an error. -/
def hasError (items : List Diagnostic) : Bool :=
  items.any (·.severity = .error)

/-- All diagnostics as they are shown: documents with an error first. -/
def snapshot (store : DiagnosticStore) : DiagnosticSnapshot :=
  let (withErrors, others) := store.table.entries.partition fun (_, items) => hasError items
  ⟨withErrors ++ others⟩

end DiagnosticStore

end LanguageClient
