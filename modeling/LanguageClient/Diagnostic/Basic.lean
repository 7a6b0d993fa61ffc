import LanguageClient.Position
import LanguageClient.Decimal.Shortest

/-!
Diagnostics: a remark of a server on a range of a document, and how it is shown. Severities are
ordered, the most severe one first.
-/

namespace LanguageClient

/-- How severe a diagnostic is. -/
inductive Severity where
  | error
  | warning
  | information
  | hint
deriving DecidableEq, Repr

namespace Severity

/-- The number of a severity in messages; the more severe, the lower. -/
def toNat : Severity → Nat
  | .error => 1
  | .warning => 2
  | .information => 3
  | .hint => 4

/-- The severity with that number. -/
def ofNat? : Nat → Option Severity
  | 1 => some .error
  | 2 => some .warning
  | 3 => some .information
  | 4 => some .hint
  | _ => none

/-- The first severity is more severe than the second. -/
def moreSevere (left right : Severity) : Bool :=
  left.toNat < right.toNat

/-- What a severity is called in a list of diagnostics. -/
def label : Severity → String
  | .error => "error"
  | .warning => "warning"
  | .information => "info"
  | .hint => "hint"

end Severity

/-- A remark of a server on a document. -/
structure Diagnostic where
  range : Range
  severity : Severity
  code : Option String
  source : Option String
  message : String
deriving DecidableEq, Repr

namespace Diagnostic

/-- The line it starts on, counted from zero. -/
def line (diagnostic : Diagnostic) : Nat :=
  diagnostic.range.start.line

/-- A diagnostic in a list, under the name of its document: place, severity, source and text.
Places count from one here. -/
def display (diagnostic : Diagnostic) (name : String) : String :=
  let number (n : Nat) : String := String.ofList (Text.digits n)
  name ++ ":" ++ number (diagnostic.range.start.line + 1)
    ++ ":" ++ number (diagnostic.range.start.character + 1)
    ++ ": " ++ diagnostic.severity.label
    ++ ": [" ++ diagnostic.source.getD "unknown" ++ "] " ++ diagnostic.message

end Diagnostic

/-- How many diagnostics there are of each severity. -/
structure SeverityCounts where
  errors : Nat
  warnings : Nat
  information : Nat
  hints : Nat
deriving DecidableEq, Repr

namespace SeverityCounts

/-- How many of these diagnostics have each severity. -/
def ofList (diagnostics : List Diagnostic) : SeverityCounts :=
  let count (severity : Severity) : Nat := diagnostics.countP (·.severity = severity)
  ⟨count .error, count .warning, count .information, count .hint⟩

/-- How many diagnostics there are of any severity. -/
def total (counts : SeverityCounts) : Nat :=
  counts.errors + counts.warnings + counts.information + counts.hints

/-- The counts that a status line shows. -/
def status (counts : SeverityCounts) : String :=
  "E:" ++ String.ofList (Text.digits counts.errors)
    ++ " W:" ++ String.ofList (Text.digits counts.warnings)

end SeverityCounts

end LanguageClient
