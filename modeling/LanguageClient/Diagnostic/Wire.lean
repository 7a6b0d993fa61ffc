import LanguageClient.Diagnostic.Basic
import LanguageClient.Json.Number

/-!
Diagnostics in messages: reading published ones, and writing those that go back to the server
with a request for code actions.
-/

namespace LanguageClient

namespace Diagnostic

/-- The code of a diagnostic: a string, or the text of a number. Anything else is no code. -/
def codeText? : Json → Option String
  | .str code => some code
  | .num n => some (String.ofList n.text)
  | _ => none

/-- Read a published diagnostic. One without a severity, or with an unknown one, is an error. -/
def ofJson? (value : Json) : Option Diagnostic := do
  let record ← Json.Record.of? 5 value
  let range ← record.required 0 "range" Range.ofJson?
  let severity ← record.nullable 1 "severity" Json.u64?
  let code ← record.nullable 2 "code" some
  let source ← record.nullable 3 "source" Json.string?
  let message ← record.required 4 "message" Json.string?
  return {
    range
    severity := (severity.bind Severity.ofNat?).getD .error
    code := code.bind codeText?
    source
    message
  }

/-- Write a diagnostic. A code or source that is absent is left out. -/
def toJson (diagnostic : Diagnostic) : Json :=
  let optional (name : String) : Option String → List (String × Json)
    | some text => [(name, .str text)]
    | none => []
  .object <|
    [("range", diagnostic.range.toJson), ("severity", .nat diagnostic.severity.toNat),
      ("message", .str diagnostic.message)]
    ++ optional "code" diagnostic.code ++ optional "source" diagnostic.source

end Diagnostic

/-- A set of diagnostics that a server publishes for a document. -/
structure Publication where
  uri : String
  diagnostics : List Diagnostic
deriving DecidableEq

/-- Read a publication. Entries that are no diagnostics are left out. -/
def Publication.ofJson? (params : Json) : Option Publication := do
  let record ← Json.Record.of? 2 params
  let uri ← record.required 0 "uri" Json.string?
  let entries ← record.withDefault 1 "diagnostics" [] Json.array?
  return { uri, diagnostics := entries.filterMap Diagnostic.ofJson? }

end LanguageClient
