import LanguageClient.Error
import LanguageClient.Position
import LanguageClient.Uri.File

/-!
Locations: ranges in documents, as definitions and references are answered. A link, which tells
the range to select in its target, counts as the location of that range.
-/

namespace LanguageClient.Reply

/-- A range in a document. -/
structure Location where
  uri : String
  range : Range
deriving DecidableEq, Repr

namespace Location

/-- Read a location that is an object whose members have these names. -/
def ofNamed? (uriName rangeName : String) (value : Json) : Option Location := do
  let record ← Json.Record.ofObject? value
  let uri ← record.required 0 uriName Json.string?
  let range ← record.required 1 rangeName Range.ofJson?
  return { uri, range }

/-- Read a link or a location. -/
def ofJson? (value : Json) : Option Location :=
  (ofNamed? "targetUri" "targetSelectionRange" value).or (ofNamed? "uri" "range" value)

/-- The path of the document, if it is a file on this machine. -/
def path? (location : Location) : Option Path :=
  Uri.toPath? location.uri

end Location

/-- Read the result of a request for definitions or references: one location, an array of them,
or null. Elements of an array that are no locations are left out. -/
def decodeLocations : Json → Except DecodeError (List Location)
  | .null => .ok []
  | .arr elements => .ok (elements.filterMap Location.ofJson?)
  | .obj members =>
      match Location.ofJson? (.obj members) with
      | some location => .ok [location]
      | none => .error .invalidJson
  | other => .error (.unexpected "location or location array" other)

end LanguageClient.Reply
