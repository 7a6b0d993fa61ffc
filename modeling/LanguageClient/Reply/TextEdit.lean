import LanguageClient.Error
import LanguageClient.Position

/-!
Edits of texts: a range and what it is replaced by. `decodeFormatting` reads the edits that format
one document, `workspaceEdit` those of several documents, grouped by document.
-/

namespace LanguageClient.Reply

/-- Replace a range by a text. -/
structure TextEdit where
  range : Range
  newText : String
deriving DecidableEq, Repr

/-- Read an edit. -/
def TextEdit.ofJson? (value : Json) : Option TextEdit := do
  let record ← Json.Record.of? 2 value
  let range ← record.required 0 "range" Range.ofJson?
  let newText ← record.required 1 "newText" Json.string?
  return { range, newText }

/-- The edits among the elements of an array. -/
def textEdits (elements : List Json) : List TextEdit :=
  elements.filterMap TextEdit.ofJson?

/-- Read the result of a formatting request: an array of edits, or null. -/
def decodeFormatting : Json → Except DecodeError (List TextEdit)
  | .null => .ok []
  | .arr elements => .ok (textEdits elements)
  | other => .error (.unexpected "array of text edits" other)

/-- The edits of one document. -/
structure FileEdits where
  uri : String
  edits : List TextEdit
deriving DecidableEq, Repr

/-- The edits of a versioned document. Elements of another kind, such as those that create or
delete files, have none. -/
def documentEdits? (change : Json) : Option FileEdits := do
  let uri ← (← (← change.get? "textDocument").get? "uri").string?
  let elements ← (← change.get? "edits").array?
  return ⟨uri, textEdits elements⟩

/-- The edits under one key of a map from documents to edits. -/
def keyedEdits? : String × Json → Option FileEdits
  | (uri, .arr elements) => some ⟨uri, textEdits elements⟩
  | _ => none

/-- The edits of several documents. A list of document changes counts alone where there is one;
otherwise the map of changes counts, in the order of its keys. -/
def workspaceEdit (edit : Json) : List FileEdits :=
  match (edit.get? "documentChanges").bind Json.array?,
    (edit.get? "changes").bind Json.object? with
  | some changes, _ => changes.filterMap documentEdits?
  | none, some changes => (Json.sortMembers changes).filterMap keyedEdits?
  | none, none => []

/-- Read the result of a rename request: an object that holds changes, or null. -/
def decodeRename : Json → Except DecodeError (List FileEdits)
  | .null => .ok []
  | .obj members =>
      if (Json.lookup? "changes" members).isSome
          || (Json.lookup? "documentChanges" members).isSome then
        .ok (workspaceEdit (.obj members))
      else .error (.missingField "changes")
  | other => .error (.unexpected "workspace edit" other)

end LanguageClient.Reply
