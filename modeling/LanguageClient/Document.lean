import LanguageClient.Error
import LanguageClient.Message.Params
import LanguageClient.Table

/-!
Open documents. A document has version 1 when it is opened, and each change gives it the next
version; the last version is the greatest number of 31 bits. Each step on a document comes with
the notification that tells the server of it.
-/

namespace LanguageClient

/-- What is known of an open document. -/
structure Document where
  language : String
  version : Nat
  /-- False between a change and the next save. -/
  synced : Bool
deriving DecidableEq, Repr

/-- The greatest version of a document. -/
def Document.lastVersion : Nat := Text.word31 - 1

/-- A notification about a document, and the version of the document after it. -/
structure DocumentNotice where
  method : String
  params : Json
  version : Nat
deriving DecidableEq, Repr

/-- The open documents, by URI. -/
abbrev Documents := Table Document

namespace Documents

/-- Open a document. -/
def didOpen (documents : Documents) (uri language text : String)
    : Except ClientError (Documents × DocumentNotice) :=
  if documents.contains uri then .error (.documentAlreadyOpen uri)
  else
    let document : Document := { language, version := 1, synced := true }
    .ok (documents.insert uri document,
      { method := "textDocument/didOpen"
        params := Message.didOpen uri language document.version text
        version := document.version })

/-- Replace the text of a document. -/
def didChange (documents : Documents) (uri text : String)
    : Except ClientError (Documents × DocumentNotice) :=
  match documents.get? uri with
  | none => .error (.documentNotOpen uri)
  | some document =>
      if document.version < Document.lastVersion then
        let version := document.version + 1
        .ok (documents.insert uri { document with version, synced := false },
          { method := "textDocument/didChange"
            params := Message.didChange uri version text
            version })
      else .error (.versionExhausted uri)

/-- Save a document. -/
def didSave (documents : Documents) (uri : String) (text : Option String)
    : Except ClientError (Documents × DocumentNotice) :=
  match documents.get? uri with
  | none => .error (.documentNotOpen uri)
  | some document =>
      .ok (documents.insert uri { document with synced := true },
        { method := "textDocument/didSave"
          params := Message.didSave uri text
          version := document.version })

/-- Close a document. -/
def didClose (documents : Documents) (uri : String)
    : Except ClientError (Documents × DocumentNotice) :=
  match documents.get? uri with
  | none => .error (.documentNotOpen uri)
  | some document =>
      .ok (documents.erase uri,
        { method := "textDocument/didClose"
          params := Message.document uri
          version := document.version })

/-- Put back what was known of a document, or forget the document if nothing was. -/
def restore (documents : Documents) (uri : String) (previous : Option Document) : Documents :=
  documents.set uri previous

end Documents

end LanguageClient
