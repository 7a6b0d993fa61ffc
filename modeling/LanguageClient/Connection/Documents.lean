import LanguageClient.Connection.Basic
import LanguageClient.Document

/-!
Documents over a connection. What is known of a document changes only with a notification that
was sent.
-/

namespace LanguageClient.Connection

variable {τ κ : Type} [Transport τ]

/-- Take a step on a document and tell the server of it, and answer the version of the document.
Where the server cannot be told, what was known of the document before is put back. -/
def tell (connection : Connection τ κ) (documents : Documents) (uri : String)
    (step : Documents → Except ClientError (Documents × DocumentNotice))
    : Connection τ κ × Documents × Except ClientError Nat :=
  if connection.isReady then
    let previous := documents.get? uri
    match step documents with
    | .error error => (connection, documents, .error error)
    | .ok (stepped, notice) =>
        match connection.notify notice.method (some notice.params) with
        | (connection, .ok ()) => (connection, stepped, .ok notice.version)
        | (connection, .error error) => (connection, stepped.restore uri previous, .error error)
  else (connection, documents, .error .notInitialized)

/-- Open a document. -/
def didOpen (connection : Connection τ κ) (documents : Documents) (uri language text : String)
    : Connection τ κ × Documents × Except ClientError Nat :=
  connection.tell documents uri (·.didOpen uri language text)

/-- Replace the text of a document. -/
def didChange (connection : Connection τ κ) (documents : Documents) (uri text : String)
    : Connection τ κ × Documents × Except ClientError Nat :=
  connection.tell documents uri (·.didChange uri text)

/-- Save a document. -/
def didSave (connection : Connection τ κ) (documents : Documents) (uri : String)
    (text : Option String)
    : Connection τ κ × Documents × Except ClientError Nat :=
  connection.tell documents uri (·.didSave uri text)

/-- Close a document. -/
def didClose (connection : Connection τ κ) (documents : Documents) (uri : String)
    : Connection τ κ × Documents × Except ClientError Nat :=
  connection.tell documents uri (·.didClose uri)

end LanguageClient.Connection
