import LanguageClient.Connection.Basic
import LanguageClient.Message.Params
import LanguageClient.Reply.Answer

/-!
Questions about documents: each is a request with parameters of its own, sent only while the
session is open.
-/

namespace LanguageClient

/-- A question about a document. -/
inductive Question where
  | completion (position : Position)
  | hover (position : Position)
  | definition (position : Position)
  | references (position : Position) (includeDeclaration : Bool)
  | formatting (tabSize : Nat) (insertSpaces : Bool)
  | codeAction (range : Range) (diagnostics : List Diagnostic)
  | documentSymbol
  | signatureHelp (position : Position)
  | renameTarget (position : Position)
  | rename (position : Position) (newName : String)

namespace Question

/-- What the question is about. -/
def topic : Question → Reply.Topic
  | .completion _ => .completion
  | .hover _ => .hover
  | .definition _ => .definition
  | .references .. => .references
  | .formatting .. => .formatting
  | .codeAction .. => .codeAction
  | .documentSymbol => .documentSymbol
  | .signatureHelp _ => .signatureHelp
  | .renameTarget _ => .renameTarget
  | .rename .. => .rename

/-- The method of the request. -/
def method : Question → String
  | .completion _ => "textDocument/completion"
  | .hover _ => "textDocument/hover"
  | .definition _ => "textDocument/definition"
  | .references .. => "textDocument/references"
  | .formatting .. => "textDocument/formatting"
  | .codeAction .. => "textDocument/codeAction"
  | .documentSymbol => "textDocument/documentSymbol"
  | .signatureHelp _ => "textDocument/signatureHelp"
  | .renameTarget _ => "textDocument/prepareRename"
  | .rename .. => "textDocument/rename"

/-- The parameters of the request about this document. -/
def params (uri : String) : Question → Json
  | .hover position | .definition position | .signatureHelp position | .renameTarget position =>
      Message.place uri position
  | .completion position =>
      (Message.place uri position).set "context" (.object [("triggerKind", .nat 1)])
  | .references position includeDeclaration =>
      (Message.place uri position).set "context"
        (.object [("includeDeclaration", .bool includeDeclaration)])
  | .formatting tabSize insertSpaces =>
      (Message.document uri).set "options"
        (.object [("tabSize", .nat tabSize), ("insertSpaces", .bool insertSpaces)])
  | .codeAction range diagnostics =>
      ((Message.document uri).set "range" range.toJson).set "context"
        (.object [("diagnostics", .arr (diagnostics.map Diagnostic.toJson))])
  | .documentSymbol => Message.document uri
  | .rename position newName => (Message.place uri position).set "newName" (.str newName)

end Question

namespace Connection

variable {τ κ : Type} [Transport τ]

/-- Ask a question about a document, and answer the id of the request. -/
def ask (connection : Connection τ κ) (uri : String) (question : Question) (ticket : κ)
    : Connection τ κ × Except ClientError Nat :=
  if connection.isReady then
    connection.request question.method (some (question.params uri)) ticket
  else (connection, .error .notInitialized)

end Connection

end LanguageClient
