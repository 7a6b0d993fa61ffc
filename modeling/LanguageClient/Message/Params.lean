import LanguageClient.Diagnostic.Wire

/-!
Parameters of the messages to a server.
-/

namespace LanguageClient.Message

/-- The kinds of text that the client can show. -/
def shownTexts : Json :=
  .strings ["plaintext", "markdown"]

/-- What the client can do with documents. -/
def documentAbilities : Json :=
  .object [
    ("synchronization", .object [
      ("dynamicRegistration", .bool false),
      ("willSave", .bool false),
      ("willSaveWaitUntil", .bool false),
      ("didSave", .bool true)]),
    ("completion", .object [
      ("completionItem", .object [
        ("snippetSupport", .bool false),
        ("documentationFormat", shownTexts)])]),
    ("hover", .object [("contentFormat", shownTexts)]),
    ("signatureHelp", .object [
      ("signatureInformation", .object [
        ("documentationFormat", shownTexts),
        ("parameterInformation", .object [("labelOffsetSupport", .bool true)])])]),
    ("definition", .object [("linkSupport", .bool true)]),
    ("references", .object []),
    ("formatting", .object []),
    ("codeAction", .object [
      ("codeActionLiteralSupport", .object [
        ("codeActionKind", .object [
          ("valueSet", .strings ["quickfix", "refactor", "source"])])])]),
    ("documentSymbol", .object [("hierarchicalDocumentSymbolSupport", .bool true)]),
    ("rename", .object [("prepareSupport", .bool true)]),
    ("publishDiagnostics", .object [("relatedInformation", .bool false)])]

/-- What the client can do. -/
def abilities : Json :=
  .object [
    ("textDocument", documentAbilities),
    ("window", .object [("workDoneProgress", .bool true)]),
    ("workspace", .object [("configuration", .bool true), ("workspaceFolders", .bool true)])]

/-- The name under which the client introduces itself. -/
def clientName : String := "quill"

/-- The version of the client. -/
def clientVersion : String := "0.0.0"

/-- The parameters that open a session. -/
def opening (processId : Nat) (root : Option String) (options : Option Json) : Json :=
  let folders := match root with
    | some uri =>
        [("workspaceFolders",
          Json.arr [.object [("uri", .str uri), ("name", .str "workspace")]])]
    | none => []
  let optionMember := match options with
    | some value => [("initializationOptions", value)]
    | none => []
  .object ([
    ("processId", .nat processId),
    ("clientInfo", .object [("name", .str clientName), ("version", .str clientVersion)]),
    ("rootUri", .stringOrNull root),
    ("capabilities", abilities)] ++ folders ++ optionMember)

/-- The member that names a document. -/
def documentMember (uri : String) : String × Json :=
  ("textDocument", .object [("uri", .str uri)])

/-- Parameters that name a document and nothing else. -/
def document (uri : String) : Json :=
  .object [documentMember uri]

/-- Parameters that name a place in a document. -/
def place (uri : String) (position : Position) : Json :=
  .object [documentMember uri, ("position", position.toJson)]

/-- The parameters for a document that is opened. -/
def didOpen (uri language : String) (version : Nat) (text : String) : Json :=
  .object [("textDocument", .object [
    ("uri", .str uri), ("languageId", .str language), ("version", .nat version),
    ("text", .str text)])]

/-- The parameters for a document whose text is replaced. -/
def didChange (uri : String) (version : Nat) (text : String) : Json :=
  .object [
    ("textDocument", .object [("uri", .str uri), ("version", .nat version)]),
    ("contentChanges", .arr [.object [("text", .str text)]])]

/-- The parameters for a document that is saved, with its text if that is wanted. -/
def didSave (uri : String) (text : Option String) : Json :=
  .object (documentMember uri :: match text with
    | some saved => [("text", .str saved)]
    | none => [])

end LanguageClient.Message
