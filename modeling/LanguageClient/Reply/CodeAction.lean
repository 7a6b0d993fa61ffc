import LanguageClient.Reply.TextEdit

/-!
Code actions: changes that a server offers to make, and commands that it offers to run.
-/

namespace LanguageClient.Reply

/-- A command that the server can run. -/
structure Command where
  title : String
  command : String
  arguments : List Json
deriving DecidableEq, Repr

/-- Read a command. -/
def Command.ofJson? (value : Json) : Option Command := do
  let record ← Json.Record.of? 3 value
  let title ← record.required 0 "title" Json.string?
  let command ← record.required 1 "command" Json.string?
  let arguments ← record.withDefault 2 "arguments" [] Json.array?
  return { title, command, arguments }

/-- An offer to change documents, to run a command, or both. -/
structure CodeAction where
  title : String
  kind : Option String
  edit : List FileEdits
  command : Option Command
  isPreferred : Bool
deriving DecidableEq, Repr

/-- Read a code action. -/
def CodeAction.ofJson? (value : Json) : Option CodeAction := do
  let record ← Json.Record.of? 5 value
  let title ← record.required 0 "title" Json.string?
  let edit ← record.nullable 2 "edit" some
  return {
    title
    kind := record.lenient 1 "kind" Json.string?
    edit := (edit.map workspaceEdit).getD []
    command := record.lenient 3 "command" Command.ofJson?
    isPreferred := (record.lenient 4 "isPreferred" Json.bool?).getD false
  }

/-- An element of a list of offers. -/
inductive CodeOffer where
  | command (offered : Command)
  | action (offered : CodeAction)
deriving DecidableEq, Repr

namespace CodeOffer

def title : CodeOffer → String
  | .command offered => offered.title
  | .action offered => offered.title

/-- Read an offer. It is a bare command if its member `command` is a string. -/
def ofJson? (value : Json) : Option CodeOffer :=
  match value.get? "command" with
  | some (.str _) => (Command.ofJson? value).map .command
  | _ => (CodeAction.ofJson? value).map .action

end CodeOffer

/-- Read the result of a request for code actions: an array of offers, or null. -/
def decodeCodeActions : Json → Except DecodeError (List CodeOffer)
  | .null => .ok []
  | .arr elements => .ok (elements.filterMap CodeOffer.ofJson?)
  | other => .error (.unexpected "array of code actions" other)

end LanguageClient.Reply
