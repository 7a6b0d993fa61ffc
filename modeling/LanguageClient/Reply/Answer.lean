import LanguageClient.Reply.CodeAction
import LanguageClient.Reply.Completion
import LanguageClient.Reply.Hover
import LanguageClient.Reply.Location
import LanguageClient.Reply.Outline
import LanguageClient.Reply.RenameTarget
import LanguageClient.Reply.SignatureHelp

/-!
Answers to questions about documents, each read from the result of its request.
-/

namespace LanguageClient.Reply

/-- What a server can be asked about a document. -/
inductive Topic where
  | completion
  | hover
  | definition
  | references
  | formatting
  | codeAction
  | documentSymbol
  | signatureHelp
  | renameTarget
  | rename
deriving DecidableEq, Repr

/-- An answer to a question. -/
inductive Answer where
  | completion (list : CompletionList)
  | hover (found : Option Hover)
  | locations (found : List Location)
  | formatting (edits : List TextEdit)
  | codeActions (offers : List CodeOffer)
  | outline (roots : List Symbol)
  | signatureHelp (found : Option SignatureHelp)
  | renameTarget (target : RenameTarget)
  | rename (edits : List FileEdits)

/-- Read the result of a request. -/
def Topic.read (topic : Topic) (result : Json) : Except ClientError Answer :=
  match topic with
  | .completion => ((decodeCompletion result).map .completion).mapError .decode
  | .hover => ((decodeHover result).map .hover).mapError .decode
  | .definition | .references => ((decodeLocations result).map .locations).mapError .decode
  | .formatting => ((decodeFormatting result).map .formatting).mapError .decode
  | .codeAction => ((decodeCodeActions result).map .codeActions).mapError .decode
  | .documentSymbol => ((decodeOutline result).map .outline).mapError .decode
  | .signatureHelp => ((decodeSignatureHelp result).map .signatureHelp).mapError .decode
  | .renameTarget => (decodeRenameTarget result).map .renameTarget
  | .rename => ((decodeRename result).map .rename).mapError .decode

end LanguageClient.Reply
