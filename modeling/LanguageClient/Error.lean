import LanguageClient.Text.Digits
import LanguageClient.Json.Basic
import LanguageClient.Decimal.Shortest

/-!
What can go wrong: responses whose shape is wrong as a whole, and every other failure of the
client. Each error is a cause; its wording is given by `message`.
-/

namespace LanguageClient

/-- The life of a session with a server. -/
inductive Phase where
  | uninitialized
  | initializing
  | initialized
  | shuttingDown
  | exited
deriving DecidableEq, Repr

/-- The name of a phase in messages. -/
def Phase.name : Phase → String
  | .uninitialized => "Uninitialized"
  | .initializing => "Initializing"
  | .initialized => "Initialized"
  | .shuttingDown => "ShuttingDown"
  | .exited => "Exited"

/-- Why the result of a response cannot be read as a whole. -/
inductive DecodeError where
  /-- A member that must be there is missing. -/
  | missingField (name : String)
  /-- The result is of another kind than expected. -/
  | invalidShape (expected found : String)
  /-- A part that must be well-formed is not. -/
  | invalidJson
deriving DecidableEq, Repr

/-- The error for a value of another kind than expected. -/
def DecodeError.unexpected (expected : String) (found : Json) : DecodeError :=
  .invalidShape expected found.kindName

/-- The wording of an error, as far as it is the client's own. -/
def DecodeError.message : DecodeError → String
  | .missingField name => "missing field `" ++ name ++ "`"
  | .invalidShape expected found => "expected " ++ expected ++ ", found " ++ found
  | .invalidJson => "invalid JSON"

/-- A failure of the client. -/
inductive ClientError where
  /-- A process was to be started that runs already. -/
  | alreadyRunning
  /-- The operation needs a running process. -/
  | processNotRunning
  /-- All restarts are used up. -/
  | tooManyRestarts (attempts : Nat)
  /-- There is no such command. -/
  | notFound (command : String)
  /-- The system refused to start the command; the reason is the system's. -/
  | spawn (command : String) (reason : Option String)
  /-- A header block has no length. -/
  | missingContentLength
  /-- The length in a header block is not a natural number. -/
  | invalidContentLength (value : String)
  /-- A body is longer than the reader admits. -/
  | messageTooLarge (length limit : Nat)
  /-- The stream ended inside a message. -/
  | unexpectedEof
  | alreadyInitialized
  | notInitialized
  /-- The operation is not legal in this phase. -/
  | invalidState (phase : Phase) (operation : String)
  /-- A response to a request that is not pending. -/
  | unknownRequestId (id : Nat)
  /-- A response without an id that a request could have. -/
  | responseWithoutId
  /-- The server answered with an error. -/
  | serverError (code : Int) (text : String)
  | documentNotOpen (uri : String)
  | documentAlreadyOpen (uri : String)
  /-- The version of a document has no successor. -/
  | versionExhausted (uri : String)
  /-- The path has no URI. -/
  | invalidPath (path : String)
  | cannotRename
  /-- The result of a response cannot be read. -/
  | decode (error : DecodeError)
  /-- Reading or writing failed; the reason is the system's. -/
  | io (reason : Option String)
  /-- Bytes that are not the JSON they should be. -/
  | json
deriving DecidableEq, Repr

namespace ClientError

/-- Whether the process at the other end counts as lost. -/
def isFatal : ClientError → Bool
  | .unexpectedEof | .processNotRunning | .io _ => true
  | _ => false

/-- A number in a message. -/
def number (n : Int) : String :=
  String.ofList (Decimal.signed n)

/-- The wording of an error. Reasons that only the system knows are left out. -/
def message : ClientError → String
  | .alreadyRunning => "language server process is already running"
  | .processNotRunning => "language server process is not running"
  | .tooManyRestarts attempts =>
      "language server restarted too many times (" ++ number attempts ++ " attempts)"
  | .notFound command => command ++ " not found in PATH"
  | .spawn command reason =>
      "failed to spawn language server '" ++ command ++ "': " ++ reason.getD ""
  | .missingContentLength => "missing Content-Length header"
  | .invalidContentLength value => "invalid Content-Length value: " ++ value
  | .messageTooLarge length limit =>
      "message of " ++ number length ++ " bytes exceeds limit of " ++ number limit ++ " bytes"
  | .unexpectedEof => "unexpected end of stream while reading message"
  | .alreadyInitialized => "connection is already initialized"
  | .notInitialized => "connection is not initialized"
  | .invalidState phase operation =>
      "cannot " ++ operation ++ " while connection is " ++ phase.name
  | .unknownRequestId id => "response for unknown request id " ++ number id
  | .responseWithoutId => "response without an id"
  | .serverError code text => "server error " ++ number code ++ ": " ++ text
  | .documentNotOpen uri => "document is not open: " ++ uri
  | .documentAlreadyOpen uri => "document is already open: " ++ uri
  | .versionExhausted uri => "document version exhausted: " ++ uri
  | .invalidPath path => "cannot convert path to file URI: " ++ path
  | .cannotRename => "cannot rename at this position"
  | .decode error => "malformed response: " ++ error.message
  | .io reason => "I/O error: " ++ reason.getD ""
  | .json => "JSON error"

end ClientError

end LanguageClient
