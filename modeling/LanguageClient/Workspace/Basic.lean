import LanguageClient.Connection.Documents
import LanguageClient.Connection.Question
import LanguageClient.Diagnostic.Store
import LanguageClient.Workspace.Event
import LanguageClient.Workspace.Routing

/-!
A workspace: the documents of an editor and the servers that serve them. Servers are launched when
the first file that they serve is opened. A document that is opened before its server is ready
waits in a queue.
-/

namespace LanguageClient

/-- What the workspace needs of the machine that it runs on. -/
structure Host (τ : Type) where
  /-- Launch a server under a name, in a directory. -/
  launch : String → ServerSettings → Option Path → Except ClientError τ
  fileExists : Path → Bool
  processId : Nat

/-- Why a request was sent: for the session itself, or for the editor, with the editor's ticket. -/
inductive Purpose (κ : Type) where
  | session
  | question (topic : Reply.Topic) (ticket : κ)

/-- A document that waits to be opened. -/
structure QueuedOpen where
  uri : String
  text : String
deriving DecidableEq, Repr

/-- A server that was launched. -/
structure Server (τ κ : Type) where
  connection : Connection τ (Purpose κ)
  documents : Documents
  language : String
  rootUri : Option String
  queued : List QueuedOpen

/-- An attempt to launch a server. -/
structure Launch where
  server : String
  command : String
  root : Option Path
deriving DecidableEq, Repr

/-- A workspace, with tickets for what the editor asks. -/
structure Workspace (τ κ : Type) where
  host : Host τ
  settings : Settings
  /-- The root of the workspace, where it is given. -/
  root : Option Path
  /-- The servers that run. -/
  servers : Table (Server τ κ)
  /-- The servers that are not launched any more. -/
  disabled : List String
  diagnostics : DiagnosticStore
  /-- What the editor has not been told yet. -/
  events : List Event
  /-- Notifications of servers that were not looked at yet. -/
  inbox : List Notice
  /-- What became of the editor's questions. -/
  answers : List (κ × Except ClientError Reply.Answer)
  launches : List Launch
  /-- The transports of servers that do not run any more, as they were left. -/
  released : Table τ

namespace Workspace

variable {τ κ : Type} [SupervisedTransport τ]

/-- A workspace in which nothing has happened. -/
def fresh (host : Host τ) (settings : Settings) (root : Option Path) : Workspace τ κ :=
  { host, settings, root, servers := .empty, disabled := [], diagnostics := .empty, events := []
    inbox := [], answers := [], launches := [], released := .empty }

/-- The answer to a question of the editor. -/
def answerOf? (answer : Purpose κ × Except ClientError Json)
    : Option (κ × Except ClientError Reply.Answer) :=
  match answer.1 with
  | .session => none
  | .question topic ticket => some (ticket, answer.2.bind topic.read)

/-- Take over what a connection has learnt. -/
def collect (workspace : Workspace τ κ) (connection : Connection τ (Purpose κ))
    : Workspace τ κ × Connection τ (Purpose κ) :=
  ({ workspace with
      answers := workspace.answers ++ connection.answers.filterMap answerOf?
      inbox := workspace.inbox ++ connection.notices },
    { connection with answers := [], notices := [] })

/-- Put a server back after it was used. -/
def put (workspace : Workspace τ κ) (name : String) (server : Server τ κ) : Workspace τ κ :=
  let (workspace, connection) := workspace.collect server.connection
  { workspace with servers := workspace.servers.insert name { server with connection } }

/-- Part with a server: its conversation ends, and its transport is kept as it was left. -/
def release (workspace : Workspace τ κ) (name : String) (connection : Connection τ (Purpose κ))
    : Workspace τ κ :=
  let (workspace, connection) := workspace.collect connection.close
  { workspace with
    servers := workspace.servers.erase name
    released := workspace.released.insert name connection.transport }

/-- Report an event. -/
def report (workspace : Workspace τ κ) (event : Event) : Workspace τ κ :=
  { workspace with events := workspace.events ++ [event] }

/-- Launch a server no more. -/
def disable (workspace : Workspace τ κ) (name reason : String) : Workspace τ κ :=
  report { workspace with disabled := name :: workspace.disabled } (.stopped name (.failed reason))

/-- Open the session with a server. -/
def openSession (host : Host τ) (connection : Connection τ (Purpose κ)) (rootUri : Option String)
    (options : Option Json)
    : Connection τ (Purpose κ) × Except ClientError Nat :=
  connection.openSession (Message.opening host.processId rootUri options) .session

/-- The root for a server that serves a file. -/
def rootFor (workspace : Workspace τ κ) (server : ServerSettings) (path : Path) : Option Path :=
  workspace.root.or (Settings.findRoot? workspace.host.fileExists server.rootMarkers path)

/-- Launch a server for a file and open the session. A server that cannot be launched or told of
the session is disabled. -/
def launch (workspace : Workspace τ κ) (name : String) (settings : ServerSettings) (path : Path)
    : Workspace τ κ × Except ClientError Unit :=
  let root := workspace.rootFor settings path
  let attempt : Launch := { server := name, command := settings.command, root }
  let workspace := { workspace with launches := workspace.launches ++ [attempt] }
  match workspace.host.launch name settings root with
  | .error error => (workspace.disable name error.message, .error error)
  | .ok transport =>
      let rootUri := root.bind Uri.ofPath?
      let connection := (Connection.fresh transport).listen name
      match openSession workspace.host connection rootUri settings.options with
      | (connection, .ok _) =>
          (workspace.put name
            { connection, documents := .empty, language := settings.language, rootUri,
              queued := [] },
            .ok ())
      | (connection, .error error) =>
          ((workspace.release name connection).disable name error.message, .error error)

/-- Make sure that a server runs. -/
def ensureServer (workspace : Workspace τ κ) (name : String) (path : Path)
    : Workspace τ κ × Except ClientError Unit :=
  if workspace.servers.contains name then (workspace, .ok ())
  else if workspace.disabled.contains name then (workspace, .error .processNotRunning)
  else
    match workspace.settings.servers.get? name with
    | none => (workspace, .error (.notFound name))
    | some settings => workspace.launch name settings path

/-- The server that serves a file and may run, and the URI of the file. -/
def lookup (workspace : Workspace τ κ) (path : Path)
    : Except ClientError (Option (String × String)) :=
  match workspace.settings.serverForPath? path with
  | none => .ok none
  | some name =>
      if workspace.disabled.contains name then .ok none
      else
        match Uri.ofPath? path with
        | some uri => .ok (some (name, uri))
        | none => .error (.invalidPath path.display)

/-- Do something with the server that serves a file. There is nothing to do where no server serves
it or its server does not run. -/
def withServer {α : Type} (workspace : Workspace τ κ) (path : Path)
    (action : Server τ κ → String → Server τ κ × Except ClientError α)
    : Workspace τ κ × Except ClientError (Option α) :=
  match workspace.lookup path with
  | .error error => (workspace, .error error)
  | .ok none => (workspace, .ok none)
  | .ok (some (name, uri)) =>
      match workspace.servers.get? name with
      | none => (workspace, .ok none)
      | some server =>
          let (server, result) := action server uri
          (workspace.put name server, result.map some)

end Workspace

namespace Server

variable {τ κ : Type} [Transport τ]

/-- Whether a document waits to be opened. -/
def isQueued (server : Server τ κ) (uri : String) : Bool :=
  server.queued.any (·.uri = uri)

/-- The server after a step on its documents, and the version of the document. -/
def synced (server : Server τ κ)
    (result : Connection τ (Purpose κ) × Documents × Except ClientError Nat)
    : Server τ κ × Except ClientError Nat :=
  ({ server with connection := result.1, documents := result.2.1 }, result.2.2)

/-- Open a document, or queue it until the server is ready. -/
def openDocument (server : Server τ κ) (uri text : String) : Server τ κ × Except ClientError Unit :=
  if server.connection.isReady then
    let (server, result) :=
      server.synced (server.connection.didOpen server.documents uri server.language text)
    (server, result.map fun _ => ())
  else if server.isQueued uri || server.documents.contains uri then
    (server, .error (.documentAlreadyOpen uri))
  else ({ server with queued := server.queued ++ [{ uri, text }] }, .ok ())

/-- The queue with another text for a document that waits. -/
def replaceQueued (queued : List QueuedOpen) (uri text : String) : List QueuedOpen :=
  queued.map fun entry => if entry.uri = uri then { entry with text } else entry

/-- Replace the text of a document, and answer its version. -/
def changeDocument (server : Server τ κ) (uri text : String) :
    Server τ κ × Except ClientError Nat :=
  if server.isQueued uri then
    ({ server with queued := replaceQueued server.queued uri text }, .ok 1)
  else server.synced (server.connection.didChange server.documents uri text)

/-- Save a document. A document that waits need not be saved. -/
def saveDocument (server : Server τ κ) (uri : String) (text : Option String)
    : Server τ κ × Except ClientError Unit :=
  if server.isQueued uri then (server, .ok ())
  else
    let (server, result) := server.synced (server.connection.didSave server.documents uri text)
    (server, result.map fun _ => ())

/-- Close a document. A document that waits leaves the queue. -/
def closeDocument (server : Server τ κ) (uri : String) : Server τ κ × Except ClientError Unit :=
  if server.isQueued uri then
    ({ server with queued := server.queued.filter (·.uri ≠ uri) }, .ok ())
  else
    let (server, result) := server.synced (server.connection.didClose server.documents uri)
    (server, result.map fun _ => ())

/-- Open the documents that wait, once the server is ready. -/
def flush (server : Server τ κ) : Server τ κ :=
  if server.connection.isReady then
    server.queued.foldl (fun server entry =>
        (server.synced
          (server.connection.didOpen server.documents entry.uri server.language entry.text)).1)
      { server with queued := [] }
  else server

end Server

end LanguageClient
