import LanguageClient.Workspace.Basic

/-!
What an editor does with a workspace: open, change, save and close documents, ask questions about
them, let the servers' messages be handled, and close the workspace.
-/

namespace LanguageClient.Workspace

variable {τ κ : Type} [SupervisedTransport τ]

/-- Open a document, and answer its URI. Its server is launched if it does not run. -/
def openDocument (workspace : Workspace τ κ) (path : Path) (text : String)
    : Workspace τ κ × Except ClientError (Option String) :=
  match workspace.lookup path with
  | .error error => (workspace, .error error)
  | .ok none => (workspace, .ok none)
  | .ok (some (name, _)) =>
      match workspace.ensureServer name path with
      | (workspace, .error error) => (workspace, .error error)
      | (workspace, .ok ()) =>
          workspace.withServer path fun server uri =>
            let (server, result) := server.openDocument uri text
            (server, result.map fun () => uri)

/-- Replace the text of a document, and answer its version. -/
def changeDocument (workspace : Workspace τ κ) (path : Path) (text : String)
    : Workspace τ κ × Except ClientError (Option Nat) :=
  workspace.withServer path fun server uri => server.changeDocument uri text

/-- Save a document. -/
def saveDocument (workspace : Workspace τ κ) (path : Path) (text : Option String)
    : Workspace τ κ × Except ClientError Unit :=
  let (workspace, result) :=
    workspace.withServer path fun server uri => server.saveDocument uri text
  (workspace, result.map fun _ => ())

/-- Forget the diagnostics of a file that a server serves. -/
def clearDiagnostics (workspace : Workspace τ κ) (path : Path) : Workspace τ κ :=
  match workspace.lookup path with
  | .ok (some (_, uri)) => { workspace with diagnostics := workspace.diagnostics.clear uri }
  | _ => workspace

/-- Close a document, and forget its diagnostics. -/
def closeDocument (workspace : Workspace τ κ) (path : Path)
    : Workspace τ κ × Except ClientError Unit :=
  let (workspace, result) :=
    (workspace.clearDiagnostics path).withServer path fun server uri => server.closeDocument uri
  (workspace, result.map fun _ => ())

/-- Whether the server of a file is ready. -/
def isReady (workspace : Workspace τ κ) (path : Path) : Bool :=
  ((workspace.settings.serverForPath? path).bind workspace.servers.get?).any (·.connection.isReady)

/-- Ask a question about a document, and answer the id of the request. -/
def ask (workspace : Workspace τ κ) (path : Path) (question : Question) (ticket : κ)
    : Workspace τ κ × Except ClientError (Option Nat) :=
  workspace.withServer path fun server uri =>
    let (connection, result) :=
      server.connection.ask uri question (.question question.topic ticket)
    ({ server with connection }, result)

/-- Start a transport again until that succeeds or its restarts are used up, in at most so many
attempts. -/
def restartTransport (transport : τ) : Nat → τ × Except ClientError Unit
  | 0 => (transport, .error .processNotRunning)
  | attempts + 1 =>
      match SupervisedTransport.restart transport with
      | (transport, .ok ()) => (transport, .ok ())
      | (transport, .error (.tooManyRestarts count)) =>
          (transport, .error (.tooManyRestarts count))
      | (transport, .error _) => restartTransport transport attempts

/-- The connection with another transport. -/
def withTransport (connection : Connection τ (Purpose κ)) (transport : τ)
    : Connection τ (Purpose κ) :=
  { connection with transport }

/-- Start a lost server again, or disable it. Its documents are forgotten, and a new session is
opened. -/
def recover (workspace : Workspace τ κ) (name : String) : Workspace τ κ :=
  match workspace.servers.get? name with
  | none => workspace
  | some server =>
      let connection := server.connection.reset
      let attempts := SupervisedTransport.attemptsLeft connection.transport
      match restartTransport connection.transport attempts with
      | (transport, .ok ()) =>
          let options := (workspace.settings.servers.get? name).bind (·.options)
          let (connection, _) :=
            openSession workspace.host (withTransport connection transport) server.rootUri options
          (workspace.put name { server with connection, documents := .empty, queued := [] }).report
            (.restarted name)
      | (transport, .error error) =>
          let stopped := SupervisedTransport.stop transport
          (workspace.release name (withTransport connection stopped)).disable name error.message

/-- Handle messages of a server, up to a budget, and answer what is left of the budget. A message
that is an error counts; a server that is lost is started again. -/
def pollServer (name : String) (workspace : Workspace τ κ) : Nat → Workspace τ κ × Nat
  | 0 => (workspace, 0)
  | budget + 1 =>
      match workspace.servers.get? name with
      | none => (workspace, budget + 1)
      | some server =>
          let (connection, result) := server.connection.poll
          let workspace := workspace.put name { server with connection }
          match result with
          | .ok true => pollServer name workspace budget
          | .ok false => (workspace, budget + 1)
          | .error error =>
              if error.isFatal then (workspace.recover name, budget + 1)
              else pollServer name workspace budget

/-- Open the documents that wait for a server, if it is ready. -/
def flush (workspace : Workspace τ κ) (name : String) : Workspace τ κ :=
  match workspace.servers.get? name with
  | some server => workspace.put name server.flush
  | none => workspace

/-- Look at a notification: diagnostics are kept, and messages are reported. -/
def handleNotice (workspace : Workspace τ κ) (notice : Notice) : Workspace τ κ :=
  match notice.method with
  | "textDocument/publishDiagnostics" =>
      match Publication.ofJson? notice.params with
      | some publication =>
          let diagnostics := workspace.diagnostics.update publication.uri publication.diagnostics
          report { workspace with diagnostics }
            (.diagnostics publication.uri publication.diagnostics.length)
      | none => workspace
  | "window/logMessage" | "window/showMessage" =>
      let level := ((notice.params.get? "type").bind Json.u64?).elim .log MessageLevel.ofNumber
      let text := ((notice.params.get? "message").bind Json.string?).getD ""
      workspace.report (.message notice.listener level text)
  | _ => workspace

/-- Look at all notifications. -/
def drain (workspace : Workspace τ κ) : Workspace τ κ :=
  workspace.inbox.foldl handleNotice { workspace with inbox := [] }

/-- Handle messages of all servers in the order of their names, up to a budget, and answer how
many were handled. -/
def poll (workspace : Workspace τ κ) (budget : Nat) : Workspace τ κ × Nat :=
  let (workspace, left) := workspace.servers.keys.foldl (fun (workspace, left) name =>
      let (workspace, left) := pollServer name workspace left
      (workspace.flush name, left))
    (workspace, budget)
  (workspace.drain, budget - left)

/-- The events since the last call. -/
def takeEvents (workspace : Workspace τ κ) : Workspace τ κ × List Event :=
  ({ workspace with events := [] }, workspace.events)

/-- Handle messages until a request is answered or the transport is lost, looking for one at most so
many times. -/
def awaitAnswer (id : Nat) (connection : Connection τ (Purpose κ))
    : Nat → Connection τ (Purpose κ)
  | 0 => connection
  | count + 1 =>
      if connection.isPending id then
        match connection.poll with
        | (connection, .ok _) => awaitAnswer id connection count
        | (connection, .error error) =>
            if error.isFatal then connection else awaitAnswer id connection count
      else connection

/-- Close the session of a ready server. `patience` is how often there is time to look for its
answer. -/
def closeSession (patience : τ → Nat) (connection : Connection τ (Purpose κ))
    : Connection τ (Purpose κ) :=
  if connection.isReady then
    match connection.shutdown .session with
    | (connection, .ok id) =>
        (awaitAnswer id connection (patience connection.transport)).exit.1
    | (connection, .error _) => connection
  else connection

/-- Stop a server. -/
def stopServer (patience : String → τ → Nat) (workspace : Workspace τ κ)
    (entry : String × Server τ κ)
    : Workspace τ κ :=
  let connection := closeSession (patience entry.1) entry.2.connection
  let stopped := SupervisedTransport.stop connection.transport
  (workspace.release entry.1 (withTransport connection stopped)).report (.stopped entry.1 .exited)

/-- Stop all servers in the order of their names, with patience for the answer of each. -/
def shutdownWithin (workspace : Workspace τ κ) (patience : String → τ → Nat) : Workspace τ κ :=
  (workspace.servers.entries.foldl (stopServer patience) workspace).drain

/-- Stop all servers. `waits` tells whether there is time for answers to the end of the sessions:
then all that has arrived is handled, up to the answer. -/
def shutdown (workspace : Workspace τ κ) (waits : Bool) : Workspace τ κ :=
  workspace.shutdownWithin fun _ transport =>
    if waits then SupervisedTransport.backlog transport + 1 else 0

/-- Part with all servers without a word to them. -/
def close (workspace : Workspace τ κ) : Workspace τ κ :=
  workspace.servers.entries.foldl (fun workspace entry =>
    workspace.release entry.1 entry.2.connection) workspace

end LanguageClient.Workspace
