import LanguageClient.Proofs.Workspace.Mirror
import LanguageClient.Proofs.Workspace.Queue
import LanguageClient.Proofs.Workspace.Waiting

/-! What handling messages ends with: the documents that wait are opened, where their server is
ready, and the notifications are looked at. It makes no difference whether this is also done between
two messages.
-/

namespace LanguageClient

/-- What comes of opening documents one after the other, where that is legal: the documents then,
and what is told of them.
-/
def Documents.openedAll (language : String) (documents : Documents)
    : List QueuedOpen → Documents × Multiset Json
  | [] => (documents, 0)
  | entry :: rest =>
      match documents.didOpen entry.uri language entry.text with
      | .error _ => documents.openedAll language rest
      | .ok (stepped, notice) =>
          let (last, told) := stepped.openedAll language rest
          (last, {Message.notification notice.method (some notice.params)} + told)

-----------------------------------------------------------------------------------------
-- Servers
-----------------------------------------------------------------------------------------

namespace Server

variable {κ : Type} {server : Server Mailbox κ}

/-- The server with other documents after it was told of them. -/
def told (server : Server Mailbox κ) (opened : Documents × Multiset Json) : Server Mailbox κ :=
  { server.mapTransport (Mailbox.post opened.2) with documents := opened.1 }

theorem told_told (server : Server Mailbox κ) (documents last : Documents)
    (first second : Multiset Json)
    : (server.told (documents, first)).told (last, second)
      = server.told (last, first + second) := by
  simp only [told, mapTransport, Connection.mapTransport, Mailbox.post_post]

/-- A ready server is told of a document that waits, if that may be opened. -/
theorem opened_of_ready (ready : server.connection.isReady = true) (entry : QueuedOpen)
    : server.opened entry
      = match server.documents.didOpen entry.uri server.language entry.text with
        | .error _ => server
        | .ok (documents, notice) =>
            server.told (documents, {Message.notification notice.method (some notice.params)}) := by
  have started : server.connection.phase ≠ .exited := by
    have initialized : server.connection.phase = .initialized := of_decide_eq_true ready
    rw [initialized]
    exact nofun
  rcases legal : server.documents.didOpen entry.uri server.language entry.text with
    error | ⟨documents, notice⟩
  · simp only [opened, synced, Connection.sync, ready, if_true, legal]
  · simp only [opened, synced, Connection.sync, ready, if_true, legal, Connection.notify, started,
      if_false, Connection.write, Mailbox.send_eq]
    rfl

/-- Opening the documents that wait for a ready server. Induction on the queue. -/
theorem flush_of_ready (ready : server.connection.isReady = true)
    : server.flush
      = { server with queued := [] }.told
          (server.documents.openedAll server.language server.queued) := by
  rw [flush_eq_opened, if_pos ready]
  suffices ∀ (waiting : List QueuedOpen) (start : Server Mailbox κ),
      start.connection.isReady = true →
        waiting.foldl opened start
          = start.told (start.documents.openedAll start.language waiting) from
    this server.queued { server with queued := [] } ready
  intro waiting
  induction waiting with
  | nil =>
      intro start _
      simp only [List.foldl_nil, Documents.openedAll, told, mapTransport, Connection.mapTransport,
        Mailbox.post_zero]
  | cons entry rest ih =>
      intro start ready
      rw [List.foldl_cons, opened_of_ready ready]
      rcases legal : start.documents.didOpen entry.uri start.language entry.text with
        error | ⟨documents, notice⟩
      · simp only [Documents.openedAll, legal]
        exact ih start ready
      · simp only [Documents.openedAll, legal]
        exact (ih (start.told (documents, _)) ready).trans (told_told ..)

theorem flush_of_unready (unready : server.connection.isReady = false)
    : server.flush = server := by
  rw [flush_eq_opened, unready]
  rfl

/-- What a server was told of its documents makes no difference to the next message. -/
theorem heard_told (server : Server Mailbox κ) (opened : Documents × Multiset Json)
    : (server.told opened).heard = server.heard.told opened := by
  have same := Connection.poll_mirrored (Mailbox.post_mirrors opened.2) server.connection trivial
  have here : (server.told opened).connection.poll
      = (server.connection.poll.1.mapTransport (Mailbox.post opened.2),
          server.connection.poll.2) := same
  simp only [heard, here]
  rfl

theorem flush_flush (server : Server Mailbox κ) : server.flush.flush = server.flush := by
  cases ready : server.connection.isReady with
  | false => rw [flush_of_unready ready, flush_of_unready ready]
  | true =>
      have still : server.flush.connection.isReady = true := by
        rw [flush_of_ready ready]
        exact ready
      rw [flush_of_ready still, flush_of_ready ready]
      refine (told_told ..).trans ?_
      rw [Multiset.add_zero]
      rfl

/-- Opening documents before a message is handled makes no difference if they are opened after it.
-/
theorem flush_heard_flush (server : Server Mailbox κ)
    : server.flush.heard.flush = server.heard.flush := by
  cases ready : server.connection.isReady with
  | false => rw [flush_of_unready ready]
  | true =>
      have same : server.flush.heard = server.heard.flush := by
        have still : server.heard.connection.isReady = true := Connection.poll_isReady ready
        rw [flush_of_ready ready, flush_of_ready still, heard_told]
        rfl
      rw [same, flush_flush]

theorem flush_settled (server : Server Mailbox κ)
    : server.settled.flush = server.flush.settled := by
  cases ready : server.connection.isReady with
  | false =>
      have same : server.settled.connection.isReady = false := ready
      rw [flush_of_unready ready, flush_of_unready same]
  | true =>
      have same : server.settled.connection.isReady = true := ready
      rw [flush_of_ready ready, flush_of_ready same]
      rfl

/-- Opening documents teaches a server nothing. -/
theorem flush_learnt (server : Server Mailbox κ)
    : server.flush.connection.answers = server.connection.answers
      ∧ server.flush.connection.notices = server.connection.notices := by
  cases ready : server.connection.isReady with
  | false =>
      rw [flush_of_unready ready]
      exact ⟨rfl, rfl⟩
  | true =>
      rw [flush_of_ready ready]
      exact ⟨rfl, rfl⟩

theorem IsSettled.settled (settled : server.IsSettled) : server.settled = server := by
  obtain ⟨answers, notices⟩ := settled
  unfold Server.settled
  rw [← answers, ← notices]

theorem IsSettled.flush (settled : server.IsSettled) : server.flush.IsSettled :=
  ⟨server.flush_learnt.1.trans settled.answers, server.flush_learnt.2.trans settled.notices⟩

end Server

-----------------------------------------------------------------------------------------
-- Workspaces
-----------------------------------------------------------------------------------------

namespace Workspace

variable {κ : Type} {workspace : Workspace Mailbox κ}

/-- The workspace after the next message of a server was handled. -/
def hear (workspace : Workspace Mailbox κ) (name : String) : Workspace Mailbox κ :=
  match workspace.servers.get? name with
  | some server => workspace.put name server.heard
  | none => workspace

/-- The workspace after the documents that wait were opened, where their server is ready. -/
def flushed (workspace : Workspace Mailbox κ) : Workspace Mailbox κ :=
  { workspace with servers := workspace.servers.map Server.flush }

/-- The workspace as handling messages leaves it: the documents that wait were opened, where their
server is ready, and the notifications were looked at.
-/
def concluded (workspace : Workspace Mailbox κ) : Workspace Mailbox κ :=
  workspace.flushed.drain

/-- A server that has nothing to pass on can be put back where it is. -/
theorem put_of_settled {name : String} {server : Server Mailbox κ}
    (running : workspace.servers.get? name = some server) (settled : server.IsSettled)
    : workspace.put name server = workspace := by
  rw [put_eq, settled.settled, settled.answers, settled.notices, Table.insert_get? running,
    List.filterMap_nil, List.append_nil, List.append_nil]

theorem flushed_put (workspace : Workspace Mailbox κ) (name : String) (server : Server Mailbox κ)
    : (workspace.put name server).flushed = workspace.flushed.put name server.flush := by
  obtain ⟨answers, notices⟩ := server.flush_learnt
  rw [put_eq, put_eq, answers, notices, ← Server.flush_settled]
  simp only [flushed, Table.map_insert]

theorem flushed_flushed (workspace : Workspace Mailbox κ)
    : workspace.flushed.flushed = workspace.flushed := by
  have twice
      : (workspace.servers.map Server.flush).map Server.flush
        = workspace.servers.map Server.flush := by
    refine Table.ext_get? fun name => ?_
    simp only [Table.get?_map, Option.map_map, Function.comp_def, Server.flush_flush]
  exact congrArg (fun servers => { workspace with servers }) twice

theorem flushed_get? (workspace : Workspace Mailbox κ) (name : String)
    : workspace.flushed.servers.get? name = (workspace.servers.get? name).map Server.flush :=
  workspace.servers.get?_map _ name

/-- Opening documents before a message is handled makes no difference if they are opened after it.
-/
theorem flushed_hear (workspace : Workspace Mailbox κ) (name : String)
    : (workspace.flushed.hear name).flushed = (workspace.hear name).flushed := by
  have found := workspace.flushed_get? name
  cases running : workspace.servers.get? name with
  | none =>
      rw [running] at found
      have found : workspace.flushed.servers.get? name = none := found
      simp only [hear, running, found]
      exact workspace.flushed_flushed
  | some server =>
      rw [running] at found
      have found : workspace.flushed.servers.get? name = some server.flush := found
      simp only [hear, running, found]
      rw [flushed_put, flushed_put, flushed_flushed, Server.flush_heard_flush]

theorem drain_flushed (workspace : Workspace Mailbox κ)
    : workspace.flushed.drain = workspace.drain.flushed := by
  rw [drain_eq, drain_eq]
  rfl

/-- Looking at notifications before a server is put back makes no difference if the others are
looked at after it.
-/
theorem drain_put (workspace : Workspace Mailbox κ) (name : String) (server : Server Mailbox κ)
    : (workspace.drain.put name server).drain = (workspace.put name server).drain := by
  simp only [put_eq, drain_eq, List.nil_append, List.foldl_append, List.filterMap_append,
    List.append_assoc]

/-- No notification is left to be looked at. -/
theorem drain_drain (workspace : Workspace Mailbox κ)
    : workspace.drain.drain = workspace.drain := by
  simp only [drain_eq, List.foldl_nil, List.filterMap_nil, List.append_nil]

theorem drain_servers (workspace : Workspace Mailbox κ)
    : workspace.drain.servers = workspace.servers := by
  rw [drain_eq]

/-- Looking at notifications before a message is handled makes no difference if they are looked at
after it.
-/
theorem drain_hear (workspace : Workspace Mailbox κ) (name : String)
    : (workspace.drain.hear name).drain = (workspace.hear name).drain := by
  unfold hear
  rw [drain_servers]
  split
  · exact workspace.drain_put name _
  · exact workspace.drain_drain

/-- What is done at the end can be done before a message is handled as well. -/
theorem concluded_hear (workspace : Workspace Mailbox κ) (name : String)
    : (workspace.concluded.hear name).concluded = (workspace.hear name).concluded := by
  calc (workspace.concluded.hear name).concluded
      = (workspace.flushed.drain.hear name).drain.flushed := drain_flushed _
    _ = (workspace.flushed.hear name).drain.flushed := by rw [drain_hear]
    _ = (workspace.flushed.hear name).flushed.drain := (drain_flushed _).symm
    _ = (workspace.hear name).concluded := by rw [flushed_hear, concluded]

theorem concluded_servers (workspace : Workspace Mailbox κ)
    : workspace.concluded.servers = workspace.servers.map Server.flush :=
  workspace.flushed.drain_servers

theorem concluded_concluded (workspace : Workspace Mailbox κ)
    : workspace.concluded.concluded = workspace.concluded := by
  have flushed : workspace.concluded.flushed = workspace.concluded := by
    rw [concluded, ← drain_flushed, flushed_flushed]
  have again : workspace.concluded.concluded = workspace.concluded.flushed.drain := rfl
  rw [again, flushed]
  exact workspace.flushed.drain_drain

/-- What is done at the end can be done before any messages are handled as well. Induction on the
messages.
-/
theorem concluded_foldl_hear (workspace : Workspace Mailbox κ) (names : List String)
    : (names.foldl hear workspace.concluded).concluded
      = (names.foldl hear workspace).concluded := by
  induction names generalizing workspace with
  | nil => exact workspace.concluded_concluded
  | cons name rest ih =>
      rw [List.foldl_cons, List.foldl_cons, ← ih (workspace.concluded.hear name), concluded_hear,
        ih]

end Workspace

end LanguageClient
