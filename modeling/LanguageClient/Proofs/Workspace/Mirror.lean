import LanguageClient.Proofs.Connection.Mirror
import LanguageClient.Proofs.Workspace.Slot

/-! Workspaces seen from outside: of each transport only what waits to be received and which
messages were sent, in whatever order. As long as no transport dies, handling messages comes to the
same when only this much is looked at.
-/

namespace LanguageClient

variable {τ σ κ : Type}

-----------------------------------------------------------------------------------------
-- Servers
-----------------------------------------------------------------------------------------

namespace Server

/-- The same server over what is seen of its transport. -/
def mapTransport (view : τ → σ) (server : Server τ κ) : Server σ κ :=
  { server with connection := server.connection.mapTransport view }

/-- The server after its next message was handled, before what it has learnt was passed on. -/
def heard [SupervisedTransport τ] (server : Server τ κ) : Server τ κ :=
  { server with connection := server.connection.poll.1 }

/-- The server after a document that waited was opened, if that was legal and could be told. -/
def opened [SupervisedTransport τ] (server : Server τ κ) (entry : QueuedOpen) : Server τ κ :=
  (server.synced
    (server.connection.sync server.documents
      (·.didOpen entry.uri server.language entry.text))).1

theorem flush_eq_opened [SupervisedTransport τ] (server : Server τ κ)
    : server.flush
      = if server.connection.isReady then server.queued.foldl opened { server with queued := [] }
        else server :=
  server.flush_eq

section Mirrored

variable [SupervisedTransport τ] [SupervisedTransport σ] {keeps : τ → Prop} {view : τ → σ}

theorem opened_mirrored (mirrors : Transport.Mirrors keeps view) (server : Server τ κ)
    (kept : keeps server.connection.transport) (entry : QueuedOpen)
    : (server.mapTransport view).opened entry = (server.opened entry).mapTransport view := by
  have same := Connection.sync_mirrored mirrors server.connection kept server.documents
    (·.didOpen entry.uri server.language entry.text)
  simp only [opened, synced, mapTransport, same]

/-- Opening a document keeps what use keeps. -/
theorem opened_keeps (mirrors : Transport.Mirrors keeps view) {server : Server τ κ}
    (kept : keeps server.connection.transport) (entry : QueuedOpen)
    : keeps (server.opened entry).connection.transport :=
  mirrors.used (server.connection.sync_used _ _) kept

/-- Opening the documents that wait comes to the same over what is seen of the transport. Induction
on the queue.
-/
theorem flush_mirrored (mirrors : Transport.Mirrors keeps view) (server : Server τ κ)
    (kept : keeps server.connection.transport)
    : (server.mapTransport view).flush = server.flush.mapTransport view := by
  have ready : (server.mapTransport view).connection.isReady = server.connection.isReady := rfl
  rw [flush_eq_opened, flush_eq_opened, ready]
  split
  · suffices ∀ (waiting : List QueuedOpen) (start : Server τ κ),
        keeps start.connection.transport →
          waiting.foldl opened (start.mapTransport view)
            = (waiting.foldl opened start).mapTransport view from
      this server.queued { server with queued := [] } kept
    intro waiting
    induction waiting with
    | nil => exact fun _ _ => rfl
    | cons entry rest ih =>
        intro start kept
        rw [List.foldl_cons, List.foldl_cons, opened_mirrored mirrors start kept]
        exact ih _ (opened_keeps mirrors kept entry)
  · rfl

end Mirrored

section Mailboxes

variable {server : Server Mailbox κ}

theorem calm_heard (calm : server.connection.transport.IsCalm)
    : server.heard.connection.transport.IsCalm := by
  intro error member
  refine calm error (List.mem_of_mem_tail ?_)
  rwa [← Connection.poll_inbound]

theorem flush_inbound (server : Server Mailbox κ)
    : server.flush.connection.transport.inbound = server.connection.transport.inbound :=
  flush_connection
    (P := fun (connection : Connection Mailbox (Purpose κ)) =>
      connection.transport.inbound = server.connection.transport.inbound)
    (fun _ documents step same => (Connection.sync_inbound _ documents step).trans same) rfl

theorem calm_flush (calm : server.connection.transport.IsCalm)
    : server.flush.connection.transport.IsCalm := by
  rwa [Mailbox.IsCalm, flush_inbound]

end Mailboxes

/-- What is seen of a server. -/
def seen [Transport τ] [MailboxTransport τ] (server : Server τ κ) : Server Mailbox κ :=
  server.mapTransport MailboxTransport.view

/-- The transport of a server does not die by itself, and no error that waits tells of its loss. -/
structure IsSteady [Transport τ] [MailboxTransport τ] (server : Server τ κ) : Prop where
  steady : MailboxTransport.IsSteady server.connection.transport
  calm : server.seen.connection.transport.IsCalm

variable [SupervisedTransport τ] [MailboxTransport τ] {server : Server τ κ}

theorem seen_heard (steady : server.IsSteady)
    : server.seen.heard = server.heard.seen
      ∧ server.seen.connection.poll.2 = server.connection.poll.2 := by
  have same := Connection.poll_mirrored MailboxTransport.mirrors server.connection steady.steady
  have here : server.seen.connection.poll
      = (server.connection.poll.1.mapTransport MailboxTransport.view,
          server.connection.poll.2) := same
  exact ⟨by simp only [heard, here]; rfl, by rw [here]⟩

/-- Handling a message of a steady server does not show that its transport is lost. -/
theorem IsSteady.bearable (steady : server.IsSteady) {error : ClientError}
    (failed : server.connection.poll.2 = .error error)
    : error.isFatal = false := by
  rw [← (seen_heard steady).2] at failed
  cases waiting : server.seen.connection.transport.inbound with
  | nil =>
      rw [Connection.poll_of_empty waiting] at failed
      cases failed
  | cons item rest =>
      rcases Connection.poll_of_waiting waiting steady.calm with handled | ⟨other, same, bearable⟩
      · exact nomatch handled.symm.trans failed
      · obtain rfl := Except.error.inj (same.symm.trans failed)
        exact bearable

theorem seen_flush (steady : server.IsSteady) : server.seen.flush = server.flush.seen :=
  flush_mirrored MailboxTransport.mirrors server steady.steady

/-- A steady server stays so when a message is handled. -/
theorem IsSteady.heard (steady : server.IsSteady) : server.heard.IsSteady := by
  refine ⟨MailboxTransport.mirrors.used server.connection.poll_used steady.steady, ?_⟩
  rw [← (seen_heard steady).1]
  exact calm_heard steady.calm

theorem IsSteady.flush (steady : server.IsSteady) : server.flush.IsSteady := by
  refine ⟨?_, ?_⟩
  · exact flush_connection
      (P := fun connection => MailboxTransport.IsSteady connection.transport)
      (fun connection documents step kept =>
        MailboxTransport.mirrors.used (connection.sync_used documents step) kept)
      steady.steady
  · rw [← seen_flush steady]
    exact calm_flush steady.calm

end Server

-----------------------------------------------------------------------------------------
-- Workspaces
-----------------------------------------------------------------------------------------

/-- The same machine, where only something is seen of the transports that it launches. -/
def Host.mapTransport (view : τ → σ) (host : Host τ) : Host σ :=
  { host with launch := fun name settings root => (host.launch name settings root).map view }

namespace Workspace

/-- The same workspace over what is seen of its transports. -/
def mapTransport (view : τ → σ) (workspace : Workspace τ κ) : Workspace σ κ :=
  { workspace with
    host := workspace.host.mapTransport view
    servers := workspace.servers.map (Server.mapTransport view)
    released := workspace.released.map view }

/-- What is seen of a workspace. -/
def seen [Transport τ] [MailboxTransport τ] (workspace : Workspace τ κ) : Workspace Mailbox κ :=
  workspace.mapTransport MailboxTransport.view

/-- Looking at notifications has nothing to do with transports. -/
theorem mapTransport_drain (view : τ → σ) (workspace : Workspace τ κ)
    : (workspace.mapTransport view).drain = workspace.drain.mapTransport view := by
  rw [drain_eq, drain_eq]
  rfl

variable [SupervisedTransport τ] [MailboxTransport τ] {workspace : Workspace τ κ}

/-- All servers that run are steady. -/
def IsSteady (workspace : Workspace τ κ) : Prop :=
  ∀ name server, workspace.servers.get? name = some server → server.IsSteady

theorem seen_get? (workspace : Workspace τ κ) (name : String)
    : workspace.seen.servers.get? name = (workspace.servers.get? name).map Server.seen :=
  workspace.servers.get?_map _ name

theorem seen_put (workspace : Workspace τ κ) (name : String) (server : Server τ κ)
    : (workspace.put name server).seen = workspace.seen.put name server.seen := by
  simp only [seen, mapTransport, put, collect, Table.map_insert]
  rfl

theorem IsSteady.put (steady : workspace.IsSteady) (name : String) {server : Server τ κ}
    (here : server.IsSteady)
    : (workspace.put name server).IsSteady := by
  intro other found running
  change (workspace.servers.insert name _).get? other = _ at running
  rw [Table.get?_insert] at running
  split at running
  · obtain rfl := Option.some.inj running
    exact ⟨here.steady, here.calm⟩
  · exact steady other found running

omit [MailboxTransport τ] in
/-- Handling messages of a server handles the next one first. -/
theorem pollServer_succ {name : String} {server : Server τ κ}
    (running : workspace.servers.get? name = some server) (budget : Nat)
    : pollServer name workspace (budget + 1)
      = match server.connection.poll.2 with
        | .ok true => pollServer name (workspace.put name server.heard) budget
        | .ok false => (workspace.put name server.heard, budget + 1)
        | .error error =>
            if error.isFatal then ((workspace.put name server.heard).recover name, budget + 1)
            else pollServer name (workspace.put name server.heard) budget := by
  simp only [pollServer, running]
  rfl

/-- Handling messages of a steady server comes to the same when only what is seen is looked at.
Induction on the budget.
-/
theorem seen_pollServer (steady : workspace.IsSteady) (name : String) (budget : Nat)
    : pollServer name workspace.seen budget
        = ((pollServer name workspace budget).1.seen, (pollServer name workspace budget).2)
      ∧ (pollServer name workspace budget).1.IsSteady := by
  induction budget generalizing workspace with
  | zero => exact ⟨rfl, steady⟩
  | succ budget ih =>
      have found := workspace.seen_get? name
      cases running : workspace.servers.get? name with
      | none =>
          rw [running] at found
          have found : workspace.seen.servers.get? name = none := found
          simp only [pollServer, running, found]
          exact ⟨trivial, steady⟩
      | some server =>
          rw [running] at found
          have here := steady name server running
          have next := steady.put name here.heard
          obtain ⟨heard, same⟩ := Server.seen_heard here
          rw [pollServer_succ running, pollServer_succ found, same, heard, ← seen_put]
          rcases result : server.connection.poll.2 with error | _ | _
          · simp only [here.bearable result, Bool.false_eq_true, if_false]
            exact ih next
          · exact ⟨rfl, next⟩
          · exact ih next

theorem seen_flush (steady : workspace.IsSteady) (name : String)
    : workspace.seen.flush name = (workspace.flush name).seen
      ∧ (workspace.flush name).IsSteady := by
  have found := workspace.seen_get? name
  cases running : workspace.servers.get? name with
  | none =>
      rw [running] at found
      have found : workspace.seen.servers.get? name = none := found
      simp only [flush, running, found]
      exact ⟨trivial, steady⟩
  | some server =>
      rw [running] at found
      have found : workspace.seen.servers.get? name = some server.seen := found
      have here := steady name server running
      simp only [flush, running, found]
      rw [Server.seen_flush here, ← seen_put]
      exact ⟨rfl, steady.put name here.flush⟩

/-- Handling messages comes to the same when only what is seen is looked at, as long as all servers
are steady. Induction on their names.
-/
theorem seen_poll (steady : workspace.IsSteady) (budget : Nat)
    : workspace.seen.poll budget = ((workspace.poll budget).1.seen, (workspace.poll budget).2)
      ∧ (workspace.poll budget).1.IsSteady := by
  have all
      : ∀ (names : List String) (state : Workspace τ κ × Nat),
          state.1.IsSteady →
            names.foldl pollNext (state.1.seen, state.2)
                = ((names.foldl pollNext state).1.seen, (names.foldl pollNext state).2)
              ∧ (names.foldl pollNext state).1.IsSteady := by
    intro names
    induction names with
    | nil => exact fun _ steady => ⟨rfl, steady⟩
    | cons name rest ih =>
        intro state steady
        obtain ⟨polled, still⟩ := seen_pollServer steady name state.2
        obtain ⟨flushed, last⟩ := seen_flush still name
        have next
            : pollNext (state.1.seen, state.2) name
              = ((pollNext state name).1.seen, (pollNext state name).2) := by
          simp only [pollNext, polled, flushed]
        rw [List.foldl_cons, next]
        exact ih (pollNext state name) last
  obtain ⟨same, still⟩ := all workspace.servers.keys (workspace, budget) steady
  have keys : workspace.seen.servers.keys = workspace.servers.keys := Table.keys_map _ _
  refine ⟨?_, ?_⟩
  · change ((workspace.seen.servers.keys.foldl pollNext (workspace.seen, budget)).1.drain,
      budget - (workspace.seen.servers.keys.foldl pollNext (workspace.seen, budget)).2) = _
    rw [keys, same]
    exact Prod.ext (mapTransport_drain _ _) rfl
  · intro name server running
    refine still name server ?_
    have slots := (drain_frame (workspace.servers.keys.foldl pollNext (workspace, budget)).1).1
    exact (congrArg Slot.server (congrFun slots name)).symm.trans running

end Workspace

end LanguageClient
