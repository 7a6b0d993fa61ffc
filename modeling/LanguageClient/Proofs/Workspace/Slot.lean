import LanguageClient.Proofs.Connection.Documents
import LanguageClient.Proofs.Table
import LanguageClient.Proofs.Workspace.Notice
import LanguageClient.Proofs.Workspace.Operation

/-! A workspace seen name by name: each name has a slot with the server that runs under it, if one
does, and with what is left of it. The parts that operations are made of change one slot each.
-/

namespace LanguageClient

/-- What a workspace knows of a name: the server that runs, the transport of the one that ran last
and was parted with, and whether none is launched any more.
-/
structure Slot (τ κ : Type) where
  server : Option (Server τ κ)
  released : Option τ
  disabled : Bool

namespace Server

variable {τ κ : Type} [SupervisedTransport τ]

/-- The server after what its connection has learnt was taken over. -/
def settled (server : Server τ κ) : Server τ κ :=
  { server with connection := { server.connection with answers := [], notices := [] } }

/-- The server after its next message was handled. -/
def polled (server : Server τ κ) : Server τ κ :=
  { server with connection := server.connection.poll.1 }.settled

/-- Handling the next message shows that the transport is lost. -/
def IsLost (server : Server τ κ) : Prop :=
  ∃ error, server.connection.poll.2 = .error error ∧ error.isFatal = true

/-- Some messages of a server were handled, one after the other, and its transport was not lost. -/
inductive Handled : Server τ κ → Server τ κ → Prop
  | nothing {server} : Handled server server
  | next {server last} (alive : ¬ server.IsLost) (rest : Handled server.polled last)
    : Handled server last

/-- The server with another transport. -/
def withTransport (server : Server τ κ) (transport : τ) : Server τ κ :=
  { server with connection := Workspace.withTransport server.connection transport }

/-- The server after its transport was started again: its documents are forgotten and a new session
is opened.
-/
def restarted (server : Server τ κ) (host : Host τ) (options : Option Json) (transport : τ)
    : Server τ κ :=
  settled
    { server with
      connection :=
        (Workspace.openSession host (Workspace.withTransport server.connection.reset transport)
          server.rootUri options).1
      documents := .empty
      queued := [] }

/-- The transport of a server after its session was closed, as far as it could be, and it was
stopped.
-/
def stopped (server : Server τ κ) (patience : τ → Nat) : τ :=
  SupervisedTransport.stop (Workspace.closeSession patience server.connection).transport

/-- What comes of starting the transport of a server again. -/
def restart (server : Server τ κ) : τ × Except ClientError Unit :=
  Workspace.restartTransport server.connection.transport
    (SupervisedTransport.attemptsLeft server.connection.transport)

-----------------------------------------------------------------------------------------
-- Documents of a server, where steps that are undone count as not taken
-----------------------------------------------------------------------------------------

theorem openDocument_eq (server : Server τ κ) (uri text : String)
    : server.openDocument uri text
      = if server.connection.isReady then
          let (server, result) :=
            server.synced
              (server.connection.sync server.documents (·.didOpen uri server.language text))
          (server, result.map fun _ => ())
        else if server.isQueued uri || server.documents.contains uri then
          (server, .error (.documentAlreadyOpen uri))
        else ({ server with queued := server.queued ++ [{ uri, text }] }, .ok ()) := by
  rw [openDocument, Connection.didOpen_eq_sync]

theorem changeDocument_eq (server : Server τ κ) (uri text : String)
    : server.changeDocument uri text
      = if server.isQueued uri then
          ({ server with queued := replaceQueued server.queued uri text }, .ok 1)
        else
          server.synced (server.connection.sync server.documents (·.didChange uri text)) := by
  rw [changeDocument, Connection.didChange_eq_sync]

theorem saveDocument_eq (server : Server τ κ) (uri : String) (text : Option String)
    : server.saveDocument uri text
      = if server.isQueued uri then (server, .ok ())
        else
          let (server, result) :=
            server.synced (server.connection.sync server.documents (·.didSave uri text))
          (server, result.map fun _ => ()) := by
  rw [saveDocument, Connection.didSave_eq_sync]

theorem closeDocument_eq (server : Server τ κ) (uri : String)
    : server.closeDocument uri
      = if server.isQueued uri then
          ({ server with queued := server.queued.filter (·.uri ≠ uri) }, .ok ())
        else
          let (server, result) :=
            server.synced (server.connection.sync server.documents (·.didClose uri))
          (server, result.map fun _ => ()) := by
  rw [closeDocument, Connection.didClose_eq_sync]

theorem flush_eq (server : Server τ κ)
    : server.flush
      = if server.connection.isReady then
          server.queued.foldl (fun server entry =>
              (server.synced
                (server.connection.sync server.documents
                  (·.didOpen entry.uri server.language entry.text))).1)
            { server with queued := [] }
        else server := by
  simp only [flush, Connection.didOpen_eq_sync]

/-- What every step on documents keeps of a connection is kept while the documents that wait are
opened. Induction on the queue.
-/
theorem flush_connection {P : Connection τ (Purpose κ) → Prop} {server : Server τ κ}
    (kept : ∀ connection documents step, P connection → P (connection.sync documents step).1)
    (start : P server.connection)
    : P server.flush.connection := by
  rw [flush_eq]
  split
  · have start : P ({ server with queued := [] } : Server τ κ).connection := start
    generalize { server with queued := [] } = emptied at start
    induction server.queued generalizing emptied with
    | nil => exact start
    | cons entry rest ih => exact ih _ (kept _ _ _ start)
  · exact start

end Server

namespace Slot

variable {τ κ : Type} [SupervisedTransport τ]

/-- The slot after the documents that wait were opened, if the server is ready. -/
def flushed (slot : Slot τ κ) : Slot τ κ :=
  { slot with server := slot.server.map fun server => server.flush.settled }

/-- The slot after its server was stopped. -/
def stopped (slot : Slot τ κ) (patience : τ → Nat) : Slot τ κ :=
  match slot.server with
  | none => slot
  | some server => { slot with server := none, released := some (server.stopped patience) }

end Slot

namespace Workspace

variable {τ κ : Type}

/-- The slot of a name. -/
def slot (workspace : Workspace τ κ) (name : String) : Slot τ κ :=
  { server := workspace.servers.get? name
    released := workspace.released.get? name
    disabled := workspace.disabled.contains name }

/-- What a workspace does not change by itself: its machine, its settings and its root. -/
def ground (workspace : Workspace τ κ) : Host τ × Settings × Option Path :=
  (workspace.host, workspace.settings, workspace.root)

-----------------------------------------------------------------------------------------
-- The parts of the operations
-----------------------------------------------------------------------------------------

section Parts

/-- Putting a server back takes over what it has learnt. -/
theorem put_eq [SupervisedTransport τ] (workspace : Workspace τ κ) (name : String)
    (server : Server τ κ)
    : workspace.put name server
      = { workspace with
          answers := workspace.answers ++ server.connection.answers.filterMap answerOf?
          inbox := workspace.inbox ++ server.connection.notices
          servers := workspace.servers.insert name server.settled } := rfl

/-- A server that is put back is found, and the others stay where they are. -/
theorem slot_put [SupervisedTransport τ] (workspace : Workspace τ κ) (name : String)
    (server : Server τ κ) (other : String)
    : (workspace.put name server).slot other
      = if other = name then { workspace.slot other with server := some server.settled }
        else workspace.slot other := by
  by_cases same : other = name <;> simp [put_eq, slot, Table.get?_insert, same]

theorem get?_put [SupervisedTransport τ] (workspace : Workspace τ κ) (name : String)
    (server : Server τ κ)
    : (workspace.put name server).servers.get? name = some server.settled := by
  have put := workspace.slot_put name server name
  rw [if_pos rfl] at put
  exact congrArg Slot.server put

/-- A server that is parted with runs no more, and its transport is kept. -/
theorem slot_release [SupervisedTransport τ] (workspace : Workspace τ κ) (name : String)
    (connection : Connection τ (Purpose κ)) (other : String)
    : (workspace.release name connection).slot other
      = if other = name then
          { workspace.slot other with server := none, released := some connection.transport }
        else workspace.slot other := by
  by_cases same : other = name <;>
    simp [release, collect, slot, Connection.close, Connection.failPending, Table.get?_insert,
      Table.get?_erase, same]

theorem slot_disable (workspace : Workspace τ κ) (name reason other : String)
    : (workspace.disable name reason).slot other
      = if other = name then { workspace.slot other with disabled := true }
        else workspace.slot other := by
  by_cases same : other = name <;> simp [disable, report, slot, same]

theorem drain_frame (workspace : Workspace τ κ)
    : workspace.drain.slot = workspace.slot ∧ workspace.drain.ground = workspace.ground := by
  rw [drain_eq]
  exact ⟨rfl, rfl⟩

/-- Only the slot of a name has changed, and how. -/
structure OnlySlot (before after : Workspace τ κ) (name : String) (slot : Slot τ κ) : Prop where
  slot : ∀ other, after.slot other = if other = name then slot else before.slot other
  ground : after.ground = before.ground

namespace OnlySlot

variable {before after last : Workspace τ κ} {name : String} {slot : Slot τ κ}

/-- What is noted besides the servers concerns no slot. -/
theorem of_frame (name : String) (slot : after.slot = before.slot)
    (ground : after.ground = before.ground)
    : OnlySlot before after name (before.slot name) := by
  refine ⟨fun other => ?_, ground⟩
  rw [slot]
  split <;> simp_all

/-- The slot that has changed. -/
theorem here (one : OnlySlot before after name slot) : after.slot name = slot := by
  rw [one.slot, if_pos rfl]

/-- The slots that have not. -/
theorem elsewhere (one : OnlySlot before after name slot) {other : String} (apart : other ≠ name)
    : after.slot other = before.slot other := by
  rw [one.slot, if_neg apart]

/-- A change of one slot and another change of it are one change. -/
theorem trans {final : Slot τ κ} (one : OnlySlot before after name slot)
    (two : OnlySlot after last name final)
    : OnlySlot before last name final := by
  refine ⟨fun other => ?_, two.ground.trans one.ground⟩
  rw [two.slot, one.slot]
  split <;> rfl

/-- What is noted besides the servers afterwards concerns no slot either. -/
theorem frame (one : OnlySlot before after name slot) (same : last.slot = after.slot)
    (ground : last.ground = after.ground)
    : OnlySlot before last name slot :=
  ⟨fun other => by rw [same, one.slot], ground.trans one.ground⟩

theorem put [SupervisedTransport τ] (one : OnlySlot before after name slot) (server : Server τ κ)
    : OnlySlot before (after.put name server) name { slot with server := some server.settled } := by
  refine ⟨fun other => ?_, one.ground⟩
  rw [slot_put, one.slot]
  split <;> rfl

theorem release [SupervisedTransport τ] (one : OnlySlot before after name slot)
    (connection : Connection τ (Purpose κ))
    : OnlySlot before (after.release name connection) name
        { slot with server := none, released := some connection.transport } := by
  refine ⟨fun other => ?_, one.ground⟩
  rw [slot_release, one.slot]
  split <;> rfl

theorem disable (one : OnlySlot before after name slot) (reason : String)
    : OnlySlot before (after.disable name reason) name { slot with disabled := true } := by
  refine ⟨fun other => ?_, one.ground⟩
  rw [slot_disable, one.slot]
  split <;> rfl

end OnlySlot

end Parts

variable [SupervisedTransport τ]

-----------------------------------------------------------------------------------------
-- Doing something with a server
-----------------------------------------------------------------------------------------

/-- Doing something with the server of a file: the file has none, its server does not run, or it is
done and the server is put back.
-/
inductive Attended {α : Type} (workspace : Workspace τ κ) (path : Path)
    (action : Server τ κ → String → Server τ κ × Except ClientError α)
    : Workspace τ κ → Except ClientError (Option α) → Prop
  | unknown {error} (looked : workspace.lookup path = .error error)
    : Attended workspace path action workspace (.error error)
  | unrouted (looked : workspace.lookup path = .ok none)
    : Attended workspace path action workspace (.ok none)
  | absent {name uri} (looked : workspace.lookup path = .ok (some (name, uri)))
    (none : workspace.servers.get? name = none)
    : Attended workspace path action workspace (.ok Option.none)
  | acted {name uri server} (looked : workspace.lookup path = .ok (some (name, uri)))
    (running : workspace.servers.get? name = some server)
    : Attended workspace path action (workspace.put name (action server uri).1)
        ((action server uri).2.map some)

omit [SupervisedTransport τ] in
theorem withServer_cases {α : Type} (workspace : Workspace τ κ) (path : Path)
    (action : Server τ κ → String → Server τ κ × Except ClientError α)
    : ∃ after result,
        workspace.withServer path action = (after, result)
        ∧ Attended workspace path action after result := by
  rcases looked : workspace.lookup path with error | _ | ⟨name, uri⟩
  · exact ⟨_, _, by simp only [withServer, looked], .unknown looked⟩
  · exact ⟨_, _, by simp only [withServer, looked], .unrouted looked⟩
  · cases running : workspace.servers.get? name with
    | none => exact ⟨_, _, by simp only [withServer, looked, running], .absent looked running⟩
    | some server =>
        exact ⟨_, _, by simp only [withServer, looked, running], .acted looked running⟩

-----------------------------------------------------------------------------------------
-- Launching a server
-----------------------------------------------------------------------------------------

/-- The connection with which a server under a name starts, before its session is opened. -/
def firstConnection (name : String) (transport : τ) : Connection τ (Purpose κ) :=
  (Connection.fresh transport).listen name

/-- A server that is launched for a file: its session is being opened, and it has no documents. -/
inductive Launched (workspace : Workspace τ κ) (name : String) (path : Path)
    : Server τ κ → Prop
  | mk {settings transport connection id}
    (known : workspace.settings.servers.get? name = some settings)
    (launched
      : workspace.host.launch name settings (workspace.rootFor settings path) = .ok transport)
    (opened
      : openSession workspace.host (firstConnection name transport)
          ((workspace.rootFor settings path).bind Uri.ofPath?) settings.options
        = (connection, .ok id))
    : Launched workspace name path
        { connection
          documents := .empty
          language := settings.language
          rootUri := (workspace.rootFor settings path).bind Uri.ofPath?
          queued := [] }

/-- A launch that fails once there is a transport: the session cannot be opened over it. -/
inductive LaunchRefused (workspace : Workspace τ κ) (name : String) : τ → Prop
  | mk {settings root rootUri transport error} {connection : Connection τ (Purpose κ)}
    (launched : workspace.host.launch name settings root = .ok transport)
    (opened
      : openSession workspace.host (firstConnection name transport) rootUri settings.options
        = (connection, .error error))
    : LaunchRefused workspace name connection.transport

/-- What making sure of a server can do to its slot. -/
inductive Ensured (workspace : Workspace τ κ) (name : String) (path : Path)
    : Slot τ κ → Except ClientError Unit → Prop
  | running {server} (running : workspace.servers.get? name = some server)
    : Ensured workspace name path (workspace.slot name) (.ok ())
  | impossible {error} (absent : workspace.servers.get? name = none)
    : Ensured workspace name path (workspace.slot name) (.error error)
  | failed {error} (absent : workspace.servers.get? name = none)
    (enabled : workspace.disabled.contains name = false)
    : Ensured workspace name path { workspace.slot name with disabled := true } (.error error)
  | refused {transport error} (absent : workspace.servers.get? name = none)
    (enabled : workspace.disabled.contains name = false)
    (start : LaunchRefused workspace name transport)
    : Ensured workspace name path { server := none, released := some transport, disabled := true }
        (.error error)
  | launched {server} (absent : workspace.servers.get? name = none)
    (enabled : workspace.disabled.contains name = false)
    (start : Launched workspace name path server)
    : Ensured workspace name path { workspace.slot name with server := some server.settled }
        (.ok ())

/-- The workspace once an attempt to launch a server was noted. -/
def attempted (workspace : Workspace τ κ) (name : String) (settings : ServerSettings) (path : Path)
    : Workspace τ κ :=
  { workspace with
    launches := workspace.launches
      ++ [{ server := name, command := settings.command
            root := workspace.rootFor settings path }] }

/-- Launching a server concerns its own slot alone. -/
theorem launch_cases (workspace : Workspace τ κ) {name : String} {settings : ServerSettings}
    (path : Path) (absent : workspace.servers.get? name = none)
    (enabled : workspace.disabled.contains name = false)
    (known : workspace.settings.servers.get? name = some settings)
    : ∃ after result slot,
        workspace.launch name settings path = (after, result)
        ∧ Ensured workspace name path slot result
        ∧ OnlySlot workspace after name slot := by
  let attempted := workspace.attempted name settings path
  have noted : OnlySlot workspace attempted name (workspace.slot name) := .of_frame name rfl rfl
  let rootUri := (workspace.rootFor settings path).bind Uri.ofPath?
  cases launched : workspace.host.launch name settings (workspace.rootFor settings path) with
  | error error =>
      have step
          : workspace.launch name settings path
            = (attempted.disable name error.message, .error error) := by
        simp only [launch, launched]
        rfl
      exact ⟨_, _, _, step, .failed absent enabled, noted.disable _⟩
  | ok transport =>
      rcases opened
          : openSession workspace.host (firstConnection name transport : Connection τ (Purpose κ))
              rootUri settings.options with
        ⟨connection, error | id⟩
      · have step
            : workspace.launch name settings path
              = ((attempted.release name connection).disable name error.message,
                  .error error) := by
          have opened := opened
          simp only [firstConnection] at opened
          simp only [launch, launched, opened, rootUri]
          rfl
        exact ⟨_, _, _, step, .refused absent enabled (.mk launched opened),
          (noted.release connection).disable _⟩
      · have step
            : workspace.launch name settings path
              = (attempted.put name
                    { connection, documents := .empty, language := settings.language, rootUri
                      queued := [] },
                  .ok ()) := by
          have opened := opened
          simp only [firstConnection] at opened
          simp only [launch, launched, opened, rootUri]
          rfl
        exact ⟨_, _, _, step, .launched absent enabled (.mk known launched opened),
          noted.put _⟩

theorem ensureServer_cases (workspace : Workspace τ κ) (name : String) (path : Path)
    : ∃ after result slot,
        workspace.ensureServer name path = (after, result)
        ∧ Ensured workspace name path slot result
        ∧ OnlySlot workspace after name slot := by
  have idle : OnlySlot workspace workspace name (workspace.slot name) := .of_frame name rfl rfl
  cases running : workspace.servers.get? name with
  | some server =>
      have step : workspace.ensureServer name path = (workspace, .ok ()) := by
        simp [ensureServer, Table.contains, running]
      exact ⟨_, _, _, step, .running running, idle⟩
  | none =>
      have absent : workspace.servers.contains name = false := by simp [Table.contains, running]
      cases disabled : workspace.disabled.contains name with
      | true =>
          have step : workspace.ensureServer name path = (workspace, .error .processNotRunning) := by
            simp only [ensureServer, absent, disabled]
            rfl
          exact ⟨_, _, _, step, .impossible running, idle⟩
      | false =>
          cases known : workspace.settings.servers.get? name with
          | none =>
              have step : workspace.ensureServer name path = (workspace, .error (.notFound name)) := by
                simp only [ensureServer, absent, disabled, known]
                rfl
              exact ⟨_, _, _, step, .impossible running, idle⟩
          | some settings =>
              obtain ⟨after, result, slot, step, ensured⟩ :=
                workspace.launch_cases path running disabled known
              exact ⟨after, result, slot,
                by simp only [ensureServer, absent, disabled, known]; exact step, ensured⟩

-----------------------------------------------------------------------------------------
-- Handling messages
-----------------------------------------------------------------------------------------

/-- The options with which the sessions of a server are opened. -/
def options (workspace : Workspace τ κ) (name : String) : Option Json :=
  (workspace.settings.servers.get? name).bind (·.options)

omit [SupervisedTransport τ] in
/-- The options of a server are among what a workspace does not change by itself. -/
theorem options_of_ground {before after : Workspace τ κ} (ground : after.ground = before.ground)
    (name : String)
    : after.options name = before.options name := by
  have settings : after.settings = before.settings := congrArg (·.2.1) ground
  rw [options, options, settings]

/-- What handling messages of a server can do to its slot: some messages are handled; the transport
is lost and started again; or it is lost for good, and the server is disabled.
-/
inductive SlotPolled (host : Host τ) (options : Option Json) (slot : Slot τ κ) : Slot τ κ → Prop
  | absent (none : slot.server = none) : SlotPolled host options slot slot
  | kept {server last} (running : slot.server = some server) (handled : server.Handled last)
    : SlotPolled host options slot { slot with server := some last }
  | recovered {server lost transport} (running : slot.server = some server)
    (handled : server.Handled lost) (fatal : lost.IsLost)
    (started : lost.polled.restart = (transport, .ok ()))
    : SlotPolled host options slot
        { slot with server := some (lost.polled.restarted host options transport) }
  | abandoned {server lost transport error} (running : slot.server = some server)
    (handled : server.Handled lost) (fatal : lost.IsLost)
    (started : lost.polled.restart = (transport, .error error))
    : SlotPolled host options slot
        { server := none, released := some (SupervisedTransport.stop transport), disabled := true }

/-- It may be that no message is handled. -/
theorem SlotPolled.refl (host : Host τ) (options : Option Json) (slot : Slot τ κ)
    : SlotPolled host options slot slot := by
  obtain ⟨server, released, disabled⟩ := slot
  cases server with
  | none => exact .absent rfl
  | some server => exact .kept rfl .nothing

/-- A message that was handled comes before those that are handled later. -/
theorem SlotPolled.next {host : Host τ} {options : Option Json} {slot last : Slot τ κ}
    {server : Server τ κ} (running : slot.server = some server) (alive : ¬ server.IsLost)
    (later : SlotPolled host options { slot with server := some server.polled } last)
    : SlotPolled host options slot last := by
  cases later with
  | absent none => simp at none
  | kept same handled =>
      obtain rfl := Option.some.inj same
      exact .kept running (.next alive handled)
  | recovered same handled fatal started =>
      obtain rfl := Option.some.inj same
      exact .recovered running (.next alive handled) fatal started
  | abandoned same handled fatal started =>
      obtain rfl := Option.some.inj same
      exact .abandoned running (.next alive handled) fatal started

/-- A server that is lost is started again with a new session, or parted with for good. -/
theorem recover_cases (workspace : Workspace τ κ) {name : String} {lost : Server τ κ}
    (running : workspace.servers.get? name = some lost)
    : (∃ transport,
        lost.restart = (transport, .ok ())
        ∧ OnlySlot workspace (workspace.recover name) name
            { workspace.slot name with
              server := some
                (lost.restarted workspace.host (workspace.options name) transport) })
      ∨ ∃ transport error,
          lost.restart = (transport, .error error)
          ∧ OnlySlot workspace (workspace.recover name) name
              { server := none
                released := some (SupervisedTransport.stop transport)
                disabled := true } := by
  have idle : OnlySlot workspace workspace name (workspace.slot name) := .of_frame name rfl rfl
  rcases started : lost.restart with ⟨transport, error | _⟩
  · refine .inr ⟨transport, error, rfl, ?_⟩
    simp only [Server.restart] at started
    simp only [recover, running, Connection.reset, Connection.failPending, started]
    exact (idle.release _).disable _
  · refine .inl ⟨transport, rfl, ?_⟩
    simp only [Server.restart] at started
    simp only [recover, running, Connection.reset, Connection.failPending, started]
    exact (idle.put _).frame rfl rfl

/-- Handling a message of a server loses its transport, and it is started again or given up; or it
does not, and that was all, or the rest of the budget is spent after it.
-/
theorem pollServer_succ_cases {workspace : Workspace τ κ} {name : String} {server : Server τ κ}
    (running : workspace.servers.get? name = some server) (budget : Nat)
    : let polled := workspace.put name { server with connection := server.connection.poll.1 }
      let last := (pollServer name workspace (budget + 1)).1
      (server.IsLost ∧ last = polled.recover name)
      ∨ (¬ server.IsLost ∧ (last = polled ∨ last = (pollServer name polled budget).1)) := by
  intro polled last
  rcases result : server.connection.poll.2 with error | handled
  · by_cases fatal : error.isFatal = true
    · refine .inl ⟨⟨error, result, fatal⟩, ?_⟩
      simp only [last, pollServer, running, result, if_pos fatal]
      rfl
    · refine .inr ⟨?_, .inr ?_⟩
      · rintro ⟨other, same, otherFatal⟩
        cases result.symm.trans same
        exact fatal otherFatal
      · simp only [last, pollServer, running, result, if_neg fatal]
        rfl
  · have alive : ¬ server.IsLost := by
      rintro ⟨error, same, _⟩
      cases result.symm.trans same
    refine .inr ⟨alive, ?_⟩
    cases handled with
    | false =>
        refine .inl ?_
        simp only [last, pollServer, running, result]
        rfl
    | true =>
        refine .inr ?_
        simp only [last, pollServer, running, result]
        rfl

/-- Handling messages of a server concerns its own slot alone. Induction on the budget. -/
theorem pollServer_cases (workspace : Workspace τ κ) (name : String) (budget : Nat)
    : ∃ slot,
        SlotPolled workspace.host (workspace.options name) (workspace.slot name) slot
        ∧ OnlySlot workspace (pollServer name workspace budget).1 name slot := by
  have idle : OnlySlot workspace workspace name (workspace.slot name) := .of_frame name rfl rfl
  induction budget generalizing workspace with
  | zero => exact ⟨_, .refl _ _ _, idle⟩
  | succ budget ih =>
      cases running : workspace.servers.get? name with
      | none => exact ⟨_, .refl _ _ _, by simpa only [pollServer, running] using idle⟩
      | some server =>
          let polled := workspace.put name { server with connection := server.connection.poll.1 }
          have handled
              : OnlySlot workspace polled name
                  { workspace.slot name with server := some server.polled } := idle.put _
          rcases pollServer_succ_cases running budget with
            ⟨lost, same⟩ | ⟨alive, same | same⟩ <;> rw [same]
          · have found : polled.servers.get? name = some server.polled :=
              congrArg Slot.server handled.here
            rcases polled.recover_cases found with
              ⟨transport, started, only⟩ | ⟨transport, error, started, only⟩
            · rw [handled.here] at only
              exact ⟨_, .recovered running .nothing lost started, handled.trans only⟩
            · exact ⟨_, .abandoned running .nothing lost started, handled.trans only⟩
          · exact ⟨_, .kept running (.next alive .nothing), handled⟩
          · obtain ⟨slot, rest, only⟩ := ih polled (.of_frame name rfl rfl)
            rw [handled.here] at rest
            exact ⟨slot, rest.next running alive, handled.trans only⟩

/-- Opening the documents that wait for a server concerns its own slot alone. -/
theorem flush_cases (workspace : Workspace τ κ) (name : String)
    : OnlySlot workspace (workspace.flush name) name (workspace.slot name).flushed := by
  have idle : OnlySlot workspace workspace name (workspace.slot name) := .of_frame name rfl rfl
  cases running : workspace.servers.get? name with
  | none =>
      have same : (workspace.slot name).flushed = workspace.slot name := by
        simp [Slot.flushed, slot, running]
      simpa only [flush, running, same] using idle
  | some server =>
      have same
          : (workspace.slot name).flushed
            = { workspace.slot name with server := some server.flush.settled } := by
        simp [Slot.flushed, slot, running]
      simpa only [flush, running, same] using idle.put server.flush

/-- Handle messages of one server, with what is left of the budget. -/
def pollNext (state : Workspace τ κ × Nat) (name : String) : Workspace τ κ × Nat :=
  ((pollServer name state.1 state.2).1.flush name, (pollServer name state.1 state.2).2)

/-- Handling messages of some servers concerns each of their slots once. Induction on the names. -/
theorem pollNext_foldl {names : List String} (different : names.Nodup)
    (state : Workspace τ κ × Nat)
    : (names.foldl pollNext state).1.ground = state.1.ground
      ∧ ∀ name,
          (name ∉ names → (names.foldl pollNext state).1.slot name = state.1.slot name)
          ∧ (name ∈ names →
              ∃ slot,
                SlotPolled state.1.host (state.1.options name) (state.1.slot name) slot
                ∧ (names.foldl pollNext state).1.slot name = slot.flushed) := by
  induction names generalizing state with
  | nil => exact ⟨rfl, fun name => ⟨fun _ => rfl, fun member => by cases member⟩⟩
  | cons first rest ih =>
      obtain ⟨fresh, restDifferent⟩ := List.nodup_cons.mp different
      obtain ⟨slot, polled, only⟩ := state.1.pollServer_cases first state.2
      have step
          : OnlySlot state.1 (pollNext state first).1 first
              ((pollServer first state.1 state.2).1.slot first).flushed :=
        only.trans (flush_cases _ first)
      obtain ⟨ground, slots⟩ := ih restDifferent (pollNext state first)
      refine ⟨ground.trans step.ground, fun name => ⟨fun absent => ?_, fun member => ?_⟩⟩
      · obtain ⟨other, absent⟩ := not_or.mp (mt List.mem_cons.mpr absent)
        exact ((slots name).1 absent).trans (step.elsewhere other)
      · rcases List.mem_cons.mp member with rfl | later
        · refine ⟨slot, polled, ((slots name).1 fresh).trans ?_⟩
          rw [step.here, only.here]
        · have other : name ≠ first := fun same => fresh (same ▸ later)
          obtain ⟨last, rest, same⟩ := (slots name).2 later
          refine ⟨last, ?_, same⟩
          have host : (pollNext state first).1.host = state.1.host := congrArg (·.1) step.ground
          have before : (pollNext state first).1.slot name = state.1.slot name :=
            step.elsewhere other
          rwa [host, options_of_ground step.ground, before] at rest

/-- Handling messages of all servers handles those of each, and opens the documents that wait. -/
theorem poll_slot (workspace : Workspace τ κ) (budget : Nat) (name : String)
    : ∃ slot,
        SlotPolled workspace.host (workspace.options name) (workspace.slot name) slot
        ∧ (workspace.poll budget).1.slot name = slot.flushed := by
  have all : (workspace.poll budget).1
      = (workspace.servers.keys.foldl pollNext (workspace, budget)).1.drain := rfl
  obtain ⟨_, slots⟩ := pollNext_foldl workspace.servers.nodup_keys (workspace, budget)
  rw [all, (drain_frame _).1]
  by_cases member : name ∈ workspace.servers.keys
  · exact (slots name).2 member
  · refine ⟨workspace.slot name, .refl _ _ _, ((slots name).1 member).trans ?_⟩
    have absent : workspace.servers.get? name = none := by
      by_contra found
      exact member (Table.mem_keys_iff.mpr (Option.ne_none_iff_exists'.mp found))
    simp [Slot.flushed, slot, absent]

theorem poll_ground (workspace : Workspace τ κ) (budget : Nat)
    : (workspace.poll budget).1.ground = workspace.ground := by
  obtain ⟨ground, _⟩ := pollNext_foldl workspace.servers.nodup_keys (workspace, budget)
  exact (drain_frame _).2.trans ground

-----------------------------------------------------------------------------------------
-- Stopping servers
-----------------------------------------------------------------------------------------

theorem stopServer_only (workspace : Workspace τ κ) (patience : String → τ → Nat)
    (entry : String × Server τ κ)
    : OnlySlot workspace (stopServer patience workspace entry) entry.1
        { workspace.slot entry.1 with
          server := none
          released := some (entry.2.stopped (patience entry.1)) } := by
  have idle : OnlySlot workspace workspace entry.1 (workspace.slot entry.1) :=
    .of_frame entry.1 rfl rfl
  let stopped := withTransport entry.2.connection (entry.2.stopped (patience entry.1))
  exact (idle.release stopped).frame rfl rfl

/-- Stopping some servers concerns each of their slots once. Induction on the servers. -/
theorem stopServer_foldl {entries : List (String × Server τ κ)}
    (different : (entries.map (·.1)).Nodup) (patience : String → τ → Nat)
    (workspace : Workspace τ κ)
    : (entries.foldl (stopServer patience) workspace).ground = workspace.ground
      ∧ ∀ name,
          (entries.foldl (stopServer patience) workspace).slot name
            = match entries.lookup name with
              | none => workspace.slot name
              | some server =>
                  { workspace.slot name with
                    server := none
                    released := some (server.stopped (patience name)) } := by
  induction entries generalizing workspace with
  | nil => exact ⟨rfl, fun _ => rfl⟩
  | cons entry rest ih =>
      obtain ⟨first, server⟩ := entry
      obtain ⟨fresh, restDifferent⟩ := List.nodup_cons.mp different
      have step := workspace.stopServer_only patience (first, server)
      obtain ⟨ground, slots⟩ := ih restDifferent (stopServer patience workspace (first, server))
      refine ⟨ground.trans step.ground, fun name => (slots name).trans ?_⟩
      rw [lookup_cons_eq]
      by_cases same : name = first
      · subst same
        have absent : rest.lookup name = none := by
          by_contra found
          obtain ⟨other, found⟩ := Option.ne_none_iff_exists'.mp found
          have member := (Table.mem_iff_lookup restDifferent).mpr found
          exact fresh (List.mem_map.mpr ⟨(name, other), member, rfl⟩)
        simp only [absent, if_pos, step.here]
      · simp only [if_neg same, step.elsewhere same]

/-- Stopping all servers leaves none that runs. -/
theorem shutdownWithin_slot (workspace : Workspace τ κ) (patience : String → τ → Nat)
    (name : String)
    : (workspace.shutdownWithin patience).slot name
      = (workspace.slot name).stopped (patience name) := by
  obtain ⟨_, slots⟩ := stopServer_foldl workspace.servers.nodup_keys patience workspace
  refine (congrFun (drain_frame _).1 name).trans ((slots name).trans ?_)
  change (match workspace.servers.get? name with | none => _ | some _ => _) = _
  cases running : workspace.servers.get? name <;> simp [Slot.stopped, slot, running]

theorem shutdownWithin_ground (workspace : Workspace τ κ) (patience : String → τ → Nat)
    : (workspace.shutdownWithin patience).ground = workspace.ground := by
  obtain ⟨ground, _⟩ := stopServer_foldl workspace.servers.nodup_keys patience workspace
  exact (drain_frame _).2.trans ground

end Workspace

end LanguageClient
