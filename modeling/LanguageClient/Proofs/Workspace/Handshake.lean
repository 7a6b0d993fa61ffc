import LanguageClient.Proofs.Connection.Handshake
import LanguageClient.Proofs.Workspace.Recorded

/-! Every session of every server of a workspace keeps the order of messages, whatever the editor does,
whatever the servers send and whenever their transports die.
-/

namespace LanguageClient

variable {τ κ : Type} [SupervisedTransport τ]

/-- Every session that is over, and the one that goes on, is followed to some stage. -/
def Recorder.IsFollowed (recorder : Recorder τ) : Prop :=
  ∀ journal ∈ recorder.sessions, ∃ stage, Follows journal stage

namespace Server

/-- The sessions of a server are followed, and the phase of its connection fits the last one. -/
structure InOrder (server : Server (Recorder τ) κ) : Prop where
  handshake : server.connection.Handshake
  earlier : ∀ journal ∈ server.connection.transport.earlier, ∃ stage, Follows journal stage

variable {server : Server (Recorder τ) κ}

/-- All sessions of such a server are followed. -/
theorem InOrder.isFollowed (inOrder : server.InOrder)
    : server.connection.transport.IsFollowed := by
  intro journal member
  rcases Recorder.mem_sessions.mp member with earlier | rfl
  · exact inOrder.earlier journal earlier
  · obtain ⟨stage, follows, _⟩ := inOrder.handshake
    exact ⟨stage, follows⟩

/-- Use of the connection that keeps the handshake keeps the order. -/
theorem InOrder.use {kind : Json → Prop} {after : Server (Recorder τ) κ}
    (inOrder : server.InOrder) (handshake : after.connection.Handshake)
    (used
      : Transport.Used kind server.connection.transport after.connection.transport)
    : after.InOrder :=
  ⟨handshake, by rw [Recorder.earlier_of_used used]; exact inOrder.earlier⟩

theorem InOrder.settled (inOrder : server.InOrder) : server.settled.InOrder :=
  ⟨inOrder.handshake.keep (fun _ follows => follows) rfl (fun _ known => known) (fun dead => dead),
    inOrder.earlier⟩

variable [MortalTransport τ]

theorem InOrder.synced {step : Documents → Except ClientError (Documents × DocumentNotice)}
    (inOrder : server.InOrder)
    (steps
      : ∀ stepped notice, step server.documents = .ok (stepped, notice) →
          server.documents.Step stepped notice)
    : (server.synced (server.connection.sync server.documents step)).1.InOrder :=
  inOrder.use (inOrder.handshake.sync steps) (server.connection.sync_used server.documents step)

/-- What is done with a server for a document keeps the order. -/
theorem InOrder.acted {uri : String} {operation : Workspace.Operation (Recorder τ) κ}
    {after : Server (Recorder τ) κ} {outcome : Workspace.Outcome} (inOrder : server.InOrder)
    (acted : Workspace.Acted uri operation server after outcome)
    : after.InOrder := by
  cases acted with
  | opened =>
      rw [openDocument_eq]
      split
      · exact inOrder.synced fun _ _ legal => Documents.didOpen_step legal
      · split
        · exact inOrder
        · exact ⟨inOrder.handshake, inOrder.earlier⟩
  | changed =>
      rw [changeDocument_eq]
      split
      · exact ⟨inOrder.handshake, inOrder.earlier⟩
      · exact inOrder.synced fun _ _ legal => Documents.didChange_step legal
  | saved =>
      rw [saveDocument_eq]
      split
      · exact inOrder
      · exact inOrder.synced fun _ _ legal => Documents.didSave_step legal
  | closed =>
      rw [closeDocument_eq]
      split
      · exact ⟨inOrder.handshake, inOrder.earlier⟩
      · exact inOrder.synced fun _ _ legal => Documents.didClose_step legal
  | asked => exact inOrder.use inOrder.handshake.ask (server.connection.ask_used _ _ _)

/-- Opening the documents that wait keeps the order. Induction on the queue. -/
theorem InOrder.flush (inOrder : server.InOrder) : server.flush.InOrder := by
  rw [Server.flush_eq]
  split
  · have start : ({ server with queued := [] } : Server (Recorder τ) κ).InOrder :=
      ⟨inOrder.handshake, inOrder.earlier⟩
    generalize { server with queued := [] } = emptied at start
    induction server.queued generalizing emptied with
    | nil => exact start
    | cons entry rest ih =>
        refine ih _ (start.synced fun _ _ legal => Documents.didOpen_step legal)
  · exact inOrder

theorem InOrder.polled (inOrder : server.InOrder) : server.polled.InOrder :=
  InOrder.settled (inOrder.use inOrder.handshake.poll server.connection.poll_used)

/-- Handling messages keeps the order. Induction on the messages. -/
theorem InOrder.handled {last : Server (Recorder τ) κ} (inOrder : server.InOrder)
    (handled : server.Handled last)
    : last.InOrder := by
  induction handled with
  | nothing => exact inOrder
  | next _ _ ih => exact ih inOrder.polled

omit [MortalTransport τ] in
/-- A server that was started again starts a session, and its last one is over. -/
theorem InOrder.restarted {transport : Recorder τ} (inOrder : server.InOrder)
    (started : server.restart = (transport, .ok ())) (host : Host (Recorder τ))
    (options : Option Json)
    : (server.restarted host options transport).InOrder := by
  obtain ⟨journal, earlier⟩ := Workspace.restartTransport_of_ok started
  let connection := Workspace.withTransport server.connection.reset transport
  have handshake : connection.Handshake := Connection.handshake_of_silent journal rfl
  have followed : ∀ journal ∈ transport.earlier, ∃ stage, Follows journal stage := by
    rw [earlier]
    exact inOrder.isFollowed
  have start : ({ server with connection } : Server (Recorder τ) κ).InOrder := ⟨handshake, followed⟩
  exact InOrder.settled
    (start.use (Connection.Handshake.openSession journal rfl) (connection.openSession_used _ _))

omit [MortalTransport τ] in
/-- A server that could not be started again is parted with, and its sessions are in order. -/
theorem InOrder.abandoned {transport : Recorder τ} {error : ClientError} (inOrder : server.InOrder)
    (started : server.restart = (transport, .error error))
    : (SupervisedTransport.stop transport).IsFollowed := by
  rw [Recorder.IsFollowed, Workspace.sessions_abandoned started]
  exact inOrder.isFollowed

theorem InOrder.stopped (inOrder : server.InOrder) (patience : Recorder τ → Nat)
    : (server.stopped patience).IsFollowed := by
  let closed : Server (Recorder τ) κ :=
    { server with connection := Workspace.closeSession patience server.connection }
  have last : closed.InOrder :=
    inOrder.use (Workspace.closeSession_handshake inOrder.handshake patience)
      (Workspace.closeSession_used server.connection patience)
  exact last.isFollowed

omit [MortalTransport τ] in
/-- A transport that changes by itself, but is not dead and then alive, keeps the order. -/
theorem InOrder.disturbed {change : τ → τ} (inOrder : server.InOrder)
    (mortal : ∀ transport, Transport.IsDead transport → Transport.IsDead (change transport))
    : (server.withTransport (Recorder.alter change server.connection.transport)).InOrder := by
  refine ⟨inOrder.handshake.keep (fun _ follows => follows) rfl (fun _ known => known) ?_,
    inOrder.earlier⟩
  intro dead
  exact Recorder.isDead_iff.mpr (mortal _ (Recorder.isDead_iff.mp dead))

end Server

/-- The server that runs and the transport that is left have their sessions in order. -/
structure Slot.InOrder (slot : Slot (Recorder τ) κ) : Prop where
  running : ∀ server, slot.server = some server → server.InOrder
  released : ∀ recorder, slot.released = some recorder → recorder.IsFollowed

namespace Workspace

/-- No change that happens to a transport by itself revives a dead one. -/
def Operation.KeepsDead : Operation τ κ → Prop
  | .disturb _ change =>
      ∀ transport, Transport.IsDead transport → Transport.IsDead (change transport)
  | _ => True

/-- The first message to a server that is launched opens its session. -/
theorem firstConnection_inOrder {name : String} {transport : Recorder τ}
    {host : Host (Recorder τ)} {rootUri : Option String} {options : Option Json}
    {server : Server (Recorder τ) κ} (journal : transport.journal = [])
    (earlier : transport.earlier = [])
    (first
      : (openSession host (firstConnection name transport) rootUri options).1 = server.connection)
    : server.InOrder := by
  let silent : Server (Recorder τ) κ := { server with connection := firstConnection name transport }
  have start : silent.InOrder := by
    refine ⟨Connection.handshake_of_silent journal rfl, ?_⟩
    change ∀ journal ∈ transport.earlier, _
    simp [earlier]
  have used := Connection.openSession_used (firstConnection name transport : Connection _ (Purpose κ))
    (Message.opening host.processId rootUri options) .session
  refine start.use ?_ (first ▸ used)
  rw [← first]
  exact Connection.Handshake.openSession journal rfl

variable {workspace : Workspace (Recorder τ) κ} {name : String}

/-- A server that is launched starts its first session. -/
theorem Launched.inOrder {path : Path} {server : Server (Recorder τ) κ}
    (start : Launched workspace name path server) (launches : workspace.LaunchesFresh)
    : server.InOrder := by
  cases start with
  | mk _ launched opened =>
      obtain ⟨journal, earlier⟩ := launches _ _ _ _ launched
      exact firstConnection_inOrder journal earlier (congrArg (·.1) opened)

/-- A server that cannot be told of its session is parted with. -/
theorem LaunchRefused.isFollowed {transport : Recorder τ}
    (start : LaunchRefused workspace name transport) (launches : workspace.LaunchesFresh)
    : transport.IsFollowed := by
  cases start with
  | @mk _ _ _ _ _ connection launched opened =>
      obtain ⟨journal, earlier⟩ := launches _ _ _ _ launched
      let server : Server (Recorder τ) κ :=
        { connection, documents := .empty, language := "", rootUri := none, queued := [] }
      have inOrder : server.InOrder :=
        firstConnection_inOrder journal earlier (congrArg (·.1) opened)
      exact inOrder.isFollowed

end Workspace

namespace Slot

variable {slot last : Slot (Recorder τ) κ}

/-- A slot with another server is in order if the server is. -/
theorem InOrder.withServer (inOrder : slot.InOrder) {server : Server (Recorder τ) κ}
    (running : server.InOrder)
    : ({ slot with server := some server } : Slot (Recorder τ) κ).InOrder := by
  refine ⟨fun other same => ?_, inOrder.released⟩
  obtain rfl := Option.some.inj same
  exact running

/-- A slot without server is in order if the transport that is left is. -/
theorem inOrder_of_released {recorder : Recorder τ} (followed : recorder.IsFollowed)
    (disabled : Bool)
    : ({ server := none, released := some recorder, disabled } : Slot (Recorder τ) κ).InOrder := by
  refine ⟨fun _ running => (nomatch running), fun other same => ?_⟩
  obtain rfl := Option.some.inj same
  exact followed

variable [MortalTransport τ]

theorem InOrder.polled {host : Host (Recorder τ)} {options : Option Json} (inOrder : slot.InOrder)
    (polled : Workspace.SlotPolled host options slot last)
    : last.InOrder := by
  cases polled with
  | absent => exact inOrder
  | kept running handled =>
      exact inOrder.withServer ((inOrder.running _ running).handled handled)
  | recovered running handled _ started =>
      have lost := ((inOrder.running _ running).handled handled).polled
      exact inOrder.withServer (lost.restarted started host options)
  | abandoned running handled _ started =>
      have lost := ((inOrder.running _ running).handled handled).polled
      exact inOrder_of_released (lost.abandoned started) true

theorem InOrder.flushed (inOrder : slot.InOrder) : slot.flushed.InOrder := by
  refine ⟨fun server same => ?_, inOrder.released⟩
  obtain ⟨before, running, rfl⟩ := Option.map_eq_some_iff.mp same
  exact (inOrder.running before running).flush.settled

theorem InOrder.stopped (inOrder : slot.InOrder) (patience : Recorder τ → Nat)
    : (slot.stopped patience).InOrder := by
  unfold Slot.stopped
  split
  · exact inOrder
  · next server running =>
      exact inOrder_of_released ((inOrder.running server running).stopped patience) _

end Slot

namespace Workspace

variable [MortalTransport τ] {workspace : Workspace (Recorder τ) κ}

omit [MortalTransport τ] in
theorem Ensured.inOrder {name : String} {path : Path} {slot : Slot (Recorder τ) κ}
    {result : Except ClientError Unit} (ensured : Ensured workspace name path slot result)
    (launches : workspace.LaunchesFresh) (inOrder : (workspace.slot name).InOrder)
    : slot.InOrder := by
  cases ensured with
  | running | impossible => exact inOrder
  | failed => exact ⟨inOrder.running, inOrder.released⟩
  | refused _ _ start => exact Slot.inOrder_of_released (start.isFollowed launches) true
  | launched _ _ start => exact inOrder.withServer (start.inOrder launches).settled

/-- Every operation keeps every slot in order. -/
theorem slot_inOrder_after (operation : Operation τ κ) (mortal : operation.KeepsDead)
    (launches : workspace.LaunchesFresh) {name : String} (inOrder : (workspace.slot name).InOrder)
    : ((workspace.after operation.recorded).slot name).InOrder := by
  have change := workspace.slot_after operation.recorded name
  generalize (workspace.after operation.recorded).slot name = slot at change ⊢
  generalize recorded : operation.recorded = taken at change
  generalize (workspace.perform taken).2 = outcome at change
  cases change with
  | apart | unserved | undisturbed => exact inOrder
  | ensured ensured | unopened _ ensured => exact ensured.inOrder launches inOrder
  | launched _ _ _ start acted =>
      exact inOrder.withServer ((start.inOrder launches).settled.acted acted).settled
  | acted _ _ running acted =>
      exact inOrder.withServer ((inOrder.running _ running).acted acted).settled
  | polled polled => exact (inOrder.polled polled).flushed
  | stopped => exact inOrder.stopped _
  | disturbed running =>
      cases operation <;> cases recorded
      exact inOrder.withServer ((inOrder.running _ running).disturbed mortal)

/-- In every session of every server, over any transports that stay dead once they are, the messages
but for replies to the server are the first of those of a whole session: it is opened, the server is
told so, then there is any amount of work, and it is closed and left. The server is told that the
session is open only once it has granted the very request that asked for it.
-/
theorem sessions_inOrder (host : Host τ) (settings : Settings) (root : Option Path)
    (operations : List (Operation τ κ))
    (mortal : ∀ operation ∈ operations, operation.KeepsDead) (name : String)
    (recorder : Recorder τ)
    (kept
      : (∃ server,
          (runRecorded host settings root operations).servers.get? name = some server
          ∧ server.connection.transport = recorder)
        ∨ (runRecorded host settings root operations).released.get? name = some recorder)
    : ∀ session ∈ recorder.sessions, Journal.InOrder session := by
  let P (workspace : Workspace (Recorder τ) κ) : Prop :=
    workspace.LaunchesFresh ∧ ∀ name, (workspace.slot name).InOrder
  have all : P (runRecorded host settings root operations) := by
    refine run_induction (P := P) ?_ ?_
    · rintro workspace taken member ⟨launches, inOrder⟩
      obtain ⟨operation, present, rfl⟩ := List.mem_map.mp member
      have keeps := mortal operation present
      exact ⟨launches.after operation,
        fun name => slot_inOrder_after operation keeps launches (inOrder name)⟩
    · exact ⟨fun _ _ _ _ launched => recorded_launch launched,
        fun _ => ⟨fun _ none => (nomatch none), fun _ none => (nomatch none)⟩⟩
  have followed : recorder.IsFollowed := by
    rcases kept with ⟨server, running, rfl⟩ | released
    · exact ((all.2 name).running server running).isFollowed
    · exact (all.2 name).released recorder released
  intro session member
  obtain ⟨stage, follows⟩ := followed session member
  exact follows.inOrder

/-- A document is opened and changed, and the server is stopped: that is a whole session. -/
theorem whole_session_inOrder
    : let file := Text.bytes "/a.rs"
      let operations : List (Operation Channel Unit) :=
        [.openDocument file "one", .poll 9, .disturb "rust" (·.push (.ok [])),
          .changeDocument file "two", .shutdown fun _ _ => 1]
      ∃ recorder,
        (runRecorded promptHost rustSettings none operations).released.get? "rust" = some recorder
        ∧ Journal.letters recorder.journal = sessionWord 2
        ∧ ∀ session ∈ recorder.sessions, Journal.InOrder session := by
  intro file operations
  have letters
      : ((runRecorded promptHost rustSettings none operations).released.get? "rust").map
          (fun recorder => Journal.letters recorder.journal)
        = some (sessionWord 2) := by
    decide +kernel
  obtain ⟨recorder, released, same⟩ := Option.map_eq_some_iff.mp letters
  refine ⟨recorder, released, same,
    sessions_inOrder promptHost rustSettings none operations ?_ "rust" recorder (.inr released)⟩
  intro operation member
  simp only [operations, List.mem_cons, List.not_mem_nil, or_false] at member
  rcases member with rfl | rfl | rfl | rfl | rfl
  · trivial
  · trivial
  · intro channel dead
    have dead : channel.dead = true := Channel.isDead_iff.mp dead
    exact Channel.isDead_iff.mpr dead
  · trivial
  · trivial

end Workspace

end LanguageClient
