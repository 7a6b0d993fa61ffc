import LanguageClient.Proofs.Connection.Opening
import LanguageClient.Proofs.Workspace.Handshake
import LanguageClient.Proofs.Workspace.Reports

/-! Which servers can never become ready: those that denied their session. The connection is closed
then, nobody opens it again, and what waits for the server waits until its transport is lost.
-/

namespace LanguageClient

variable {τ κ : Type} [SupervisedTransport τ]

namespace Server

/-- A server is ready, or may become so: the request that opens its session has no response yet, or
the transport is dead, so that the server is started again or given up.
-/
def CanBecomeReady (server : Server τ κ) : Prop :=
  server.connection.phase = .initialized
  ∨ (server.connection.phase = .initializing
    ∧ ∃ id, server.connection.openingId = some id ∧ server.connection.isPending id = true)
  ∨ Transport.IsDead server.connection.transport

/-- What an operation that asks no question does to the connection of a server: nothing, or a step on
documents.
-/
theorem acted_connection_of_unasked {uri : String} {operation : Workspace.Operation τ κ}
    {server last : Server τ κ} {outcome : Workspace.Outcome}
    (acted : Workspace.Acted uri operation server last outcome)
    (unasked : ∀ path question ticket, operation ≠ .ask path question ticket)
    : last.connection = server.connection
      ∨ ∃ step, last.connection = (server.connection.sync server.documents step).1 := by
  cases acted with
  | opened =>
      rw [openDocument_eq]
      split
      · exact .inr ⟨_, rfl⟩
      · split <;> exact .inl rfl
  | changed =>
      rw [changeDocument_eq]
      split
      · exact .inl rfl
      · exact .inr ⟨_, rfl⟩
  | saved =>
      rw [saveDocument_eq]
      split
      · exact .inl rfl
      · exact .inr ⟨_, rfl⟩
  | closed =>
      rw [closeDocument_eq]
      split
      · exact .inl rfl
      · exact .inr ⟨_, rfl⟩
  | asked => exact absurd rfl (unasked _ _ _)

/-- What an operation does to the connection of a server: nothing, a step on documents, or a
question.
-/
theorem acted_connection {uri : String} {operation : Workspace.Operation τ κ}
    {server last : Server τ κ} {outcome : Workspace.Outcome}
    (acted : Workspace.Acted uri operation server last outcome)
    : last.connection = server.connection
      ∨ (∃ step, last.connection = (server.connection.sync server.documents step).1)
      ∨ ∃ question ticket, last.connection = (server.connection.ask uri question ticket).1 := by
  cases asks : acted with
  | asked => exact .inr (.inr ⟨_, _, rfl⟩)
  | _ => exact (acted_connection_of_unasked acted (by simp)).imp_right .inl

/-- The connection of a server is closed. -/
def IsClosed (server : Server τ κ) : Prop :=
  server.connection.phase = .uninitialized

/-- A closed server stays closed as long as its session goes on: only a server that is started again
is asked to open one.
-/
theorem isClosed_lasting
    : Lasting (fun _ _ => True) (IsClosed : Server τ κ → Prop) IsClosed := by
  refine { acted := ?acted, disturbed := ?disturbed, begun := ?begun, polled := ?polled,
           flushed := ?flushed }
  case acted =>
    intro _ _ _ _ server last _ _ _ acted closed
    change last.connection.phase = .uninitialized
    rcases acted_connection acted with same | ⟨step, same⟩ | ⟨question, ticket, same⟩
    · rw [same]
      exact closed
    · rw [same, Connection.sync_closed closed]
      exact closed
    · rw [same, Connection.ask_closed closed]
      exact closed
  case disturbed => exact fun _ closed => closed
  case begun => exact fun closed => closed
  case polled => exact fun _ closed => Connection.poll_closed closed
  case flushed =>
    intro server closed
    have closed : server.connection.phase = .uninitialized := closed
    have idle : server.flush = server := by simp [flush, Connection.isReady, closed]
    rw [idle]
    exact closed

/-- The phase of a server fits how far the opening of its session has come. -/
def KeepsPace (server : Server (Recorder τ) κ) : Prop :=
  server.connection.KeepsPace

variable {server last : Server (Recorder τ) κ}

theorem KeepsPace.settled (pace : server.KeepsPace) : server.settled.KeepsPace :=
  Connection.KeepsPace.keep pace rfl rfl (fun _ awaited waits => ⟨awaited, waits⟩) fun dead => dead

theorem KeepsPace.acted {uri : String} {operation : Workspace.Operation (Recorder τ) κ}
    {outcome : Workspace.Outcome} (pace : server.KeepsPace)
    (acted : Workspace.Acted uri operation server last outcome)
    : last.KeepsPace := by
  rw [KeepsPace]
  rcases acted_connection acted with same | ⟨step, same⟩ | ⟨question, ticket, same⟩
  · rw [same]
    exact pace
  · rw [same]
    exact Connection.KeepsPace.sync pace _ _
  · rw [same]
    exact Connection.KeepsPace.ask pace _ _ _

theorem KeepsPace.flush (pace : server.KeepsPace) : server.flush.KeepsPace :=
  flush_connection (fun _ documents step pace => pace.sync documents step) pace

variable [MortalTransport τ]

omit [MortalTransport τ] in
theorem KeepsPace.disturbed {change : τ → τ} (pace : server.KeepsPace)
    (mortal : ∀ transport, Transport.IsDead transport → Transport.IsDead (change transport))
    : (server.withTransport (Recorder.alter change server.connection.transport)).KeepsPace := by
  refine Connection.KeepsPace.keep pace rfl rfl (fun _ awaited waits => ⟨awaited, waits⟩) ?_
  intro dead
  exact Recorder.isDead_iff.mpr (mortal _ (Recorder.isDead_iff.mp dead))

theorem KeepsPace.polled (pace : server.KeepsPace) (alive : ¬ server.IsLost)
    : server.polled.KeepsPace := by
  have bearable (error : ClientError) (failed : server.connection.poll.2 = .error error)
      : error.isFatal = false := by
    cases fatal : error.isFatal with
    | false => rfl
    | true => exact absurd ⟨error, failed, fatal⟩ alive
  have pace : ({ server with connection := server.connection.poll.1 } : Server _ κ).KeepsPace :=
    Connection.KeepsPace.poll pace bearable
  exact pace.settled

end Server

namespace Workspace

/-- A machine launches servers over transports with empty journals. -/
def LaunchesSilent (host : Host (Recorder τ)) : Prop :=
  ∀ name settings root recorder, host.launch name settings root = .ok recorder →
    recorder.journal = []

/-- An operation over journals that does not revive a dead transport. -/
def RecordsMortal (operation : Operation (Recorder τ) κ) : Prop :=
  ∃ plain : Operation τ κ, plain.KeepsDead ∧ operation = plain.recorded

omit [SupervisedTransport τ] in
theorem launchesSilent_recorded (host : Host τ) : LaunchesSilent host.recorded :=
  fun _ _ _ _ launched => (recorded_launch launched).1

variable [MortalTransport τ]

/-- A session that is opened first thing keeps pace. -/
theorem openSession_keepsPace {connection after : Connection (Recorder τ) (Purpose κ)}
    {host : Host (Recorder τ)} {rootUri : Option String} {options : Option Json}
    {result : Except ClientError Nat}
    (opened : openSession host connection rootUri options = (after, result))
    (silent : connection.transport.journal = []) (closed : connection.phase = .uninitialized)
    : after.KeepsPace := by
  have pace := Connection.KeepsPace.openSession silent closed
    (Message.opening host.processId rootUri options) (Purpose.session : Purpose κ)
  rwa [← openSession, opened] at pace

/-- Every server keeps pace, whatever the editor does, whatever the servers answer and whenever
their transports die.
-/
theorem keepsPace_kept
    : Server.Kept LaunchesSilent (fun operation _ => RecordsMortal (τ := τ) (κ := κ) operation)
        Server.KeepsPace Server.KeepsPace := by
  refine { acted := ?acted, disturbed := ?disturbed, begun := ?begun, polled := ?polled,
           flushed := ?flushed, rehosted := ?rehosted, launched := ?launched,
           restarted := ?restarted }
  case acted => exact fun _ _ _ acted pace => (Server.KeepsPace.acted pace acted).settled
  case disturbed =>
    rintro name change server ⟨plain, mortal, same⟩ pace
    cases plain <;> cases same
    exact Server.KeepsPace.disturbed pace mortal
  case begun => exact fun pace => pace
  case polled => exact fun alive pace => Server.KeepsPace.polled pace alive
  case flushed => exact fun pace => (Server.KeepsPace.flush pace).settled
  case rehosted =>
    rintro host _ ⟨plain, _, same⟩
    cases plain <;> cases same
    exact launchesSilent_recorded _
  case launched =>
    intro workspace name path server launches start
    refine Server.KeepsPace.settled ?_
    cases start with
    | mk _ launched opened =>
        exact openSession_keepsPace opened (launches _ _ _ _ launched) rfl
  case restarted =>
    intro lost transport host options _ started _
    obtain ⟨silent, _⟩ := restartTransport_of_ok started
    let connection := withTransport lost.polled.connection.reset transport
    have opened
        : openSession host connection lost.rootUri options
          = ((openSession host connection lost.rootUri options).1,
              (openSession host connection lost.rootUri options).2) := rfl
    exact Server.KeepsPace.settled (openSession_keepsPace opened silent rfl)

theorem keepsPace_run (host : Host τ) (settings : Settings) (root : Option Path)
    {operations : List (Operation τ κ)} (mortal : ∀ operation ∈ operations, operation.KeepsDead)
    {name : String} {server : Server (Recorder τ) κ}
    (running
      : (runRecorded host settings root operations).servers.get? name = some server)
    : server.connection.Opens (Journal.opening server.connection.transport.journal) := by
  have all
      : ∀ name, ((runRecorded host settings root operations).slot name).Runs Server.KeepsPace := by
    refine keepsPace_kept.run (fun operation member _ => ?_) (launchesSilent_recorded host)
      fun _ => Slot.runs_of_none rfl
    obtain ⟨plain, present, rfl⟩ := List.mem_map.mp member
    exact ⟨plain, mortal plain present, rfl⟩
  exact (all name server running).1

/-- Over transports that stay dead once they are, a server can become ready unless the first
response to the request that opened its session was an error, or its transport is dead.
-/
theorem canBecomeReady_iff (host : Host τ) (settings : Settings) (root : Option Path)
    (operations : List (Operation τ κ))
    (mortal : ∀ operation ∈ operations, operation.KeepsDead) (name : String)
    (server : Server (Recorder τ) κ)
    (running
      : (runRecorded host settings root operations).servers.get? name = some server)
    : server.CanBecomeReady
      ↔ Transport.IsDead server.connection.transport
        ∨ ∀ error,
            Journal.opening server.connection.transport.journal ≠ .answered (.error error) := by
  have opens := keepsPace_run host settings root mortal running
  generalize Journal.opening server.connection.transport.journal = opening at opens
  cases opens with
  | unasked _ dead => exact iff_of_true (.inr (.inr dead)) (.inl dead)
  | asked phase awaited waits =>
      exact iff_of_true (.inr (.inl ⟨phase, _, awaited, waits⟩)) (.inr (by simp))
  | granted ready => exact iff_of_true (.inl ready) (.inr (by simp))
  | denied closed =>
      simp [Server.CanBecomeReady, closed]

/-- A server that cannot become ready is closed, and stays so until it is reported that its session
has ended, also if its transport dies in between.
-/
theorem closed_until_ended (host : Host τ) (settings : Settings) (root : Option Path)
    {operations : List (Operation τ κ)} (mortal : ∀ operation ∈ operations, operation.KeepsDead)
    {name : String} {server : Server (Recorder τ) κ}
    (running
      : (runRecorded host settings root operations).servers.get? name = some server)
    (never : ¬ server.CanBecomeReady) {later : List (Operation (Recorder τ) κ)}
    (quiet
      : ∀ event ∈ (runRecorded host settings root operations).reports later, ¬ event.Ends name)
    : ((runRecorded host settings root operations).run later).HasRunning name
        Server.IsClosed := by
  refine run_lasts Server.isClosed_lasting (fun _ _ => trivial) quiet ⟨server, running, ?_⟩
  have opens := keepsPace_run host settings root mortal running
  generalize Journal.opening server.connection.transport.journal = opening at opens
  cases opens with
  | unasked closed | denied closed => exact closed
  | asked phase awaited waits => exact absurd (.inr (.inl ⟨phase, _, awaited, waits⟩)) never
  | granted ready => exact absurd (.inl ready) never

/-- A machine whose servers deny their sessions. -/
def denyingHost : Host Channel :=
  { promptHost with
    launch := fun _ _ _ =>
      .ok ((Channel.fresh 1).push (.ok (Text.bytes
        "\x7b\"id\":0,\"error\":\x7b\"code\":-32603,\"message\":\"boom\"\x7d\x7d"))) }

/-- A server that denied its session cannot become ready. -/
theorem denied_cannot_become_ready
    : let operations : List (Operation Channel Unit) :=
        [.openDocument (Text.bytes "/a.rs") "one", .poll 9]
      ∃ server,
        (runRecorded denyingHost rustSettings none operations).servers.get? "rust" = some server
        ∧ ¬ server.CanBecomeReady := by
  intro operations
  have mortal : ∀ operation ∈ operations, operation.KeepsDead := by
    intro operation member
    simp only [operations, List.mem_cons, List.not_mem_nil, or_false] at member
    rcases member with rfl | rfl <;> trivial
  have shown
      : ((runRecorded denyingHost rustSettings none operations).servers.get? "rust").map
          (fun server =>
            (server.connection.transport.inner.dead,
              match Journal.opening server.connection.transport.journal with
              | .answered result => some result.toOption
              | _ => none))
        = some (false, some none) := by
    decide +kernel
  obtain ⟨server, running, same⟩ := Option.map_eq_some_iff.mp shown
  obtain ⟨alive, answered⟩ := Prod.mk.inj same
  refine ⟨server, running, ?_⟩
  rw [canBecomeReady_iff denyingHost rustSettings none operations mortal "rust" server running]
  rintro (dead | granted)
  · have dead := Channel.isDead_iff.mp (Recorder.isDead_iff.mp dead)
    exact nomatch alive.symm.trans dead
  · split at answered
    · next result reached =>
        cases result with
        | error error => exact granted error reached
        | ok => exact nomatch answered
    · exact nomatch answered

/-- Where a server denies its session, a document waits for a server that cannot become ready, and
nothing is reported.
-/
theorem document_waits_for_denied_server
    : let operations : List (Operation Channel Unit) :=
        [.openDocument (Text.bytes "/a.rs") "one", .poll 9]
      let workspace := (fresh denyingHost rustSettings none).run operations
      ∃ server,
        workspace.servers.get? "rust" = some server
        ∧ ¬ server.CanBecomeReady
        ∧ server.queued = [⟨"file:///a.rs", "one"⟩]
        ∧ workspace.events = [] := by
  intro operations workspace
  have shown
      : (workspace.servers.get? "rust").map
          (fun server =>
            (server.connection.phase, server.connection.transport.dead, server.queued,
              workspace.events))
        = some (.uninitialized, false, [⟨"file:///a.rs", "one"⟩], []) := by
    decide +kernel
  obtain ⟨server, running, same⟩ := Option.map_eq_some_iff.mp shown
  simp only [Prod.mk.injEq] at same
  obtain ⟨closed, alive, waits, silent⟩ := same
  refine ⟨server, running, ?_, waits, silent⟩
  rintro (ready | ⟨opening, _⟩ | dead)
  · exact nomatch closed.symm.trans ready
  · exact nomatch closed.symm.trans opening
  · exact nomatch alive.symm.trans (Channel.isDead_iff.mp dead)

end Workspace

end LanguageClient
