import LanguageClient.Proofs.Connection.Steps
import LanguageClient.Proofs.Transport.Restarts
import LanguageClient.Proofs.Workspace.Parts
import LanguageClient.Proofs.Workspace.Recorded

/-! What becomes of a server whose transport is lost: the transport is started again, and the server
starts over without a trace of its last session, or it is given up.
-/

namespace LanguageClient

variable {τ κ : Type} [SupervisedTransport τ]

-----------------------------------------------------------------------------------------
-- The session that was lost
-----------------------------------------------------------------------------------------

/-- What becomes of requests that wait when the transport is lost. -/
def Connection.unanswered (connection : Connection τ (Purpose κ))
    : List (Purpose κ × Except ClientError Json) :=
  connection.pending.map fun (_, purpose) => (purpose, .error .processNotRunning)

/-- Where handling a message shows that the transport is lost, all requests that waited fail, by then
or when the session is forgotten.
-/
theorem Server.IsLost.answers {server : Server τ κ} (lost : server.IsLost)
    : server.connection.poll.1.answers ++ server.connection.poll.1.unanswered
      = server.connection.answers ++ server.connection.unanswered := by
  obtain ⟨error, failed, fatal⟩ := lost
  obtain ⟨after, result, written, polled⟩ := server.connection.poll_cases
  rw [written] at failed ⊢
  have bears (bearable : error.isFatal = false) : False := nomatch bearable.symm.trans fatal
  cases polled with
  | lost => simp [Connection.failPending, Connection.unanswered]
  | replied => rfl
  | idle | noticed | answered | openingAnswered => cases failed
  | spoiled _ bearable | unmatched _ _ _ bearable =>
      cases failed
      exact absurd bearable bears
  | illegible =>
      cases failed
      exact absurd rfl bears

/-- Opening a session answers no request. -/
theorem Connection.openSession_answers (connection : Connection τ κ) (params : Json) (ticket : κ)
    : (connection.openSession params ticket).1.answers = connection.answers := by
  obtain ⟨after, result, written, opened⟩ := connection.openSession_cases params ticket
  rw [written]
  cases opened with
  | refused => rfl
  | unsent _ requested | sent _ requested => cases requested <;> rfl

-----------------------------------------------------------------------------------------
-- The session that begins
-----------------------------------------------------------------------------------------

/-- The request that opens a session of a server. -/
def Server.openingRequest (server : Server τ κ) (host : Host τ) (options : Option Json) (id : Nat)
    : Json :=
  Message.request id "initialize" (some (Message.opening host.processId server.rootUri options))

/-- A server that starts over, on a transport that was started again. It has no documents and knows
nothing of what its process can do. The request that opens its session is the only one that waits for
an answer; if that cannot be written, none does, and no session is being opened.
-/
structure Server.StartsOver (server : Server τ κ) (opening : Nat → Json) (transport : τ)
    : Prop where
  documents : server.documents = .empty
  queued : server.queued = []
  capabilities : server.connection.capabilities = none
  session
    : ∃ id result,
        Transport.send transport (opening id) = (server.connection.transport, result)
        ∧ match result with
          | .ok () =>
              server.connection.phase = .initializing
              ∧ server.connection.openingId = some id
              ∧ server.connection.pending = [(id, .session)]
          | .error _ =>
              server.connection.phase = .uninitialized
              ∧ server.connection.openingId = none
              ∧ server.connection.pending = []

/-- What is left of a server that is started again. -/
theorem Server.startsOver (server : Server τ κ) (host : Host τ) (options : Option Json)
    (transport : τ)
    : (server.restarted host options transport).StartsOver (server.openingRequest host options)
        transport := by
  let connection := Workspace.withTransport server.connection.reset transport
  obtain ⟨after, result, written, opened⟩ := connection.openSession_cases
    (Message.opening host.processId server.rootUri options) (Purpose.session (κ := κ))
  have same : (server.restarted host options transport).connection
      = { after with answers := [], notices := [] } := by
    have written : (Workspace.openSession host connection server.rootUri options).1 = after :=
      congrArg (·.1) written
    simp only [restarted, settled, connection] at written ⊢
    rw [written]
  have closed : connection.phase = .uninitialized := rfl
  refine ⟨rfl, rfl, ?_, ?_⟩ <;> rw [same]
  · cases opened with
    | refused begun => exact absurd closed begun
    | unsent _ requested | sent _ requested => cases requested <;> rfl
  · cases opened with
    | refused begun => exact absurd closed begun
    | unsent _ requested =>
        cases requested with
        | refused ended => exact nomatch ended.symm.trans closed
        | unsent _ sent => exact ⟨_, _, sent, rfl, rfl, rfl⟩
    | sent _ requested =>
        cases requested with
        | sent _ sent => exact ⟨_, _, sent, rfl, rfl, rfl⟩

namespace Workspace

variable {workspace : Workspace τ κ} {name : String}

-----------------------------------------------------------------------------------------
-- Recovery
-----------------------------------------------------------------------------------------

/-- A server that was started again after its transport was lost. -/
structure StartedAgain (workspace after : Workspace τ κ) (name : String) (opening : Nat → Json)
    (transport : τ)
    : Prop where
  running
    : ∃ server, after.servers.get? name = some server ∧ server.StartsOver opening transport
  disabled : after.disabled = workspace.disabled
  reported : after.events = workspace.events ++ [.restarted name]

/-- A server that was given up after its transport was lost. -/
structure GivenUp (workspace after : Workspace τ κ) (name : String) (transport : τ)
    (error : ClientError)
    : Prop where
  parted : after.servers.get? name = none
  stopped : after.released.get? name = some (SupervisedTransport.stop transport)
  disabled : after.disabled = name :: workspace.disabled
  reported : after.events = workspace.events ++ [.stopped name (.failed error.message)]

/-- What the editor knows of its questions once it was told that those over a connection have failed,
as far as they had no answer.
-/
def answersOnceLost (workspace : Workspace τ κ) (connection : Connection τ (Purpose κ))
    : List (κ × Except ClientError Reply.Answer) :=
  workspace.answers ++ (connection.answers ++ connection.unanswered).filterMap answerOf?

theorem recover_startedAgain {lost : Server τ κ} {transport : τ}
    (running : workspace.servers.get? name = some lost)
    (started : lost.restart = (transport, .ok ()))
    : StartedAgain workspace (workspace.recover name) name
        (lost.openingRequest workspace.host (workspace.options name)) transport
      ∧ (workspace.recover name).answers = workspace.answersOnceLost lost.connection := by
  rw [recover_of_started running started]
  refine ⟨⟨⟨_, workspace.get?_put name _, lost.startsOver _ _ _⟩, rfl, rfl⟩, ?_⟩
  have opening := (withTransport lost.connection.reset transport).openSession_answers
    (Message.opening workspace.host.processId lost.rootUri (workspace.options name))
    (Purpose.session (κ := κ))
  exact congrArg (workspace.answers ++ List.filterMap answerOf? ·) opening

theorem recover_givenUp {lost : Server τ κ} {transport : τ} {error : ClientError}
    (running : workspace.servers.get? name = some lost)
    (started : lost.restart = (transport, .error error))
    : GivenUp workspace (workspace.recover name) name transport error
      ∧ (workspace.recover name).answers = workspace.answersOnceLost lost.connection := by
  rw [recover_of_spent running started]
  let stopped := withTransport lost.connection.reset (SupervisedTransport.stop transport)
  have slot := (workspace.slot_release name stopped name).trans (if_pos rfl)
  refine ⟨⟨congrArg Slot.server slot, congrArg Slot.released slot, rfl, rfl⟩, ?_⟩
  exact congrArg (workspace.answers ++ List.filterMap answerOf? ·) (List.append_nil _)

/-- Nothing is left to do for a server that starts over: its queue is empty. -/
theorem flush_restarted (server : Server τ κ) (host : Host τ) (options : Option Json)
    (transport : τ)
    : (server.restarted host options transport).flush.settled
      = server.restarted host options transport := by
  obtain ⟨_, _, _, id, result, _, phase⟩ := server.startsOver host options transport
  have unready : (server.restarted host options transport).connection.isReady = false := by
    unfold Connection.isReady
    cases result <;> simp [phase.1]
  simp only [Server.flush, unready]
  rfl

/-- How handling messages of a server ends when its transport is lost. After some calls of `restart` it
starts over, or too many were tried and it is given up. All requests that waited have failed, all
other servers are as before, and the rest of the poll leaves it so.
-/
structure Recovered (workspace after : Workspace τ κ) (name : String) (server : Server τ κ)
    : Prop where
  ended
    : ∃ calls transport result,
        calls ≤ SupervisedTransport.attemptsLeft server.connection.poll.1.transport
        ∧ Retried server.connection.poll.1.transport calls (transport, result)
        ∧ match result with
          | .ok () =>
              StartedAgain workspace after name
                (server.openingRequest workspace.host (workspace.options name)) transport
          | .error error =>
              (∃ count, error = .tooManyRestarts count)
              ∧ GivenUp workspace after name transport error
  answers : after.answers = workspace.answersOnceLost server.connection
  others : ∀ other, other ≠ name → after.slot other = workspace.slot other
  rest
    : ∀ (names : List String) (left : Nat),
        names.Nodup → name ∉ names →
          (names.foldl pollNext (after.flush name, left)).1.drain.slot name = after.slot name

/-- What was done for a lost server stays as it is for the rest of a poll. -/
theorem slot_after_recover {lost : Server τ κ} (running : workspace.servers.get? name = some lost)
    {names : List String} (left : Nat) (different : names.Nodup) (absent : name ∉ names)
    : (names.foldl pollNext ((workspace.recover name).flush name, left)).1.drain.slot name
      = (workspace.recover name).slot name := by
  have flushed
      : ((workspace.recover name).slot name).flushed = (workspace.recover name).slot name := by
    rcases workspace.recover_cases running with ⟨_, _, only⟩ | ⟨_, _, _, only⟩ <;> rw [only.here]
    · simp only [Slot.flushed, Option.map_some, flush_restarted]
    · rfl
  obtain ⟨_, slots⟩ := pollNext_foldl different ((workspace.recover name).flush name, left)
  rw [(drain_frame _).1, (slots name).1 absent, (flush_cases _ name).here, flushed]

theorem recovered_of_lost [CountsRestarts τ] {server : Server τ κ}
    (running : workspace.servers.get? name = some server) (lost : server.IsLost) (budget : Nat)
    : Recovered workspace (pollServer name workspace (budget + 1)).1 name server := by
  let polled := workspace.put name { server with connection := server.connection.poll.1 }
  have found : polled.servers.get? name = some server.polled := workspace.get?_put name _
  have same : (pollServer name workspace (budget + 1)).1 = polled.recover name := by
    rcases pollServer_succ_cases running budget with ⟨_, same⟩ | ⟨alive, _⟩
    · exact same
    · exact absurd lost alive
  have answers : polled.answersOnceLost server.polled.connection
      = workspace.answersOnceLost server.connection := by
    have taken : polled.answersOnceLost server.polled.connection
        = workspace.answers ++ server.connection.poll.1.answers.filterMap answerOf?
          ++ server.connection.poll.1.unanswered.filterMap answerOf? := rfl
    rw [taken, List.append_assoc, ← List.filterMap_append, lost.answers, answersOnceLost]
  obtain ⟨slot, _, only⟩ := workspace.pollServer_cases name (budget + 1)
  have others (other : String) (apart : other ≠ name)
      : (polled.recover name).slot other = workspace.slot other := by
    rw [← same]
    exact only.elsewhere apart
  obtain ⟨calls, bound, retried⟩ := retried_restartTransport server.polled.connection.transport
    (Nat.le_refl _)
  have outcome : restartTransport server.polled.connection.transport
      (SupervisedTransport.attemptsLeft server.polled.connection.transport)
        = server.polled.restart := rfl
  rw [outcome] at retried
  have rest (names : List String) (left : Nat) (different : names.Nodup) (absent : name ∉ names) :=
    slot_after_recover found left different absent
  rw [same]
  rcases started : server.polled.restart with ⟨transport, error | _⟩ <;> rw [started] at retried
  · obtain ⟨⟨parted, stopped, disabled, reported⟩, told⟩ := recover_givenUp found started
    exact ⟨⟨calls, transport, .error error, bound, retried, retried.of_error, parted, stopped,
      disabled, reported⟩, told.trans answers, others, rest⟩
  · obtain ⟨⟨runs, disabled, reported⟩, told⟩ := recover_startedAgain found started
    exact ⟨⟨calls, transport, .ok (), bound, retried, runs, disabled, reported⟩,
      told.trans answers, others, rest⟩

/-- The transport of each server that is lost is started again in the end, or it has too many restarts
behind it: for a process after as many calls as it has restarts left, and one more, and for a
transport in memory after as many as it has errors for them, and one more. Over its whole life, a
process is not started again more often than it may be.

Whenever handling messages loses a server, it starts over without documents, with a new session, which
is reported once; or its transport is stopped, it runs no more and is disabled, which is reported
once. Either way all its requests have failed, and all other servers are as before.
-/
theorem crash_recovery_ends [CountsRestarts τ]
    : (∀ process : ServerProcess,
          ∃ calls ≤ process.settings.maxRestarts - process.restarts + 1,
            Retried process calls
              (restartTransport process (SupervisedTransport.attemptsLeft process)))
      ∧ (∀ channel : Channel,
          ∃ calls ≤ channel.restartErrors.length + 1,
            Retried channel calls
              (restartTransport channel (SupervisedTransport.attemptsLeft channel)))
      ∧ (∀ (first last : ServerProcess) (restarts : Nat),
          first.Life restarts last →
            last.restarts = first.restarts + restarts
            ∧ last.settings.maxRestarts = first.settings.maxRestarts
            ∧ (first.restarts ≤ first.settings.maxRestarts →
                last.restarts ≤ last.settings.maxRestarts))
      ∧ ∀ (workspace : Workspace τ κ) (name : String) (server : Server τ κ) (budget : Nat),
          workspace.servers.get? name = some server → server.IsLost →
            Recovered workspace (pollServer name workspace (budget + 1)).1 name server :=
  ⟨fun process => retried_restartTransport process (Nat.le_refl _),
    fun channel => retried_restartTransport channel (Nat.le_refl _),
    fun _ _ _ life => life.restarts_eq,
    fun _ _ _ budget running lost => recovered_of_lost running lost budget⟩

/-- A server that dies while a question waits is started again, and the question has failed. -/
theorem dead_server_is_started_again
    : let file := Text.bytes "/a.rs"
      let workspace : Workspace Channel Unit :=
        (fresh promptHost rustSettings none).run
          [.openDocument file "one", .poll 9, .ask file (.hover ⟨0, 0⟩) (),
            .disturb "rust" Channel.stop]
      let after := (pollServer "rust" workspace 1).1
      ∃ server,
        workspace.servers.get? "rust" = some server
        ∧ server.IsLost
        ∧ Recovered workspace after "rust" server
        ∧ after.answers.length = 1
        ∧ after.events = workspace.events ++ [.restarted "rust"] := by
  intro file workspace after
  have dies
      : (workspace.servers.get? "rust").map (·.connection.poll.2)
        = some (.error .processNotRunning) := by
    decide +kernel
  have told : after.answers.length = 1 ∧ after.events = workspace.events ++ [.restarted "rust"] := by
    decide +kernel
  obtain ⟨server, running, fails⟩ := Option.map_eq_some_iff.mp dies
  have lost : server.IsLost := ⟨.processNotRunning, fails, rfl⟩
  obtain ⟨_, _, _, recovery⟩ := crash_recovery_ends (τ := Channel) (κ := Unit)
  exact ⟨server, running, lost, recovery workspace "rust" server 0 running lost, told⟩

end Workspace

end LanguageClient
